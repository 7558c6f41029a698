import Switchboard.Expression.Calculation
import Switchboard.Proofs.Expression.Reading
import Switchboard.Proofs.Expression.Scanning

/-!
# Validation lets every expression through

Validation counts the parentheses that are open, character by character. Reading keeps them among its
pending parts, token by token. Both counts stay the same along a text, and reading ends with none open.
So a text that has a value is valid, and calculating a question comes to evaluating what cleaning
leaves of it.
-/

namespace Switchboard.Expression

open Text

def opened : List Pending → Nat
  | [] => 0
  | .group :: rest => opened rest + 1
  | _ :: rest => opened rest

theorem opened_settleFactor (v : Double) (pending : List Pending) :
    opened (settleFactor v pending).pending = opened pending := by
  induction pending generalizing v with
  | nil => rfl
  | cons part rest ih =>
    cases part with
    | sign negative => exact ih _
    | factor left o => rfl
    | term left o => rfl
    | group => rfl

theorem opened_settleTerm (v : Double) (pending : List Pending) :
    opened (settleTerm v pending).2 = opened pending := by
  cases pending with
  | nil => rfl
  | cons part rest => cases part <;> rfl

theorem closes_cons_of_ne {c : Char} (opening : c ≠ '(') (closing : c ≠ ')') (n : Nat)
    (text : List Char) : closes n (c :: text) = closes n text := by
  simp [closes, opening, closing]

theorem ne_parenthesis_of_isBlank {c : Char} (blank : isBlank c = true) : c ≠ '(' ∧ c ≠ ')' := by
  constructor <;> rintro rfl <;> cases blank

theorem closes_numeral {n : Numeral} (wellFormed : n.WellFormed) (count : Nat) (text : List Char) :
    closes count (n.text ++ text) = closes count text := by
  have plain : ∀ c ∈ n.text, c ≠ '(' ∧ c ≠ ')' := by
    intro c member
    rcases Numeral.isDigit_or_eq_point wellFormed c member with digit | rfl
    · constructor <;> rintro rfl <;> cases digit
    · decide
  generalize n.text = digits at plain
  induction digits with
  | nil => rfl
  | cons c digits ih =>
    rw [List.forall_mem_cons] at plain
    obtain ⟨⟨opening, closing⟩, plain⟩ := plain
    rw [List.cons_append, closes_cons_of_ne opening closing, ih plain]

/-- The two counts agree after an operator or a parenthesis that reading accepts. -/
theorem closes_mark {r s : Reading} {c : Char} {token : Token}
    (known : Token.ofChar? c = some token) (step : Step r token s) (text : List Char) :
    closes (opened r.pending) (c :: text) = closes (opened s.pending) text := by
  have operator (o : Operator) (n : Nat) : closes n (o.symbol :: text) = closes n text := by
    apply closes_cons_of_ne <;> cases o <;> decide
  rcases Token.ofChar?_eq_some known with ⟨rfl, rfl⟩ | ⟨rfl, rfl⟩ | ⟨o, rfl, rfl⟩
  · cases step with
    | opening pending => rfl
  · cases step with
    | @closing pending rest v sum settled =>
      have same := opened_settleTerm v pending
      rw [settled] at same
      change closes (opened pending) _ = _
      rw [← same, opened_settleFactor]
      rfl
  · rw [operator]
    cases step with
    | sign pending negative => rfl
    | @additive pending rest v sum o additive settled =>
      have same := opened_settleTerm v pending
      rw [settled] at same
      exact congrArg (closes · text) same.symm
    | other other pending v => rfl

theorem closes_of_run {r s : Reading} {text : List Char} {ts : List Token} (h : Scans text ts)
    (run : ts.foldlM Reading.next r = .ok s) :
    closes (opened r.pending) text = (opened s.pending == 0) := by
  induction h generalizing r with
  | nothing =>
    cases run
    rfl
  | blank blank rest ih =>
    obtain ⟨opening, closing⟩ := ne_parenthesis_of_isBlank blank
    rw [closes_cons_of_ne opening closing, ih run]
  | number wellFormed stops rest ih =>
    rw [List.foldlM_cons] at run
    obtain ⟨middle, next, run⟩ := bind_eq_ok_iff.1 run
    have same : opened middle.pending = opened r.pending := by
      cases step_of_next next with
      | number pending n => exact opened_settleFactor _ _
    rw [closes_numeral wellFormed, ← same, ih run]
  | mark known rest ih =>
    rw [List.foldlM_cons] at run
    obtain ⟨middle, next, run⟩ := bind_eq_ok_iff.1 run
    rw [closes_mark known (step_of_next next), ih run]

theorem opened_of_finish {s : Reading} {v : Double} (h : s.finish = .ok v) : opened s.pending = 0 := by
  obtain ⟨pending, operand⟩ := s
  cases operand with
  | none => cases h
  | some w =>
    have same := opened_settleTerm w pending
    simp only [Reading.finish] at h
    split at h
    · rename_i settled
      rw [settled] at same
      exact same.symm
    · cases h

theorem toNat_lt_of_isNameChar {c : Char} (h : isNameChar c = true) : c.toNat < 128 := by
  simp only [isNameChar, Bool.or_eq_true, Bool.and_eq_true, decide_eq_true_eq, beq_iff_eq] at h
  rcases h with ((⟨-, small⟩ | ⟨-, large⟩) | rfl) | rfl
  · exact Nat.lt_of_le_of_lt small (by decide)
  · exact Nat.lt_of_le_of_lt large (by decide)
  · decide
  · decide

theorem not_isNameChar_of_isArithmetic {c : Char} (h : isArithmetic c = true) :
    isNameChar c = false := by
  have all : ∀ n < 128, isNameChar (Char.ofNat n) = true → isArithmetic (Char.ofNat n) = false := by
    decide
  rw [Bool.eq_false_iff]
  intro named
  have other := of_toNat_lt (P := fun c => isNameChar c = true → isArithmetic c = false) all
    (toNat_lt_of_isNameChar named)
  cases h.symm.trans (other named)

/-- A text that has a value is valid. -/
theorem validate_of_value {text : List Char} {v : Double} (h : value text = .ok v) :
    validate text = .ok () := by
  obtain ⟨ts, scanned, read⟩ := bind_eq_ok_iff.1 h
  have scans := tokens_eq_ok_iff.1 scanned
  have arithmetic := scans.all_isArithmetic
  rw [valueOfTokens] at read
  split at read
  · cases read
  · rename_i nonempty
    obtain ⟨s, run, finished⟩ := bind_eq_ok_iff.1 read
    have named : text.any isNameChar = false := by
      rw [List.any_eq_false]
      intro c member
      exact Bool.eq_false_iff.1 (not_isNameChar_of_isArithmetic (arithmetic c member))
    have paired : balanced text = true := by
      have counts := closes_of_run scans run
      rw [opened_of_finish finished] at counts
      exact counts
    have given : text.isEmpty = false := by
      cases scans with
      | nothing => exact absurd rfl nonempty
      | blank blank rest => rfl
      | number wellFormed stops rest =>
        rw [List.isEmpty_eq_false_iff]
        exact List.append_ne_nil_of_left_ne_nil (Numeral.text_ne_nil wellFormed) _
      | mark known rest => rfl
    have all : text.all isArithmetic = true := List.all_eq_true.2 arithmetic
    simp [validate, named, paired, given, all]

theorem calculate_of_value {question : String} {v : Double}
    (h : value (clean question.toList) = .ok v) :
    calculate question = .ok ⟨String.ofList (clean question.toList), report v⟩ := by
  rw [calculate]
  change (validate (clean question.toList) >>= fun _ => value (clean question.toList) >>= _) = _
  rw [validate_of_value h, h]
  rfl

theorem value_of_calculate {question : String} {c : Calculation} (h : calculate question = .ok c) :
    ∃ v, value (clean question.toList) = .ok v ∧
      c = ⟨String.ofList (clean question.toList), report v⟩ := by
  obtain ⟨-, -, h⟩ := bind_eq_ok_iff.1 h
  obtain ⟨v, found, h⟩ := bind_eq_ok_iff.1 h
  cases h
  exact ⟨v, found, rfl⟩

/-- Validation accepts every text that has a value. So a question is answered exactly if what cleaning
leaves of it has a value, with that text and its value as reported; otherwise there is a fault. -/
theorem calculate_ok_iff_value :
    (∀ text v, value text = .ok v → validate text = .ok ()) ∧
    ∀ question : String,
      (∀ v, value (clean question.toList) = .ok v →
        calculate question = .ok ⟨String.ofList (clean question.toList), report v⟩) ∧
      ((∀ v, value (clean question.toList) ≠ .ok v) →
        ∃ fault, calculate question = .error fault) := by
  refine ⟨fun text v h => validate_of_value h, fun question => ⟨fun v h => calculate_of_value h, ?_⟩⟩
  intro valueless
  cases made : calculate question with
  | error fault => exact ⟨fault, rfl⟩
  | ok c =>
    obtain ⟨v, found, -⟩ := value_of_calculate made
    exact absurd found (valueless v)

theorem calculate_ok_iff_value_product :
    value "(1+ 2) *3".toList = .ok (.ofInt 9) ∧
      calculate "What is  (1+\t2) *3 ?" = .ok ⟨"(1+ 2) *3", "9"⟩ := by
  have found : value "(1+ 2) *3".toList = .ok (.ofInt 9) :=
    eq_ok_of_toOption (by decide +kernel)
  have left : clean "What is  (1+\t2) *3 ?".toList = "(1+ 2) *3".toList := by decide +kernel
  refine ⟨found, ?_⟩
  have answered := (calculate_ok_iff_value.2 "What is  (1+\t2) *3 ?").1 (.ofInt 9) (left ▸ found)
  rw [left] at answered
  have reported : report (.ofInt 9) = "9" := by decide +kernel
  rw [answered, reported, String.ofList_toList]

end Switchboard.Expression
