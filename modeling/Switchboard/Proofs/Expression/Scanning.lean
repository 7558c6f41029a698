import Switchboard.Expression.Cleaning
import Switchboard.Proofs.Data.Attempt
import Switchboard.Proofs.Text.Trim

/-!
# How a text is cut into tokens

A text has tokens if and only if it can be put together from them: blanks anywhere between two of them,
operators and parentheses as they are, and numerals that stop where nothing can make them longer. So
what a text is made of is shown by induction on how it is put together.
-/

namespace Switchboard.Expression

open Text

theorem isBlank_of_isDigit {c : Char} (h : isDigit c = true) : isBlank c = false := by
  simp only [isDigit, Bool.and_eq_true, decide_eq_true_eq, Char.le_def, UInt32.le_iff_toNat_le] at h
  have bounds : 48 ≤ c.toNat ∧ c.toNat ≤ 57 := h
  simp [isBlank]
  omega

theorem isArithmetic_of_isBlank {c : Char} (blank : isBlank c = true) : isArithmetic c = true := by
  rw [isArithmetic, blank, Bool.or_true]

theorem isArithmetic_iff {c : Char} :
    isArithmetic c = true ↔ isDigit c = true ∨ c ∈ operatorChars ∨ isBlank c = true := by
  rw [isArithmetic, Bool.or_eq_true, Bool.or_eq_true, List.contains_iff_mem, or_assoc]

/-- What holds of all characters below a code point can be checked one by one. -/
theorem of_toNat_lt {bound : Nat} {P : Char → Prop} (all : ∀ n < bound, P (Char.ofNat n)) {c : Char}
    (low : c.toNat < bound) : P c := by
  have here := all c.toNat low
  rwa [Char.ofNat_toNat] at here

namespace Numeral

variable {n : Numeral} {text rest : List Char}

/-- The character after a numeral, if there is one, does not make it longer. -/
def StopsBefore (n : Numeral) (rest : List Char) : Prop :=
  ∀ c ∈ rest.head?, isDigit c = false ∧ (n.fraction = none → c ≠ '.')

theorem stopsBefore_of_leading? (h : leading? text = some (n, rest)) : n.StopsBefore rest := by
  have stop (s : List Char) : ∀ c ∈ (s.dropWhile isDigit).head?, isDigit c = false := by
    intro c hc
    have first := List.head?_dropWhile_not isDigit s
    rw [Option.mem_def.1 hc] at first
    exact first
  intro c hc
  unfold leading? at h
  dsimp only at h
  split at h
  · split at h
    · cases h
    · cases h
      exact ⟨stop _ c hc, nofun⟩
  · rename_i other
    split at h
    · cases h
    · cases h
      refine ⟨stop _ c hc, fun _ point => ?_⟩
      obtain ⟨after, same⟩ := List.head?_eq_some_iff.1 (Option.mem_def.1 hc)
      exact other after (point ▸ same)

/-- The numeral at the start of a text is the one that stops there. -/
theorem leading?_eq_some_iff :
    leading? text = some (n, rest) ↔ n.WellFormed ∧ text = n.text ++ rest ∧ n.StopsBefore rest := by
  constructor
  · intro h
    exact ⟨wellFormed_of_leading? h, (text_append_of_leading? h).symm, stopsBefore_of_leading? h⟩
  · rintro ⟨⟨all, allFraction, given⟩, rfl, stops⟩
    obtain ⟨whole, fraction⟩ := n
    have digits := List.all_eq_true.1 all
    cases fraction with
    | none =>
      obtain ⟨taken, dropped⟩ := span_append digits fun c hc => (stops c hc).1
      have nonempty : whole ≠ [] := by simpa using given
      simp only [leading?, Numeral.text, taken, dropped]
      split
      · exact absurd rfl ((stops '.' rfl).2 rfl)
      · simp [nonempty]
    | some fraction =>
      have point : ∀ c ∈ ('.' :: (fraction ++ rest)).head?, isDigit c = false := by
        intro c hc
        cases hc
        rfl
      obtain ⟨taken, dropped⟩ := span_append digits point
      obtain ⟨takenFraction, droppedFraction⟩ :=
        span_append (List.all_eq_true.1 allFraction) fun c hc => (stops c hc).1
      have parts : Numeral.text ⟨whole, some fraction⟩ ++ rest = whole ++ '.' :: (fraction ++ rest) := by
        simp [Numeral.text]
      rw [Option.getD_some] at takenFraction droppedFraction given
      rw [parts]
      simp only [leading?, taken, dropped, takenFraction, droppedFraction]
      rcases given with given | given <;> simp [given]

/-- The characters of a numeral are digits and at most one point. -/
theorem isDigit_or_eq_point (h : n.WellFormed) : ∀ c ∈ n.text, isDigit c = true ∨ c = '.' := by
  obtain ⟨whole, fraction, -⟩ := h
  intro c hc
  rw [Numeral.text] at hc
  split at hc
  · exact .inl (List.all_eq_true.1 whole c hc)
  · rename_i digits same
    rw [same, Option.getD_some] at fraction
    rcases List.mem_append.1 hc with hc | hc
    · exact .inl (List.all_eq_true.1 whole c hc)
    · rcases List.mem_cons.1 hc with rfl | hc
      · exact .inr rfl
      · exact .inl (List.all_eq_true.1 fraction c hc)

theorem isBlank_of_mem_text (h : n.WellFormed) : ∀ c ∈ n.text, isBlank c = false := by
  intro c hc
  rcases isDigit_or_eq_point h c hc with digit | rfl
  · exact isBlank_of_isDigit digit
  · rfl

theorem isArithmetic_of_mem_text (h : n.WellFormed) : ∀ c ∈ n.text, isArithmetic c = true := by
  intro c hc
  rcases isDigit_or_eq_point h c hc with digit | rfl
  · rw [isArithmetic, digit, Bool.true_or, Bool.true_or]
  · rfl

end Numeral

/-- What a character is that is a token. -/
theorem Token.ofChar?_eq_some {c : Char} {token : Token} (h : ofChar? c = some token) :
    (c = '(' ∧ token = .opening) ∨ (c = ')' ∧ token = .closing) ∨
      ∃ o : Operator, c = o.symbol ∧ token = .operator o := by
  unfold ofChar? at h
  split at h
  · rename_i same
    exact .inl ⟨eq_of_beq same, (Option.some.inj h).symm⟩
  · split at h
    · rename_i same
      exact .inr (.inl ⟨eq_of_beq same, (Option.some.inj h).symm⟩)
    · obtain ⟨o, found, rfl⟩ := Option.map_eq_some_iff.1 h
      refine .inr (.inr ⟨o, ?_, rfl⟩)
      unfold Operator.ofChar? at found
      split at found <;> cases found <;> rfl

theorem Token.ofChar?_ne_number {c : Char} {n : Numeral} : ofChar? c ≠ some (.number n) := by
  intro h
  rcases ofChar?_eq_some h with ⟨-, same⟩ | ⟨-, same⟩ | ⟨o, -, same⟩ <;> cases same

inductive Scans : List Char → List Token → Prop where
  | nothing : Scans [] []
  | blank {c : Char} {text : List Char} {ts : List Token} (blank : isBlank c = true)
      (rest : Scans text ts) : Scans (c :: text) ts
  | number {n : Numeral} {text : List Char} {ts : List Token} (wellFormed : n.WellFormed)
      (stops : n.StopsBefore text) (rest : Scans text ts) :
      Scans (n.text ++ text) (.number n :: ts)
  | mark {c : Char} {token : Token} {text : List Char} {ts : List Token}
      (known : Token.ofChar? c = some token) (rest : Scans text ts) : Scans (c :: text) (token :: ts)

section Step

variable {c : Char} {text rest : List Char} {position : Nat}

theorem tokensFrom_of_isBlank (blank : isBlank c = true) :
    tokensFrom position (c :: rest) = tokensFrom (position + 1) rest := by
  rw [tokensFrom, if_pos blank]

theorem tokensFrom_of_leading? {n : Numeral} (leads : Numeral.leading? text = some (n, rest)) :
    tokensFrom position text =
      (tokensFrom (position + n.text.length) rest).map (Token.number n :: ·) := by
  obtain ⟨wellFormed, parts, -⟩ := Numeral.leading?_eq_some_iff.1 leads
  obtain ⟨c, digits, spelled⟩ := List.exists_cons_of_ne_nil (Numeral.text_ne_nil wellFormed)
  have dark : isBlank c = false :=
    Numeral.isBlank_of_mem_text wellFormed c (spelled ▸ List.mem_cons_self)
  rw [spelled, List.cons_append] at parts
  rw [parts] at leads ⊢
  rw [tokensFrom, if_neg (Bool.eq_false_iff.1 dark)]
  split
  · rename_i found
    obtain ⟨rfl, rfl⟩ := Prod.mk.inj (Option.some.inj (leads.symm.trans found))
    cases tokensFrom (position + n.text.length) rest <;> rfl
  · rename_i found
    cases leads.symm.trans found

theorem leading?_of_ofChar? {token : Token} (known : Token.ofChar? c = some token) :
    Numeral.leading? (c :: rest) = none := by
  rcases Token.ofChar?_eq_some known with ⟨rfl, -⟩ | ⟨rfl, -⟩ | ⟨o, rfl, -⟩
  · rfl
  · rfl
  · cases o <;> rfl

theorem isBlank_of_ofChar? {token : Token} (known : Token.ofChar? c = some token) :
    isBlank c = false := by
  rcases Token.ofChar?_eq_some known with ⟨rfl, -⟩ | ⟨rfl, -⟩ | ⟨o, rfl, -⟩
  · rfl
  · rfl
  · cases o <;> rfl

theorem isArithmetic_of_ofChar? {token : Token} (known : Token.ofChar? c = some token) :
    isArithmetic c = true := by
  rcases Token.ofChar?_eq_some known with ⟨rfl, -⟩ | ⟨rfl, -⟩ | ⟨o, rfl, -⟩
  · rfl
  · rfl
  · cases o <;> rfl

theorem tokensFrom_of_ofChar? {token : Token} (known : Token.ofChar? c = some token) :
    tokensFrom position (c :: rest) = (tokensFrom (position + 1) rest).map (token :: ·) := by
  rw [tokensFrom, if_neg (Bool.eq_false_iff.1 (isBlank_of_ofChar? known))]
  split
  · rename_i found
    cases (leading?_of_ofChar? known).symm.trans found
  · rw [known]
    cases tokensFrom (position + 1) rest <;> rfl

theorem tokensFrom_of_unknown (dark : isBlank c = false)
    (leads : Numeral.leading? (c :: rest) = none) (unknown : Token.ofChar? c = none) :
    tokensFrom position (c :: rest) = .error (.unexpectedCharacter c position) := by
  rw [tokensFrom, if_neg (Bool.eq_false_iff.1 dark)]
  split
  · rename_i found
    cases leads.symm.trans found
  · rw [unknown]

end Step

section Scans

variable {text : List Char} {ts : List Token}

theorem scans_of_tokensFrom {position : Nat} (h : tokensFrom position text = .ok ts) :
    Scans text ts := by
  induction position, text using tokensFrom.induct generalizing ts with
  | case1 position =>
    rw [tokensFrom] at h
    cases h
    exact .nothing
  | case2 position c rest blank ih =>
    rw [tokensFrom_of_isBlank blank] at h
    exact .blank blank (ih h)
  | case3 position c rest dark n after leads shorter ih =>
    rw [tokensFrom_of_leading? leads] at h
    obtain ⟨later, read, rfl⟩ := map_eq_ok_iff.1 h
    obtain ⟨wellFormed, parts, stops⟩ := Numeral.leading?_eq_some_iff.1 leads
    rw [parts]
    exact .number wellFormed stops (ih read)
  | case4 position c rest dark leads token known ih =>
    rw [tokensFrom_of_ofChar? known] at h
    obtain ⟨later, read, rfl⟩ := map_eq_ok_iff.1 h
    exact .mark known (ih read)
  | case5 position c rest dark leads unknown =>
    rw [tokensFrom_of_unknown (Bool.eq_false_iff.2 dark) leads unknown] at h
    cases h

theorem tokensFrom_of_scans (h : Scans text ts) (position : Nat) :
    tokensFrom position text = .ok ts := by
  induction h generalizing position with
  | nothing => rw [tokensFrom]
  | blank blank rest ih => rw [tokensFrom_of_isBlank blank, ih]
  | number wellFormed stops rest ih =>
    rw [tokensFrom_of_leading? (Numeral.leading?_eq_some_iff.2 ⟨wellFormed, rfl, stops⟩), ih]
    rfl
  | mark known rest ih =>
    rw [tokensFrom_of_ofChar? known, ih]
    rfl

/-- The tokens of a text are those of which it is put together. -/
theorem tokens_eq_ok_iff : tokens text = .ok ts ↔ Scans text ts :=
  ⟨scans_of_tokensFrom, fun h => tokensFrom_of_scans h 0⟩

namespace Scans

theorem wellFormed (h : Scans text ts) : ∀ n, .number n ∈ ts → n.WellFormed := by
  induction h with
  | nothing => exact nofun
  | blank _ _ ih => exact ih
  | number wellFormed _ _ ih =>
    intro n member
    rcases List.mem_cons.1 member with same | later
    · cases same
      exact wellFormed
    · exact ih n later
  | mark known _ ih =>
    intro n member
    rcases List.mem_cons.1 member with same | later
    · exact absurd (same ▸ known) Token.ofChar?_ne_number
    · exact ih n later

/-- A numeral stands in the text as it is. -/
theorem isInfix (h : Scans text ts) : ∀ n, .number n ∈ ts → n.text <:+: text := by
  induction h with
  | nothing => exact nofun
  | blank _ _ ih => exact fun n member => (ih n member).trans (List.suffix_cons _ _).isInfix
  | number _ _ _ ih =>
    intro n member
    rcases List.mem_cons.1 member with same | later
    · cases same
      exact (List.prefix_append _ _).isInfix
    · exact (ih n later).trans (List.suffix_append _ _).isInfix
  | mark known _ ih =>
    intro n member
    rcases List.mem_cons.1 member with same | later
    · exact absurd (same ▸ known) Token.ofChar?_ne_number
    · exact (ih n later).trans (List.suffix_cons _ _).isInfix

theorem all_isArithmetic (h : Scans text ts) : ∀ c ∈ text, isArithmetic c = true := by
  induction h with
  | nothing => exact nofun
  | blank blank _ ih =>
    rw [List.forall_mem_cons]
    exact ⟨isArithmetic_of_isBlank blank, ih⟩
  | number wellFormed _ _ ih =>
    rw [List.forall_mem_append]
    exact ⟨Numeral.isArithmetic_of_mem_text wellFormed, ih⟩
  | mark known _ ih =>
    rw [List.forall_mem_cons]
    exact ⟨isArithmetic_of_ofChar? known, ih⟩

end Scans

end Scans

end Switchboard.Expression
