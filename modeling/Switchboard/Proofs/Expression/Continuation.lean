import Switchboard.Proofs.Expression.Lexemes
import Switchboard.Proofs.Expression.Reading

/-!
# Where an expression breaks off

Tokens that have been read are the start of some expression: a number ends the operand that is due, and
closing parentheses end all that is open. Conversely no token is refused after which an expression can
still come about. So reading reports that the end has been reached for what is only the start of an
expression, and else the first token with which no expression starts.
-/

namespace Switchboard.Expression

open Grammar

def Derivable (ts : List Token) : Prop := ∃ e : Grammar.Sentence, e.tokens = ts

/-- More tokens make a whole expression of them. -/
def Extendable (ts : List Token) : Prop :=
  ∃ more : List Token, (∀ token ∈ more, token.Valid) ∧ Derivable (ts ++ more)

/-- Closing parentheses alone make a whole expression of them. -/
def Closable (ts : List Token) : Prop := ∃ count, Derivable (ts ++ List.replicate count .closing)

theorem closable_tokens (e : Grammar.Sentence) : Closable e.tokens := ⟨0, e, by simp⟩

theorem Closable.of_closing {ts : List Token} (h : Closable (ts ++ [.closing])) : Closable ts := by
  obtain ⟨count, e, same⟩ := h
  refine ⟨count + 1, e, ?_⟩
  rw [same, List.append_assoc]
  rfl

theorem Closable.extendable {ts : List Token} (h : Closable ts) : Extendable ts := by
  obtain ⟨count, whole⟩ := h
  refine ⟨List.replicate count .closing, ?_, whole⟩
  intro token member
  obtain rfl := List.eq_of_mem_replicate member
  trivial

/-- Behind pending parts, whatever may stand there is a part of an expression. The induction is on the
parts; each one makes a larger part of what stands behind it. -/
theorem Spells.closable {pending : List Pending} {ts : List Token} (h : Spells pending ts) :
    (∀ u : Unary, Closable (ts ++ u.tokens)) ∧
    (startsTerm pending = true → ∀ t : Term, Closable (ts ++ t.tokens)) ∧
    (startsExpression pending = true → ∀ e : Grammar.Sentence, Closable (ts ++ e.tokens)) := by
  -- where an expression may start, a term and a unary part are expressions too
  have alone {ts : List Token} (all : ∀ e : Grammar.Sentence, Closable (ts ++ e.tokens)) :
      (∀ u : Unary, Closable (ts ++ u.tokens)) ∧ ∀ t : Term, Closable (ts ++ t.tokens) := by
    refine ⟨fun u => ?_, fun t => ?_⟩
    · simpa using all u.term.sentence
    · simpa using all t.sentence
  have never {P : Prop} (place : false = true) : P := absurd place Bool.false_ne_true
  induction h with
  | nothing =>
    have whole : ∀ e : Grammar.Sentence, Closable ([] ++ e.tokens) := closable_tokens
    exact ⟨(alone whole).1, fun _ => (alone whole).2, fun _ => whole⟩
  | @sign negative pending ts rest ih =>
    refine ⟨fun u => ?_, never, never⟩
    have signed := ih.1 (.sign negative u)
    rw [Unary.tokens] at signed
    simpa using signed
  | @group pending ts rest ih =>
    have grouped (e : Grammar.Sentence) : Closable (ts ++ [.opening] ++ e.tokens) := by
      have whole := ih.1 (.primary (.group e))
      rw [Unary.tokens, Primary.tokens] at whole
      exact .of_closing (by simpa using whole)
    exact ⟨(alone grouped).1, fun _ => (alone grouped).2, fun _ => grouped⟩
  | @factor t o other pending ts place rest ih =>
    refine ⟨fun u => ?_, never, never⟩
    have product := ih.2.1 place (t.append o other u)
    simpa using product
  | @term e o additive pending ts place rest ih =>
    have sum (t : Term) : Closable (ts ++ (e.tokens ++ [.operator o]) ++ t.tokens) := by
      simpa using ih.2.2 place (e.append o additive t)
    exact ⟨fun u => by simpa using sum u.term, fun _ => sum, never⟩

theorem Reading.Spelled.extendable {r : Reading} {ts : List Token} (h : r.Spelled ts) :
    Extendable ts := by
  obtain ⟨pending, operand⟩ := r
  cases operand with
  | none =>
    obtain ⟨count, whole⟩ := (Spells.closable h).1 (.primary (.number ⟨['0'], none⟩))
    rw [Unary.tokens, Primary.tokens, List.append_assoc] at whole
    refine ⟨_, ?_, whole⟩
    rw [List.forall_mem_append, List.forall_mem_singleton]
    refine ⟨⟨rfl, rfl, .inl (List.cons_ne_nil _ _)⟩, fun token member => ?_⟩
    obtain rfl := List.eq_of_mem_replicate member
    trivial
  | some v =>
    obtain ⟨us, t, spelled, place, -, rfl⟩ := h
    exact (spelled.closable.2.1 place t).extendable

theorem Nest.deepest_le_append (nest : Nest) (ts us : List Token) :
    nest.deepest ts ≤ nest.deepest (ts ++ us) := by
  induction ts generalizing nest with
  | nil => exact nest.length_le_deepest us
  | cons token ts ih =>
    rw [List.cons_append, Nest.deepest, Nest.deepest]
    have later := ih (nest.next token)
    omega

theorem not_tooDeep {ts : List Token} (shallow : nesting ts ≤ 100) :
    ts.foldlM Reading.next .start ≠ .error .tooDeep := by
  intro run
  have bound := lt_of_run_tooDeep spelled_start run
  change depthLimit < 4 * nesting ts at bound
  unfold depthLimit at bound
  omega

/-- However deep the extension nests, the tokens before it are read. -/
theorem exists_run_of_extendable {ts : List Token} (h : Extendable ts) (shallow : nesting ts ≤ 100) :
    ∃ r, ts.foldlM Reading.next .start = .ok r := by
  obtain ⟨more, -, e, same⟩ := h
  obtain ⟨after, w, reads, -⟩ := e.reads [] rfl
  cases run : ts.foldlM Reading.next .start with
  | ok r => exact ⟨r, rfl⟩
  | error fault =>
    have whole : e.tokens.foldlM Reading.next .start = .error fault := by
      rw [same, List.foldlM_append, run]
      rfl
    rcases reads with reads | deep
    · cases whole.symm.trans reads
    · cases whole.symm.trans deep
      exact absurd run (not_tooDeep shallow)

theorem extendable_iff {ts : List Token} (shallow : nesting ts ≤ 100) :
    Extendable ts ↔ ∃ r, ts.foldlM Reading.next .start = .ok r := by
  constructor
  · exact fun h => exists_run_of_extendable h shallow
  · rintro ⟨r, run⟩
    exact (spelled_run spelled_start run).extendable

/-- An operand has just ended in an open parenthesis: an operator is due there, or the closing of the
parenthesis. -/
def Nest.closingDue (nest : Nest) : Bool :=
  nest.afterOperand && nest.openings.contains .parenthesis

def closingDue (ts : List Token) : Bool := (ts.foldl Nest.next .start).closingDue

def Token.startsPrimary : Token → Bool
  | number _ => true
  | opening => true
  | _ => false

theorem nest_run {r s : Reading} {ts us : List Token} (h : r.Spelled ts)
    (run : us.foldlM Reading.next r = .ok s) : s.nest = us.foldl Nest.next r.nest := by
  induction us generalizing r ts with
  | nil =>
    cases run
    rfl
  | cons token us ih =>
    rw [List.foldlM_cons] at run
    obtain ⟨middle, next, run⟩ := bind_eq_ok_iff.1 run
    have step := step_of_next next
    rw [ih (spelled_step h step) run, nest_step h step]
    rfl

theorem contains_group (pending : List Pending) :
    pending.contains .group = (openings pending).contains .parenthesis := by
  induction pending with
  | nil => rfl
  | cons part rest ih =>
    cases part with
    | sign negative => exact ih
    | factor left o => exact ih
    | term left o => exact ih
    | group => rfl

/-- Why a token is refused, nesting apart. -/
theorem fault_of_next {r : Reading} {token : Token} {fault : Fault}
    (refused : r.next token = .error fault) : fault = .tooDeep ∨
      fault = if token.startsPrimary && r.nest.closingDue then .closingExpected
        else .unexpected token.text := by
  obtain ⟨pending, operand⟩ := r
  have pushed {part : Pending} (h : push part pending = .error fault) : fault = .tooDeep := by
    rcases push_cases part pending with ok | deep
    · cases ok.symm.trans h
    · cases deep.symm.trans h
      rfl
  cases operand with
  | none =>
    have due : (Reading.nest ⟨pending, none⟩).closingDue = false := rfl
    rw [due, Bool.and_false]
    cases token with
    | number n => cases refused
    | opening => exact .inl (pushed refused)
    | closing =>
      cases refused
      exact .inr rfl
    | operator o =>
      cases o with
      | plus => exact .inl (pushed refused)
      | minus => exact .inl (pushed refused)
      | times | dividedBy | modulo =>
        cases refused
        exact .inr rfl
  | some v =>
    have due : (Reading.nest ⟨pending, some v⟩).closingDue = pending.contains .group :=
      (contains_group pending).symm
    rw [due]
    refine .inr ?_
    cases token with
    | number n | opening =>
      simp only [Reading.next, readAfterOperand] at refused
      split at refused
      · rename_i inside
        cases refused
        exact (if_pos inside).symm
      · rename_i outside
        cases refused
        exact (if_neg outside).symm
    | closing =>
      simp only [Reading.next, readAfterOperand] at refused
      split at refused <;> cases refused
      rfl
    | operator o => cases o <;> cases refused

/-- Reading breaks off at the first token with which no expression starts. -/
theorem exists_refused {ts : List Token} {fault : Fault} (shallow : nesting ts ≤ 100)
    (run : ts.foldlM Reading.next .start = .error fault) :
    ∃ before token after, ts = before ++ token :: after ∧
      (∀ front, front <+: before → Extendable front) ∧ ¬ Extendable (before ++ [token]) ∧
      fault = if token.startsPrimary && closingDue before then .closingExpected
        else .unexpected token.text := by
  obtain ⟨before, token, after, r, rfl, good, refused⟩ := foldlM_breaks run
  refine ⟨before, token, after, rfl, ?_, ?_, ?_⟩
  · rintro front ⟨back, rfl⟩
    rw [List.foldlM_append] at good
    obtain ⟨r', front, -⟩ := bind_eq_ok_iff.1 good
    exact (spelled_run spelled_start front).extendable
  · have shallow' : nesting (before ++ [token]) ≤ 100 := by
      have whole := Nest.start.deepest_le_append (before ++ [token]) after
      rw [List.append_assoc] at whole
      exact Nat.le_trans whole shallow
    rw [extendable_iff shallow', List.foldlM_append, good, ok_bind, List.foldlM_cons, refused]
    rintro ⟨s, run⟩
    cases run
  · rcases fault_of_next refused with rfl | shown
    · exact absurd run (not_tooDeep shallow)
    · rwa [nest_run spelled_start good] at shown

theorem finish_eq_error {r : Reading} {fault : Fault} (h : r.finish = .error fault) :
    fault = .endReached := by
  obtain ⟨pending, operand⟩ := r
  cases operand with
  | none =>
    cases h
    rfl
  | some v =>
    simp only [Reading.finish] at h
    split at h <;> cases h
    rfl

theorem value_of_tokens {text : List Char} {ts : List Token} (scanned : tokens text = .ok ts)
    (given : ts ≠ []) : value text = ts.foldlM Reading.next .start >>= Reading.finish := by
  have nonempty : ts.isEmpty = false := List.isEmpty_eq_false_iff.2 given
  rw [value, scanned, ok_bind, valueOfTokens, nonempty]
  rfl

/-- A token that is refused is shown between quotes. -/
theorem message_unexpected_ne (row : List Char) :
    (Fault.unexpected row).message ≠ Fault.endReached.message := by
  intro same
  have parts : Fault.endReached.message = "Unexpected " ++ "end of expression" := by decide
  have shown := (String.append_right_inj _).1 (same.trans parts)
  have first : (Text.quoted row).head? = some 'e' := by
    rw [← String.toList_ofList (l := Text.quoted row), shown]
    decide
  simp only [Text.quoted, Text.quoteFor, List.head?_cons, Option.some.injEq] at first
  split at first <;> cases first

theorem message_closingExpected_ne : Fault.closingExpected.message ≠ Fault.endReached.message := by
  decide

example : value "(1 2".toList = .error .closingExpected := eq_error_of_fault? (by decide +kernel)

example : value "1 2".toList = .error (.unexpected ['2']) := eq_error_of_fault? (by decide +kernel)

end Switchboard.Expression
