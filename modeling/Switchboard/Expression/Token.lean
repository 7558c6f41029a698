import Switchboard.Expression.Fault
import Switchboard.Text.Blank

/-!
# Tokens of an expression

A text is cut into numerals, operators and parentheses. A numeral takes as many characters as it
can, blanks stand anywhere between tokens, and the first character that starts no token is reported.
-/

namespace Switchboard.Expression

open Text

/-- A row of digits, a point after it and digits after the point; one of the two rows may be
missing. -/
structure Numeral where
  whole : List Char
  fraction : Option (List Char)
deriving DecidableEq, Repr

inductive Operator where
  | plus | minus | times | dividedBy | modulo
deriving DecidableEq, Repr

inductive Token where
  | number (n : Numeral)
  | operator (o : Operator)
  | opening
  | closing
deriving DecidableEq, Repr

namespace Numeral

def text (n : Numeral) : List Char :=
  match n.fraction with
  | none => n.whole
  | some f => n.whole ++ '.' :: f

/-- Both rows hold digits alone, and one of them holds at least one. -/
def WellFormed (n : Numeral) : Prop :=
  n.whole.all isDigit ∧ (n.fraction.getD []).all isDigit ∧ (n.whole ≠ [] ∨ n.fraction.getD [] ≠ [])

def value (n : Numeral) : Double :=
  let fraction := n.fraction.getD []
  Double.ofDecimal false (natOfDigits (n.whole ++ fraction)) (-fraction.length)

/-- The longest numeral at the start of a text, and the text after it. -/
def leading? (text : List Char) : Option (Numeral × List Char) :=
  let whole := text.takeWhile isDigit
  match text.dropWhile isDigit with
  | '.' :: rest =>
    let fraction := rest.takeWhile isDigit
    if whole.isEmpty && fraction.isEmpty then none
    else some (⟨whole, some fraction⟩, rest.dropWhile isDigit)
  | rest => if whole.isEmpty then none else some (⟨whole, none⟩, rest)

theorem text_append_of_leading? {text rest : List Char} {n : Numeral}
    (h : leading? text = some (n, rest)) : n.text ++ rest = text := by
  have split := List.takeWhile_append_dropWhile (p := isDigit) (l := text)
  unfold leading? at h
  dsimp only at h
  split at h
  · rename_i after heq
    split at h
    · simp at h
    · simp only [Option.some.injEq, Prod.mk.injEq] at h
      obtain ⟨rfl, rfl⟩ := h
      simp only [Numeral.text, List.append_assoc, List.cons_append, List.takeWhile_append_dropWhile]
      rw [← heq, split]
  · split at h
    · simp at h
    · simp only [Option.some.injEq, Prod.mk.injEq] at h
      obtain ⟨rfl, rfl⟩ := h
      simp [Numeral.text]

theorem wellFormed_of_leading? {text rest : List Char} {n : Numeral}
    (h : leading? text = some (n, rest)) : n.WellFormed := by
  have digits (s : List Char) : (s.takeWhile isDigit).all isDigit = true := by
    induction s with
    | nil => rfl
    | cons c s ih => by_cases hc : isDigit c <;> simp [hc, ih]
  unfold leading? at h
  dsimp only at h
  split at h
  · split at h
    · simp at h
    · rename_i after _ nonempty
      simp only [Option.some.injEq, Prod.mk.injEq] at h
      obtain ⟨rfl, rfl⟩ := h
      refine ⟨digits _, digits _, ?_⟩
      simp only [Bool.and_eq_true, List.isEmpty_iff, not_and] at nonempty
      by_cases hw : text.takeWhile isDigit = []
      · exact Or.inr (nonempty hw)
      · exact Or.inl hw
  · split at h
    · simp at h
    · rename_i nonempty
      simp only [Option.some.injEq, Prod.mk.injEq] at h
      obtain ⟨rfl, rfl⟩ := h
      exact ⟨digits _, rfl, Or.inl (by simpa using nonempty)⟩

theorem text_ne_nil {n : Numeral} (h : n.WellFormed) : n.text ≠ [] := by
  obtain ⟨_, _, h⟩ := h
  cases hf : n.fraction with
  | none => simp_all [Numeral.text]
  | some f => simp [Numeral.text, hf]

theorem length_of_leading? {text rest : List Char} {n : Numeral}
    (h : leading? text = some (n, rest)) : rest.length < text.length := by
  have positive := List.length_pos_iff.2 (text_ne_nil (wellFormed_of_leading? h))
  have parts := congrArg List.length (text_append_of_leading? h)
  simp at parts
  omega

end Numeral

namespace Operator

def symbol : Operator → Char
  | plus => '+'
  | minus => '-'
  | times => '*'
  | dividedBy => '/'
  | modulo => '%'

def ofChar? : Char → Option Operator
  | '+' => some plus
  | '-' => some minus
  | '*' => some times
  | '/' => some dividedBy
  | '%' => some modulo
  | _ => none

def apply : Operator → Double → Double → Double
  | plus => Double.add
  | minus => Double.sub
  | times => Double.mul
  | dividedBy => Double.div
  | modulo => Double.rem

/-- Applies the operator that a text names. -/
def applyNamed (name : String) (left right : Double) : Except Fault Double :=
  match name.toList with
  | [c] =>
    match ofChar? c with
    | some o => .ok (o.apply left right)
    | none => .error (.unknownOperator name)
  | _ => .error (.unknownOperator name)

end Operator

namespace Token

def text : Token → List Char
  | number n => n.text
  | operator o => [o.symbol]
  | opening => ['(']
  | closing => [')']

/-- The operator or parenthesis that a character is. -/
def ofChar? (c : Char) : Option Token :=
  if c == '(' then some opening
  else if c == ')' then some closing
  else (Operator.ofChar? c).map operator

end Token

/-- The tokens of a text, whose first character has the given position. -/
def tokensFrom (position : Nat) (text : List Char) : Except Fault (List Token) :=
  match text with
  | [] => .ok []
  | c :: rest =>
    if isBlank c then tokensFrom (position + 1) rest
    else
      match h : Numeral.leading? (c :: rest) with
      | some (n, after) => do
        have := Numeral.length_of_leading? h
        let tokens ← tokensFrom (position + n.text.length) after
        return .number n :: tokens
      | none =>
        match Token.ofChar? c with
        | some token => do
          let tokens ← tokensFrom (position + 1) rest
          return token :: tokens
        | none => .error (.unexpectedCharacter c position)
termination_by text.length
decreasing_by
  · simp
  · assumption
  · simp

def tokens (text : List Char) : Except Fault (List Token) := tokensFrom 0 text

end Switchboard.Expression
