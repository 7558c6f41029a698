import Switchboard.Data.Value

/-!
# Placeholders

A dollar sign and a name in curly brackets stand for a variable of the environment. A default may
follow the name after a colon. Inserted text is not looked at again.
-/

namespace Switchboard

abbrev Environment := List (String × String)

structure Placeholder where
  name : List Char
  default : Option (List Char)
deriving DecidableEq, Repr

namespace Placeholder

def text (p : Placeholder) : List Char :=
  '$' :: '\x7b' :: (p.name ++
    (match p.default with
      | some d => ':' :: d
      | none => []) ++ ['\x7d'])

def value (env : Environment) (p : Placeholder) : List Char :=
  match env.lookup (String.ofList p.name) with
  | some v => v.toList
  | none => p.default.getD []

/-- The placeholder after its opening bracket, and what follows it. -/
def afterOpening? (text : List Char) : Option (Placeholder × List Char) :=
  let isNamePart (c : Char) : Bool := c != '\x7d' && c != ':'
  let name := text.takeWhile isNamePart
  if name.isEmpty then none
  else
    match text.dropWhile isNamePart with
    | '\x7d' :: rest => some (⟨name, none⟩, rest)
    | ':' :: rest =>
      match rest.dropWhile (· != '\x7d') with
      | _ :: after => some (⟨name, some (rest.takeWhile (· != '\x7d'))⟩, after)
      | [] => none
    | _ => none

/-- The placeholder at the start of a text, and what follows it. -/
def leading? : List Char → Option (Placeholder × List Char)
  | '$' :: '\x7b' :: rest => afterOpening? rest
  | _ => none

theorem length_of_leading? {s rest : List Char} {p : Placeholder}
    (h : leading? s = some (p, rest)) : rest.length < s.length := by
  unfold leading? afterOpening? at h
  split at h
  · rename_i text
    dsimp only at h
    split at h
    · simp at h
    · have shorter := Text.dropWhile_length_le (fun c => c != '\x7d' && c != ':') text
      split at h
      · rename_i heq
        simp only [Option.some.injEq, Prod.mk.injEq] at h
        rw [heq] at shorter
        simp only [List.length_cons, ← h.2] at shorter ⊢
        omega
      · rename_i after heq
        have shorterStill := Text.dropWhile_length_le (· != '\x7d') after
        rw [heq] at shorter
        split at h
        · rename_i heq'
          simp only [Option.some.injEq, Prod.mk.injEq] at h
          rw [heq'] at shorterStill
          simp only [List.length_cons, ← h.2] at shorter shorterStill ⊢
          omega
        · simp at h
      · simp at h
  · simp at h

/-- A text with its placeholders replaced. -/
def expand (env : Environment) : List Char → List Char
  | [] => []
  | c :: rest =>
    match h : leading? (c :: rest) with
    | some (p, after) =>
      have := length_of_leading? h
      p.value env ++ expand env after
    | none => c :: expand env rest
termination_by s => s.length
decreasing_by
  · assumption
  · simp

end Placeholder

namespace Value

mutual

/-- Replaces the placeholders in every text of a value; field names are left as they are. -/
def expand (env : Environment) : Value → Value
  | text s => text (String.ofList (Placeholder.expand env s.toList))
  | list items => list (expandItems env items)
  | record fields => record (expandFields env fields)
  | v => v

def expandItems (env : Environment) : List Value → List Value
  | [] => []
  | v :: rest => expand env v :: expandItems env rest

def expandFields (env : Environment) : List (Scalar × Value) → List (Scalar × Value)
  | [] => []
  | (name, v) :: rest => (name, expand env v) :: expandFields env rest

end

end Value

end Switchboard
