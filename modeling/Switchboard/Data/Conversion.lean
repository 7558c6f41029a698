import Switchboard.Data.Value

/-!
# Reading one kind of value as another

Each conversion either succeeds or says in which way the value does not fit.
-/

namespace Switchboard

/-- The ways in which a value does not fit its use. -/
inductive Mismatch where
  /-- A field is asked of a value that has no fields. -/
  | noFields
  /-- The value is of a kind that the use has no reading for. -/
  | wrongKind
  /-- The kind fits, but not the content. -/
  | badContent
  | missingField
  /-- A number is too large for its use. -/
  | outOfRange
deriving DecidableEq, Repr

namespace Value

def field? (v : Value) (name : String) : Except Mismatch (Option Value) :=
  match v with
  | record fields => .ok (Fields.get? fields name)
  | _ => .error .noFields

def fieldOr (v : Value) (name : String) (default : Value) : Except Mismatch Value := do
  let found ← v.field? name
  return found.getD default

def field (v : Value) (name : String) : Except Mismatch Value :=
  match v with
  | record fields =>
    match Fields.get? fields name with
    | some value => .ok value
    | none => .error .missingField
  | _ => .error .wrongKind

/-- The parts of a value in order: the items of a list, the characters of a text, the field names of
a record. -/
def parts : Value → Except Mismatch (List Value)
  | list items => .ok items
  | text s => .ok (s.toList.map fun c => text (String.singleton c))
  | record fields => .ok ((Fields.names fields).map scalar)
  | _ => .error .wrongKind

/-- A value as the name of a field. Lists and records name no field. -/
def fieldName : Value → Except Mismatch Scalar
  | scalar s => .ok s
  | _ => .error .wrongKind

/-- A value of two parts as a field. -/
def pair (v : Value) : Except Mismatch (Scalar × Value) := do
  let parts ← v.parts
  match parts with
  | [name, value] => return (← name.fieldName, value)
  | _ => .error .badContent

/-- A value as fields: a record, or the two-part values of which others consist. -/
def toFields : Value → Except Mismatch Fields
  | record fields => .ok fields
  | v => do
    let parts ← v.parts
    let pairs ← parts.mapM pair
    return .ofPairs pairs

def withinRange : Double → Except Mismatch Double
  | .infinite _ => .error .outOfRange
  | x => .ok x

def toDouble : Value → Except Mismatch Double
  | bool b => .ok (.ofInt b.toNat)
  | int n => withinRange (.ofInt n)
  | float x => .ok x
  | text s =>
    match readDouble s.toList with
    | some x => .ok x
    | none => .error .badContent
  | _ => .error .wrongKind

def wholePart : Double → Except Mismatch Int
  | .nan => .error .badContent
  | .infinite _ => .error .outOfRange
  | .finite negative units => .ok (Double.truncate negative units)

def toInt : Value → Except Mismatch Int
  | bool b => .ok b.toNat
  | int n => .ok n
  | float x => wholePart x
  | text s =>
    match readInt s.toList with
    | some n => .ok n
    | none => .error .badContent
  | _ => .error .wrongKind

end Value

end Switchboard
