import Switchboard.Data.Moment
import Switchboard.Number.Reading
import Switchboard.Text.Quoted

/-!
# Scalars

Values without parts. They also name the fields of records. There numbers and truth values that are
equal as numbers name the same field, and so do moments that are the same instant.
-/

namespace Switchboard

inductive Scalar where
  | null
  | bool (b : Bool)
  | int (n : Int)
  | float (x : Double)
  | text (s : String)
  | moment (m : Moment)
deriving DecidableEq, Inhabited, Repr

instance : Coe String Scalar := ⟨.text⟩

namespace Scalar

/-- What scalars have in common that name the same field. -/
inductive Key where
  | scalar (s : Scalar)
  | instant (microseconds : Int)
deriving DecidableEq, Repr

/-- What a scalar counts as where it names a field: truth values are numbers, a whole number is an
integer, and a moment is an instant if it is known which. -/
def key : Scalar → Key
  | bool b => .scalar (int b.toNat)
  | float (.finite negative units) =>
    if units % Double.one = 0 then .scalar (int (Double.truncate negative units))
    else .scalar (float (.finite negative units))
  | moment m =>
    match m.instant? with
    | some microseconds => .instant microseconds
    | none => .scalar (moment m)
  | s => .scalar s

/-- Whether two scalars name the same field. -/
def same (a b : Scalar) : Bool := a.key == b.key

theorem same_iff {a b : Scalar} : a.same b = true ↔ a.key = b.key := by
  simp [same]

/-- Integers from here on have too many digits to be written. -/
def writableBound : Nat := Nat.pow 10 digitLimit

def isWritable : Scalar → Bool
  | int n => n.natAbs < writableBound
  | _ => true

/-- Whether a scalar counts as given: zero, the empty text and nothing do not. -/
def truthy : Scalar → Bool
  | null => false
  | bool b => b
  | int n => n != 0
  | float (.finite _ units) => units != 0
  | float _ => true
  | text s => !s.isEmpty
  | moment _ => true

def kindName : Scalar → String
  | null => "NoneType"
  | bool _ => "bool"
  | int _ => "int"
  | float _ => "float"
  | text _ => "str"
  | moment m => m.kindName

def boolText (b : Bool) : String := if b then "True" else "False"

/-- The text of a scalar inside another value, where texts stand between quotes. -/
def nestedText : Scalar → String
  | null => "None"
  | bool b => boolText b
  | int n => intText n
  | float x => x.text
  | text s => Text.quotedText s
  | moment m => m.form

def display : Scalar → String
  | text s => s
  | moment m => m.text
  | s => s.nestedText

end Scalar

end Switchboard
