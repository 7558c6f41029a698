import Switchboard.Data.Conversion

/-!
# Why a text gives no value
-/

namespace Switchboard

inductive Misreading where
  /-- The text does not have the form that is read. -/
  | malformed
  /-- Lists and records lie too deep inside each other. -/
  | tooDeep
  /-- The form is right, but a part of the text stands for no value. -/
  | mismatch (m : Mismatch)
deriving DecidableEq, Repr

/-- What is left of a reading that may fail without a reason of its own. -/
def Misreading.require {α : Type} : Option α → Except Misreading α
  | some a => .ok a
  | none => .error .malformed

end Switchboard
