import Switchboard.Data.Conversion

/-!
# Why a skill gives no answer
-/

namespace Switchboard

inductive Failure where
  /-- There is nothing usable to work with. -/
  | invalidArgument (message : String) (skill : Option String)
  /-- The argument was refused before any work was done. -/
  | rejected (message : String) (skill : Option String)
  /-- A live source could not be reached, or gave nothing usable. -/
  | unavailable (message : String) (skill : Option String) (status : Option Nat)
  | mismatch (m : Mismatch)
  /-- A request was made after the client had been closed. -/
  | closed
  /-- The skill has no such step. -/
  | notProvided
  /-- The parts of a value lie too deep inside each other. -/
  | tooDeep
deriving DecidableEq, Repr

def Failure.ofMismatch {α : Type} : Except Mismatch α → Except Failure α
  | .ok v => .ok v
  | .error m => .error (.mismatch m)

end Switchboard
