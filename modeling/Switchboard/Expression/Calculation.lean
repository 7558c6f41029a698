import Switchboard.Expression.Validation
import Switchboard.Expression.Evaluation
import Switchboard.Expression.Report

/-!
# Answering a question about numbers
-/

namespace Switchboard.Expression

structure Calculation where
  expression : String
  result : String
deriving DecidableEq, Repr

/-- Cleans a question, validates what is left, and evaluates it. -/
def calculate (question : String) : Except Fault Calculation := do
  let expression := clean question.toList
  validate expression
  let v ← value expression
  return ⟨String.ofList expression, report v⟩

end Switchboard.Expression
