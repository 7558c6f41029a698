import Switchboard.Expression.Calculation
import Switchboard.Skill.Basic

/-!
# The calculator
-/

namespace Switchboard.Calculator

def name : String := "calc"

def data (c : Expression.Calculation) : Value :=
  .record [("expression", .text c.expression), ("result", .text c.result)]

def reply (c : Expression.Calculation) : Reply :=
  ⟨c.expression ++ " = " ++ c.result, .ready (data c)⟩

def answer (query : String) : Except Failure Reply := do
  let argument ← requireArgument name "Expression" query
  match Expression.calculate (String.ofList argument) with
  | .ok c => return reply c
  | .error fault => .error (.rejected ("Calculation error: " ++ fault.message) (some name))

def skill : Skill where
  name := name
  description := "Calculate mathematical expressions"
  usage := "/calc [expression]"
  triggers := [.command "calc"]
  phrases := ["calculate", "compute", "what is", "what's", "solve"]
  respond query := .answer (answer query)

end Switchboard.Calculator
