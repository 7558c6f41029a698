import Switchboard.Http.Exchange
import Switchboard.Skill.Trigger

/-!
# Skills

A skill is called by triggers and by phrases, and answers an argument with a text and data.
-/

namespace Switchboard

inductive Payload where
  | absent
  | ready (v : Value)
  /-- Data whose fields are yet to be read. -/
  | raw (v : Value)
  /-- Data that are yet to be copied, level by level. -/
  | layered (v : Value)

def Payload.value : Payload → Except Failure Value
  | absent => .ok .emptyRecord
  | ready v => .ok v
  | raw v => Failure.ofMismatch (v.toFields.map .record)
  | layered v => if v.depth ≤ Value.depthLimit then .ok v else .error .tooDeep

structure Reply where
  response : String
  payload : Payload

structure Skill where
  name : String
  description : String
  usage : String
  triggers : List Trigger
  phrases : List String
  respond : String → Plan Reply

namespace Skill

/-- How a skill is called where it does not say so itself. -/
def defaultUsage (name : String) : String := "/" ++ name ++ " ..."

def describe (skill : Skill) : Value :=
  .record [("name", .text skill.name), ("description", .text skill.description),
    ("usage", .text skill.usage),
    ("triggers", .texts (skill.triggers.map Trigger.pattern)),
    ("natural_language_triggers", .texts skill.phrases)]

end Skill

/-- An argument without the blanks around it, which must leave something. -/
def requireArgument (skill what query : String) : Except Failure (List Char) :=
  let argument := Text.trim query.toList
  if argument.isEmpty then .error (.invalidArgument (what ++ " is required") (some skill))
  else .ok argument

end Switchboard
