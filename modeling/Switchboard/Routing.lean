import Switchboard.Assistant

/-!
# Routing

A text goes to the first skill with a trigger that matches it. Where no trigger of any skill matches,
it goes to the first skill with a phrase in it, and where there is none, to small talk. A skill that
fails is answered with an apology.
-/

namespace Switchboard

open Text

inductive Strategy where
  | explicit | naturalLanguage
deriving DecidableEq, Repr

def Strategy.name : Strategy → String
  | explicit => "explicit"
  | naturalLanguage => "natural_language"

structure Decision where
  skill : Skill
  argument : String
  strategy : Strategy
  trigger : String

/-- The answer to a text. The skill and the data are there where a skill has answered. -/
structure Outcome where
  matched : Bool
  response : Value
  /-- The name of the skill. -/
  skill : Option Value
  data : Option Value

namespace Outcome

def unmatched (response : Value) : Outcome := ⟨false, response, none, none⟩

/-- The data that are reported, which are empty where there are none. -/
def reported (data : Option Value) : Value := (Value.option data).orElse .emptyRecord

def skillFields (o : Outcome) : Fields :=
  if o.matched then [("skill", .option o.skill), ("data", reported o.data)] else []

def toValue (o : Outcome) : Value :=
  .record (("matched", .bool o.matched) :: ("response", o.response) :: o.skillFields)

end Outcome

namespace Skill

/-- The decision of the first trigger of a skill that matches. -/
def explicit? (skill : Skill) (text : List Char) : Option Decision :=
  skill.triggers.findSome? fun trigger =>
    (trigger.argument? text).map fun argument =>
      ⟨skill, String.ofList (trim argument), .explicit, trigger.pattern⟩

/-- The decision of the first phrase of a skill that stands in the text. -/
def spoken? (skill : Skill) (text : List Char) : Option Decision :=
  skill.phrases.findSome? fun phrase =>
    (afterPhrase phrase.toList text).map fun rest =>
      ⟨skill, String.ofList (trim rest), .naturalLanguage, phrase⟩

end Skill

def decide? (skills : List Skill) (text : List Char) : Option Decision :=
  skills.findSome? (·.explicit? text) <|> skills.findSome? (·.spoken? text)

namespace Assistant

def matchText (assistant : Assistant) (text : String) : Option Decision :=
  let trimmed := trim text.toList
  if trimmed.isEmpty then none else decide? assistant.skills trimmed

def apology (skill : String) : String :=
  "I had trouble processing your " ++ skill ++ " request. Please try again."

/-- What a skill's answer, or its failure, comes to. Only reading the data of an answer can fail. -/
def settle (skill : Skill) : Except Failure Reply → Except Failure Outcome
  | .error _ => .ok (.unmatched (.text (apology skill.name)))
  | .ok reply => do
    let data ← reply.payload.value
    return ⟨true, .text reply.response, some (.text skill.name), some data⟩

def route (assistant : Assistant) (text : String) (network : Network) :
    Except Failure Outcome × Network :=
  match assistant.matchText text with
  | none =>
    (.ok (.unmatched (assistant.fallback.respond (String.ofList (trim text.toList)))), network)
  | some decision =>
    let (result, after) :=
      (decision.skill.respond decision.argument).perform assistant.isOpen network
    (settle decision.skill result, after)

end Assistant

end Switchboard
