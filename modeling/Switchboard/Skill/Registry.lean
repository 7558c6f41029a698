import Switchboard.Skill.Calculator
import Switchboard.Skill.Dictionary
import Switchboard.Skill.Weather

/-!
# The skills that come with the program

Skills are made from the names that a configuration enables, in that order, each with its settings.
-/

namespace Switchboard

inductive BuiltIn where
  | weather | calculator | dictionary
deriving DecidableEq, Repr

inductive Service where
  | weather (w : Weather)
  | calculator (config : Fields)
  | dictionary (source : Source)

namespace BuiltIn

def all : List BuiltIn := [weather, calculator, dictionary]

def name : BuiltIn → String
  | weather => Weather.name
  | calculator => Calculator.name
  | dictionary => Dictionary.name

def ofName? (name : String) : Option BuiltIn := all.find? (·.name == name)

/-- The surroundings of a skill: whether there is a client, and the time. -/
structure Setting where
  connected : Bool
  clock : Int

def service (kind : BuiltIn) (config : Fields) (setting : Setting) (apiKey : Value) : Service :=
  match kind with
  | weather => .weather (.ofConfig config setting.connected apiKey setting.clock)
  | calculator => .calculator config
  | dictionary => .dictionary (.ofConfig config setting.connected Dictionary.defaultUrl)

end BuiltIn

namespace Service

def skill : Service → Skill
  | weather w => w.skill
  | calculator _ => Calculator.skill
  | dictionary source => Dictionary.skill source

def config : Service → Fields
  | weather w => w.source.config
  | calculator config => config
  | dictionary source => source.config

end Service

inductive SetupFault where
  | mismatch (m : Mismatch)
  | unknownSkill (name : String) (available : List String)
deriving DecidableEq, Repr

def SetupFault.ofMismatch {α : Type} : Except Mismatch α → Except SetupFault α
  | .ok v => .ok v
  | .error m => .error (.mismatch m)

def SetupFault.message? : SetupFault → Option String
  | mismatch _ => none
  | unknownSkill name available =>
    some ("Unknown skill '" ++ name ++ "'. Available skills: " ++ ", ".intercalate available)

/-- The skill that a name enables. Lists and records are no names. -/
def enabledSkill (registry : List BuiltIn) (name : Value) : Except SetupFault BuiltIn := do
  let _ ← SetupFault.ofMismatch name.fieldName
  let known := match name with
    | .text s => registry.find? (·.name == s)
    | _ => none
  match known with
  | some kind => return kind
  | none => .error (.unknownSkill name.display (registry.map BuiltIn.name))

def settingsOf (settings : Value) (name : String) : Except Mismatch Fields := do
  let found ← settings.fieldOr name .emptyRecord
  found.toFields

/-- Makes the enabled skills one by one; all skills of the registry where none are named. -/
def buildServices (registry : List BuiltIn) (enabled settings : Value)
    (setting : BuiltIn.Setting) : Except SetupFault (List Service) := do
  let registry := if registry.isEmpty then BuiltIn.all else registry.eraseDups
  let names ← if enabled.isNull then pure (registry.map fun kind => .text kind.name)
    else SetupFault.ofMismatch enabled.parts
  let settings := settings.orElse .emptyRecord
  names.mapM fun name => do
    let kind ← enabledSkill registry name
    let config ← SetupFault.ofMismatch (settingsOf settings kind.name)
    return kind.service config setting .null

end Switchboard
