import Switchboard.Fallback
import Switchboard.Skill.Registry

/-!
# The assistant

An assistant has skills in order, small talk for what no skill claims, and a client that the skills
share until it is closed.
-/

namespace Switchboard

structure Assistant where
  skills : List Skill
  fallback : Fallback
  isOpen : Bool

structure Blueprint where
  services : List Service
  fallback : Fallback
  timeout : Double

namespace Blueprint

def defaultTimeout : Double := .ofInt 10

/-- A part of a configuration; one that is not given is empty. -/
def partOf (config : Value) (name : String) : Except Mismatch Value := do
  let part ← config.fieldOr name .emptyRecord
  return part.orElse .emptyRecord

def timeoutOf (config : Value) : Except Mismatch Double := do
  let http ← partOf config "http"
  let timeout ← http.fieldOr "timeout" (.float defaultTimeout)
  timeout.toDouble

/-- The settings of skills: the records among the fields of the section. -/
def settingsIn : Value → Fields
  | .record fields => fields.filter fun f => f.1 != "enabled" && f.2.isRecord
  | _ => []

def ofConfig (config : Value) (clock : Int) : Except SetupFault Blueprint := do
  let timeout ← SetupFault.ofMismatch (timeoutOf config)
  let chosen ← SetupFault.ofMismatch (partOf config "skills")
  let enabled ← SetupFault.ofMismatch (chosen.fieldOr "enabled" .null)
  let services ← buildServices BuiltIn.all enabled (.record (settingsIn chosen)) ⟨true, clock⟩
  let talk ← SetupFault.ofMismatch (config.fieldOr "fallback" .null)
  let fallback ← SetupFault.ofMismatch (Fallback.ofConfig talk)
  return ⟨services, fallback, timeout⟩

def assistant (blueprint : Blueprint) : Assistant where
  skills := blueprint.services.map Service.skill
  fallback := blueprint.fallback
  isOpen := true

end Blueprint

namespace Assistant

def build (config : Value) (clock : Int) : Except SetupFault Assistant := do
  let blueprint ← Blueprint.ofConfig config clock
  return blueprint.assistant

def close (assistant : Assistant) : Assistant := { assistant with isOpen := false }

def descriptions (assistant : Assistant) : Value :=
  .list (assistant.skills.map Skill.describe)

end Assistant

end Switchboard
