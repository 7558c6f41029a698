import Switchboard.Assistant
import Switchboard.Proofs.Data.Attempt

/-!
# How services are made

The skills section of a configuration names the services and holds the settings of each. The services
are made one by one, in the order of their names.
-/

namespace Switchboard

/-- The names of the services that are made: those that are enabled, or all that there are. -/
def namesEnabled (registry : List BuiltIn) (enabled : Value) : Except SetupFault (List Value) :=
  if enabled.isNull then .ok (registry.map fun kind => .text kind.name)
  else SetupFault.ofMismatch enabled.parts

def serviceNamed (registry : List BuiltIn) (settings : Value) (setting : BuiltIn.Setting)
    (name : Value) : Except SetupFault Service := do
  let kind ← enabledSkill registry name
  let config ← SetupFault.ofMismatch (settingsOf settings kind.name)
  return kind.service config setting .null

theorem orElse_emptyRecord (fields : Fields) :
    (Value.record fields).orElse .emptyRecord = .record fields := by
  cases fields <;> rfl

theorem settingsOf_record (fields : Fields) (name : String) :
    settingsOf (.record fields) name = ((Fields.get? fields name).getD .emptyRecord).toFields :=
  rfl

theorem buildServices_record (enabled : Value) (settings : Fields) (setting : BuiltIn.Setting) :
    buildServices BuiltIn.all enabled (.record settings) setting =
      namesEnabled BuiltIn.all enabled >>= fun names =>
        names.mapM (serviceNamed BuiltIn.all (.record settings) setting) := by
  rw [buildServices, orElse_emptyRecord, namesEnabled]
  split <;> rfl

namespace Blueprint

def servicesOf (config : Value) (clock : Int) : Except SetupFault (List Service) := do
  let chosen ← SetupFault.ofMismatch (partOf config "skills")
  let enabled ← SetupFault.ofMismatch (chosen.fieldOr "enabled" .null)
  buildServices BuiltIn.all enabled (.record (settingsIn chosen)) ⟨true, clock⟩

theorem ofConfig_eq (config : Value) (clock : Int) :
    ofConfig config clock = do
      let timeout ← SetupFault.ofMismatch (timeoutOf config)
      let services ← servicesOf config clock
      let talk ← SetupFault.ofMismatch (config.fieldOr "fallback" .null)
      let fallback ← SetupFault.ofMismatch (Fallback.ofConfig talk)
      return ⟨services, fallback, timeout⟩ := by
  simp only [ofConfig, servicesOf, bind_assoc]

end Blueprint

end Switchboard
