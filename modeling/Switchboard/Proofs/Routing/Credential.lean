import Switchboard.Proofs.Routing.Redaction
import Switchboard.Proofs.Skill.Registry

/-!
# The key of the weather source

A configuration holds the key among the settings of the weather skill. Which key it is makes no
difference to anything but the parameter in which it is sent, as long as there is one.
-/

namespace Switchboard

theorem Value.truthy_orElse_null (v : Value) : (v.orElse .null).truthy = v.truthy := by
  rw [orElse]
  split
  · rfl
  · simp_all [truthy, Scalar.truthy]

theorem Value.truthy_text {s : String} (given : s ≠ "") : (text s).truthy = true := by
  simpa [truthy, Scalar.truthy] using given

/-- Fields around one whose value is left open. -/
structure Frame where
  before : Fields
  after : Fields

namespace Frame

variable {name other : String}

def fill (frame : Frame) (name : String) (v : Value) : Fields :=
  frame.before ++ (.text name, v) :: frame.after

theorem get?_fill (frame : Frame) (name : String) (v : Value) :
    Fields.get? (frame.fill name v) name = some ((Fields.get? frame.before name).getD v) := by
  rw [fill, Fields.get?, Fields.get?, List.find?_append]
  cases frame.before.find? fun f => f.1.same (.text name) with
  | none => simp [Scalar.same]
  | some f => rfl

/-- A field with another name is found whatever the value is. -/
theorem get?_fill_of_ne (frame : Frame) (apart : name ≠ other) (v w : Value) :
    Fields.get? (frame.fill name v) other = Fields.get? (frame.fill name w) other := by
  have unlike : (Scalar.text name).same (.text other) = false := by
    simpa [Scalar.same, Scalar.key] using apart
  simp only [fill, Fields.get?, List.find?_append, List.find?_cons, unlike]

end Frame

/-- Weather services that differ in their key alone, if both have one or neither has. -/
structure Weather.Alike (weather other : Weather) : Prop where
  connected : weather.source.connected = other.source.connected
  baseUrl : weather.source.baseUrl = other.source.baseUrl
  live : weather.source.live = other.source.live
  units : weather.units = other.units
  clock : weather.clock = other.clock
  keyed : weather.apiKey.truthy = other.apiKey.truthy

theorem Weather.Alike.redacted_skill {weather other : Weather} (h : weather.Alike other) :
    weather.skill.redacted = other.skill.redacted := by
  have live : weather.live = other.live := by
    rw [Weather.live, Weather.live, h.keyed, h.live]
  have simulated (place : String) : weather.simulate place = other.simulate place := by
    rw [simulate, simulate, h.clock]
  have fetched (place : String) :
      (weather.fetch place).redacted = (other.fetch place).redacted := by
    have request : (weather.request place).redacted = (other.request place).redacted := by
      rw [Weather.request, Weather.request, h.baseUrl, h.units]
      rfl
    rw [fetch, fetch, h.connected]
    split
    · rw [Plan.redacted, Plan.redacted, request]
    · rfl
  have respond : (fun argument => (weather.respond argument).redacted) =
      fun argument => (other.respond argument).redacted := by
    funext argument
    rw [Weather.respond, Weather.respond]
    split
    · rfl
    · rw [Plan.map, Plan.map, Plan.redacted_andThen, Plan.redacted_andThen, redacted_lookup,
        redacted_lookup, live, simulated, fetched]
  rw [Skill.redacted, Skill.redacted, skill, skill]
  dsimp only
  rw [respond]

/-- What a service is like without its key. -/
def Service.redacted (service : Service) : Skill := service.skill.redacted

variable {k l : String}

theorem Weather.alike_ofConfig (frame : Frame) (hk : k ≠ "") (hl : l ≠ "") (connected : Bool)
    (clock : Int) :
    (Weather.ofConfig (frame.fill "api_key" (.text k)) connected .null clock).Alike
      (.ofConfig (frame.fill "api_key" (.text l)) connected .null clock) := by
  have url := frame.get?_fill_of_ne (show "api_key" ≠ "base_url" by decide) (.text k) (.text l)
  have live := frame.get?_fill_of_ne (show "api_key" ≠ "live" by decide) (.text k) (.text l)
  have units := frame.get?_fill_of_ne (show "api_key" ≠ "units" by decide) (.text k) (.text l)
  constructor
  · rfl
  · simp only [Weather.ofConfig, Source.ofConfig, url]
  · simp only [Weather.ofConfig, Source.ofConfig, Source.live, live]
  · simp only [Weather.ofConfig, units]
  · rfl
  · simp only [Weather.ofConfig, Value.isNull, if_true, Frame.get?_fill, Option.getD_some,
      Value.truthy_orElse_null]
    cases Fields.get? frame.before "api_key" with
    | none => rw [Option.getD_none, Option.getD_none, Value.truthy_text hk, Value.truthy_text hl]
    | some v => rfl

/-- The records among fields around the settings of a skill. -/
def Frame.settings (frame : Frame) : Frame where
  before := Blueprint.settingsIn (.record frame.before)
  after := Blueprint.settingsIn (.record frame.after)

theorem settingsIn_fill (frame : Frame) (fields : Fields) :
    Blueprint.settingsIn (.record (frame.fill "weather" (.record fields))) =
      frame.settings.fill "weather" (.record fields) := by
  simp only [Frame.fill, Blueprint.settingsIn, List.filter_append]
  rfl

theorem map_ofMismatch_bind {α β γ : Type} (x : Except Mismatch α) (f : α → β) (g : β → γ) :
    (SetupFault.ofMismatch x >>= fun a => (pure (f a) : Except SetupFault β)).map g =
      SetupFault.ofMismatch (x.map fun a => g (f a)) := by
  cases x <;> rfl

section

variable (hk : k ≠ "") (hl : l ≠ "")

include hk hl

theorem redacted_service (skills settings : Frame) (kind : BuiltIn) (setting : BuiltIn.Setting) :
    (settingsOf (.record (skills.fill "weather" (.record (settings.fill "api_key" (.text k)))))
        kind.name).map (fun config => (kind.service config setting .null).redacted) =
      (settingsOf (.record (skills.fill "weather" (.record (settings.fill "api_key" (.text l)))))
        kind.name).map fun config => (kind.service config setting .null).redacted := by
  have apart {name : String} (other : "weather" ≠ name) :=
    skills.get?_fill_of_ne other (.record (settings.fill "api_key" (.text k)))
      (.record (settings.fill "api_key" (.text l)))
  simp only [settingsOf_record]
  cases kind with
  | weather =>
    simp only [BuiltIn.name, Weather.name, Frame.get?_fill, Option.getD_some]
    cases Fields.get? skills.before "weather" with
    | none =>
      have alike := Weather.alike_ofConfig settings hk hl setting.connected setting.clock
      exact congrArg Except.ok alike.redacted_skill
    | some v => rfl
  | calculator => rw [BuiltIn.name, Calculator.name, apart (by decide)]
  | dictionary => rw [BuiltIn.name, Dictionary.name, apart (by decide)]

theorem redacted_serviceNamed (skills settings : Frame) (registry : List BuiltIn)
    (setting : BuiltIn.Setting) (name : Value) :
    (serviceNamed registry
        (.record (skills.fill "weather" (.record (settings.fill "api_key" (.text k)))))
        setting name).map Service.redacted =
      (serviceNamed registry
        (.record (skills.fill "weather" (.record (settings.fill "api_key" (.text l)))))
        setting name).map Service.redacted := by
  rw [serviceNamed, serviceNamed, map_bind, map_bind]
  simp only [map_ofMismatch_bind, redacted_service hk hl]

end

/-- An assistant without keys hangs on the services without theirs. -/
theorem redacted_build_eq (config : Value) (clock : Int) :
    (Assistant.build config clock).map Assistant.redacted = do
      let _ ← SetupFault.ofMismatch (Blueprint.timeoutOf config)
      let skills ← (Blueprint.servicesOf config clock).map (List.map Service.redacted)
      let talk ← SetupFault.ofMismatch (config.fieldOr "fallback" .null)
      let fallback ← SetupFault.ofMismatch (Fallback.ofConfig talk)
      return ⟨skills, fallback, true⟩ := by
  have each (services : List Service) :
      (services.map Service.skill).map Skill.redacted = services.map Service.redacted :=
    List.map_map
  rw [Assistant.build, Blueprint.ofConfig_eq, ← bind_comp]
  simp only [bind_assoc, pure_bind, map_bind, ← each]
  rfl

/-- A place for the key in a configuration: around the skills section, around the settings of the
weather in it, and around the key in those. -/
structure KeyPlace where
  sections : Frame
  skills : Frame
  settings : Frame

namespace KeyPlace

variable (place : KeyPlace)

/-- The skills section with a key in its place. -/
def chosen (key : String) : Value :=
  .record (place.skills.fill "weather" (.record (place.settings.fill "api_key" (.text key))))

/-- The configuration with a key in its place. -/
def config (key : String) : Value := .record (place.sections.fill "skills" (place.chosen key))

theorem fieldOr_config {name : String} (apart : "skills" ≠ name) (default : Value) :
    (place.config k).fieldOr name default = (place.config l).fieldOr name default := by
  have same := place.sections.get?_fill_of_ne apart (place.chosen k) (place.chosen l)
  rw [config, config, Value.fieldOr, Value.fieldOr, Value.field?, Value.field?, same]

theorem timeoutOf_config :
    Blueprint.timeoutOf (place.config k) = Blueprint.timeoutOf (place.config l) := by
  rw [Blueprint.timeoutOf, Blueprint.timeoutOf, Blueprint.partOf, Blueprint.partOf,
    place.fieldOr_config (by decide)]

theorem limitOf_config :
    Conversation.limitOf (place.config k) = Conversation.limitOf (place.config l) := by
  rw [Conversation.limitOf, Conversation.limitOf, place.fieldOr_config (by decide)]

theorem partOf_config (key : String) :
    Blueprint.partOf (place.config key) "skills" =
      .ok (((Fields.get? place.sections.before "skills").getD (place.chosen key)).orElse
        .emptyRecord) := by
  rw [Blueprint.partOf, config, Value.fieldOr, Value.field?, Frame.get?_fill]
  rfl

theorem fieldOr_chosen {name : String} (apart : "weather" ≠ name) (default : Value) :
    (place.chosen k).fieldOr name default = (place.chosen l).fieldOr name default := by
  have same := place.skills.get?_fill_of_ne apart
    (.record (place.settings.fill "api_key" (.text k)))
    (.record (place.settings.fill "api_key" (.text l)))
  rw [chosen, chosen, Value.fieldOr, Value.fieldOr, Value.field?, Value.field?, same]

section

variable (hk : k ≠ "") (hl : l ≠ "") (clock : Int)

include hk hl

theorem redacted_servicesOf :
    (Blueprint.servicesOf (place.config k) clock).map (List.map Service.redacted) =
      (Blueprint.servicesOf (place.config l) clock).map (List.map Service.redacted) := by
  rw [Blueprint.servicesOf, Blueprint.servicesOf, partOf_config, partOf_config]
  cases Fields.get? place.sections.before "skills" with
  | some v => rfl
  | none =>
    have named := redacted_serviceNamed hk hl place.skills.settings place.settings BuiltIn.all
      ⟨true, clock⟩
    have enabled := place.fieldOr_chosen (k := k) (l := l)
      (show "weather" ≠ "enabled" by decide) .null
    simp only [Option.getD_none, chosen, orElse_emptyRecord, SetupFault.ofMismatch, ok_bind,
      settingsIn_fill, buildServices_record, map_bind, map_mapM, named] at enabled ⊢
    rw [enabled]

/-- A key that is there is as good as any other one. -/
theorem redacted_build :
    (Assistant.build (place.config k) clock).map Assistant.redacted =
      (Assistant.build (place.config l) clock).map Assistant.redacted := by
  have fallback := place.fieldOr_config (k := k) (l := l)
    (show "skills" ≠ "fallback" by decide) .null
  rw [redacted_build_eq, redacted_build_eq, place.timeoutOf_config (l := l),
    place.redacted_servicesOf hk hl, fallback]

end

end KeyPlace

/-- Two configurations that differ only in the key of the weather, which is there in both, make
assistants with the same descriptions and logs with the same limit. Whatever is said to them, over
networks with the same replies, they come to the same results and log the same messages, and the
requests that they make differ at most in the parameter for the key. -/
theorem Assistant.key_unseen (place : KeyPlace) (hk : k ≠ "") (hl : l ≠ "") {clock : Int}
    {assistant other : Assistant} (built : build (place.config k) clock = .ok assistant)
    (built' : build (place.config l) clock = .ok other) (log : Log) (texts : List String)
    (network : Network) :
    let run := (⟨assistant, log⟩ : Conversation).sayAll texts network
    let run' := (⟨other, log⟩ : Conversation).sayAll texts network
    assistant.descriptions = other.descriptions ∧
      Conversation.limitOf (place.config k) = Conversation.limitOf (place.config l) ∧
      run.1 = run'.1 ∧ run.2.1.log = run'.2.1.log ∧ run.2.2.redacted = run'.2.2.redacted := by
  intro run run'
  have same : assistant.redacted = other.redacted := by
    have both := place.redacted_build hk hl clock
    rw [built, built'] at both
    exact Except.ok.inj both
  obtain ⟨results, left⟩ := routeAll_of_redacted same texts network
  have ran : run = _ := Conversation.sayAll_eq _ texts network
  have ran' : run' = _ := Conversation.sayAll_eq _ texts network
  refine ⟨?_, place.limitOf_config, ?_⟩
  · rw [← descriptions_redacted, same, descriptions_redacted]
  · rw [ran, ran']
    dsimp only [Conversation.record]
    rw [results]
    exact ⟨rfl, rfl, left⟩

namespace KeyPlace

/-- A configuration that sets nothing but the key. -/
def bare : KeyPlace := ⟨⟨[], []⟩, ⟨[], []⟩, ⟨[], []⟩⟩

def bareAssistant (key : String) : Assistant where
  skills := [(Weather.ofConfig [("api_key", .text key)] true .null 0).skill, Calculator.skill,
    Dictionary.skill Dictionary.plain]
  fallback := .default
  isOpen := true

set_option maxRecDepth 4000 in
theorem build_bare (key : String) :
    Assistant.build (bare.config key) 0 = .ok (bareAssistant key) := rfl

/-- What comes of a question to an assistant with a key. -/
def askOslo (key : String) : List (Except Failure Outcome) × Conversation × Network :=
  (⟨bareAssistant key, .empty 100⟩ : Conversation).sayAll ["/weather Oslo"]
    ⟨[.failed "no route"], []⟩

/-- The requests do differ, but only in the key. -/
theorem key_unseen_oslo :
    Assistant.build (bare.config "k") 0 = .ok (bareAssistant "k") ∧
      Assistant.build (bare.config "l") 0 = .ok (bareAssistant "l") ∧
      (askOslo "k").1 = (askOslo "l").1 ∧ (askOslo "k").2.1.log = (askOslo "l").2.1.log ∧
      (askOslo "k").2.2.redacted = (askOslo "l").2.2.redacted ∧
      (askOslo "k").2.2.requests ≠ (askOslo "l").2.2.requests := by
  have first : "k" ≠ "" := by decide
  have second : "l" ≠ "" := by decide
  have unseen := Assistant.key_unseen bare first second (build_bare "k") (build_bare "l")
    (.empty 100) ["/weather Oslo"] ⟨[.failed "no route"], []⟩
  rw [← askOslo, ← askOslo] at unseen
  obtain ⟨-, -, results, logs, left⟩ := unseen
  exact ⟨build_bare "k", build_bare "l", results, logs, left, by decide +kernel⟩

end KeyPlace

end Switchboard
