import Switchboard.Proofs.Profile.Expansion
import Switchboard.Proofs.Routing.Silence

/-!
# What the shipped profiles set up

The shipped profiles ask for the same services and differ in the settings of two of them. The default
profile takes the key of the weather service from the environment. The profile without a network sets
a key itself, in the place of the only text that the environment can reach, and switches all live
sources off.
-/

namespace Switchboard

open Value

def shippedConfig (weather dictionary : Fields) (profile : String) : Fields := [
  ("app", .record [("name", .text "Skill Router Assistant"), ("history_limit", .int 100)]),
  ("http", .record [("timeout", .int 10)]),
  ("skills", .record [
    ("enabled", .texts ["weather", "calc", "define"]),
    ("weather", .record weather),
    ("define", .record dictionary)]),
  ("fallback", .record [
    ("greetings", .texts ["hello", "hi"]),
    ("help_keywords", .texts ["help"]),
    ("gratitude_keywords", .texts ["thank"])]),
  ("profile", .text profile)]

def shippedBlueprint (weather dictionary : Fields) (clock : Int) : Blueprint where
  services := [
    .weather (.ofConfig weather true .null clock),
    .calculator [],
    .dictionary (.ofConfig dictionary true Dictionary.defaultUrl)]
  fallback := .default
  timeout := .ofInt 10

section Settings

variable (weather dictionary : Fields) (profile : String)

set_option maxRecDepth 4000 in
theorem ofConfig_shipped (clock : Int) :
    Blueprint.ofConfig (.record (shippedConfig weather dictionary profile)) clock =
      .ok (shippedBlueprint weather dictionary clock) := rfl

theorem build_shipped (clock : Int) :
    Assistant.build (.record (shippedConfig weather dictionary profile)) clock =
      .ok (shippedBlueprint weather dictionary clock).assistant := by
  rw [Assistant.build, ofConfig_shipped]
  rfl

set_option maxRecDepth 4000 in
theorem limitOf_shipped :
    Conversation.limitOf (.record (shippedConfig weather dictionary profile)) = .ok 100 := rfl

variable {weather dictionary profile}

theorem expandFields_shipped (env : Environment) (plain : '$' ∉ profile.toList) :
    expandFields env (shippedConfig weather dictionary profile) =
      shippedConfig (expandFields env weather) (expandFields env dictionary) profile := by
  have app := expand_of_plain env (.record [("name", .text "Skill Router Assistant"),
    ("history_limit", .int 100)]) (by decide +kernel)
  have http := expand_of_plain env (.record [("timeout", .int 10)]) (by decide +kernel)
  have enabled := expand_of_plain env (.texts ["weather", "calc", "define"]) (by decide +kernel)
  have talk := expand_of_plain env (.record [("greetings", .texts ["hello", "hi"]),
    ("help_keywords", .texts ["help"]), ("gratitude_keywords", .texts ["thank"])])
    (by decide +kernel)
  have skills : expand env (.record [("enabled", .texts ["weather", "calc", "define"]),
      ("weather", .record weather), ("define", .record dictionary)]) =
      .record [("enabled", .texts ["weather", "calc", "define"]),
        ("weather", .record (expandFields env weather)),
        ("define", .record (expandFields env dictionary))] := by
    simp only [expand_record, expandFields_cons, expandFields_nil, enabled]
  rw [shippedConfig]
  simp only [expandFields_cons, expandFields_nil, app, http, skills, talk,
    expand_text_of_not_mem plain]
  rfl

end Settings

def weatherAddress : Value := .text "https://api.openweathermap.org/data/2.5"

def dictionaryAddress : Value := .text "https://api.dictionaryapi.dev"

def weatherSettings (key : Value) : Fields :=
  [("base_url", weatherAddress), ("units", .text "metric"), ("api_key", key)]

def dictionarySettings : Fields := [("base_url", dictionaryAddress)]

def defaultConfig (key : Value) : Fields :=
  shippedConfig (weatherSettings key) dictionarySettings "default"

def defaultBlueprint (key : Value) (clock : Int) : Blueprint :=
  shippedBlueprint (weatherSettings key) dictionarySettings clock

def offlineWeather : Fields :=
  [("base_url", weatherAddress), ("units", .text "metric"), ("api_key", .text ""),
    ("live", .bool false)]

def offlineDictionary : Fields := [("base_url", dictionaryAddress), ("live", .bool false)]

def offlineConfig : Fields := shippedConfig offlineWeather offlineDictionary "offline"

def offlineBlueprint (clock : Int) : Blueprint :=
  shippedBlueprint offlineWeather offlineDictionary clock

def keyPlaceholder : Placeholder := ⟨"OPENWEATHER_API_KEY".toList, some []⟩

def keyIn (env : Environment) : Value := .text (String.ofList (keyPlaceholder.value env))

theorem expand_keyPlaceholder (env : Environment) :
    expand env (.text (String.ofList keyPlaceholder.text)) = keyIn env := by
  have leads : Placeholder.leading? keyPlaceholder.text = some (keyPlaceholder, []) := by decide
  rw [expand, String.toList_ofList, Placeholder.expand_of_leading? leads, Placeholder.expand,
    List.append_nil, keyIn]

theorem expandFields_default (env : Environment) (key : Value) :
    expandFields env (defaultConfig key) = defaultConfig (expand env key) := by
  have weather := expand_of_plain env weatherAddress (by decide +kernel)
  have dictionary := expand_of_plain env dictionaryAddress (by decide +kernel)
  have units := expand_of_plain env (.text "metric") (by decide)
  rw [defaultConfig, expandFields_shipped env (by decide), weatherSettings,
    dictionarySettings]
  simp only [expandFields_cons, expandFields_nil, weather, dictionary, units]
  rfl

namespace Folder

variable {folder : Folder} (ships : folder.Ships)

include ships

theorem load_default (env : Environment) :
    folder.load env "default" = .ok (defaultConfig (keyIn env)) := by
  have shallow :
      (record (mergeFields (mergeFields [] baseFields) [])).depth ≤ depthLimit := by decide +kernel
  have named : withDefault "profile" (.text "default")
      (mergeFields (mergeFields [] baseFields) []) =
      defaultConfig (.text (String.ofList keyPlaceholder.text)) := by decide +kernel
  rw [load_of_inherited env (inherited_default ships), if_neg (Nat.not_lt_of_le shallow), named,
    expandFields_default, expand_keyPlaceholder]

theorem load_offline (env : Environment) : folder.load env "offline" = .ok offlineConfig := by
  have shallow : (record (mergeFields (mergeFields [] baseFields) offlineFields)).depth ≤
      depthLimit := by decide +kernel
  have named : withDefault "profile" (.text "offline")
      (mergeFields (mergeFields [] baseFields) offlineFields) = offlineConfig := by
    decide +kernel
  rw [load_of_inherited env (inherited_offline ships), if_neg (Nat.not_lt_of_le shallow), named,
    expandFields_of_plain env offlineConfig (by decide +kernel)]

end Folder

theorem live_offline {clock : Int} :
    ∀ service ∈ (offlineBlueprint clock).services, service.live = false := by
  rw [offlineBlueprint, shippedBlueprint]
  simp only [List.forall_mem_cons]
  exact ⟨rfl, rfl, rfl, nofun⟩

/-- Wherever the shipped folder stands and whatever the environment sets, the profile without a network
can be loaded and set up, as long as the reader of YAML reads what the shipped texts write down. Its
weather and its dictionary have no live source, and no texts that it is given touch the network: no
request is made, and no response is taken. -/
theorem Folder.offline_untouched {length : Nat} {neighbours : List (List String)}
    {yaml : List Char → Except Misreading Value} (reachable : Reachable length neighbours)
    (reads : ReadsShipped yaml) (title : String) (env : Environment) (clock : Int) :
    ∃ config blueprint,
      (shippedFolder title length neighbours yaml).load env "offline" = .ok config ∧
      Blueprint.ofConfig (.record config) clock = .ok blueprint ∧
      Assistant.build (.record config) clock = .ok blueprint.assistant ∧
      (∃ weather settings dictionary,
        blueprint.services = [.weather weather, .calculator settings, .dictionary dictionary] ∧
        weather.live = false ∧ dictionary.live = false) ∧
      ∀ texts network, (blueprint.assistant.routeAll texts network).2 = network := by
  have loaded : (shippedFolder title length neighbours yaml).load env "offline" =
      .ok offlineConfig := load_offline (ships_shippedFolder reachable reads) env
  have untouched (texts : List String) (network : Network) :
      ((offlineBlueprint clock).assistant.routeAll texts network).2 = network :=
    Assistant.network_routeAll rfl live_offline texts network
  exact ⟨offlineConfig, offlineBlueprint clock, loaded, ofConfig_shipped _ _ _ clock,
    build_shipped _ _ _ clock, ⟨_, _, _, rfl, rfl, rfl⟩, untouched⟩

theorem Folder.offline_untouched_keyed :
    let folder := shippedFolder "config" 20 [["core"], ["interfaces", "web"], ["services"]]
    let network : Network := ⟨[.received 200 [123, 125]], []⟩
    ReadsShipped Yaml.read ∧ ∃ config blueprint,
      folder.load [("OPENWEATHER_API_KEY", "key")] "offline" = .ok config ∧
      Blueprint.ofConfig (.record config) 0 = .ok blueprint ∧
      (blueprint.assistant.routeAll ["/weather Rome", "define run"] network).2 = network := by
  intro folder network
  have reachable : Reachable 20 [["core"], ["interfaces", "web"], ["services"]] :=
    ⟨by decide, by decide⟩
  obtain ⟨config, blueprint, loaded, made, -, -, untouched⟩ :=
    offline_untouched reachable Yaml.readsShipped "config" [("OPENWEATHER_API_KEY", "key")] 0
  exact ⟨Yaml.readsShipped, config, blueprint, loaded, made, untouched _ network⟩

end Switchboard
