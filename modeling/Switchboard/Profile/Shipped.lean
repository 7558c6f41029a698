import Switchboard.Profile.Loading

/-!
# The profiles that come with the program
-/

namespace Switchboard

def baseProfile : String := "# Shared defaults for every profile.
app:
  name: Skill Router Assistant
  history_limit: 100

http:
  timeout: 10

skills:
  # Routing order: explicit commands and natural-language phrases are
  # matched skill by skill in this order.
  enabled:
    - weather
    - calc
    - define
  weather:
    base_url: https://api.openweathermap.org/data/2.5
    units: metric
    api_key: \"$\x7bOPENWEATHER_API_KEY:\x7d\"
  define:
    base_url: https://api.dictionaryapi.dev

fallback:
  greetings: [hello, hi]
  help_keywords: [help]
  gratitude_keywords: [thank]
"

def defaultProfile : String := "inherits: base
"

def offlineProfile : String := "# Never touch the network: every lookup answers from synthetic data.
inherits: base

skills:
  weather:
    live: false
    api_key: \"\"
  define:
    live: false
"

/-- The shipped folder, under the title that messages use for it, with the length of its path, the
folders beside it and the reader of its files. -/
def shippedFolder (title : String) (length : Nat) (neighbours : List (List String))
    (yaml : List Char → Except Misreading Value := Yaml.read) : Folder where
  title := title
  length := length
  home := ["config"]
  folders := neighbours
  files := [(["config", "base.yaml"], baseProfile), (["config", "default.yaml"], defaultProfile),
    (["config", "offline.yaml"], offlineProfile)]
  yaml := yaml

end Switchboard
