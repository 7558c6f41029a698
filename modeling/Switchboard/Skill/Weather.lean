import Switchboard.Skill.Source

/-!
# The weather

Current conditions for a city, from a live source where there is a key for it. Simulated conditions
are computed from the letters of the city, so that a city always has the same weather.
-/

namespace Switchboard

structure Conditions where
  location : String
  temperature : Int
  feelsLike : Int
  description : String
  humidity : Int
  windSpeed : Int
  clouds : Int
  timestamp : Int
  simulated : Bool
deriving DecidableEq, Repr

namespace Conditions

def half : Double := .ofDecimal false 5 (-1)

/-- How many kilometres an hour one metre a second is. -/
def kilometresPerHour : Double := .ofDecimal false 36 (-1)

def floor? : Double → Except Mismatch Int
  | .nan => .error .badContent
  | .infinite _ => .error .outOfRange
  | .finite negative units => .ok (Double.floor negative units)

/-- The nearest integer; a half goes up. -/
def nearest (x : Double) : Except Mismatch Int := floor? (x.add half)

def first (v : Value) : Except Mismatch Value :=
  match v with
  | .list (item :: _) => .ok item
  | .list [] => .error .badContent
  | _ => .error .wrongKind

def ofReport (report : Value) (simulated : Bool) : Except Mismatch Conditions := do
  let main ← report.field "main"
  let place ← report.field "name"
  let system ← report.field "sys"
  let country ← system.field "country"
  let temperature ← nearest (← (← main.field "temp").toDouble)
  let feelsLike ← nearest (← (← main.field "feels_like").toDouble)
  let sky ← first (← report.field "weather")
  let description ← sky.field "description"
  let humidity ← (← main.field "humidity").toInt
  let speed ← (← (← report.field "wind").field "speed").toDouble
  let windSpeed ← nearest (speed.mul kilometresPerHour)
  let clouds ← (← (← report.field "clouds").field "all").toInt
  let seconds ← (← report.field "dt").toInt
  return {
    location := place.display ++ ", " ++ country.display
    temperature, feelsLike, description := description.display
    humidity, windSpeed, clouds, timestamp := seconds * 1000, simulated }

def data (c : Conditions) : Value :=
  .record [("location", .text c.location), ("temperature", .int c.temperature),
    ("feels_like", .int c.feelsLike), ("description", .text c.description),
    ("humidity", .int c.humidity), ("wind_speed", .int c.windSpeed), ("clouds", .int c.clouds),
    ("timestamp", .int c.timestamp), ("synthetic", .bool c.simulated)]

def render (c : Conditions) : String :=
  "Current weather in " ++ c.location ++ ": " ++ intText c.temperature ++ "°C, " ++ c.description ++
    ". Feels like " ++ intText c.feelsLike ++ "°C with " ++ intText c.humidity ++ "% humidity."

end Conditions

structure Weather where
  source : Source
  apiKey : Value
  units : Value
  /-- The time of simulated conditions, in seconds. -/
  clock : Int

namespace Weather

def name : String := "weather"

def defaultUrl : String := "https://api.openweathermap.org/data/2.5"

def note : String := "(Note: live weather data is unavailable, showing simulated conditions.)"

/-- A given key comes before the configured one, and a key that is not truthy counts as none. -/
def ofConfig (config : Fields) (connected : Bool) (apiKey : Value) (clock : Int) : Weather where
  source := .ofConfig config connected defaultUrl
  apiKey :=
    if apiKey.isNull then ((Fields.get? config "api_key").getD .null).orElse .null else apiKey
  units := (Fields.get? config "units").getD (.text "metric")
  clock := clock

def live (weather : Weather) : Bool := weather.apiKey.truthy && weather.source.live

/-- The kinds of simulated weather, each with its description. -/
def skies : List (String × String) := [
  ("Clear", "clear sky"), ("Clouds", "few clouds"), ("Clouds", "scattered clouds"),
  ("Clouds", "broken clouds"), ("Rain", "light rain"), ("Rain", "moderate rain"),
  ("Thunderstorm", "thunderstorm"), ("Snow", "light snow"), ("Mist", "mist")]

/-- The sum of the code points of a city in small letters. -/
def citySum (city : List Char) : Nat :=
  (Text.lower city).foldl (fun sum c => sum + c.toNat) 0

/-- A report as a source would send it, computed from the name of the city. -/
def simulatedReport (clock : Int) (city : String) : Value :=
  let sum := citySum city.toList
  let base : Int := 15 + (sum % 20 : Nat)
  let sky := skies.getD (sum % skies.length) ("", "")
  .record [
    ("name", .text city),
    ("sys", .record [("country", .text "XX")]),
    ("main", .record [
      ("temp", .int base), ("feels_like", .int (base - 2 + (sum % 5 : Nat))),
      ("humidity", .int (30 + (sum % 50 : Nat))), ("pressure", .int (1000 + (sum % 30 : Nat)))]),
    ("weather", .list [.record [("main", .text sky.1), ("description", .text sky.2)]]),
    ("wind", .record [("speed", .int (2 + (sum % 8 : Nat)))]),
    ("clouds", .record [("all", .int (sum % 100 : Nat))]),
    ("dt", .int clock)]

def simulate (weather : Weather) (city : String) : Except Failure Conditions :=
  Failure.ofMismatch (Conditions.ofReport (simulatedReport weather.clock city) true)

/-- What a report that does not fit stands for. A number that is too large is not forgiven. -/
def refuse : Mismatch → Failure
  | .outOfRange => .mismatch .outOfRange
  | .noFields => .mismatch .noFields
  | _ => .unavailable "Malformed weather payload" (some name) none

def request (weather : Weather) (city : String) : Request where
  url := weather.source.baseUrl ++ "/weather"
  params := [("q", .text city), ("units", weather.units), ("appid", weather.apiKey)]

def readReport (report : Value) : Except Failure (Option Conditions) :=
  match Conditions.ofReport report false with
  | .ok c => .ok (some c)
  | .error m => .error (refuse m)

def fetch (weather : Weather) (city : String) : Plan (Option Conditions) :=
  if weather.source.connected then .ask (weather.request city) (· >>= readReport)
  else .answer (.error (noClient name))

/-- Signs that may end a question. -/
def isClosingSign (c : Char) : Bool := c == '?' || c == '!' || c == '.' || c == ','

def city (query : String) : Except Failure String := do
  let argument ← requireArgument name "City name" query
  let city := Text.dropEndWhile isClosingSign argument
  if city.isEmpty then .error (.invalidArgument "City name is required" (some name))
  else return String.ofList city

def reply (finding : Finding Conditions) : Reply where
  response := withNote note finding.simulated finding.data.render
  payload := .ready finding.data.data

def respond (weather : Weather) (query : String) : Plan Reply :=
  match city query with
  | .error failure => .answer (.error failure)
  | .ok city => (lookup weather.live (weather.fetch city) (weather.simulate city)).map reply

def skill (weather : Weather) : Skill where
  name := name
  description := "Get current weather information for a city"
  usage := "/weather [city]"
  triggers := [.command "weather"]
  phrases := ["what's the weather in", "what is the weather in", "how's the weather in",
    "weather in", "weather for", "temperature in"]
  respond := weather.respond

end Weather

end Switchboard
