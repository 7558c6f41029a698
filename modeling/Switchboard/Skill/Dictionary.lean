import Switchboard.Skill.Source
import Switchboard.Text.Percent

/-!
# The dictionary

Definitions, synonyms and antonyms of one word, from a live source. Where that has nothing, an entry
is taken from a small dictionary of its own, or made up.
-/

namespace Switchboard

structure Definition where
  text : Value
  sample : Value

structure Meaning where
  partOfSpeech : Value
  definitions : List Definition

structure Entry where
  word : Value
  phonetic : Value
  meanings : List Meaning
  synonyms : List Value
  antonyms : List Value
  simulated : Bool

/-- What one level of an entry gives: related words, and its parts. -/
structure Related where
  synonyms : List Value
  antonyms : List Value

namespace Related

def append (a b : Related) : Related := ⟨a.synonyms ++ b.synonyms, a.antonyms ++ b.antonyms⟩

def join (parts : List Related) : Related := parts.foldl append ⟨[], []⟩

def own (v : Value) : Except Mismatch Related := do
  let synonyms ← (← v.fieldOr "synonyms" (.list [])).parts
  let antonyms ← (← v.fieldOr "antonyms" (.list [])).parts
  return ⟨synonyms, antonyms⟩

end Related

namespace Definition

def ofValue (item : Value) : Except Mismatch (Definition × Related) := do
  let text ← item.field "definition"
  let sample ← item.fieldOr "example" .null
  return (⟨text, sample⟩, ← Related.own item)

def data (d : Definition) : Value := .record [("definition", d.text), ("example", d.sample)]

end Definition

namespace Meaning

/-- The meaning, if it has a definition, and the related words of its definitions and its own. -/
def ofValue (v : Value) : Except Mismatch (Option Meaning × Related) := do
  let items ← (← v.fieldOr "definitions" (.list [])).parts
  let parts ← items.mapM Definition.ofValue
  let related := (Related.join (parts.map (·.2))).append (← Related.own v)
  if parts.isEmpty then return (none, related)
  else
    let partOfSpeech ← v.fieldOr "partOfSpeech" (.text "unknown")
    return (some ⟨partOfSpeech, parts.map (·.1)⟩, related)

def data (m : Meaning) : Value :=
  .record [("part_of_speech", m.partOfSpeech), ("definitions", .list (m.definitions.map (·.data)))]

def firstDefinition (m : Meaning) : String :=
  match m.definitions with
  | [] => ""
  | d :: _ => d.text.display

end Meaning

namespace Entry

/-- Reads an entry as a source sends it. The word that was looked for stands in for a missing one. -/
def ofValue (v : Value) (word : String) (simulated : Bool) : Except Mismatch Entry := do
  let items ← (← v.fieldOr "meanings" (.list [])).parts
  let parts ← items.mapM Meaning.ofValue
  let related := (Related.join (parts.map (·.2))).append (← Related.own v)
  let named ← v.fieldOr "word" .null
  let phonetic ← v.fieldOr "phonetic" .null
  return {
    word := named.orElse (.text word)
    phonetic, meanings := parts.filterMap (·.1)
    synonyms := related.synonyms, antonyms := related.antonyms, simulated }

def data (e : Entry) : Value :=
  .record [("word", e.word), ("phonetic", e.phonetic), ("meanings", .list (e.meanings.map (·.data))),
    ("synonyms", .list e.synonyms), ("antonyms", .list e.antonyms),
    ("synthetic", .bool e.simulated)]

/-- The first different texts of a list, up to a number of them. -/
def distinct (limit : Nat) (seen : List String) : List Value → Except Mismatch (List String)
  | [] => .ok seen
  | v :: rest =>
    if seen.length = limit then .ok seen
    else
      match v with
      | .text s => distinct limit (if seen.contains s then seen else seen ++ [s]) rest
      | _ => .error .wrongKind

def relatedLine (label : String) (limit : Nat) (words : List Value) :
    Except Mismatch (List String) := do
  let shown ← distinct limit [] words
  return if shown.isEmpty then [] else [label ++ ": " ++ ", ".intercalate shown]

def synonymLimit : Nat := 5

def antonymLimit : Nat := 3

def heading (e : Entry) : String := "Definition of \"" ++ e.word.display ++ "\": "

def lines (e : Entry) : Except Mismatch (List String) :=
  match e.meanings with
  | [] => .ok [e.heading ++ "No definition found."]
  | first :: others => do
    let also := (others.take 1).map fun m =>
      "Also (" ++ m.partOfSpeech.display ++ "): " ++ m.firstDefinition
    let synonyms ← relatedLine "Synonyms" synonymLimit e.synonyms
    let antonyms ← relatedLine "Antonyms" antonymLimit e.antonyms
    return (e.heading ++ "(" ++ first.partOfSpeech.display ++ ") " ++ first.firstDefinition) ::
      (also ++ synonyms ++ antonyms)

def render (e : Entry) : Except Mismatch String := do
  let lines ← e.lines
  return "\n".intercalate lines

end Entry

namespace Dictionary

def name : String := "define"

def defaultUrl : String := "https://api.dictionaryapi.dev"

def note : String := "(Note: Using backup dictionary data as the API request failed)"

def definition (text sample : String) : Value :=
  .record [("definition", .text text), ("example", .text sample)]

def meaning (partOfSpeech : String) (definitions : List Value) (more : Fields) : Value :=
  .record (("partOfSpeech", .text partOfSpeech) :: ("definitions", .list definitions) :: more)

/-- The entries of the small dictionary, each without its word. -/
def backup : List (String × Fields) := [
  ("hello", [
    ("phonetic", .text "/həˈloʊ/"),
    ("meanings", .list [
      meaning "exclamation"
        [definition "Used as a greeting or to begin a phone conversation." "hello there, Katie!"]
        [("synonyms", .texts ["hi", "greetings", "hey"])],
      meaning "noun"
        [definition "An utterance of \"hello\"; a greeting."
          "she was getting polite nods and hellos from people"] []])]),
  ("weather", [
    ("phonetic", .text "/ˈwɛðər/"),
    ("meanings", .list [
      meaning "noun"
        [definition
          ("The state of the atmosphere at a particular place and time as " ++
            "regards heat, cloudiness, dryness, sunshine, wind, rain, etc.")
          "if the weather's good, we can go for a walk"] [],
      meaning "verb"
        [definition
          ("Wear away or change the appearance or texture of (something) by " ++
            "long exposure to the atmosphere.")
          "his skin was weathered by the sun and wind"] []]),
    ("synonyms", .texts ["climate", "atmospheric conditions", "meteorological conditions"])]),
  ("calculate", [
    ("phonetic", .text "/ˈkælkjəˌleɪt/"),
    ("meanings", .list [
      meaning "verb"
        [definition "Determine (the amount or number of something) mathematically."
          "the program can calculate the number of words in a text",
        definition "Plan or devise (something) carefully."
          "the candidate is calculating his next move"] []]),
    ("synonyms", .texts ["compute", "reckon", "work out", "determine"])])]

/-- An entry for a word that is in no dictionary. -/
def generic (word : String) : Fields := [
  ("phonetic", .text ("/ˈ" ++ word ++ "/")),
  ("meanings", .list [
    meaning "noun"
      [definition
        ("This is a mock definition for \"" ++ word ++ "\". In a real application, " ++
          "this would be fetched from a dictionary API.")
        ("Using \"" ++ word ++ "\" in a sentence.")] []]),
  ("synonyms", .texts ["similar", "comparable", "equivalent"])]

def simulatedEntry (word : String) : Value :=
  .record (("word", .text word) :: (backup.lookup word).getD (generic word))

def simulate (word : String) : Except Failure Entry :=
  Failure.ofMismatch (Entry.ofValue (simulatedEntry word) word true)

def request (source : Source) (word : String) : Request where
  url := source.baseUrl ++ "/api/v2/entries/en/" ++ String.ofList (Text.segment word.toList)
  params := []

def readPayload (word : String) (payload : Value) : Except Failure (Option Entry) :=
  match payload with
  | .list (first :: _) =>
    match Entry.ofValue first word false with
    | .ok entry => .ok (some entry)
    | .error _ => .error (.unavailable "Malformed dictionary payload" (some name) none)
  | _ => .ok none

def fetch (source : Source) (word : String) : Plan (Option Entry) :=
  if source.connected then .ask (request source word) (· >>= readPayload word)
  else .answer (.error (noClient name))

/-- Signs that do not belong to a word. -/
def isOuterSign (c : Char) : Bool := "\"'?!.,;:".toList.contains c

/-- The word that a query names: the first one in it. -/
def word (query : String) : Except Failure String := do
  let argument ← requireArgument name "Word" query
  let first := ((Text.words (Text.lower argument)).head?).getD []
  let word := Text.trimWhile isOuterSign first
  if word.isEmpty then .error (.invalidArgument "Word is required" (some name))
  else return String.ofList word

def reply (finding : Finding Entry) : Except Failure Reply := do
  let text ← Failure.ofMismatch finding.data.render
  return ⟨withNote note finding.simulated text, .layered finding.data.data⟩

def respond (source : Source) (query : String) : Plan Reply :=
  match word query with
  | .error failure => .answer (.error failure)
  | .ok word => (lookup source.live (fetch source word) (simulate word)).andThen (· >>= reply)

def skill (source : Source) : Skill where
  name := name
  description := "Look up the definition of a word"
  usage := "/define [word]"
  triggers := [.command "define"]
  phrases := ["define", "what does", "meaning of", "definition of"]
  respond := respond source

end Dictionary

end Switchboard
