import Switchboard.Data.Conversion
import Switchboard.Text.Search

/-!
# Small talk

What is said when no skill claims a text. Three groups of keywords are looked for in order, without
regard to case, and the first group with a keyword in the text decides on the message.
-/

namespace Switchboard

inductive Topic where
  | greeting | help | gratitude | unknown
deriving DecidableEq, Repr

namespace Topic

/-- The name of the topic in a configuration. -/
def name : Topic → String
  | greeting => "greeting"
  | help => "help"
  | gratitude => "gratitude"
  | unknown => "unknown"

def defaultMessage : Topic → String
  | greeting => "Hello! How can I help you today?"
  | help =>
    "I can help you with various tasks. Try using slash commands like /weather [city], " ++
      "/calc [expression], or /define [word]. You can also ask me questions in natural " ++
      "language like \"What's the weather in Paris?\" or \"Calculate 25 * 4\"."
  | gratitude => "You're welcome! Is there anything else I can help you with?"
  | unknown =>
    "I'm not sure how to respond to that. You can try using one of my tools with slash " ++
      "commands like /weather, /calc, or /define."

end Topic

/-- Keywords in small letters, and the messages that replace the default ones. -/
structure Fallback where
  greetings : List String
  help : List String
  gratitude : List String
  messages : Fields

namespace Fallback

def default : Fallback := ⟨["hello", "hi"], ["help"], ["thank"], []⟩

/-- The keywords of a list, or the given ones where there is no list. -/
def keywords (found : Option Value) (otherwise : List String) : Except Mismatch (List String) :=
  match found with
  | none => .ok otherwise
  | some v => do
    let parts ← v.parts
    return parts.map fun part => Text.lowerText part.display

def ofConfig (config : Value) : Except Mismatch Fallback := do
  let config := config.orElse .emptyRecord
  let greetings ← config.field? "greetings"
  let help ← config.field? "help_keywords"
  let gratitude ← config.field? "gratitude_keywords"
  let messages ← config.fieldOr "messages" .emptyRecord
  return {
    greetings := ← keywords greetings default.greetings
    help := ← keywords help default.help
    gratitude := ← keywords gratitude default.gratitude
    messages := ← messages.toFields }

def mentions (keywords : List String) (text : List Char) : Bool :=
  keywords.any fun k => Text.contains text k.toList

def topic (fallback : Fallback) (text : String) : Topic :=
  let small := Text.lower text.toList
  if mentions fallback.greetings small then .greeting
  else if mentions fallback.help small then .help
  else if mentions fallback.gratitude small then .gratitude
  else .unknown

def messageTable (fallback : Fallback) : Fields :=
  Fields.putAll ([Topic.greeting, .help, .gratitude, .unknown].map fun topic =>
    (topic.name, .text topic.defaultMessage)) fallback.messages

def message (fallback : Fallback) (topic : Topic) : Value :=
  (Fields.get? fallback.messages topic.name).getD (.text topic.defaultMessage)

def respond (fallback : Fallback) (text : String) : Value :=
  fallback.message (fallback.topic text)

end Fallback

end Switchboard
