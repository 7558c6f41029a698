import Switchboard.Routing

/-!
# Conversations

A log keeps the latest messages, up to a limit. In a conversation each text of the user is logged,
then routed, and then the answer is logged.
-/

namespace Switchboard

structure Message where
  sender : Value
  content : Value
  kind : Value
  /-- The name of the skill that the message comes from. -/
  skill : Option Value
  data : Option Value

namespace Message

def ofUser (content : Value) : Message := ⟨.text "user", content, .text "text", none, none⟩

def ofOutcome (o : Outcome) : Message :=
  if o.matched then ⟨.text "assistant", o.response, .text "skill", o.skill, o.data⟩
  else ⟨.text "assistant", o.response, .text "text", none, none⟩

def skillFields (m : Message) : Fields :=
  match m.skill with
  | some skill => [("skill", skill), ("data", Outcome.reported m.data)]
  | none => []

def toValue (m : Message) : Value :=
  .record (("sender", m.sender) :: ("content", m.content) :: ("type", m.kind) :: m.skillFields)

end Message

/-- Messages in order. A limit below one keeps none. -/
structure Log where
  limit : Int
  messages : List Message

namespace Log

def empty (limit : Int) : Log := ⟨limit, []⟩

/-- Appends a message and drops the oldest ones beyond the limit. -/
def add (log : Log) (m : Message) : Log :=
  let messages := log.messages ++ [m]
  { log with messages := messages.drop (messages.length - log.limit.toNat) }

def clear (log : Log) : Log := { log with messages := [] }

/-- The latest messages, up to a number of them, or all. -/
def recent (log : Log) (count : Option Int) : List Message :=
  match count with
  | none => log.messages
  | some n => log.messages.drop (log.messages.length - n.toNat)

def toValue (log : Log) : Value := .list (log.messages.map Message.toValue)

end Log

structure Conversation where
  assistant : Assistant
  log : Log

namespace Conversation

def defaultLimit : Int := 100

/-- The number of messages that a configuration lets a log keep. -/
def limitOf (config : Value) : Except Mismatch Int := do
  let app ← config.fieldOr "app" .emptyRecord
  let limit ← app.fieldOr "history_limit" (.int defaultLimit)
  limit.toInt

def hear (c : Conversation) (m : Message) : Conversation := { c with log := c.log.add m }

def say (c : Conversation) (text : String) (network : Network) :
    Except Failure Outcome × Conversation × Network :=
  let heard := c.hear (.ofUser (.text text))
  match c.assistant.route text network with
  | (.error failure, after) => (.error failure, heard, after)
  | (.ok o, after) => (.ok o, heard.hear (.ofOutcome o), after)

end Conversation

end Switchboard
