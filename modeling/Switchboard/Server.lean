import Switchboard.Conversation
import Switchboard.Profile.Loading

/-!
# The server

The server keeps one conversation for each profile that has been asked for, whatever the case of the
letters in its name. A conversation is opened when its profile is first named, and only if the
profile can be loaded and set up.
-/

namespace Switchboard

/-- What the server stands on: the folder of profiles, the environment, and the time. -/
structure Site where
  folder : Folder
  env : Environment
  clock : Int

structure Server where
  sessions : List (String × Conversation)

/-- Why a conversation cannot be opened. -/
inductive OpeningFault where
  | load (fault : LoadFault)
  | setup (fault : SetupFault)
deriving DecidableEq, Repr

namespace OpeningFault

def ofLoad {α : Type} : Except LoadFault α → Except OpeningFault α
  | .ok v => .ok v
  | .error fault => .error (.load fault)

def ofSetup {α : Type} : Except SetupFault α → Except OpeningFault α
  | .ok v => .ok v
  | .error fault => .error (.setup fault)

end OpeningFault

inductive Page where
  | ok (body : Value)
  | notFound (detail : String)
  /-- The request is not of the form that is asked for. -/
  | unprocessable
  | failed (fault : OpeningFault)
  /-- A conversation is open, but the answer cannot be read. -/
  | broken (failure : Failure)

namespace Page

def ofFault : OpeningFault → Page
  | .load (.missing profile folder tried) =>
    notFound (LoadFault.missing profile folder tried).message
  | fault => failed fault

end Page

/-- What the body of a chat request asks. -/
structure ChatRequest where
  message : String
  profile : String

def defaultProfileName : String := "default"

namespace ChatRequest

/-- Reads a request: a text that is not empty, and a profile if another one than the default is
meant. Other fields are ignored. -/
def ofValue? (body : Value) : Option ChatRequest :=
  match body with
  | .record fields =>
    match Fields.get? fields "message", (Fields.get? fields "profile").getD (.text defaultProfileName)
      with
    | some (.text message), .text profile =>
      if message.isEmpty then none else some ⟨message, profile⟩
    | _, _ => none
  | _ => none

/-- What is known of a reader of requests: a record is read as a message and a profile if and only if
its message is that text, which is not empty, and its profile that text, or the default one where it
has none. -/
def Lawful (parse : Value → Option ChatRequest) : Prop :=
  ∀ fields message profile, parse (.record fields) = some ⟨message, profile⟩ ↔
    Fields.get? fields "message" = some (.text message) ∧ message.isEmpty = false ∧
      (Fields.get? fields "profile").getD (.text defaultProfileName) = .text profile

end ChatRequest

namespace Site

def start (site : Site) (profile : String) : Except OpeningFault Conversation := do
  let fields ← OpeningFault.ofLoad (site.folder.load site.env profile)
  let config := Value.record fields
  let limit ← OpeningFault.ofSetup (SetupFault.ofMismatch (Conversation.limitOf config))
  let assistant ← OpeningFault.ofSetup (Assistant.build config site.clock)
  return ⟨assistant, .empty limit⟩

end Site

namespace Server

def empty : Server := ⟨[]⟩

def find? (server : Server) (key : String) : Option Conversation := server.sessions.lookup key

/-- Sets the conversation of a key, in its place where there is one. -/
def put (server : Server) (key : String) (c : Conversation) : Server :=
  if (server.find? key).isSome then
    ⟨server.sessions.map fun s => if s.1 == key then (key, c) else s⟩
  else ⟨server.sessions ++ [(key, c)]⟩

/-- The key and the conversation of a profile, opened if need be. -/
def enter (server : Server) (site : Site) (profile : String) :
    Except OpeningFault (String × Conversation) :=
  let key := Text.lowerText profile
  match server.find? key with
  | some c => .ok (key, c)
  | none => do
    let c ← site.start key
    return (key, c)

def chatBody (profile : String) (o : Outcome) (c : Conversation) : Value :=
  .record [("profile", .text profile), ("result", o.toValue), ("history", c.log.toValue)]

/-- Answers a chat request, for any reader of requests. -/
def chat (server : Server) (site : Site) (body : Value) (network : Network)
    (parse : Value → Option ChatRequest := ChatRequest.ofValue?) : Page × Server × Network :=
  match parse body with
  | none => (.unprocessable, server, network)
  | some request =>
    match server.enter site request.profile with
    | .error fault => (.ofFault fault, server, network)
    | .ok (key, c) =>
      match c.say request.message network with
      | (.ok o, after, network) =>
        (.ok (chatBody request.profile o after), server.put key after, network)
      | (.error failure, after, network) => (.broken failure, server.put key after, network)

/-- Answers with a view of a profile's conversation. -/
def view (server : Server) (site : Site) (profile : String) (label : String)
    (look : Conversation → Value) : Page × Server :=
  match server.enter site profile with
  | .error fault => (.ofFault fault, server)
  | .ok (key, c) => (.ok (.record [("profile", .text profile), (label, look c)]), server.put key c)

def history (server : Server) (site : Site) (profile : String) : Page × Server :=
  server.view site profile "history" (·.log.toValue)

def skills (server : Server) (site : Site) (profile : String) : Page × Server :=
  server.view site profile "skills" (·.assistant.descriptions)

def health : Page := .ok (.record [("status", .text "ok")])

def shutdown (_ : Server) : Server := empty

end Server

end Switchboard
