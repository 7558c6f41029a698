import Switchboard.Proofs.Conversation.Run
import Switchboard.Server

/-!
# What a call does to a server

A call names one conversation at most, and leaves all others as they are. It changes nothing where it
is turned away. Requests may be read in any way.
-/

namespace Switchboard

open Text

namespace Page

/-- A request is turned away before a conversation takes part in it. -/
def TurnsAway : Page → Prop
  | notFound _ => True
  | unprocessable => True
  | failed _ => True
  | ok _ => False
  | broken _ => False

def ofResult (profile : String) (after : Conversation) : Except Failure Outcome → Page
  | .ok o => ok (Server.chatBody profile o after)
  | .error failure => broken failure

theorem turnsAway_ofFault (fault : OpeningFault) : (ofFault fault).TurnsAway := by
  cases fault with
  | load fault => cases fault <;> exact trivial
  | setup fault => exact trivial

theorem not_turnsAway_ofResult (profile : String) (after : Conversation)
    (result : Except Failure Outcome) : ¬ (ofResult profile after result).TurnsAway := by
  cases result <;> exact id

end Page

/-- A request with an empty message is refused. -/
theorem ChatRequest.Lawful.refuses {parse : Value → Option ChatRequest} (lawful : Lawful parse)
    {fields : Fields} (blank : Fields.get? fields "message" = some (.text "")) :
    parse (.record fields) = none := by
  cases found : parse (.record fields) with
  | none => rfl
  | some request =>
    obtain ⟨message, given, -⟩ := (lawful fields request.message request.profile).1 found
    rw [blank] at message
    have empty : "" = request.message := by simpa using message
    rw [← empty] at given
    cases given

theorem ChatRequest.lawful_ofValue? : Lawful ofValue? := by
  intro fields message profile
  simp only [ofValue?]
  split
  · rename_i text named messages profiles
    rw [messages, profiles]
    cases given : text.isEmpty with
    | true =>
      constructor
      · intro read
        cases read
      · rintro ⟨same, filled, -⟩
        cases same
        rw [given] at filled
        cases filled
    | false =>
      constructor
      · intro read
        cases read
        exact ⟨rfl, given, rfl⟩
      · rintro ⟨same, -, same'⟩
        cases same
        cases same'
        rfl
  · rename_i other
    constructor
    · intro read
      cases read
    · rintro ⟨messages, -, profiles⟩
      exact (other _ _ messages profiles).elim

namespace Server

inductive Call where
  | chat (body : Value)
  | history (profile : String)
  | skills (profile : String)
  | shutdown

variable (parse : Value → Option ChatRequest)

namespace Call

def profile? : Call → Option String
  | chat body => (parse body).map ChatRequest.profile
  | history profile => some profile
  | skills profile => some profile
  | shutdown => none

def key? (call : Call) : Option String := (call.profile? parse).map lowerText

end Call

/-- What comes of a call: the reply, if the call is a request, the server and the network. -/
def handle (server : Server) (site : Site) (call : Call) (network : Network) :
    Option Page × Server × Network :=
  match call with
  | .chat body =>
    let (page, after, left) := server.chat site body network parse
    (some page, after, left)
  | .history profile =>
    let (page, after) := server.history site profile
    (some page, after, network)
  | .skills profile =>
    let (page, after) := server.skills site profile
    (some page, after, network)
  | .shutdown => (none, server.shutdown, network)

def handleAll (server : Server) (site : Site) :
    List Call → Network → List (Option Page) × Server × Network
  | [], network => ([], server, network)
  | call :: calls, network =>
    let (page, after, left) := server.handle parse site call network
    let (pages, last, rest) := after.handleAll site calls left
    (page :: pages, last, rest)

theorem pages_handleAll_chat (server : Server) (site : Site) (body : Value) (network : Network) :
    (server.handleAll parse site [.chat body] network).1 =
      [some (server.chat site body network parse).1] :=
  rfl

variable {parse} {server : Server} {site : Site} {network : Network} {profile key : String}
  {c : Conversation}

theorem lookup_map_replace (sessions : List (String × Conversation)) (key other : String)
    (c : Conversation) :
    (sessions.map fun s => if s.1 == key then (key, c) else s).lookup other =
      if other = key then (sessions.lookup key).map fun _ => c else sessions.lookup other := by
  induction sessions with
  | nil => simp
  | cons s sessions ih =>
    obtain ⟨name, d⟩ := s
    rw [List.map_cons]
    by_cases here : name = key
    · subst here
      by_cases same : other = name
      · simp [same]
      · have apart : (other == name) = false := by simpa using same
        have rest := ih
        rw [if_neg same] at rest
        simp only [beq_self_eq_true, if_true, List.lookup_cons, apart, rest, if_neg same]
    · have unlike : (name == key) = false := by simpa using here
      by_cases same : other = key
      · subst same
        have apart : (other == name) = false := by simpa using Ne.symm here
        simp only [unlike, Bool.false_eq_true, if_false, List.lookup_cons, apart, ih, if_true]
      · rw [if_neg same] at ih ⊢
        simp only [unlike, Bool.false_eq_true, if_false, List.lookup_cons, ih]

theorem find?_put (server : Server) (key other : String) (c : Conversation) :
    (server.put key c).find? other = if other = key then some c else server.find? other := by
  rw [put]
  split
  · rename_i known
    obtain ⟨d, found⟩ := Option.isSome_iff_exists.1 known
    rw [find?] at found
    rw [find?, lookup_map_replace, found]
    rfl
  · rename_i unknown
    have none : server.find? key = none := by simpa using unknown
    rw [find?, List.lookup_append, ← find?]
    by_cases same : other = key
    · subst same
      simp [none]
    · have apart : (other == key) = false := by simpa using same
      simp [same, List.lookup_cons, apart]

theorem enter_of_find? (found : server.find? (lowerText profile) = some c) :
    server.enter site profile = .ok (lowerText profile, c) := by
  rw [enter, found]

theorem enter_of_find?_none (none : server.find? (lowerText profile) = none) :
    server.enter site profile = (site.start (lowerText profile)).map (lowerText profile, ·) := by
  rw [enter, none]
  cases site.start (lowerText profile) <;> rfl

theorem fst_enter {entered : String × Conversation}
    (h : server.enter site profile = .ok entered) : entered.1 = lowerText profile := by
  cases found : server.find? (lowerText profile) with
  | some c =>
    rw [enter_of_find? found] at h
    cases h
    rfl
  | none =>
    rw [enter_of_find?_none found] at h
    obtain ⟨c, -, rfl⟩ := map_eq_ok_iff.1 h
    rfl

theorem chat_of_unread {body : Value} (unread : parse body = none) :
    server.chat site body network parse = (.unprocessable, server, network) := by
  rw [chat, unread]

theorem chat_of_unopened {body : Value} {request : ChatRequest} {fault : OpeningFault}
    (read : parse body = some request)
    (closed : server.enter site request.profile = .error fault) :
    server.chat site body network parse = (.ofFault fault, server, network) := by
  simp only [chat, read, closed]

theorem chat_of_entered {body : Value} {request : ChatRequest}
    (read : parse body = some request)
    (entered : server.enter site request.profile = .ok (key, c)) :
    server.chat site body network parse =
      (.ofResult request.profile (c.say request.message network).2.1
          (c.say request.message network).1,
        server.put key (c.say request.message network).2.1,
        (c.say request.message network).2.2) := by
  simp only [chat, read, entered]
  rcases c.say request.message network with ⟨_ | _, after, left⟩ <;> rfl

inductive Handled (parse : Value → Option ChatRequest) (server : Server) (site : Site) :
    Call → Network → Option Page × Server × Network → Prop
  | unread {body : Value} {network : Network} (unread : parse body = none) :
    Handled parse server site (.chat body) network (some .unprocessable, server, network)
  /-- No conversation can be opened for the profile that the call names. -/
  | unopened {call : Call} {network : Network} {profile : String} {fault : OpeningFault}
      (named : call.profile? parse = some profile) (closed : server.enter site profile = .error fault) :
    Handled parse server site call network (some (.ofFault fault), server, network)
  | said {body : Value} {network : Network} {request : ChatRequest} {key : String}
      {c : Conversation} (read : parse body = some request)
      (entered : server.enter site request.profile = .ok (key, c)) :
    Handled parse server site (.chat body) network
      (some (.ofResult request.profile (c.say request.message network).2.1
          (c.say request.message network).1),
        server.put key (c.say request.message network).2.1,
        (c.say request.message network).2.2)
  /-- A conversation is looked at. -/
  | seen {call : Call} {network : Network} {profile key : String} {c : Conversation} {body : Value}
      (named : call.profile? parse = some profile) (entered : server.enter site profile = .ok (key, c)) :
    Handled parse server site call network (some (.ok body), server.put key c, network)
  | closed {network : Network} : Handled parse server site .shutdown network (none, .empty, network)

theorem handled_view {call : Call} (named : call.profile? parse = some profile) (label : String)
    (look : Conversation → Value) :
    Handled parse server site call network
      (some (server.view site profile label look).1, (server.view site profile label look).2,
        network) := by
  rw [view]
  cases entered : server.enter site profile with
  | error fault => exact .unopened named entered
  | ok entry => exact .seen named entered

theorem handled_handle (parse : Value → Option ChatRequest) (server : Server) (site : Site)
    (call : Call) (network : Network) :
    Handled parse server site call network (server.handle parse site call network) := by
  cases call with
  | chat body =>
    rw [handle]
    cases read : parse body with
    | none =>
      rw [chat_of_unread read]
      exact .unread read
    | some request =>
      have named : (Call.chat body).profile? parse = some request.profile := by
        rw [Call.profile?, read]
        rfl
      cases entered : server.enter site request.profile with
      | error fault =>
        rw [chat_of_unopened read entered]
        exact .unopened named entered
      | ok entry =>
        rw [chat_of_entered read entered]
        exact .said read entered
  | history profile => exact handled_view rfl _ _
  | skills profile => exact handled_view rfl _ _
  | shutdown => exact .closed

variable {call : Call}

/-- A call that is turned away leaves the server and the network as they are. -/
theorem eq_of_turnsAway {page : Page}
    (replied : (server.handle parse site call network).1 = some page) (away : page.TurnsAway) :
    (server.handle parse site call network).2 = (server, network) := by
  have handled := handled_handle parse server site call network
  generalize server.handle parse site call network = result at handled replied
  cases handled with
  | unread => rfl
  | unopened => rfl
  | said read entered =>
    cases replied
    exact absurd away (Page.not_turnsAway_ofResult _ _ _)
  | seen named entered =>
    cases replied
    exact away.elim
  | closed => cases replied

/-- A call leaves the conversations that it does not name as they are. -/
theorem find?_handle_of_other (stays : call ≠ .shutdown) (other : call.key? parse ≠ some key) :
    (server.handle parse site call network).2.1.find? key = server.find? key := by
  have apart {profile : String} {entry : String × Conversation}
      (named : call.profile? parse = some profile) (entered : server.enter site profile = .ok entry) :
      key ≠ entry.1 := by
    intro same
    apply other
    rw [Call.key?, named, same, fst_enter entered]
    rfl
  have handled := handled_handle parse server site call network
  generalize server.handle parse site call network = result at handled
  cases handled with
  | unread => rfl
  | unopened => rfl
  | said read entered =>
    have named : (Call.chat _).profile? parse = some _ :=
      congrArg (Option.map ChatRequest.profile) read
    rw [find?_put, if_neg (apart named entered)]
  | seen named entered => rw [find?_put, if_neg (apart named entered)]
  | closed => exact absurd rfl stays

theorem find?_handleAll_of_other {calls : List Call}
    (other : ∀ call ∈ calls, call ≠ .shutdown ∧ call.key? parse ≠ some key) :
    (server.handleAll parse site calls network).2.1.find? key = server.find? key := by
  induction calls generalizing server network with
  | nil => rfl
  | cons call calls ih =>
    obtain ⟨⟨stays, apart⟩, others⟩ := List.forall_mem_cons.1 other
    have rest : (server.handleAll parse site (call :: calls) network).2.1.find? key =
        (server.handle parse site call network).2.1.find? key := ih others
    rw [rest, find?_handle_of_other stays apart]

end Server

end Switchboard
