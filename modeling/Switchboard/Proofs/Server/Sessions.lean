import Switchboard.Proofs.Profile.Setup
import Switchboard.Proofs.Server.Calls

/-!
# What the conversations of a server hold

What a chat request comes to is settled by the site and the network alone. So the history of a profile
can be told from the requests that name it since the server was last closed, whatever else the server
has been asked in between.
-/

namespace Switchboard

open Text

namespace Server

/-- What a call adds to the conversations of a server. -/
inductive Event where
  | nothing
  /-- A text is routed, with a result. -/
  | exchange (key text : String) (result : Except Failure Outcome)
  | closing

namespace Event

def isClosing : Event → Bool
  | closing => true
  | _ => false

def messages (key : String) : Event → List Message
  | exchange other text result => if other = key then Message.exchange text result else []
  | _ => []

end Event

/-- The messages of a key since the last closing. -/
def dialogue (key : String) (events : List Event) : List Message :=
  (events.rtakeWhile fun e => !e.isClosing).flatMap (Event.messages key)

theorem dialogue_closing (key : String) (events : List Event) :
    dialogue key (events ++ [.closing]) = [] := by
  rw [dialogue, List.rtakeWhile_concat_neg _ _ _ (by simp [Event.isClosing])]
  rfl

theorem dialogue_concat {e : Event} (goesOn : e.isClosing = false) (key : String)
    (events : List Event) : dialogue key (events ++ [e]) = dialogue key events ++ e.messages key := by
  rw [dialogue, List.rtakeWhile_concat_pos _ _ _ (by simp [goesOn]), List.flatMap_append,
    List.flatMap_singleton, dialogue]

theorem dialogue_nothing (key : String) (events : List Event) :
    dialogue key (events ++ [.nothing]) = dialogue key events := by
  have none : Event.nothing.messages key = [] := rfl
  rw [dialogue_concat rfl, none, List.append_nil]

theorem dialogue_exchange (key text : String) (result : Except Failure Outcome)
    (events : List Event) :
    dialogue key (events ++ [.exchange key text result]) =
      dialogue key events ++ Message.exchange text result := by
  rw [dialogue_concat rfl, Event.messages, if_pos rfl]

theorem dialogue_exchange_of_ne {key other : String} (apart : other ≠ key) (text : String)
    (result : Except Failure Outcome) (events : List Event) :
    dialogue other (events ++ [.exchange key text result]) = dialogue other events := by
  rw [dialogue_concat rfl, Event.messages, if_neg apart.symm, List.append_nil]

variable (parse : Value → Option ChatRequest)

def event (site : Site) (call : Call) (network : Network) : Event × Network :=
  match call with
  | .chat body =>
    match parse body with
    | none => (.nothing, network)
    | some request =>
      match site.start (lowerText request.profile) with
      | .error _ => (.nothing, network)
      | .ok opened =>
        let (result, after) := opened.assistant.route request.message network
        (.exchange (lowerText request.profile) request.message result, after)
  | .history _ => (.nothing, network)
  | .skills _ => (.nothing, network)
  | .shutdown => (.closing, network)

def events (site : Site) : List Call → Network → List Event × Network
  | [], network => ([], network)
  | call :: calls, network =>
    let (e, after) := event parse site call network
    let (later, left) := events site calls after
    (e :: later, left)

variable {parse} {site : Site} {key profile text : String} {network : Network}
  {opened : Conversation}

theorem event_of_unread {body : Value} (unread : parse body = none) :
    event parse site (.chat body) network = (.nothing, network) := by
  rw [event, unread]

theorem event_of_unopened {body : Value} {request : ChatRequest} {fault : OpeningFault}
    (read : parse body = some request)
    (closed : site.start (lowerText request.profile) = .error fault) :
    event parse site (.chat body) network = (.nothing, network) := by
  simp only [event, read, closed]

theorem event_of_opened {body : Value} {request : ChatRequest}
    (read : parse body = some request)
    (opens : site.start (lowerText request.profile) = .ok opened) :
    event parse site (.chat body) network =
      (.exchange (lowerText request.profile) request.message
          (opened.assistant.route request.message network).1,
        (opened.assistant.route request.message network).2) := by
  simp only [event, read, opens]

theorem exists_route_of_event {call : Call} {result : Except Failure Outcome}
    (h : (event parse site call network).1 = .exchange key text result) :
    ∃ opened, site.start key = .ok opened ∧
      (opened.assistant.route text network).1 = result := by
  cases call with
  | chat body =>
    rw [event] at h
    split at h
    · cases h
    · split at h
      · cases h
      · rename_i opens
        cases h
        exact ⟨_, opens, rfl⟩
  | history profile => cases h
  | skills profile => cases h
  | shutdown => cases h

theorem brings_of_event {call : Call} {v : Value}
    (h : (event parse site call network).2.Brings v) : network.Brings v := by
  cases call with
  | chat body =>
    rw [event] at h
    split at h
    · exact h
    · split at h
      · exact h
      · exact Assistant.brings_of_route h
  | history profile => exact h
  | skills profile => exact h
  | shutdown => exact h

/-- The texts of a run are routed as they are by the assistant of their profile. -/
theorem exists_route_of_mem_events {calls : List Call} {result : Except Failure Outcome}
    (member : .exchange key text result ∈ (events parse site calls network).1) :
    ∃ opened before, site.start key = .ok opened ∧
      (∀ v, before.Brings v → network.Brings v) ∧
      (opened.assistant.route text before).1 = result := by
  induction calls generalizing network with
  | nil => cases member
  | cons call calls ih =>
    rcases List.mem_cons.1 member with here | later
    · obtain ⟨opened, opens, same⟩ := exists_route_of_event here.symm
      exact ⟨opened, network, opens, fun v h => h, same⟩
    · obtain ⟨opened, before, opens, brings, same⟩ := ih later
      exact ⟨opened, before, opens, fun v h => brings_of_event (brings v h), same⟩

theorem eq_ok_of_ofLoad {α : Type} {x : Except LoadFault α} {a : α}
    (h : OpeningFault.ofLoad x = .ok a) : x = .ok a := by
  cases x <;> cases h
  rfl

theorem eq_ok_of_ofMismatch {α : Type} {x : Except Mismatch α} {a : α}
    (h : SetupFault.ofMismatch x = .ok a) : x = .ok a := by
  cases x <;> cases h
  rfl

theorem eq_ok_of_ofSetup {α : Type} {x : Except SetupFault α} {a : α}
    (h : OpeningFault.ofSetup x = .ok a) : x = .ok a := by
  cases x <;> cases h
  rfl

/-- A conversation is opened where its profile can be loaded and set up. -/
theorem start_eq_ok_iff : site.start key = .ok opened ↔
    ∃ fields limit assistant, site.folder.load site.env key = .ok fields ∧
      Conversation.limitOf (.record fields) = .ok limit ∧
      Assistant.build (.record fields) site.clock = .ok assistant ∧
      opened = ⟨assistant, .empty limit⟩ := by
  constructor
  · intro opens
    obtain ⟨fields, loaded, opens⟩ := bind_eq_ok_iff.1 opens
    obtain ⟨limit, bounded, opens⟩ := bind_eq_ok_iff.1 opens
    obtain ⟨assistant, built, opens⟩ := bind_eq_ok_iff.1 opens
    exact ⟨fields, limit, assistant, eq_ok_of_ofLoad loaded,
      eq_ok_of_ofMismatch (eq_ok_of_ofSetup bounded), eq_ok_of_ofSetup built,
      (Except.ok.inj opens).symm⟩
  · rintro ⟨fields, limit, assistant, loaded, bounded, built, rfl⟩
    rw [Site.start, loaded]
    change (OpeningFault.ofSetup (SetupFault.ofMismatch (Conversation.limitOf (.record fields))) >>=
      fun limit => OpeningFault.ofSetup (Assistant.build (.record fields) site.clock) >>= _) = _
    rw [bounded, built]
    rfl

theorem isBuilt_of_start (opens : site.start key = .ok opened) :
    opened.assistant.IsBuilt ∧ opened.log = .empty opened.log.limit := by
  obtain ⟨fields, limit, assistant, -, -, built, rfl⟩ := start_eq_ok_iff.1 opens
  exact ⟨Assistant.isBuilt_of_build built, rfl⟩

theorem messages_record_of_start (opens : site.start key = .ok opened) (messages : List Message) :
    (opened.record messages).log.messages = messages.rtake opened.log.limit.toNat := by
  obtain ⟨-, fresh⟩ := isBuilt_of_start opens
  rw [Conversation.record, fresh, Log.messages_addAll_empty]
  rfl

/-- The conversations of a server hold what events have added to them. Where there is no conversation,
none has been opened since the last closing, and so there is no dialogue. -/
structure Follows (site : Site) (server : Server) (past : List Event) : Prop where
  held : ∀ key c, server.find? key = some c →
    ∃ opened, site.start key = .ok opened ∧ c = opened.record (dialogue key past)
  unheld : ∀ key, server.find? key = none → dialogue key past = []

namespace Follows

variable {past later : List Event}

theorem enter (follows : Follows site server past) :
    server.enter site profile = (site.start (lowerText profile)).map fun opened =>
      (lowerText profile, opened.record (dialogue (lowerText profile) past)) := by
  cases found : server.find? (lowerText profile) with
  | some c =>
    obtain ⟨opened, opens, rfl⟩ := follows.held _ _ found
    rw [enter_of_find? found, opens]
    rfl
  | none =>
    rw [enter_of_find?_none found, follows.unheld _ found]
    rfl

theorem enter_of_start (follows : Follows site server past)
    (opens : site.start (lowerText profile) = .ok opened) :
    server.enter site profile = .ok (lowerText profile,
      opened.record (dialogue (lowerText profile) past)) := by
  rw [follows.enter, opens]
  rfl

theorem put (follows : Follows site server past) (opens : site.start key = .ok opened)
    (others : ∀ other, other ≠ key → dialogue other later = dialogue other past) :
    Follows site (server.put key (opened.record (dialogue key later))) later where
  held other c found := by
    rw [find?_put] at found
    split at found
    · rename_i same
      subst same
      cases found
      exact ⟨opened, opens, rfl⟩
    · rename_i apart
      rw [others other apart]
      exact follows.held other c found
  unheld other none := by
    rw [find?_put] at none
    split at none
    · cases none
    · rename_i apart
      rw [others other apart]
      exact follows.unheld other none

theorem nothing (follows : Follows site server past) :
    Follows site server (past ++ [.nothing]) := by
  constructor
  · intro other c found
    rw [dialogue_nothing]
    exact follows.held other c found
  · intro other none
    rw [dialogue_nothing]
    exact follows.unheld other none

theorem closing : Follows site .empty (past ++ [.closing]) where
  held _ _ found := by cases found
  unheld other _ := dialogue_closing other past

theorem view (follows : Follows site server past) (label : String)
    (look : Conversation → Value) :
    Follows site (server.view site profile label look).2 (past ++ [.nothing]) := by
  rw [Server.view, follows.enter]
  cases opens : site.start (lowerText profile) with
  | error fault => exact follows.nothing
  | ok opened =>
    have stored := follows.put opens fun other _ => dialogue_nothing other past
    rwa [dialogue_nothing] at stored

/-- The server keeps to what a call comes to. -/
theorem handle (follows : Follows site server past) (call : Call) (network : Network) :
    Follows site (server.handle parse site call network).2.1
        (past ++ [(event parse site call network).1]) ∧
      (server.handle parse site call network).2.2 = (event parse site call network).2 := by
  cases call with
  | chat body =>
    rw [Server.handle]
    cases read : parse body with
    | none =>
      rw [chat_of_unread read, event_of_unread read]
      exact ⟨follows.nothing, rfl⟩
    | some request =>
      cases opens : site.start (lowerText request.profile) with
      | error fault =>
        have closed : server.enter site request.profile = .error fault := by
          rw [follows.enter, opens]
          rfl
        rw [chat_of_unopened read closed, event_of_unopened read opens]
        exact ⟨follows.nothing, rfl⟩
      | ok opened =>
        rw [chat_of_entered read (follows.enter_of_start opens), event_of_opened read opens,
          Conversation.say_eq, Conversation.record_record]
        have stored := follows.put opens fun other apart => dialogue_exchange_of_ne apart
          request.message (opened.assistant.route request.message network).1 past
        rw [dialogue_exchange] at stored
        exact ⟨stored, rfl⟩
  | history profile => exact ⟨follows.view _ _, rfl⟩
  | skills profile => exact ⟨follows.view _ _, rfl⟩
  | shutdown => exact ⟨closing, rfl⟩

theorem handleAll (follows : Follows site server past) (calls : List Call) (network : Network) :
    Follows site (server.handleAll parse site calls network).2.1
        (past ++ (events parse site calls network).1) ∧
      (server.handleAll parse site calls network).2.2 = (events parse site calls network).2 := by
  induction calls generalizing server past network with
  | nil =>
    rw [events, List.append_nil]
    exact ⟨follows, rfl⟩
  | cons call calls ih =>
    obtain ⟨next, same⟩ := follows.handle call network
    have rest := ih next (event parse site call network).2
    rw [List.append_assoc] at rest
    rw [Server.handleAll, events]
    dsimp only
    rw [same]
    exact rest

theorem start (site : Site) : Follows site empty [] := ⟨nofun, fun _ _ => rfl⟩

theorem run (parse : Value → Option ChatRequest) (site : Site) (calls : List Call)
    (network : Network) :
    Follows site (empty.handleAll parse site calls network).2.1 (events parse site calls network).1 ∧
      (empty.handleAll parse site calls network).2.2 = (events parse site calls network).2 :=
  (start site).handleAll calls network

theorem history (follows : Follows site server past)
    (opens : site.start (lowerText profile) = .ok opened) :
    (server.history site profile).1 = .ok (.record [("profile", .text profile),
      ("history", .list (((dialogue (lowerText profile) past).rtake
        opened.log.limit.toNat).map Message.toValue))]) := by
  rw [Server.history, Server.view, follows.enter_of_start opens]
  change Page.ok (.record [("profile", .text profile), ("history",
    (opened.record (dialogue (lowerText profile) past)).log.toValue)]) = _
  rw [Log.toValue, messages_record_of_start opens]

/-- A request for a profile that can be opened is answered with what it adds to the dialogue. -/
theorem chat (follows : Follows site server past) {body : Value} {request : ChatRequest}
    (read : parse body = some request)
    (opens : site.start (lowerText request.profile) = .ok opened) (network : Network) :
    let result := (opened.assistant.route request.message network).1
    (server.chat site body network parse).1 = .ofResult request.profile
      (opened.record (dialogue (lowerText request.profile) past ++
        Message.exchange request.message result)) result := by
  rw [chat_of_entered read (follows.enter_of_start opens), Conversation.say_eq,
    Conversation.record_record]
  rfl

theorem start_of_enter (follows : Follows site server past) {entry : String × Conversation}
    (entered : server.enter site profile = .ok entry) :
    ∃ opened, site.start (lowerText profile) = .ok opened := by
  rw [follows.enter] at entered
  obtain ⟨opened, opens, -⟩ := map_eq_ok_iff.1 entered
  exact ⟨opened, opens⟩

/-- A request is turned away where it names no profile that can be opened. -/
theorem turnsAway (follows : Follows site server past) {call : Call} (stays : call ≠ .shutdown)
    (closed : ∀ key opened, call.key? parse = some key → site.start key ≠ .ok opened) :
    ∃ page : Page, page.TurnsAway ∧
      server.handle parse site call network = (some page, server, network) := by
  have unopened {profile : String} {entry : String × Conversation}
      (named : call.profile? parse = some profile) (entered : server.enter site profile = .ok entry) :
      False := by
    obtain ⟨opened, opens⟩ := follows.start_of_enter entered
    exact closed _ _ (congrArg (Option.map lowerText) named) opens
  have handled := handled_handle parse server site call network
  generalize server.handle parse site call network = result at handled
  cases handled with
  | unread => exact ⟨.unprocessable, trivial, rfl⟩
  | unopened => exact ⟨_, Page.turnsAway_ofFault _, rfl⟩
  | said read entered =>
    exact (unopened (congrArg (Option.map ChatRequest.profile) read) entered).elim
  | seen named entered => exact (unopened named entered).elim
  | closed => exact absurd rfl stays

end Follows

/-- A server has conversations for the profiles that it has been asked for since it was last closed.
The history of a profile that can be opened holds the latest messages of its dialogue, up to its limit:
each text that was sent to the profile, in letters of any case, and the answer to it. A text stays
without an answer only where routing it fails, and that happens only where the network brings a value
that is too deep to be taken apart. A chat request for such a profile is answered with what it adds to
the dialogue. A request that cannot be read, such as one with an empty message, or that names a profile
that cannot be opened, is turned away, and what is turned away leaves the server and the network as they
are. Calls that name other profiles leave the conversation of this one as it is. -/
theorem history_of_calls {parse : Value → Option ChatRequest} (lawful : ChatRequest.Lawful parse)
    (site : Site) (calls : List Call) (network : Network) :
    let run := empty.handleAll parse site calls network
    let past := (events parse site calls network).1
    (∀ profile opened, site.start (lowerText profile) = .ok opened →
      (run.2.1.history site profile).1 = .ok (.record [("profile", .text profile),
        ("history", .list (((dialogue (lowerText profile) past).rtake
          opened.log.limit.toNat).map Message.toValue))])) ∧
    (∀ key text failure, .exchange key text (.error failure) ∈ past →
      failure = .tooDeep ∧ ∃ v, network.Brings v ∧ Value.depthLimit < v.depth) ∧
    (∀ body request opened, parse body = some request →
      site.start (lowerText request.profile) = .ok opened →
      ∃ result, (event parse site (.chat body) run.2.2).1 =
          .exchange (lowerText request.profile) request.message result ∧
        (run.2.1.chat site body run.2.2 parse).1 = .ofResult request.profile
          (opened.record (dialogue (lowerText request.profile) past ++
            Message.exchange request.message result)) result) ∧
    (∀ fields, Fields.get? fields "message" = some (.text "") →
      run.2.1.chat site (.record fields) run.2.2 parse = (.unprocessable, run.2.1, run.2.2)) ∧
    (∀ call, call ≠ .shutdown →
      (∀ key opened, call.key? parse = some key → site.start key ≠ .ok opened) →
      ∃ page : Page, page.TurnsAway ∧
        run.2.1.handle parse site call run.2.2 = (some page, run.2.1, run.2.2)) ∧
    (∀ call page, (run.2.1.handle parse site call run.2.2).1 = some page → page.TurnsAway →
      (run.2.1.handle parse site call run.2.2).2 = (run.2.1, run.2.2)) ∧
    ∀ key others, (∀ call ∈ others, call ≠ .shutdown ∧ call.key? parse ≠ some key) →
      (run.2.1.handleAll parse site others run.2.2).2.1.find? key = run.2.1.find? key := by
  intro run past
  obtain ⟨follows, -⟩ := Follows.run parse site calls network
  refine ⟨?_, ?_, ?_, fun fields blank => chat_of_unread (lawful.refuses blank),
    fun call => follows.turnsAway, fun call page => eq_of_turnsAway,
    fun key others => find?_handleAll_of_other⟩
  · intro profile opened opens
    exact follows.history opens
  · intro key text failure member
    obtain ⟨opened, before, opens, brings, failed⟩ := exists_route_of_mem_events member
    obtain ⟨same, deep⟩ := Assistant.deep_of_route (isBuilt_of_start opens).1 failed
    simp only [Network.Within, not_forall, Nat.not_le] at deep
    obtain ⟨v, brought, deep⟩ := deep
    exact ⟨same, v, brings v brought, deep⟩
  · intro body request opened read opens
    exact ⟨_, congrArg Prod.fst (event_of_opened read opens), follows.chat read opens _⟩

def shippedSite : Site := ⟨shippedFolder "config" 20 [["core"], ["tests"]], [], 0⟩

def shippedAssistant : Assistant := (defaultBlueprint (keyIn []) 0).assistant

theorem start_shippedSite :
    shippedSite.start "default" = .ok ⟨shippedAssistant, .empty 100⟩ := by
  exact start_eq_ok_iff.2 ⟨_, 100, shippedAssistant, Folder.load_default Folder.ships_config [],
    limitOf_shipped _ _ _, build_shipped _ _ _ 0, rfl⟩

theorem start_of_lowerText {profile : String} (small : lowerText profile = "default") :
    shippedSite.start (lowerText profile) = .ok ⟨shippedAssistant, .empty 100⟩ := by
  rw [small, start_shippedSite]

def greetingBody : Value := .record [("message", .text "hi"), ("profile", .text "DEFAULT")]

theorem ofValue?_greetingBody : ChatRequest.ofValue? greetingBody = some ⟨"hi", "DEFAULT"⟩ := rfl

/-- A profile that does not exist is asked for as well. -/
theorem history_of_calls_greeting :
    let run := empty.handleAll ChatRequest.ofValue? shippedSite
      [.chat greetingBody, .history "nobody"] ⟨[], []⟩
    ChatRequest.Lawful ChatRequest.ofValue? ∧
    shippedSite.start (lowerText "default") = .ok ⟨shippedAssistant, .empty 100⟩ ∧
    (run.2.1.history shippedSite "default").1 = .ok (.record [("profile", .text "default"),
      ("history", .list [(Message.ofUser (.text "hi")).toValue,
        (Message.ofOutcome (.unmatched (.text (Topic.defaultMessage .greeting)))).toValue])]) ∧
    run.2.1.chat shippedSite (.record [("message", .text "")]) run.2.2 =
      (.unprocessable, run.2.1, run.2.2) := by
  have small : lowerText "default" = "default" := by decide +kernel
  have small' : lowerText "DEFAULT" = "default" := by decide +kernel
  have opens := start_of_lowerText small
  have opens' := start_of_lowerText small'
  have unclaimed : shippedAssistant.matchText "hi" = none := rfl
  have routed : (shippedAssistant.route "hi" ⟨[], []⟩).1 =
      .ok (.unmatched (.text (Topic.defaultMessage .greeting))) := by
    rw [Assistant.route, unclaimed]
    rfl
  have past : (events ChatRequest.ofValue? shippedSite [.chat greetingBody, .history "nobody"]
      ⟨[], []⟩).1 =
      [.exchange "default" "hi" (.ok (.unmatched (.text (Topic.defaultMessage .greeting)))),
        .nothing] := by
    rw [events, event_of_opened ofValue?_greetingBody opens', routed, small']
    rfl
  obtain ⟨histories, -, -, refuses, -⟩ := history_of_calls ChatRequest.lawful_ofValue? shippedSite
    [.chat greetingBody, .history "nobody"] ⟨[], []⟩
  have page := histories "default" _ opens
  rw [past, small] at page
  exact ⟨ChatRequest.lawful_ofValue?, opens, page, refuses [("message", .text "")] rfl⟩

def shippedDictionary : Source := .ofConfig dictionarySettings true Dictionary.defaultUrl

theorem matchText_define : shippedAssistant.matchText "/define run" =
    some ⟨Dictionary.skill shippedDictionary, "run", .explicit, "^/define\\s+(.+)$"⟩ := rfl

def definitionBody : Value := .record [("message", .text "/define run")]

theorem ofValue?_definitionBody :
    ChatRequest.ofValue? definitionBody = some ⟨"/define run", "default"⟩ := rfl

def nestedNetwork : Network := ⟨[.received 200 (Conversation.nestedSpelling.map Char.toNat)], []⟩

theorem route_nestedNetwork :
    (shippedAssistant.route "/define run" nestedNetwork).1 = .error .tooDeep := by
  rw [Assistant.route_of_matchText matchText_define]
  exact eq_error_of_fault? (by decide +kernel)

/-- A text whose routing fails is left in the history, though the request is not answered. -/
theorem history_nestedSpelling :
    let run := empty.handleAll ChatRequest.ofValue? shippedSite [.chat definitionBody] nestedNetwork
    run.1 = [some (.broken .tooDeep)] ∧
    (run.2.1.history shippedSite "default").1 = .ok (.record [("profile", .text "default"),
      ("history", .list [(Message.ofUser (.text "/define run")).toValue])]) := by
  have small : lowerText "default" = "default" := by decide +kernel
  have opens := start_of_lowerText small
  have past : (events ChatRequest.ofValue? shippedSite [.chat definitionBody] nestedNetwork).1 =
      [.exchange "default" "/define run" (.error .tooDeep)] := by
    rw [events, event_of_opened ofValue?_definitionBody opens, route_nestedNetwork, small]
    rfl
  obtain ⟨follows, -⟩ :=
    Follows.run ChatRequest.ofValue? shippedSite [.chat definitionBody] nestedNetwork
  constructor
  · have page := (Follows.start shippedSite).chat ofValue?_definitionBody opens nestedNetwork
    rw [route_nestedNetwork] at page
    rw [pages_handleAll_chat, page]
    rfl
  · rw [past] at follows
    have page := follows.history opens
    rw [small] at page
    exact page

end Server

end Switchboard
