import Switchboard.Proofs.Console.Chat
import Switchboard.Proofs.Server.Sessions

/-!
# The console and the server give the same answers

The lines that a chat routes are answered by a server as they are by the chat, with the blanks around
them, if they are sent to a server that holds no conversations yet.
-/

namespace Switchboard

open Text

namespace Page

def answer? : Page → Option Value
  | ok (.record body) =>
    match Fields.get? body "result" with
    | some (.record result) => Fields.get? result "response"
    | _ => none
  | _ => none

theorem answer?_ofResult (profile : String) (after : Conversation)
    (result : Except Failure Outcome) :
    (ofResult profile after result).answer? = result.toOption.map Outcome.response := by
  cases result <;> rfl

end Page

namespace Server

def Call.say (profile text : String) : Call :=
  .chat (.record [("message", .text text), ("profile", .text profile)])

variable {parse : Value → Option ChatRequest} (lawful : ChatRequest.Lawful parse)

include lawful

theorem parse_say (profile : String) {text : String} (given : text.isEmpty = false) :
    parse (.record [("message", .text text), ("profile", .text profile)]) = some ⟨text, profile⟩ :=
  (lawful _ text profile).2 ⟨rfl, given, rfl⟩

namespace Follows

variable {site : Site} {server : Server} {past : List Event} {profile : String}
  {opened : Conversation}

/-- A server answers texts in a profile as the assistant of that profile does. -/
theorem answers (follows : Follows site server past)
    (opens : site.start (lowerText profile) = .ok opened) {texts : List String}
    (given : ∀ text ∈ texts, text.isEmpty = false) (network : Network) :
    let run := server.handleAll parse site (texts.map (Call.say profile)) network
    let routed := opened.assistant.routeAll texts network
    run.1.map (·.bind Page.answer?) =
        routed.1.map (fun result => result.toOption.map Outcome.response) ∧
      run.2.2 = routed.2 := by
  induction texts generalizing server past network with
  | nil => exact ⟨rfl, rfl⟩
  | cons text texts ih =>
    obtain ⟨here, given⟩ := List.forall_mem_cons.1 given
    have read := parse_say lawful profile here
    have routed : (event parse site (Call.say profile text) network).2 =
        (opened.assistant.route text network).2 := congrArg Prod.snd (event_of_opened read opens)
    have answer : (server.handle parse site (Call.say profile text) network).1.bind Page.answer? =
        (opened.assistant.route text network).1.toOption.map Outcome.response :=
      (congrArg Page.answer? (follows.chat read opens network)).trans
        (Page.answer?_ofResult _ _ _)
    obtain ⟨next, left⟩ := follows.handle (Call.say profile text) network
    obtain ⟨later, last⟩ := ih next given (opened.assistant.route text network).2
    rw [routed] at left
    rw [Assistant.routeAll_cons]
    simp only [List.map_cons, Server.handleAll, left, answer, later, last, and_self]

end Follows

end Server

namespace Console

variable {echo : Option Colour → String → String} {site : Site} {profile : String}
  {opened : Conversation}

theorem begin?_of_start (opens : site.start profile = .ok opened) (network : Network) :
    begin? echo site profile network = .ok opened := by
  obtain ⟨fields, limit, assistant, loaded, bounded, built, rfl⟩ := Server.start_eq_ok_iff.1 opens
  have entered : enter echo site profile network = .ok (.record fields, assistant) := by
    simp only [enter, loaded, built]
  simp only [begin?, entered, ok_bind, bounded]
  rfl

theorem chat_of_start (opens : site.start profile = .ok opened) (debug : Bool) (input : String)
    (network : Network) :
    chat echo site profile debug input network =
      chatLines echo opened debug network (welcome echo) (inputLines input) := by
  rw [chat, begin?_of_start opens]

theorem isEmpty_of_stays {typed : String} (stays : leaves typed = false) : typed.isEmpty = false := by
  cases given : typed.isEmpty with
  | false => rfl
  | true =>
    rw [String.isEmpty_iff.1 given] at stays
    cases stays

/-- A chat in a profile that can be opened, with a name in small letters, answers the lines before the
first one that is empty when trimmed or is the word for leaving. A server without conversations gives
the same answers to the same lines, blanks included, and leaves the network in the same state. If each
line is answered and the answers can be printed, the chat prints all of them, ends there and leaves the
network as it is then. Otherwise it prints the answers before the first line for which this fails, and
breaks off after that line: no later line is routed. The result of a line is printed in whole exactly
where it is an answer that can be written, with its data where they are asked for. A line is left
without an answer only where the network brings a value that is too deep to be taken apart. All this
holds for any way of putting texts on the console, and of reading the requests to the server. -/
theorem chat_agrees (echo : Option Colour → String → String) {parse : Value → Option ChatRequest}
    (lawful : ChatRequest.Lawful parse) (small : lowerText profile = profile)
    (opens : site.start profile = .ok opened) (debug : Bool) (lines : List String)
    (network : Network) :
    let assistant := opened.assistant
    let routed := assistant.routeAll (heard lines) network
    let ending := chatLines echo opened debug network (welcome echo) lines
    let web := Server.empty.handleAll parse site ((heard lines).map (Server.Call.say profile)) network
    (∀ input, inputLines input = lines → chat echo site profile debug input network = ending) ∧
    (web.1.map (·.bind Page.answer?) =
        routed.1.map (fun result => result.toOption.map Outcome.response) ∧
      web.2.2 = routed.2) ∧
    (Answered echo assistant debug (heard lines) routed.1 →
      ending = ⟨0, welcome echo ++ resultTexts echo assistant debug (heard lines) routed.1 ++
        prompt ++ lastWords echo lines, routed.2⟩) ∧
    (¬ Answered echo assistant debug (heard lines) routed.1 →
      ∃ done typed later, heard lines = done ++ typed :: later ∧
        let before := assistant.routeAll done network
        let last := assistant.route typed before.2
        let stuck := resultReport echo assistant debug typed last.1
        Answered echo assistant debug done before.1 ∧ stuck.complete = false ∧
          ending = ⟨failureCode, welcome echo ++ resultTexts echo assistant debug done before.1 ++
            prompt ++ stuck.output, last.2⟩) ∧
    (∀ typed result, (resultReport echo assistant debug typed result).complete = true ↔
      ∃ o, result = .ok o ∧ o.response.isWritable = true ∧
        (debug = true → o.matched = true → (Outcome.reported o.data).isWritable = true)) ∧
    ∀ failure, .error failure ∈ routed.1 →
      failure = .tooDeep ∧ ∃ v, network.Brings v ∧ Value.depthLimit < v.depth := by
  intro assistant routed ending web
  refine ⟨?_, ?_, chatLines_of_answered, ?_, fun typed result => complete_resultReport_iff,
    fun failure => Assistant.exists_deep_of_mem (Server.isBuilt_of_start opens).1⟩
  · rintro input rfl
    exact chat_of_start opens debug input network
  · have nonempty : ∀ text ∈ heard lines, text.isEmpty = false := fun text member =>
      isEmpty_of_stays (leaves_of_mem_heard member)
    exact (Server.Follows.start site).answers lawful (small.symm ▸ opens) nonempty network
  · intro unanswered
    have first := answered_or_exists_unanswered echo assistant debug (heard lines) network
    obtain ⟨done, typed, later, parts, most, stuck⟩ := first.resolve_left unanswered
    exact ⟨done, typed, later, parts, most, stuck, chatLines_of_unanswered parts most stuck⟩

theorem lowerText_default : lowerText "default" = "default" := by decide +kernel

def greeting : Outcome := .unmatched (.text (Topic.defaultMessage .greeting))

theorem route_hello (network : Network) :
    Server.shippedAssistant.route "hello" network = (.ok greeting, network) := by
  have unclaimed : Server.shippedAssistant.matchText "hello" = none := rfl
  rw [Assistant.route, unclaimed]
  rfl

/-- The line after the word for leaving is not heard, and the blank is sent to the server. -/
theorem chat_agrees_greeting :
    ChatRequest.Lawful ChatRequest.ofValue? ∧ lowerText "default" = "default" ∧
    Server.shippedSite.start "default" = .ok ⟨Server.shippedAssistant, .empty 100⟩ ∧
    (Server.empty.handleAll ChatRequest.ofValue? Server.shippedSite [.say "default" " hello"]
      ⟨[], []⟩).1.map (·.bind Page.answer?) = [some greeting.response] ∧
    chat line Server.shippedSite "default" false " hello\n/exit\nlater\n" ⟨[], []⟩ =
      ⟨0, welcome line ++ (prompt ++ answerText line greeting) ++ prompt ++ farewell line,
        ⟨[], []⟩⟩ := by
  have routed : Server.shippedAssistant.routeAll [" hello"] ⟨[], []⟩ = ([.ok greeting], ⟨[], []⟩) := by
    rw [Assistant.routeAll_cons, ← Assistant.route_trim, ← trimmed,
      show trimmed " hello" = "hello" from rfl, route_hello]
    rfl
  have answered : Answered line Server.shippedAssistant false [" hello"] [.ok greeting] :=
    .cons rfl .nil
  obtain ⟨onInput, ⟨web, -⟩, ending, -⟩ := chat_agrees line ChatRequest.lawful_ofValue?
    lowerText_default Server.start_shippedSite false [" hello", "/exit", "later"] ⟨[], []⟩
  have said : heard [" hello", "/exit", "later"] = [" hello"] := rfl
  rw [said, routed] at web ending
  have printed : resultTexts line Server.shippedAssistant false [" hello"] [.ok greeting] =
      prompt ++ answerText line greeting := by
    rw [resultTexts, resultReport_ok rfl]
    exact String.append_empty
  rw [onInput _ rfl, ending answered, printed]
  exact ⟨ChatRequest.lawful_ofValue?, lowerText_default, Server.start_shippedSite, web, rfl⟩

section Failing

variable {network : Network} {failure : Failure}
  (failed : (Server.shippedAssistant.route "/define run" network).1 = .error failure)

include failed

/-- Where a definition fails, a server goes on with the next line. -/
theorem answers_of_failure :
    (Server.empty.handleAll ChatRequest.ofValue? Server.shippedSite
      (["/define run", "hello"].map (Server.Call.say "default")) network).1.map
        (·.bind Page.answer?) = [none, some greeting.response] := by
  have routed : (Server.shippedAssistant.routeAll ["/define run", "hello"] network).1 =
      [(Server.shippedAssistant.route "/define run" network).1,
        (Server.shippedAssistant.route "hello"
          (Server.shippedAssistant.route "/define run" network).2).1] := rfl
  have given : ∀ text ∈ ["/define run", "hello"], text.isEmpty = false := by decide
  have answers := ((Server.Follows.start Server.shippedSite).answers ChatRequest.lawful_ofValue?
    (lowerText_default.symm ▸ Server.start_shippedSite) given network).1
  rw [routed, failed, route_hello] at answers
  exact answers

theorem chat_of_failure :
    chat line Server.shippedSite "default" false "/define run\nhello\n" network =
      ⟨failureCode, welcome line ++ prompt,
        (Server.shippedAssistant.route "/define run" network).2⟩ := by
  have typed : inputLines "/define run\nhello\n" = ["/define run", "hello"] := rfl
  have stays : leaves "/define run" = false := rfl
  rw [chat_of_start Server.start_shippedSite, typed]
  exact chatLines_of_error stays failed

end Failing

/-- A line that is not answered ends a chat, and the next one is not answered. -/
theorem chat_nestedSpelling :
    let lines := ["/define run", "hello"]
    let web := Server.empty.handleAll ChatRequest.ofValue? Server.shippedSite
      (lines.map (Server.Call.say "default")) Server.nestedNetwork
    let ending := chat line Server.shippedSite "default" false "/define run\nhello\n"
      Server.nestedNetwork
    heard lines = lines ∧ web.1.map (·.bind Page.answer?) = [none, some greeting.response] ∧
      ending.code = failureCode ∧ ending.output = welcome line ++ prompt := by
  have failed := Server.route_nestedNetwork
  have ended := chat_of_failure failed
  exact ⟨rfl, answers_of_failure failed, congrArg Ending.code ended, congrArg Ending.output ended⟩

end Console

end Switchboard
