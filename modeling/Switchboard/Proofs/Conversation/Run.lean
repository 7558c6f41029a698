import Switchboard.Proofs.Conversation.Log
import Switchboard.Proofs.Routing.Services

/-!
# Whole conversations

What a text adds to the log depends on how routing it ends: always the text itself, and then the
answer if there is one. So a log with room for it shows one exchange after the other.
-/

namespace Switchboard

variable {assistant : Assistant} {network : Network} {text : String}

namespace Assistant

def routeAll (assistant : Assistant) :
    List String → Network → List (Except Failure Outcome) × Network
  | [], network => ([], network)
  | text :: texts, network =>
    let (result, after) := assistant.route text network
    let (results, left) := assistant.routeAll texts after
    (result :: results, left)

theorem routeAll_cons (text : String) (texts : List String) (network : Network) :
    assistant.routeAll (text :: texts) network =
      ((assistant.route text network).1 ::
          (assistant.routeAll texts (assistant.route text network).2).1,
        (assistant.routeAll texts (assistant.route text network).2).2) := rfl

theorem length_routeAll (texts : List String) (network : Network) :
    (assistant.routeAll texts network).1.length = texts.length := by
  induction texts generalizing network with
  | nil => rfl
  | cons text texts ih => exact congrArg Nat.succ (ih _)

/-- Each result of a run is the result of a route, through a network that brings nothing new. -/
theorem exists_route_of_mem {texts : List String} {result : Except Failure Outcome}
    (member : result ∈ (assistant.routeAll texts network).1) :
    ∃ text ∈ texts, ∃ before : Network, (∀ v, before.Brings v → network.Brings v) ∧
      (assistant.route text before).1 = result := by
  induction texts generalizing network with
  | nil => cases member
  | cons text texts ih =>
    rcases List.mem_cons.1 member with rfl | later
    · exact ⟨text, List.mem_cons_self, network, fun v h => h, rfl⟩
    · obtain ⟨text', known, before, brings, same⟩ := ih later
      exact ⟨text', List.mem_cons_of_mem _ known, before,
        fun v h => brings_of_route (brings v h), same⟩

theorem exists_deep_of_mem (built : assistant.IsBuilt) {texts : List String} {failure : Failure}
    (member : .error failure ∈ (assistant.routeAll texts network).1) :
    failure = .tooDeep ∧ ∃ v, network.Brings v ∧ Value.depthLimit < v.depth := by
  obtain ⟨text, -, before, brings, failed⟩ := exists_route_of_mem member
  obtain ⟨same, deep⟩ := deep_of_route built failed
  simp only [Network.Within, not_forall, Nat.not_le] at deep
  obtain ⟨v, brought, deep⟩ := deep
  exact ⟨same, v, brings v brought, deep⟩

end Assistant

namespace Message

/-- What a text and the result of routing it leave in a log. -/
def exchange (text : String) : Except Failure Outcome → List Message
  | .ok o => [ofUser (.text text), ofOutcome o]
  | .error _ => [ofUser (.text text)]

theorem content_ofOutcome (o : Outcome) : (ofOutcome o).content = o.response := by
  rw [ofOutcome]
  split <;> rfl

theorem sender_ofOutcome (o : Outcome) : (ofOutcome o).sender = .text "assistant" := by
  rw [ofOutcome]
  split <;> rfl

theorem kind_ofOutcome (o : Outcome) :
    (ofOutcome o).kind = .text "skill" ↔ o.matched = true := by
  rw [ofOutcome]
  split
  · simp [*]
  · simp [*]

theorem skillFields_ofOutcome {o : Outcome}
    (named : o.matched = true → ∃ name, o.skill = some name) :
    (ofOutcome o).skillFields = o.skillFields := by
  rw [ofOutcome, Outcome.skillFields]
  split
  · obtain ⟨name, same⟩ := named ‹_›
    rw [skillFields, same]
    rfl
  · rfl

end Message

namespace Conversation

def sayAll (c : Conversation) :
    List String → Network → List (Except Failure Outcome) × Conversation × Network
  | [], network => ([], c, network)
  | text :: texts, network =>
    let (result, said, after) := c.say text network
    let (results, last, left) := said.sayAll texts after
    (result :: results, last, left)

def record (c : Conversation) (messages : List Message) : Conversation :=
  { c with log := c.log.addAll messages }

theorem record_record (c : Conversation) (first second : List Message) :
    (c.record first).record second = c.record (first ++ second) := by
  rw [record, record, record, Log.addAll_append]

theorem say_eq (c : Conversation) (text : String) (network : Network) :
    c.say text network =
      ((c.assistant.route text network).1,
        c.record (Message.exchange text (c.assistant.route text network).1),
        (c.assistant.route text network).2) := by
  rw [say]
  rcases c.assistant.route text network with ⟨_ | _, after⟩ <;> rfl

def transcript (texts : List String) (results : List (Except Failure Outcome)) : List Message :=
  (List.zipWith Message.exchange texts results).flatten

theorem sayAll_eq (c : Conversation) (texts : List String) (network : Network) :
    c.sayAll texts network =
      ((c.assistant.routeAll texts network).1,
        c.record (transcript texts (c.assistant.routeAll texts network).1),
        (c.assistant.routeAll texts network).2) := by
  induction texts generalizing c network with
  | nil => rfl
  | cons text texts ih =>
    simp only [sayAll, say_eq, ih, record_record, Assistant.routeAll]
    rfl

section Answered

variable {texts : List String} {results : List (Except Failure Outcome)}

/-- The sender of a message, counted from the end of a conversation that is in order. -/
def senderFromEnd (i : Nat) : Value := if i % 2 = 0 then .text "assistant" else .text "user"

/-- A text with an answer is followed by the rest of the conversation. -/
theorem exists_transcript_cons {result : Except Failure Outcome}
    (texts : List String) (answered : ∀ failure, .error failure ∉ result :: results)
    (text : String) :
    (∃ o, transcript (text :: texts) (result :: results) =
      .ofUser (.text text) :: .ofOutcome o :: transcript texts results) ∧
    ∀ failure, .error failure ∉ results := by
  refine ⟨?_, fun failure later => answered failure (List.mem_cons_of_mem _ later)⟩
  cases result with
  | ok o => exact ⟨o, rfl⟩
  | error failure => exact absurd List.mem_cons_self (answered failure)

theorem length_transcript (same : results.length = texts.length)
    (answered : ∀ failure, .error failure ∉ results) :
    (transcript texts results).length = 2 * texts.length := by
  induction texts generalizing results with
  | nil => rfl
  | cons text texts ih =>
    cases results with
    | nil => cases same
    | cons result results =>
      obtain ⟨⟨o, parts⟩, answered⟩ := exists_transcript_cons texts answered text
      rw [parts, List.length_cons, List.length_cons, ih (Nat.succ.inj same) answered,
        List.length_cons]
      omega

theorem sender_transcript (same : results.length = texts.length)
    (answered : ∀ failure, .error failure ∉ results) {i : Nat} {m : Message}
    (h : (transcript texts results).reverse[i]? = some m) : m.sender = senderFromEnd i := by
  induction texts generalizing results with
  | nil => cases h
  | cons text texts ih =>
    cases results with
    | nil => cases same
    | cons result results =>
      obtain ⟨⟨o, parts⟩, answered⟩ := exists_transcript_cons texts answered text
      have same := Nat.succ.inj same
      rw [parts, List.reverse_cons, List.reverse_cons, List.append_assoc, List.getElem?_append,
        List.length_reverse, length_transcript same answered] at h
      split at h
      · exact ih same answered h
      · -- The earliest exchange is left: its answer, and its text before that.
        obtain ⟨j, rfl⟩ := Nat.exists_eq_add_of_le (Nat.le_of_not_lt ‹_›)
        rw [Nat.add_sub_cancel_left] at h
        rw [senderFromEnd, Nat.mul_add_mod]
        match j with
        | 0 =>
          cases h
          exact Message.sender_ofOutcome o
        | 1 =>
          cases h
          rfl

end Answered

/-- A conversation with a built assistant logs each text, followed by the answer to it if routing has
one, and keeps the latest messages. Routing fails only where the network brings a value that is too
deep to be taken apart. An answer is logged with its response, as coming from a skill exactly where it
is matched, and with the fields that it is reported with. Where no routing fails, a log with room ends
with an answer, and goes back from it answer by text. -/
theorem sayAll_log {config : Value} {clock : Int}
    (built : Assistant.build config clock = .ok assistant) (limit : Int) (texts : List String)
    (network : Network) :
    let results := (assistant.routeAll texts network).1
    let run := (⟨assistant, .empty limit⟩ : Conversation).sayAll texts network
    let messages := run.2.1.log.messages
    run.1 = results ∧ results.length = texts.length ∧
    messages = (transcript texts results).rtake limit.toNat ∧
    (∀ failure, .error failure ∈ results →
      failure = .tooDeep ∧ ∃ v, network.Brings v ∧ Value.depthLimit < v.depth) ∧
    (∀ o, .ok o ∈ results →
      (Message.ofOutcome o).content = o.response ∧
        ((Message.ofOutcome o).kind = .text "skill" ↔ o.matched = true) ∧
          (Message.ofOutcome o).skillFields = o.skillFields) ∧
    ((∀ failure, .error failure ∉ results) → 1 ≤ limit → texts ≠ [] →
      messages ≠ [] ∧ ∀ i m, messages.reverse[i]? = some m → m.sender = senderFromEnd i) := by
  intro results run messages
  have ran : run = _ := sayAll_eq _ texts network
  have length : results.length = texts.length := Assistant.length_routeAll texts network
  have kept : messages = (transcript texts results).rtake limit.toNat := by
    rw [show messages = ((Log.empty limit).addAll (transcript texts results)).messages from
      congrArg (fun run => run.2.1.log.messages) ran]
    exact Log.messages_addAll_empty limit _
  refine ⟨congrArg Prod.fst ran, length, kept, ?_, ?_, ?_⟩
  · intro failure member
    obtain ⟨text, -, before, brings, failed⟩ := Assistant.exists_route_of_mem member
    obtain ⟨same, deep⟩ := Assistant.deep_of_route (Assistant.isBuilt_of_build built) failed
    simp only [Network.Within, not_forall, Nat.not_le] at deep
    obtain ⟨v, brought, deep⟩ := deep
    exact ⟨same, v, brings v brought, deep⟩
  · intro o member
    obtain ⟨text, -, before, -, routed⟩ := Assistant.exists_route_of_mem member
    exact ⟨Message.content_ofOutcome o, Message.kind_ofOutcome o,
      Message.skillFields_ofOutcome (Assistant.exists_skill_of_route routed)⟩
  · intro answered room given
    rw [kept, List.rtake_eq_reverse_take_reverse, List.reverse_reverse]
    constructor
    · have some := length_transcript length answered
      have size := List.length_pos_of_ne_nil given
      rw [ne_eq, List.reverse_eq_nil_iff, List.take_eq_nil_iff, List.reverse_eq_nil_iff]
      rintro (none | none)
      · omega
      · rw [none, List.length_nil] at some
        omega
    · intro i m h
      rw [List.getElem?_take] at h
      split at h
      · exact sender_transcript length answered h
      · cases h

def defining : Value :=
  .record [("skills", .record [("enabled", .texts [Dictionary.name])])]

def definer : Assistant := ⟨[Dictionary.skill Dictionary.plain], .default, true⟩

theorem build_defining : Assistant.build defining 0 = .ok definer := rfl

theorem sayAll_log_unreachable :
    Assistant.build defining 0 = .ok definer ∧
    let run := (⟨definer, .empty 3⟩ : Conversation).sayAll ["/define run", "hello"] ⟨[], []⟩
    (∀ failure, .error failure ∉ run.1) ∧ run.2.1.log.messages ≠ [] ∧
      ∀ i m, run.2.1.log.messages.reverse[i]? = some m → m.sender = senderFromEnd i := by
  obtain ⟨same, -, -, failing, -, ordered⟩ :=
    sayAll_log build_defining 3 ["/define run", "hello"] ⟨[], []⟩
  have answered : ∀ failure,
      .error failure ∉ (definer.routeAll ["/define run", "hello"] ⟨[], []⟩).1 := by
    intro failure member
    obtain ⟨-, v, ⟨response, left, -⟩, -⟩ := failing failure member
    cases left
  refine ⟨build_defining, ?_, ordered answered (by decide) (by decide)⟩
  rw [same]
  exact answered

def nestedSpelling : List Char :=
  "[\x7b\"phonetic\":".toList ++ List.replicate 700 '[' ++ List.replicate 700 ']' ++
    ",\"meanings\":[\x7b\"definitions\":[\x7b\"definition\":\"d\"\x7d]\x7d]\x7d]".toList

/-- The entry can be shown, but its data cannot be copied, and the text is left without an answer. -/
theorem say_nestedSpelling :
    let said := (⟨definer, .empty 100⟩ : Conversation).say "/define run"
      ⟨[.received 200 (nestedSpelling.map Char.toNat)], []⟩
    Assistant.build defining 0 = .ok definer ∧ said.1 = .error .tooDeep ∧
      said.2.1.log.messages = [.ofUser (.text "/define run")] := by
  intro said
  have failed : (definer.route "/define run"
      ⟨[.received 200 (nestedSpelling.map Char.toNat)], []⟩).1 = .error .tooDeep :=
    eq_error_of_fault? (by decide +kernel)
  have result : said = _ := say_eq _ _ _
  rw [result, failed]
  exact ⟨build_defining, rfl, rfl⟩

end Conversation

end Switchboard
