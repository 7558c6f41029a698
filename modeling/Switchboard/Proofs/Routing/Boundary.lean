import Switchboard.Proofs.Http.Exchange
import Switchboard.Routing

/-!
# What routing keeps from its callers

A skill that fails is answered with an apology. So routing ends with an outcome, unless the skill has
answered with data that cannot be read: those are read when the skill has already been left.
-/

namespace Switchboard

open Text

theorem Payload.value_eq_error_iff {payload : Payload} {failure : Failure} :
    payload.value = .error failure ↔
      (∃ v m, payload = .raw v ∧ v.toFields = .error m ∧ failure = .mismatch m) ∨
        ∃ v, payload = .layered v ∧ Value.depthLimit < v.depth ∧ failure = .tooDeep := by
  cases payload with
  | absent => simp [Payload.value]
  | ready v => simp [Payload.value]
  | raw v =>
    rw [Payload.value]
    cases read : v.toFields with
    | error m => simp [Failure.ofMismatch, Except.map, read, eq_comm]
    | ok fields => simp [Failure.ofMismatch, Except.map, read]
  | layered v =>
    rw [Payload.value]
    by_cases deep : Value.depthLimit < v.depth
    · simp [Nat.not_le_of_lt deep, deep, eq_comm]
    · simp [Nat.le_of_not_lt deep, deep]

namespace Assistant

variable {assistant : Assistant} {text : String} {network : Network}

def invoke (assistant : Assistant) (decision : Decision) (network : Network) :
    Except Failure Reply × Network :=
  (decision.skill.respond decision.argument).perform assistant.isOpen network

inductive Routed (assistant : Assistant) (text : String) (network : Network) :
    Except Failure Outcome × Network → Prop
  /-- No skill claims the text. -/
  | talk (unclaimed : assistant.matchText text = none) :
    Routed assistant text network
      (.ok (.unmatched (assistant.fallback.respond (String.ofList (trim text.toList)))), network)
  | answered {decision : Decision} {reply : Reply} {data : Value} {after : Network}
      (chosen : assistant.matchText text = some decision)
      (made : assistant.invoke decision network = (.ok reply, after))
      (read : reply.payload.value = .ok data) :
    Routed assistant text network
      (.ok ⟨true, .text reply.response, some (.text decision.skill.name), some data⟩, after)
  | failed {decision : Decision} {failure : Failure} {after : Network}
      (chosen : assistant.matchText text = some decision)
      (made : assistant.invoke decision network = (.error failure, after)) :
    Routed assistant text network
      (.ok (.unmatched (.text (apology decision.skill.name))), after)
  /-- The skill has answered, but not with data. -/
  | unreadable {decision : Decision} {reply : Reply} {failure : Failure} {after : Network}
      (chosen : assistant.matchText text = some decision)
      (made : assistant.invoke decision network = (.ok reply, after))
      (unread : reply.payload.value = .error failure) :
    Routed assistant text network (.error failure, after)

theorem settle_ok {skill : Skill} {reply : Reply} :
    settle skill (.ok reply) = reply.payload.value.map fun data =>
      ⟨true, .text reply.response, some (.text skill.name), some data⟩ := by
  rw [settle]
  cases reply.payload.value <;> rfl

theorem route_of_matchText {decision : Decision}
    (chosen : assistant.matchText text = some decision) :
    assistant.route text network =
      (settle decision.skill (assistant.invoke decision network).1,
        (assistant.invoke decision network).2) := by
  rw [route, chosen]
  rfl

theorem routed_route (assistant : Assistant) (text : String) (network : Network) :
    Routed assistant text network (assistant.route text network) := by
  cases chosen : assistant.matchText text with
  | none =>
    rw [route, chosen]
    exact .talk chosen
  | some decision =>
    rw [route_of_matchText chosen]
    cases made : assistant.invoke decision network with
    | mk result after =>
      cases result with
      | error failure => exact .failed chosen made
      | ok reply =>
        rw [settle_ok]
        cases read : reply.payload.value with
        | error failure => exact .unreadable chosen made read
        | ok data => exact .answered chosen made read

theorem brings_of_route {v : Value} (h : (assistant.route text network).2.Brings v) :
    network.Brings v := by
  have invoked {decision : Decision} {result : Except Failure Reply} {after : Network}
      (made : assistant.invoke decision network = (result, after)) (left : after.Brings v) :
      network.Brings v := by
    have same : after = (assistant.invoke decision network).2 := (congrArg Prod.snd made).symm
    exact Plan.brings_of_perform (same ▸ left)
  have routed := routed_route assistant text network
  generalize assistant.route text network = result at h routed
  cases routed with
  | talk => exact h
  | answered chosen made => exact invoked made h
  | failed chosen made => exact invoked made h
  | unreadable chosen made => exact invoked made h

/-- The skill of a matched outcome is named. -/
theorem exists_skill_of_route {o : Outcome} (h : (assistant.route text network).1 = .ok o)
    (matched : o.matched = true) : ∃ name, o.skill = some name := by
  have routed := routed_route assistant text network
  generalize assistant.route text network = result at h routed
  cases routed with
  | talk =>
    cases h
    cases matched
  | answered =>
    cases h
    exact ⟨_, rfl⟩
  | failed =>
    cases h
    cases matched
  | unreadable => cases h

/-- Routing fails exactly where the chosen skill answers with data that cannot be read, and as reading
them fails. Otherwise it has an outcome, which is matched exactly where the chosen skill answers: then
it holds the answer, the name of the skill and the data, and else neither name nor data. A skill that
fails is answered with its apology. -/
theorem route_boundary (assistant : Assistant) (text : String) (network : Network) :
    (∀ failure, (assistant.route text network).1 = .error failure ↔
      ∃ decision, assistant.matchText text = some decision ∧
        ∃ reply, (assistant.invoke decision network).1 = .ok reply ∧
          reply.payload.value = .error failure) ∧
    ∀ o, (assistant.route text network).1 = .ok o →
      (o.matched = true ↔ ∃ decision, assistant.matchText text = some decision ∧
        ∃ reply, (assistant.invoke decision network).1 = .ok reply) ∧
      (o.matched = false → o.skill = none ∧ o.data = none) ∧
      (assistant.matchText text = none →
        o = .unmatched (assistant.fallback.respond (String.ofList (trim text.toList)))) ∧
      ∀ decision, assistant.matchText text = some decision →
        (∀ reply, (assistant.invoke decision network).1 = .ok reply →
          ∃ data, reply.payload.value = .ok data ∧
            o = ⟨true, .text reply.response, some (.text decision.skill.name), some data⟩) ∧
        ∀ failure, (assistant.invoke decision network).1 = .error failure →
          o = .unmatched (.text (apology decision.skill.name)) := by
  have routed := routed_route assistant text network
  generalize assistant.route text network = result at routed
  cases routed with
  | talk unclaimed => simp [unclaimed, Outcome.unmatched]
  | answered chosen made read => simp [chosen, made, read]
  | failed chosen made => simp [chosen, made, Outcome.unmatched]
  | unreadable chosen made unread => simp [chosen, made, unread]

def numberSkill : Skill where
  name := "d"
  description := ""
  usage := Skill.defaultUsage "d"
  triggers := [.command "d"]
  phrases := []
  respond query := .answer (.ok ⟨"skill::d::" ++ query, .raw (.int 5)⟩)

/-- The number is the fault of the skill, but no apology is made for it. -/
theorem route_numberSkill :
    ((⟨[numberSkill], .default, true⟩ : Assistant).route "/d q" ⟨[], []⟩).1 =
      .error (.mismatch .wrongKind) := rfl

end Assistant

end Switchboard
