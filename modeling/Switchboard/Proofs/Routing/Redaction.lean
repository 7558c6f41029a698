import Switchboard.Proofs.Conversation.Run

/-!
# Requests without the key

Taking the key out of what an assistant sends is a map of networks, plans, skills and assistants. It
goes through every step of a run, so the results of a run do not depend on the key, and the requests
do so in that one parameter only.
-/

namespace Switchboard

variable {α β : Type} {network : Network}

/-- A request without the parameter that holds the key of the weather source. -/
def Request.redacted (request : Request) : Request :=
  { request with params := Fields.erase "appid" request.params }

namespace Network

def redacted (network : Network) : Network :=
  { network with requests := network.requests.map Request.redacted }

theorem note_redacted (network : Network) (request : Request) :
    network.redacted.note request.redacted = (network.note request).redacted := by
  simp only [note, redacted, List.map_append, List.map_cons, List.map_nil]

theorem take_redacted (network : Network) :
    network.redacted.take = (network.take.1, network.take.2.redacted) := by
  obtain ⟨responses, requests⟩ := network
  cases responses <;> rfl

/-- A reply does not look at the key. -/
theorem get_redacted (network : Network) (isOpen : Bool) (request : Request) :
    network.redacted.get isOpen request.redacted =
      ((network.get isOpen request).1, (network.get isOpen request).2.redacted) := by
  cases isOpen with
  | false => rw [get, note_redacted]; rfl
  | true => rw [get, note_redacted, if_pos rfl, take_redacted]; rfl

end Network

namespace Plan

def redacted : Plan α → Plan α
  | answer result => answer result
  | ask request next => ask request.redacted next

theorem redacted_andThen (plan : Plan α) (f : Except Failure α → Except Failure β) :
    (plan.andThen f).redacted = plan.redacted.andThen f := by
  cases plan <;> rfl

theorem perform_redacted (plan : Plan α) (isOpen : Bool) (network : Network) :
    plan.redacted.perform isOpen network.redacted =
      ((plan.perform isOpen network).1, (plan.perform isOpen network).2.redacted) := by
  cases plan with
  | answer result => rfl
  | ask request next =>
    rw [redacted, perform, Network.get_redacted]
    rfl

end Plan

theorem redacted_lookup (live : Bool) (fetch : Plan (Option α)) (simulation : Except Failure α) :
    (lookup live fetch simulation).redacted = lookup live fetch.redacted simulation := by
  cases live with
  | false => rfl
  | true => exact Plan.redacted_andThen _ _

def Skill.redacted (skill : Skill) : Skill :=
  { skill with respond := fun argument => (skill.respond argument).redacted }

def Decision.redacted (decision : Decision) : Decision :=
  { decision with skill := decision.skill.redacted }

namespace Skill

variable (skill : Skill) (text : List Char)

theorem explicit?_redacted :
    skill.redacted.explicit? text = (skill.explicit? text).map Decision.redacted := by
  rw [explicit?, explicit?, List.map_findSome?]
  simp only [Function.comp_def, Option.map_map]
  rfl

theorem spoken?_redacted :
    skill.redacted.spoken? text = (skill.spoken? text).map Decision.redacted := by
  rw [spoken?, spoken?, List.map_findSome?]
  simp only [Function.comp_def, Option.map_map]
  rfl

end Skill

theorem decide?_redacted (skills : List Skill) (text : List Char) :
    decide? (skills.map Skill.redacted) text = (decide? skills text).map Decision.redacted := by
  have first : (skills.map Skill.redacted).findSome? (·.explicit? text) =
      (skills.findSome? (·.explicit? text)).map Decision.redacted := by
    rw [List.findSome?_map, List.map_findSome?]
    simp only [Function.comp_def, Skill.explicit?_redacted]
  have second : (skills.map Skill.redacted).findSome? (·.spoken? text) =
      (skills.findSome? (·.spoken? text)).map Decision.redacted := by
    rw [List.findSome?_map, List.map_findSome?]
    simp only [Function.comp_def, Skill.spoken?_redacted]
  rw [decide?, decide?, first, second]
  cases skills.findSome? (·.explicit? text) <;> rfl

namespace Assistant

variable (assistant : Assistant)

def redacted : Assistant := { assistant with skills := assistant.skills.map Skill.redacted }

theorem descriptions_redacted : assistant.redacted.descriptions = assistant.descriptions := by
  simp only [descriptions, redacted, List.map_map]
  rfl

theorem matchText_redacted (text : String) :
    assistant.redacted.matchText text = (assistant.matchText text).map Decision.redacted := by
  rw [matchText, matchText]
  dsimp only [redacted]
  split
  · rfl
  · exact decide?_redacted _ _

theorem route_redacted (text : String) (network : Network) :
    assistant.redacted.route text network.redacted =
      ((assistant.route text network).1, (assistant.route text network).2.redacted) := by
  have decided := matchText_redacted assistant text
  cases chosen : assistant.matchText text with
  | none =>
    rw [chosen] at decided
    rw [route, route, chosen, decided]
    rfl
  | some decision =>
    rw [chosen] at decided
    have made : assistant.redacted.invoke decision.redacted network.redacted =
        ((assistant.invoke decision network).1, (assistant.invoke decision network).2.redacted) :=
      Plan.perform_redacted _ _ _
    rw [route_of_matchText chosen, route_of_matchText decided, made]
    rfl

theorem routeAll_redacted (texts : List String) (network : Network) :
    assistant.redacted.routeAll texts network.redacted =
      ((assistant.routeAll texts network).1, (assistant.routeAll texts network).2.redacted) := by
  induction texts generalizing network with
  | nil => rfl
  | cons text texts ih =>
    simp only [routeAll, route_redacted, ih]

variable {assistant} {other : Assistant}

/-- Assistants that differ in the key alone come to the same results, and their requests differ in the
key alone. -/
theorem routeAll_of_redacted (same : assistant.redacted = other.redacted) (texts : List String)
    (network : Network) :
    (assistant.routeAll texts network).1 = (other.routeAll texts network).1 ∧
      (assistant.routeAll texts network).2.redacted = (other.routeAll texts network).2.redacted := by
  have mine := routeAll_redacted assistant texts network
  rw [same, routeAll_redacted] at mine
  obtain ⟨results, left⟩ := Prod.mk.inj mine
  exact ⟨results.symm, left.symm⟩

end Assistant

end Switchboard
