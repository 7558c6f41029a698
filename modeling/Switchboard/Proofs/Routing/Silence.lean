import Switchboard.Proofs.Conversation.Run

/-!
# Assistants without a live source

A service whose live source is switched off answers at once. So an assistant that has no other
services leaves the network as it is, whatever it is asked.
-/

namespace Switchboard

variable {α β : Type} {network : Network}

theorem Plan.exists_answer_andThen {plan : Plan α} (h : ∃ result, plan = .answer result)
    (f : Except Failure α → Except Failure β) : ∃ result, plan.andThen f = .answer result := by
  obtain ⟨result, rfl⟩ := h
  exact ⟨f result, rfl⟩

theorem exists_answer_lookup (fetch : Plan (Option α)) (simulation : Except Failure α) :
    ∃ result, lookup false fetch simulation = .answer result := ⟨_, rfl⟩

namespace Service

def live : Service → Bool
  | weather w => w.live
  | calculator _ => false
  | dictionary source => source.live

theorem exists_answer_of_not_live {service : Service} (quiet : service.live = false)
    (argument : String) : ∃ result, service.skill.respond argument = .answer result := by
  cases service with
  | weather w =>
    change ∃ result, w.respond argument = .answer result
    rw [Weather.respond]
    split
    · exact ⟨_, rfl⟩
    · rw [show w.live = false from quiet]
      exact Plan.exists_answer_andThen (exists_answer_lookup _ _) _
  | calculator config => exact ⟨_, rfl⟩
  | dictionary source =>
    change ∃ result, Dictionary.respond source argument = .answer result
    rw [Dictionary.respond]
    split
    · exact ⟨_, rfl⟩
    · rw [show source.live = false from quiet]
      exact Plan.exists_answer_andThen (exists_answer_lookup _ _) _

end Service

namespace Assistant

variable {assistant : Assistant} {services : List Service}
  (same : assistant.skills = services.map Service.skill)
  (quiet : ∀ service ∈ services, service.live = false)

include same quiet

theorem network_route (text : String) (network : Network) :
    (assistant.route text network).2 = network := by
  have left {decision : Decision} {result : Except Failure Reply} {after : Network}
      (chosen : assistant.matchText text = some decision)
      (made : assistant.invoke decision network = (result, after)) : after = network := by
    obtain ⟨service, known, named⟩ := exists_service_of_matchText same chosen
    obtain ⟨result', answered⟩ :=
      Service.exists_answer_of_not_live (quiet service known) decision.argument
    rw [invoke, named, answered] at made
    exact (congrArg Prod.snd made).symm
  have routed := routed_route assistant text network
  generalize assistant.route text network = result at routed
  cases routed with
  | talk => rfl
  | answered chosen made => exact left chosen made
  | failed chosen made => exact left chosen made
  | unreadable chosen made => exact left chosen made

theorem network_routeAll (texts : List String) (network : Network) :
    (assistant.routeAll texts network).2 = network := by
  induction texts with
  | nil => rfl
  | cons text texts ih =>
    change (assistant.routeAll texts (assistant.route text network).2).2 = network
    rw [network_route same quiet, ih]

end Assistant

end Switchboard
