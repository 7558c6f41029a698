import Switchboard.Proofs.Routing.Boundary
import Switchboard.Proofs.Routing.FirstHit
import Switchboard.Proofs.Skill.Dictionary

/-!
# Routing with the skills that come with the program

Two of the skills answer with data that are ready, and the third one with data that are hardly deeper
than what the network brings. So routing fails only where the network brings a value that is too deep
to be taken apart.
-/

namespace Switchboard

variable {network : Network} {argument text : String} {reply : Reply} {failure : Failure}

theorem Weather.ready_of_respond {weather : Weather} {isOpen : Bool}
    (h : ((weather.respond argument).perform isOpen network).1 = .ok reply) :
    ∃ v, reply.payload = .ready v := by
  rw [respond] at h
  split at h
  · cases h
  · rw [Plan.perform_map] at h
    obtain ⟨finding, -, rfl⟩ := map_eq_ok_iff.1 h
    exact ⟨_, rfl⟩

theorem Calculator.ready_of_answer (h : answer argument = .ok reply) :
    ∃ v, reply.payload = .ready v := by
  rw [answer] at h
  obtain ⟨trimmed, -, h⟩ := bind_eq_ok_iff.1 h
  split at h
  · cases h
    exact ⟨_, rfl⟩
  · cases h

/-- Reading the data of a service fails only where the network brings a value that is too deep. -/
theorem Service.deep_of_unread {service : Service}
    (made : ((service.skill.respond argument).perform true network).1 = .ok reply)
    (unread : reply.payload.value = .error failure) :
    failure = .tooDeep ∧ ¬ network.Within Value.depthLimit := by
  have ready (h : ∃ v, reply.payload = .ready v) : False := by
    obtain ⟨v, same⟩ := h
    rw [same] at unread
    cases unread
  cases service with
  | weather weather => exact (ready (Weather.ready_of_respond made)).elim
  | calculator config => exact (ready (Calculator.ready_of_answer made)).elim
  | dictionary source =>
    obtain ⟨v, same, bounded⟩ := Dictionary.layered_of_respond made
    rcases Payload.value_eq_error_iff.1 unread with ⟨w, m, other, -⟩ | ⟨w, layered, deep, rfl⟩
    · cases same.symm.trans other
    · cases same.symm.trans layered
      refine ⟨rfl, fun shallow => ?_⟩
      exact absurd deep (Nat.not_lt_of_le (bounded Value.depthLimit shallow))

namespace Assistant

variable {assistant : Assistant}

/-- An assistant has a client and skills that come with the program. -/
def IsBuilt (assistant : Assistant) : Prop :=
  assistant.isOpen = true ∧ ∃ services : List Service, assistant.skills = services.map Service.skill

theorem isBuilt_of_build {config : Value} {clock : Int} (h : build config clock = .ok assistant) :
    assistant.IsBuilt := by
  obtain ⟨blueprint, -, h⟩ := bind_eq_ok_iff.1 h
  cases h
  exact ⟨rfl, blueprint.services, rfl⟩

theorem exists_service_of_matchText {services : List Service}
    (same : assistant.skills = services.map Service.skill) {decision : Decision}
    (h : assistant.matchText text = some decision) :
    ∃ service ∈ services, decision.skill = service.skill := by
  rw [matchText] at h
  split at h
  · cases h
  · have member := skill_mem_of_decide? h
    rw [same] at member
    obtain ⟨service, known, named⟩ := List.mem_map.1 member
    exact ⟨service, known, named.symm⟩

theorem deep_of_route (built : assistant.IsBuilt)
    (h : (assistant.route text network).1 = .error failure) :
    failure = .tooDeep ∧ ¬ network.Within Value.depthLimit := by
  have routed := routed_route assistant text network
  generalize assistant.route text network = result at h routed
  cases routed with
  | talk => cases h
  | answered => cases h
  | failed => cases h
  | unreadable chosen made unread =>
    cases h
    obtain ⟨opened, services, same⟩ := built
    obtain ⟨service, -, named⟩ := exists_service_of_matchText same chosen
    rw [invoke, named, opened] at made
    exact Service.deep_of_unread (congrArg Prod.fst made) unread

end Assistant

end Switchboard
