import Switchboard.Proofs.Data.Attempt
import Switchboard.Proofs.Http.Exchange
import Switchboard.Skill.Source

/-!
# What a lookup settles for

The simulation stands in for a source that is unavailable or has no data, and for nothing else. Neither
the network nor a lookup finds fault with the argument.
-/

namespace Switchboard

variable {α β : Type}

def Failure.IsUnavailable (failure : Failure) : Prop :=
  ∃ message skill status, failure = .unavailable message skill status

theorem Failure.ofMismatch_eq_ok {x : Except Mismatch α} {a : α}
    (h : Failure.ofMismatch x = .ok a) : x = .ok a := by
  cases x <;> cases h
  rfl

theorem Source.connected_of_live {source : Source} (h : source.live = true) :
    source.connected = true := by
  rw [live, Bool.and_eq_true] at h
  exact h.1

/-- A source has nothing to give. -/
def Lacks (received : Except Failure (Option α)) : Prop :=
  received = .ok none ∨ ∃ failure, received = .error failure ∧ failure.IsUnavailable

theorem perform_lookup (fetch : Plan (Option α)) (simulation : Except Failure α) (isOpen : Bool)
    (network : Network) :
    (lookup true fetch simulation).perform isOpen network =
      (settleLookup simulation (fetch.perform isOpen network).1,
        (fetch.perform isOpen network).2) := by
  rw [lookup, if_pos rfl, Plan.perform_andThen]

theorem settleLookup_of_lacks {simulation : Except Failure α}
    {received : Except Failure (Option α)} (h : Lacks received) :
    settleLookup simulation received = simulation.map (⟨·, true⟩) := by
  rcases h with rfl | ⟨_, rfl, _, _, _, rfl⟩ <;> rfl

/-- A finding is what the source has given, or it is simulated because the source has nothing to give. -/
theorem settleLookup_eq_ok_iff {simulation : Except Failure α}
    {received : Except Failure (Option α)} {finding : Finding α} :
    settleLookup simulation received = .ok finding ↔
      received = .ok (some finding.data) ∧ finding.simulated = false ∨
        Lacks received ∧ simulation = .ok finding.data ∧ finding.simulated = true := by
  constructor
  · intro settled
    have simulated : simulation.map (⟨·, true⟩) = .ok finding →
        simulation = .ok finding.data ∧ finding.simulated = true := by
      intro mapped
      obtain ⟨data, made, same⟩ := map_eq_ok_iff.1 mapped
      rw [← same]
      exact ⟨made, rfl⟩
    match received with
    | .ok (some data) =>
      cases settled
      exact .inl ⟨rfl, rfl⟩
    | .ok none => exact .inr ⟨.inl rfl, simulated settled⟩
    | .error (.unavailable _ _ _) =>
      exact .inr ⟨.inr ⟨_, rfl, _, _, _, rfl⟩, simulated settled⟩
  · obtain ⟨data, simulated⟩ := finding
    rintro (⟨rfl, rfl⟩ | ⟨lacks, rfl, rfl⟩)
    · rfl
    · rw [settleLookup_of_lacks lacks]
      rfl

/-- What is found comes from the source or from the simulation. -/
theorem data_of_settleLookup {simulation : Except Failure α}
    {received : Except Failure (Option α)} {finding : Finding α}
    (h : settleLookup simulation received = .ok finding) :
    received = .ok (some finding.data) ∨ simulation = .ok finding.data := by
  rcases settleLookup_eq_ok_iff.1 h with ⟨given, -⟩ | ⟨-, made, -⟩
  · exact .inl given
  · exact .inr made

theorem data_of_lookup {live : Bool} {fetch : Plan (Option α)} {simulation : Except Failure α}
    {isOpen : Bool} {network : Network} {finding : Finding α}
    (h : ((lookup live fetch simulation).perform isOpen network).1 = .ok finding) :
    (fetch.perform isOpen network).1 = .ok (some finding.data) ∨ simulation = .ok finding.data := by
  cases live with
  | false =>
    have settled : settleLookup simulation (.ok none) = .ok finding := h
    exact .inr ((data_of_settleLookup settled).resolve_left nofun)
  | true =>
    rw [perform_lookup] at h
    exact data_of_settleLookup h

/-- The argument has left nothing usable to work with. -/
def Refused (result : Except Failure α) : Prop :=
  ∃ message skill, result = .error (.invalidArgument message skill)

theorem not_refused_ok (a : α) : ¬ Refused (.ok a) := nofun

theorem not_refused_mismatch (m : Mismatch) :
    ¬ Refused (.error (.mismatch m) : Except Failure α) := nofun

theorem not_refused_unavailable (message : String) (skill : Option String) (status : Option Nat) :
    ¬ Refused (.error (.unavailable message skill status) : Except Failure α) := nofun

/-- A failure refuses the argument whatever the result would have been. -/
theorem Refused.of_error {failure : Failure} (h : Refused (.error failure : Except Failure β)) :
    Refused (.error failure : Except Failure α) := by
  obtain ⟨message, skill, same⟩ := h
  cases same
  exact ⟨message, skill, rfl⟩

theorem not_refused_bind {x : Except Failure α} {f : α → Except Failure β} (first : ¬ Refused x)
    (next : ∀ a, ¬ Refused (f a)) : ¬ Refused (x >>= f) := by
  cases x with
  | ok a => exact next a
  | error failure => exact mt Refused.of_error first

theorem not_refused_map {x : Except Failure α} (f : α → β) (first : ¬ Refused x) :
    ¬ Refused (x.map f) := by
  cases x with
  | ok a => exact not_refused_ok (f a)
  | error failure => exact mt Refused.of_error first

theorem not_refused_ofMismatch (x : Except Mismatch α) : ¬ Refused (Failure.ofMismatch x) := by
  cases x with
  | ok a => exact not_refused_ok a
  | error m => exact not_refused_mismatch m

theorem not_refused_get (network : Network) (isOpen : Bool) (request : Request) :
    ¬ Refused (network.get isOpen request).1 := by
  cases isOpen with
  | false => exact nofun
  | true =>
    have received := network.reception_get request
    rw [Network.reception] at received
    rintro ⟨message, skill, same⟩
    rw [same] at received
    cases received

theorem not_refused_settleLookup {simulation : Except Failure α}
    {received : Except Failure (Option α)} (simulated : ¬ Refused simulation)
    (live : ¬ Refused received) : ¬ Refused (settleLookup simulation received) := by
  unfold settleLookup
  split
  · exact not_refused_ok _
  · exact not_refused_map _ simulated
  · exact not_refused_map _ simulated
  · exact mt Refused.of_error live

theorem not_refused_lookup {fetch : Plan (Option α)} {simulation : Except Failure α}
    {isOpen : Bool} {network : Network} (live : Bool) (simulated : ¬ Refused simulation)
    (fetched : ¬ Refused (fetch.perform isOpen network).1) :
    ¬ Refused ((lookup live fetch simulation).perform isOpen network).1 := by
  cases live with
  | false => exact not_refused_map _ simulated
  | true =>
    rw [perform_lookup]
    exact not_refused_settleLookup simulated fetched

end Switchboard
