import Switchboard.Http.Exchange
import Switchboard.Proofs.Data.Attempt

/-!
# What a plan learns from the network

A plan takes one response at most, and what it learns is a value, that the source is unavailable, or
that the response is nested too deep to be read.
-/

namespace Switchboard

variable {α β : Type}

inductive Reception : Except Failure Value → Prop
  | value (v : Value) : Reception (.ok v)
  | unavailable (message : String) (skill : Option String) (status : Option Nat) :
    Reception (.error (.unavailable message skill status))
  | tooDeep : Reception (.error .tooDeep)

theorem Response.reception_value (url : String) (response : Response) :
    Reception (response.value url) := by
  cases response with
  | failed message => exact .unavailable _ _ _
  | received status body =>
    rw [value]
    split
    · exact .unavailable _ _ _
    · split
      · exact .value _
      · exact .tooDeep
      · exact .unavailable _ _ _

/-- Only a successful status with a readable body brings a value. -/
theorem Response.received_of_value {url : String} {response : Response} {v : Value}
    (h : response.value url = .ok v) : ∃ status body, response = .received status body ∧
      (200 ≤ status ∧ status < 300) ∧ Json.readBytes body = .ok v := by
  cases response with
  | failed message => cases h
  | received status body =>
    rw [value] at h
    split at h
    · cases h
    · refine ⟨status, body, rfl, by omega, ?_⟩
      split at h
      · cases h
        assumption
      · cases h
      · cases h

namespace Network

variable {network : Network} {request : Request} {v : Value}

/-- A response that the network still has brings a value. -/
def Brings (network : Network) (v : Value) : Prop :=
  ∃ response ∈ network.responses, ∃ url, response.value url = .ok v

def Within (bound : Nat) (network : Network) : Prop := ∀ v, network.Brings v → v.depth ≤ bound

def reception (network : Network) (request : Request) : Except Failure Value :=
  (network.get true request).1

theorem reception_get (network : Network) (request : Request) :
    Reception (network.reception request) :=
  Response.reception_value request.url _

theorem brings_of_reception (h : network.reception request = .ok v) : network.Brings v := by
  obtain ⟨responses, requests⟩ := network
  cases responses with
  | nil => cases h
  | cons response rest => exact ⟨response, List.mem_cons_self, request.url, h⟩

/-- A request that brings a value has taken the response with that value. -/
theorem get_of_reception (h : network.reception request = .ok v) :
    ∃ status body rest, network.responses = .received status body :: rest ∧
      (200 ≤ status ∧ status < 300) ∧ Json.readBytes body = .ok v ∧
      (network.get true request).2 = ⟨rest, network.requests ++ [request]⟩ := by
  obtain ⟨responses, requests⟩ := network
  cases responses with
  | nil => cases h
  | cons response rest =>
    obtain ⟨status, body, rfl, success, read⟩ := Response.received_of_value h
    exact ⟨status, body, rest, rfl, success, read, rfl⟩

theorem requests_get (network : Network) (isOpen : Bool) (request : Request) :
    (network.get isOpen request).2.requests = network.requests ++ [request] := by
  obtain ⟨responses, requests⟩ := network
  cases isOpen with
  | false => rfl
  | true => cases responses <;> rfl

theorem responses_get (network : Network) (isOpen : Bool) (request : Request) :
    (network.get isOpen request).2.responses <:+ network.responses := by
  obtain ⟨responses, requests⟩ := network
  cases isOpen with
  | false => exact List.suffix_rfl
  | true =>
    cases responses with
    | nil => exact List.suffix_rfl
    | cons response rest => exact List.suffix_cons response rest

end Network

namespace Plan

variable {plan : Plan α} {network : Network} {v : Value}

theorem perform_andThen (plan : Plan α) (f : Except Failure α → Except Failure β) (isOpen : Bool)
    (network : Network) :
    (plan.andThen f).perform isOpen network =
      (f (plan.perform isOpen network).1, (plan.perform isOpen network).2) := by
  cases plan <;> rfl

theorem perform_map (plan : Plan α) (f : α → β) (isOpen : Bool) (network : Network) :
    (plan.map f).perform isOpen network =
      ((plan.perform isOpen network).1.map f, (plan.perform isOpen network).2) :=
  perform_andThen plan _ isOpen network

/-- Whether a plan ends well can be decided where its result cannot be compared. -/
theorem exists_ok {isOpen : Bool} (h : (plan.perform isOpen network).1.toOption.isSome) :
    ∃ a, plan.perform isOpen network = (.ok a, (plan.perform isOpen network).2) := by
  obtain ⟨a, given⟩ := Option.isSome_iff_exists.1 h
  exact ⟨a, Prod.ext (eq_ok_of_toOption given) rfl⟩

theorem responses_perform (plan : Plan α) (isOpen : Bool) (network : Network) :
    (plan.perform isOpen network).2.responses <:+ network.responses := by
  cases plan with
  | answer result => exact List.suffix_rfl
  | ask request next => exact Network.responses_get network isOpen request

/-- A plan leaves no response behind that was not there before. -/
theorem brings_of_perform {isOpen : Bool} (h : (plan.perform isOpen network).2.Brings v) :
    network.Brings v := by
  obtain ⟨response, left, brings⟩ := h
  exact ⟨response, (responses_perform plan isOpen network).subset left, brings⟩

end Plan

end Switchboard
