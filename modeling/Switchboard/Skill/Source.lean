import Switchboard.Skill.Basic

/-!
# Live sources with simulated data behind them

A lookup asks the live source, if that is switched on. Where the source is not available or has
nothing usable, simulated data take the place of live data, and the answer says so.
-/

namespace Switchboard

structure Source where
  config : Fields
  /-- Whether there is a client to ask with. -/
  connected : Bool
  baseUrl : String

namespace Source

def ofConfig (config : Fields) (connected : Bool) (defaultUrl : String) : Source where
  config := config
  connected := connected
  baseUrl :=
    let url := ((Fields.get? config "base_url").getD (.text defaultUrl)).display
    String.ofList (Text.dropEndWhile (· == '/') url.toList)

def live (source : Source) : Bool :=
  source.connected && ((Fields.get? source.config "live").getD (.bool true)).truthy

end Source

/-- What a lookup found, and whether it is simulated. -/
structure Finding (α : Type) where
  data : α
  simulated : Bool

/-- Settles what a live source brought: simulated data stand in for what is unavailable. -/
def settleLookup {α : Type} (simulation : Except Failure α) :
    Except Failure (Option α) → Except Failure (Finding α)
  | .ok (some data) => .ok ⟨data, false⟩
  | .ok none => simulation.map (⟨·, true⟩)
  | .error (.unavailable _ _ _) => simulation.map (⟨·, true⟩)
  | .error failure => .error failure

def lookup {α : Type} (live : Bool) (fetch : Plan (Option α)) (simulation : Except Failure α) :
    Plan (Finding α) :=
  if live then fetch.andThen (settleLookup simulation)
  else .answer (simulation.map (⟨·, true⟩))

def noClient (skill : String) : Failure :=
  .unavailable "No HTTP client configured" (some skill) none

def withNote (note : String) (simulated : Bool) (text : String) : String :=
  if simulated then text ++ "\n" ++ note else text

end Switchboard
