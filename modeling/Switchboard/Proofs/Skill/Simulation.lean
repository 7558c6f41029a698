import Switchboard.Proofs.Skill.Degrees
import Switchboard.Proofs.Text.Lowercase

/-!
# Simulated weather

The report that is computed for a city is usable, whatever the city and the time: its temperatures are small
whole numbers, which are shown as they are, and its wind has one of eight speeds. The conditions hang on the
city only through the sum of its letters, so neither their order nor their case makes a difference.
-/

namespace Switchboard

namespace Conditions

open Double Value

variable {n : Int}

/-- A whole number is the integer that is nearest to it. -/
theorem nearest_ofInt (small : n.natAbs < leadingBit) : nearest (ofInt n) = .ok n := by
  have value := ofInt_of_small small
  have magnitude : IsMagnitude (n.natAbs * one) := by
    have given := inFormat_ofInt n
    rwa [value] at given
  have whole : exact (n < 0) (n.natAbs * one) = n := by
    rw [exact_eq_cast_iff, signed_mul, signed_natAbs]
  have steady : ¬ Overshoots n := by
    apply not_overshoots_of_small
    rw [Int.abs_eq_natAbs]
    exact_mod_cast Nat.le_of_lt small
  have shown := (shown_settled (n < 0) magnitude).steady (whole ▸ steady)
  rw [value, nearest_finite _ magnitude, shown.eq_of_int whole]

theorem degrees_int (small : n.natAbs < leadingBit) : degrees (.int n) = .ok n := by
  have finite : withinRange (.ofInt n) = .ok (.ofInt n) := by
    rw [ofInt_of_small small]
    rfl
  rw [degrees, toDouble_int, finite, ok_bind, nearest_ofInt small]

def simulatedSpeeds : List Int := [7, 11, 14, 18, 22, 25, 29, 32]

theorem pace_simulated :
    ∀ n < 8, pace (.int (2 + (n : Nat))) = .ok (simulatedSpeeds.getD n 0) := by
  decide +kernel

end Conditions

namespace Weather

open Conditions Text

def simulatedConditions (clock : Int) (city : String) : Conditions :=
  let sum := citySum city.toList
  { location := city ++ ", XX"
    temperature := 15 + (sum % 20 : Nat)
    feelsLike := 15 + (sum % 20 : Nat) - 2 + (sum % 5 : Nat)
    description := (skies.getD (sum % skies.length) ("", "")).2
    humidity := 30 + (sum % 50 : Nat)
    windSpeed := simulatedSpeeds.getD (sum % 8) 0
    clouds := (sum % 100 : Nat)
    timestamp := clock * 1000
    simulated := true }

theorem ofReport_simulatedReport (clock : Int) (city : String) :
    ofReport (simulatedReport clock city) true = .ok (simulatedConditions clock city) := by
  have location : (simulatedConditions clock city).location = city ++ ", " ++ "XX" := by
    rw [String.append_assoc]
    rfl
  have small : ∀ n : Int, n.natAbs < 100 → n.natAbs < Double.leadingBit :=
    fun n below => Nat.lt_trans below (by decide)
  have reported : Reported (simulatedReport clock city) (simulatedConditions clock city) := by
    constructor
    · exact ⟨_, rfl, _, rfl, _, rfl, location⟩
    · exact ⟨_, rfl, _, rfl, degrees_int (small _ (by omega))⟩
    · exact ⟨_, rfl, _, rfl, degrees_int (small _ (by omega))⟩
    · exact ⟨_, rfl, _, rfl, _, rfl, rfl⟩
    · exact ⟨_, rfl, _, rfl, rfl⟩
    · exact ⟨_, rfl, _, rfl, pace_simulated _ (Nat.mod_lt _ (by decide))⟩
    · exact ⟨_, rfl, _, rfl, rfl⟩
    · exact ⟨_, rfl, _, rfl, rfl⟩
  exact ofReport_of_reported reported rfl

variable {weather : Weather} {city other : String}

theorem simulate_eq (weather : Weather) (city : String) :
    weather.simulate city = .ok (simulatedConditions weather.clock city) := by
  rw [simulate, ofReport_simulatedReport]
  rfl

/-- Only the letters of a city count, each as often as it is there. -/
theorem citySum_eq_of_perm (same : (lower city.toList).Perm (lower other.toList)) :
    citySum city.toList = citySum other.toList :=
  same.foldl_eq' (fun _ _ _ _ _ => Nat.add_right_comm _ _ _) 0

theorem simulatedConditions_of_perm (clock : Int)
    (same : (lower city.toList).Perm (lower other.toList)) :
    simulatedConditions clock other =
      { simulatedConditions clock city with location := other ++ ", XX" } := by
  rw [simulatedConditions, simulatedConditions, citySum_eq_of_perm same]

/-- What simulated conditions range over, at a time in seconds. -/
structure InRanges (clock : Int) (c : Conditions) : Prop where
  temperature : 15 ≤ c.temperature ∧ c.temperature ≤ 34
  feelsLike : c.temperature - 2 ≤ c.feelsLike ∧ c.feelsLike ≤ c.temperature + 2
  humidity : 30 ≤ c.humidity ∧ c.humidity ≤ 79
  clouds : 0 ≤ c.clouds ∧ c.clouds ≤ 99
  windSpeed : 7 ≤ c.windSpeed ∧ c.windSpeed ≤ 32
  description : c.description ∈ skies.map (·.2)
  timestamp : c.timestamp = 1000 * clock

theorem inRanges_simulatedConditions (clock : Int) (city : String) :
    InRanges clock (simulatedConditions clock city) := by
  have speeds : ∀ n < 8, 7 ≤ simulatedSpeeds.getD n 0 ∧ simulatedSpeeds.getD n 0 ≤ 32 := by decide
  have texts : ∀ n < skies.length, (skies.getD n ("", "")).2 ∈ skies.map (·.2) := by decide
  simp only [simulatedConditions]
  generalize citySum city.toList = sum
  constructor
  · constructor <;> dsimp only <;> omega
  · constructor <;> dsimp only <;> omega
  · constructor <;> dsimp only <;> omega
  · constructor <;> dsimp only <;> omega
  · exact speeds _ (Nat.mod_lt _ (by decide))
  · exact texts _ (Nat.mod_lt _ (by decide))
  · exact Int.mul_comm _ _

/-- A city always has simulated conditions, which lie in their ranges. Cities whose small forms have the same
letters in another order differ in the location alone, and so do a city and its small form. -/
theorem simulates_letters (weather : Weather) (city : String) :
    ∃ c, weather.simulate city = .ok c ∧ c.location = city ++ ", XX" ∧ InRanges weather.clock c ∧
      (∀ other : String, (lower city.toList).Perm (lower other.toList) →
        weather.simulate other = .ok { c with location := other ++ ", XX" }) ∧
      weather.simulate (lowerText city) = .ok { c with location := lowerText city ++ ", XX" } := by
  have reordered : ∀ other : String, (lower city.toList).Perm (lower other.toList) →
      weather.simulate other =
        .ok { simulatedConditions weather.clock city with location := other ++ ", XX" } := by
    intro other same
    rw [simulate_eq, simulatedConditions_of_perm weather.clock same]
  refine ⟨_, simulate_eq weather city, rfl, inRanges_simulatedConditions _ _, reordered, ?_⟩
  apply reordered
  rw [lowerText, String.toList_ofList, lower_lower]

/-- A city has the weather of its anagrams. -/
theorem simulates_letters_anagram :
    (lower "Oslo".toList).Perm (lower "SOLO".toList) ∧
    ∃ c, (Weather.ofConfig [] true .null 7).simulate "Oslo" = .ok c ∧ c.timestamp = 7000 ∧
      (Weather.ofConfig [] true .null 7).simulate "SOLO" = .ok { c with location := "SOLO, XX" } := by
  have same : (lower "Oslo".toList).Perm (lower "SOLO".toList) := by decide +kernel
  obtain ⟨c, made, -, ranges, reordered, -⟩ :=
    simulates_letters (Weather.ofConfig [] true .null 7) "Oslo"
  exact ⟨same, c, made, ranges.timestamp, reordered "SOLO" same⟩

end Weather

end Switchboard
