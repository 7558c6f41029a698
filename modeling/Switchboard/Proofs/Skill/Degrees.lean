import Switchboard.Proofs.Data.Precision
import Switchboard.Proofs.Number.HalfUp
import Switchboard.Proofs.Skill.Report

/-!
# Whole degrees

Temperatures are shown in whole degrees. A temperature is rounded half up, apart from the few numbers that are
overshot when a half is added to them: for those the next degree is shown. No finite number is without whole
degrees.
-/

namespace Switchboard.Conditions

open Double Value

variable {s : Bool} {m : Nat} {n : Int} {x : Double} {v w report : Value} {simulated : Bool} {c : Conditions}

theorem half_eq : half = finite false oneHalf := by decide +kernel

theorem nearest_finite (s : Bool) (h : IsMagnitude m) :
    nearest (finite s m) = .ok (settled (plusHalf s m) / one) := by
  obtain ⟨negative, units, sum, value⟩ := add_oneHalf s h
  rw [nearest, half_eq, sum, floor?, Double.floor, value]

/-- Only finite numbers are rounded. -/
theorem eq_finite_of_nearest (h : nearest x = .ok n) : ∃ s m, x = finite s m := by
  rw [nearest, half_eq] at h
  cases x with
  | nan => cases h
  | infinite s => cases h
  | finite s m => exact ⟨s, m, rfl⟩

/-- An integer is shown for a number: the nearest one with a half going up, or else the one above it. -/
structure Shown (x : ℚ) (n : ℤ) : Prop where
  steady : ¬ Overshoots x → HalfUp x n
  overshot : Overshoots x → HalfUp x (n - 1)

theorem shown_settled (s : Bool) (h : IsMagnitude m) :
    Shown (exact s m) (settled (plusHalf s m) / one) := by
  constructor
  · intro steady
    rw [halfUp_exact_iff]
    exact (settled_plusHalf_of_not_overshot h.fine (mt overshoots_exact_iff.2 steady)).symm
  · intro overshot
    rw [halfUp_exact_iff, settled_plusHalf_of_overshot (overshoots_exact_iff.1 overshot)]
    exact (Int.add_sub_cancel _ 1).symm

theorem shown_of_nearest (h : IsMagnitude m) (rounded : nearest (finite s m) = .ok n) :
    Shown (exact s m) n := by
  cases (nearest_finite s h).symm.trans rounded
  exact shown_settled s h

/-- A value counts as a number for which an integer is shown. -/
def Gives (n : Int) (v : Value) : Prop :=
  ∃ s m, v.toDouble = .ok (finite s m) ∧ IsMagnitude m ∧ Shown (exact s m) n

theorem gives_of_degrees (precise : v.Precise) (h : degrees v = .ok n) : Gives n v := by
  obtain ⟨x, read, rounded⟩ := bind_eq_ok_iff.1 h
  obtain ⟨s, m, rfl⟩ := eq_finite_of_nearest rounded
  have magnitude : IsMagnitude m := precise.inFormat read
  exact ⟨s, m, read, magnitude, shown_of_nearest magnitude rounded⟩

theorem gives_at {path : List String} (precise : report.Precise)
    (h : At (degrees · = .ok n) path report) : At (Gives n) path report := by
  induction path generalizing report with
  | nil => exact gives_of_degrees precise h
  | cons name path ih =>
    obtain ⟨inner, found, h⟩ := h
    exact ⟨inner, found, ih (precise.field found) h⟩

theorem precise_simulatedReport (clock : Int) (city : String) :
    (Weather.simulatedReport clock city).Precise := by
  have int (n : Int) : (int n).Precise := .scalar fun _ h => by cases h
  have text (s : String) : (text s).Precise := .scalar fun _ h => by cases h
  refine .record ?_
  simp only [List.forall_mem_cons]
  refine ⟨text _, .record ?_, .record ?_, .list ?_, .record ?_, .record ?_, int _, List.forall_mem_nil _⟩
  · simp [text]
  · simp [int]
  · simp only [List.forall_mem_singleton]
    exact .record (by simp [text])
  · simp [int]
  · simp [int]

/-- The reports that conditions are read from: what a response holds, and what is simulated. -/
inductive Payload : Value → Prop
  | received {body : List Nat} {report : Value} (read : Json.readBytes body = .ok report) : Payload report
  | simulated (clock : Int) (city : String) : Payload (Weather.simulatedReport clock city)

theorem Payload.precise (h : Payload report) : report.Precise := by
  cases h with
  | received read => exact Json.precise_readBytes read
  | simulated clock city => exact precise_simulatedReport clock city

/-- Every finite number has an integer that is shown for it. It is the number itself where that is an integer
and not overshot. The temperatures of all conditions are shown for finite numbers in the report. -/
theorem degrees_half_up (s : Bool) (magnitude : IsMagnitude m) :
    (∃ n, nearest (.finite s m) = .ok n ∧ Shown (exact s m) n ∧
      ∀ k : ℤ, exact s m = k → ¬ Overshoots k → n = k) ∧
    ∀ report simulated c, Payload report → ofReport report simulated = .ok c →
      At (Gives c.temperature) ["main", "temp"] report ∧
        At (Gives c.feelsLike) ["main", "feels_like"] report := by
  constructor
  · have shown := shown_settled s magnitude
    refine ⟨_, nearest_finite s magnitude, shown, fun k whole steady => ?_⟩
    exact (shown.steady (whole ▸ steady)).eq_of_int whole
  · intro report simulated c payload read
    obtain ⟨reported, -⟩ := reported_of_ofReport read
    exact ⟨gives_at payload.precise reported.temperature, gives_at payload.precise reported.feelsLike⟩

def measured : String := "\x7b\"name\":\"Rome\",\"sys\":\x7b\"country\":\"IT\"\x7d,
  \"main\":\x7b\"temp\":0.49999999999999994,\"feels_like\":-2.5,\"humidity\":40\x7d,
  \"weather\":[\x7b\"description\":\"clear sky\"\x7d],\"wind\":\x7b\"speed\":2\x7d,
  \"clouds\":\x7b\"all\":0\x7d,\"dt\":0\x7d"

def measuredReport : Value := .record [
  ("name", .text "Rome"), ("sys", .record [("country", .text "IT")]),
  ("main", .record [("temp", .float (.finite false belowHalf)),
    ("feels_like", .float (.finite true (5 * oneHalf))), ("humidity", .int 40)]),
  ("weather", .list [.record [("description", .text "clear sky")]]),
  ("wind", .record [("speed", .int 2)]), ("clouds", .record [("all", .int 0)]), ("dt", .int 0)]

def measuredConditions : Conditions where
  location := "Rome, IT"
  temperature := 1
  feelsLike := -2
  description := "clear sky"
  humidity := 40
  windSpeed := 7
  clouds := 0
  timestamp := 0
  simulated := false

set_option maxRecDepth 4000 in
theorem payload_measuredReport : Payload measuredReport := by
  have characters : measured = String.ofList _ := rfl
  have read : Json.readBytes (measured.toList.map Char.toNat) = .ok measuredReport := by
    rw [characters, String.toList_ofList]
    decide +kernel
  exact .received read

theorem ofReport_measuredReport : ofReport measuredReport false = .ok measuredConditions := by
  decide +kernel

/-- Two degrees and a half below zero are two degrees below zero, as a number and in a report. -/
theorem degrees_half_up_measured :
    IsMagnitude (5 * oneHalf) ∧ exact true (5 * oneHalf) = -5 / 2 ∧ ¬ Overshoots (-5 / 2) ∧
      nearest (.finite true (5 * oneHalf)) = .ok (-2) ∧ HalfUp (-5 / 2) (-2) ∧
      Payload measuredReport ∧ ofReport measuredReport false = .ok measuredConditions ∧
      At (Gives 1) ["main", "temp"] measuredReport ∧
        At (Gives (-2)) ["main", "feels_like"] measuredReport := by
  have magnitude : IsMagnitude (5 * oneHalf) := ⟨by decide +kernel, by decide +kernel⟩
  have value : exact true (5 * oneHalf) = -5 / 2 := by
    rw [exact, signed, if_pos rfl, one_eq]
    have positive : (0 : ℚ) < oneHalf := Nat.cast_pos.2 oneHalf_pos
    push_cast
    field_simp
  have steady : ¬ Overshoots (-5 / 2) := by
    rintro (below | ⟨k, whole, -⟩)
    · norm_num at below
    · have double : ((2 * k : ℤ) : ℚ) = (-5 : ℤ) := by
        push_cast
        linarith
      have double := Int.cast_inj.1 double
      omega
  have rounded : nearest (.finite true (5 * oneHalf)) = .ok (-2) := by decide +kernel
  obtain ⟨⟨n, found, shown, -⟩, reports⟩ := degrees_half_up true magnitude
  cases found.symm.trans rounded
  rw [value] at shown
  exact ⟨magnitude, value, steady, rounded, shown.steady steady, payload_measuredReport,
    ofReport_measuredReport, reports _ _ _ payload_measuredReport ofReport_measuredReport⟩

/-- The greatest number below a half is shown as one degree, and an odd integer next to which there are no
halves as the integer above it. Neither is the nearest one. -/
theorem degrees_belowHalf :
    Payload measuredReport ∧ ofReport measuredReport false = .ok measuredConditions ∧
      At (·.toDouble = .ok (.finite false belowHalf)) ["main", "temp"] measuredReport ∧
      measuredConditions.temperature = 1 ∧ ¬ HalfUp (exact false belowHalf) 1 ∧
      nearest (.ofInt 4503599627370497) = .ok 4503599627370498 ∧
        ¬ HalfUp 4503599627370497 4503599627370498 := by
  refine ⟨payload_measuredReport, ofReport_measuredReport, ⟨_, rfl, _, rfl, rfl⟩, rfl, ?_,
    by decide +kernel, ?_⟩
  · rintro ⟨lower, -⟩
    rw [exact_belowHalf] at lower
    norm_num at lower
  · rintro ⟨lower, -⟩
    norm_num at lower

end Switchboard.Conditions
