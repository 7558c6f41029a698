import Mathlib.Algebra.Order.Field.Basic
import Switchboard.Expression.Report
import Switchboard.Proofs.Number.Nearest
import Switchboard.Proofs.Number.Plain

/-!
# What a reported number denotes

A number below `10 ^ 21` is reported by a plain numeral, which denotes the nearest multiple of a millionth:
a whole number itself, and zero where the number is too small. Numbers that are reported as the same number
have the same report, but zero has a minus where the number was below it.
-/

namespace Switchboard

namespace Double

/-- The number that a finite value is; a zero has no sign here. -/
def exact (negative : Bool) (units : Nat) : ℚ := signed negative units / one

/-- The number of millionths that is nearest to a magnitude. -/
def inMillionths (units : Nat) : Nat := roundHalfEven (units * 1000000) one

section Exact

variable {negative : Bool} {units : Nat}

theorem cast_one_pos : (0 : ℚ) < one := Nat.cast_pos.2 one_pos

theorem abs_exact : |exact negative units| = units / one := by
  have magnitude : |(signed negative units : ℚ)| = units := by
    rw [cast_signed]
    split
    · rw [abs_neg, Nat.abs_cast]
    · exact Nat.abs_cast units
  rw [exact, abs_div, magnitude, Nat.abs_cast]

theorem exact_neg_iff : exact negative units < 0 ↔ negative = true ∧ units ≠ 0 := by
  have unit := cast_one_pos
  rw [exact, div_neg_iff, cast_signed]
  cases negative <;> simp [unit, unit.le, Nat.pos_iff_ne_zero]

/-- A whole number of ones. -/
theorem exact_eq_int_iff : (∃ n : ℤ, exact negative units = n) ↔ one ∣ units := by
  have unit := cast_one_pos.ne'
  constructor
  · rintro ⟨n, whole⟩
    rw [exact, div_eq_iff unit] at whole
    have product : signed negative units = n * one := by exact_mod_cast whole
    rw [← natAbs_signed negative units, product, Int.natAbs_mul]
    exact Nat.dvd_mul_left _ _
  · rintro ⟨n, rfl⟩
    refine ⟨signed negative n, ?_⟩
    rw [exact, div_eq_iff unit]
    cases negative <;> simp [signed, mul_comm]

theorem inMillionths_mul (n : Nat) : inMillionths (n * one) = n * 1000000 := by
  rw [inMillionths, Nat.mul_right_comm]
  exact roundHalfEven_mul one_pos _

theorem inMillionths_zero : inMillionths 0 = 0 := by
  have none := inMillionths_mul 0
  rwa [Nat.zero_mul, Nat.zero_mul] at none

theorem abs_sub_exact (k : ℤ) : |k / 1000000 - exact negative units| =
    (k * one - signed negative units * 1000000).natAbs / (1000000 * one : ℚ) := by
  have scale : (0 : ℚ) < 1000000 * one := mul_pos (by norm_num) cast_one_pos
  have unit := cast_one_pos.ne'
  have difference : (k / 1000000 - exact negative units : ℚ) =
      (k * one - signed negative units * 1000000 : ℤ) / (1000000 * one) := by
    rw [exact]
    push_cast
    field_simp
  rw [difference, abs_div, abs_of_pos scale, Nat.cast_natAbs, Int.cast_abs]

theorem natAbs_eq_gap :
    (signed negative (inMillionths units) * one - signed negative units * 1000000).natAbs =
      gap (units * 1000000) one (inMillionths units) := by
  cases negative
  · simp [signed, gap]
  · have product : -(inMillionths units : ℤ) * one = -(inMillionths units * one : ℤ) := Int.neg_mul _ _
    simp only [signed, gap, if_true]
    push_cast
    omega

end Exact

end Double

namespace Expression

open Double PlainNumeral

variable {negative : Bool} {units : Nat}

theorem abs_exact_lt_iff : |exact negative units| < 10 ^ 21 ↔ units < hugeUnits := by
  rw [abs_exact, div_lt_iff₀ cast_one_pos, hugeUnits]
  exact_mod_cast Iff.rfl

theorem intDigits_signed (negative : Bool) (n : Nat) :
    intDigits (Double.signed negative n) = minus (negative && n != 0) ++ digitsOf n := by
  rw [intDigits, natAbs_signed]
  cases negative with
  | false => simp [Double.signed, minus]
  | true =>
    cases n with
    | zero => rfl
    | succ n =>
      have below : Double.signed true (n + 1) < 0 := Int.neg_neg_of_pos (Int.natCast_pos.2 n.succ_pos)
      rw [if_pos below]
      rfl

/-- Zero itself has no minus. A number that is rounded to zero keeps its own. -/
def reportedNumeral (negative : Bool) (units : Nat) : PlainNumeral :=
  ofMillionths (negative && units != 0) (inMillionths units)

theorem reportedNumeral_of_ne_zero (negative : Bool) (nonzero : units ≠ 0) :
    reportedNumeral negative units = ofMillionths negative (inMillionths units) := by
  rw [reportedNumeral, bne_iff_ne.2 nonzero, Bool.and_true]

theorem value_reportedNumeral (negative : Bool) (units : Nat) :
    (reportedNumeral negative units).value = Double.signed negative (inMillionths units) / 1000000 := by
  by_cases zero : units = 0
  · rw [reportedNumeral, value_ofMillionths, zero, inMillionths_zero]
    cases negative <;> rfl
  · rw [reportedNumeral_of_ne_zero negative zero, value_ofMillionths]

theorem text_reportedNumeral (small : |exact negative units| < 10 ^ 21) :
    (report (.finite negative units)).toList = (reportedNumeral negative units).text := by
  have bounded := Nat.not_le.2 (abs_exact_lt_iff.1 small)
  rw [report, String.toList_ofList, reportFinite, if_neg bounded]
  split
  · rename_i whole
    obtain ⟨n, rfl⟩ := Nat.dvd_of_mod_eq_zero whole
    have quotient : n * one / one = n := Nat.mul_div_cancel n Double.one_pos
    have same : (n * one != 0) = (n != 0) := by
      rw [Bool.eq_iff_iff, bne_iff_ne, bne_iff_ne, mul_ne_zero_iff]
      exact and_iff_left Double.one_pos.ne'
    rw [Nat.mul_comm one n, truncate, quotient, intDigits_signed, reportedNumeral, inMillionths_mul,
      text_ofMillionths_mul, same]
  · rename_i broken
    have nonzero : units ≠ 0 := by
      rintro rfl
      exact broken (Nat.zero_mod one)
    rw [reportedNumeral_of_ne_zero negative nonzero, text_ofMillionths]
    rfl

theorem denotes_report_iff (small : |exact negative units| < 10 ^ 21) {x : ℚ} :
    Denotes (report (.finite negative units)).toList x ↔ (reportedNumeral negative units).value = x := by
  have text := text_reportedNumeral small
  constructor
  · rintro ⟨p, same, rfl⟩
    rw [PlainNumeral.text_inj (same.trans text)]
  · intro value
    exact ⟨_, text.symm, value⟩

/-- A number below `10 ^ 21` is reported by a plain numeral. A whole number is the one that is denoted, and
otherwise no multiple of a millionth is nearer to the number than the one that is denoted. -/
theorem report_nearest (small : |exact negative units| < 10 ^ 21) :
    ∃ x, Denotes (report (.finite negative units)).toList x ∧
      ((∃ n : ℤ, exact negative units = n) → x = exact negative units) ∧
      (∃ k : ℤ, x = k / 1000000) ∧ |x - exact negative units| ≤ 5 / 10 ^ 7 ∧
      ∀ k : ℤ, |x - exact negative units| ≤ |k / 1000000 - exact negative units| := by
  have value := value_reportedNumeral negative units
  have scale : (0 : ℚ) < 1000000 * one := mul_pos (by norm_num) cast_one_pos
  refine ⟨_, (denotes_report_iff small).2 value, ?_, ⟨_, rfl⟩, ?_, fun k => ?_⟩
  · intro whole
    obtain ⟨n, rfl⟩ := exact_eq_int_iff.1 whole
    rw [Nat.mul_comm one n, inMillionths_mul, exact, div_eq_div_iff (by norm_num) cast_one_pos.ne']
    cases negative <;> simp [Double.signed, mul_right_comm]
  · have half : (2 * gap (units * 1000000) one (inMillionths units) : ℚ) ≤ one := by
      exact_mod_cast two_mul_gap_roundHalfEven_le Double.one_pos (units * 1000000)
    rw [abs_sub_exact, natAbs_eq_gap, div_le_div_iff₀ scale (by norm_num)]
    linarith
  · rw [abs_sub_exact, abs_sub_exact, natAbs_eq_gap]
    apply div_le_div_of_nonneg_right _ scale.le
    rw [Nat.cast_le]
    cases negative with
    | false => exact gap_roundHalfEven_le_natAbs Double.one_pos (units * 1000000) k
    | true =>
      have mirrored := gap_roundHalfEven_le_natAbs Double.one_pos (units * 1000000) (-k)
      have product : -k * one = -(k * one) := Int.neg_mul _ _
      rw [product] at mirrored
      simp only [Double.signed, if_true, inMillionths] at mirrored ⊢
      omega

theorem report_nearest_third :
    ofBits 0x3FD5555555555555 = .finite false (0x15555555555555 <<< 1020) ∧
      |exact false (0x15555555555555 <<< 1020)| < 10 ^ 21 ∧
      ∃ x, Denotes "0.333333".toList x ∧ |x - exact false (0x15555555555555 <<< 1020)| ≤ 5 / 10 ^ 7 := by
  have double : ofBits 0x3FD5555555555555 = .finite false (0x15555555555555 <<< 1020) := by decide +kernel
  have small : |exact false (0x15555555555555 <<< 1020)| < 10 ^ 21 :=
    abs_exact_lt_iff.2 (by decide +kernel)
  have reported : report (.finite false (0x15555555555555 <<< 1020)) = "0.333333" := by decide +kernel
  obtain ⟨x, denoted, -, -, near, -⟩ := report_nearest small
  rw [reported] at denoted
  exact ⟨double, small, x, denoted, near⟩

theorem inMillionths_eq_zero_iff : inMillionths units = 0 ↔ |exact negative units| ≤ 5 / 10 ^ 7 := by
  have all : gap (units * 1000000) one 0 = units * 1000000 := by
    simp only [gap]
    omega
  have near : inMillionths units = 0 ↔ 2 * (units * 1000000) ≤ one := by
    rw [inMillionths, roundHalfEven_eq_iff Double.one_pos, all]
    omega
  rw [near, abs_exact, div_le_div_iff₀ cast_one_pos (by norm_num), ← Nat.cast_le (α := ℚ)]
  push_cast
  constructor <;> intro bound <;> linarith

/-- Two reports of the same number are the same text, unless that number is zero. Numbers of at most half a
millionth are reported as zero, and it has a minus if they are negative. -/
theorem report_canonical {s t : Bool} {m n : Nat} (small : |exact s m| < 10 ^ 21)
    (small' : |exact t n| < 10 ^ 21) {x : ℚ} (denoted : Denotes (report (.finite s m)).toList x)
    (denoted' : Denotes (report (.finite t n)).toList x) :
    (x ≠ 0 → report (.finite s m) = report (.finite t n)) ∧
      (x = 0 ↔ |exact s m| ≤ 5 / 10 ^ 7) ∧
      (x = 0 → report (.finite s m) = if exact s m < 0 then "-0" else "0") := by
  have text := text_reportedNumeral small
  have value := (denotes_report_iff small).1 denoted
  refine ⟨fun nonzero => ?_, ?_, fun zero => ?_⟩
  · have value' := (denotes_report_iff small').1 denoted'
    rw [← value] at nonzero
    have same := eq_of_value_eq nonzero (value.trans value'.symm)
    rw [← String.toList_inj, text, text_reportedNumeral small', same]
  · rw [← value, value_eq_zero_iff, reportedNumeral, millionths_ofMillionths, inMillionths_eq_zero_iff]
  · rw [zero] at value
    rw [← String.toList_inj, text, text_of_value_eq_zero value, reportedNumeral, negative_ofMillionths]
    by_cases below : exact s m < 0
    · obtain ⟨rfl, nonzero⟩ := exact_neg_iff.1 below
      rw [if_pos below, Bool.true_and, bne_iff_ne.2 nonzero]
      rfl
    · have plain : (s && m != 0) = false := by
        rw [Bool.eq_false_iff, ne_eq, Bool.and_eq_true, bne_iff_ne]
        exact fun signed => below (exact_neg_iff.2 signed)
      rw [if_neg below, plain]
      rfl

/-- Two neighbours, the lower of which is what `0.3` reads as. -/
theorem report_canonical_sum :
    ofBits 0x3FD3333333333334 = .finite false (0x13333333333334 <<< 1020) ∧
      ofBits 0x3FD3333333333333 = .finite false (0x13333333333333 <<< 1020) ∧
      Denotes (report (.finite false (0x13333333333334 <<< 1020))).toList (3 / 10) ∧
      Denotes (report (.finite false (0x13333333333333 <<< 1020))).toList (3 / 10) ∧
      report (.finite false (0x13333333333334 <<< 1020)) =
        report (.finite false (0x13333333333333 <<< 1020)) := by
  have small : |exact false (0x13333333333334 <<< 1020)| < 10 ^ 21 :=
    abs_exact_lt_iff.2 (by decide +kernel)
  have small' : |exact false (0x13333333333333 <<< 1020)| < 10 ^ 21 :=
    abs_exact_lt_iff.2 (by decide +kernel)
  have count : inMillionths (0x13333333333334 <<< 1020) = 300000 := by decide +kernel
  have count' : inMillionths (0x13333333333333 <<< 1020) = 300000 := by decide +kernel
  have denoted : Denotes (report (.finite false (0x13333333333334 <<< 1020))).toList (3 / 10) := by
    rw [denotes_report_iff small, value_reportedNumeral, count, cast_signed]
    norm_num
  have denoted' : Denotes (report (.finite false (0x13333333333333 <<< 1020))).toList (3 / 10) := by
    rw [denotes_report_iff small', value_reportedNumeral, count', cast_signed]
    norm_num
  exact ⟨by decide +kernel, by decide +kernel, denoted, denoted',
    (report_canonical small small' denoted denoted').1 (by norm_num)⟩

/-- A tenth of a millionth below zero is reported as zero, but not by the text of zero. -/
theorem report_tinyNegative :
    ofBits 0xBE7AD7F29ABCAF48 = .finite true (0x1AD7F29ABCAF48 <<< 998) ∧
      |exact true (0x1AD7F29ABCAF48 <<< 998)| < 10 ^ 21 ∧
      report (.finite true (0x1AD7F29ABCAF48 <<< 998)) = "-0" ∧ Denotes "-0".toList 0 ∧
      ofBits 0x8000000000000000 = .finite true 0 ∧ |exact true 0| < 10 ^ 21 ∧
      report (.finite true 0) = "0" ∧ Denotes "0".toList 0 := by
  have zero (negative : Bool) : (ofMillionths negative 0).value = 0 := by
    rw [value_ofMillionths, cast_signed]
    cases negative <;> simp
  refine ⟨by decide +kernel, abs_exact_lt_iff.2 (by decide +kernel), by decide +kernel,
    ⟨_, ?_, zero true⟩, by decide +kernel, abs_exact_lt_iff.2 (by decide +kernel), by decide +kernel,
    ⟨_, ?_, zero false⟩⟩
  · exact text_ofMillionths_mul true 0
  · exact text_ofMillionths_mul false 0

end Expression

end Switchboard
