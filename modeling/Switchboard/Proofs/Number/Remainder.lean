import Mathlib.Data.Int.ModEq
import Switchboard.Expression.Token
import Switchboard.Proofs.Expression.Reported
import Switchboard.Proofs.Number.Partial

/-!
# Exact remainders

The remainder of two numbers of the format is a number of the format again, so it is never rounded,
however many times the one goes into the other. It is the only number with the sign of the dividend that
is smaller than the divisor and a whole number of divisors away from the dividend.
-/

namespace Switchboard

namespace Double

variable {s t : Bool} {m n r : Nat}

theorem isMagnitude_mod (hm : IsMagnitude m) (hn : IsMagnitude n) : IsMagnitude (m % n) := by
  obtain less | le := Nat.lt_or_ge m n
  · rwa [Nat.mod_eq_of_lt less]
  by_cases zero : n = 0
  · rwa [zero, Nat.mod_zero]
  -- The dividend is the larger number, so it lies on the grid of the divisor as well.
  have shared : spacing n ∣ m := Nat.dvd_trans (spacing_dvd_spacing_of_le le) hm.fine
  have below := Nat.mod_lt m (Nat.pos_of_ne_zero zero)
  constructor
  · have finer := spacing_dvd_spacing_of_le (Nat.le_of_lt below)
    exact Nat.dvd_trans finer ((Nat.dvd_mod_iff hn.fine).2 shared)
  · exact Nat.lt_of_le_of_lt (Nat.mod_le m n) hm.below

/-- A number is a whole number of divisors away from the dividend, and it is smaller than the divisor. -/
structure IsRemainder (dividend divisor x : ℚ) : Prop where
  multiple : ∃ k : ℤ, dividend - x = k * divisor
  smaller : |x| < |divisor|

theorem abs_exact_lt_abs_exact : |exact s r| < |exact t n| ↔ r < n := by
  rw [abs_exact, abs_exact, div_lt_div_iff_of_pos_right cast_one_pos, Nat.cast_lt]

/-- Signs make no difference to whether two numbers are a whole number of divisors apart. -/
theorem exists_multiple_iff :
    (∃ k : ℤ, exact s m - exact s r = k * exact t n) ↔ (n : ℤ) ∣ m - r := by
  have unit := cast_one_pos.ne'
  have whole (k : ℤ) : exact s m - exact s r = k * exact t n ↔
      signed s m - signed s r = signed t n * k := by
    rw [exact, exact, exact, ← sub_div, ← mul_div_assoc, div_left_inj' unit, mul_comm (k : ℚ)]
    exact_mod_cast Iff.rfl
  have divides : (∃ k : ℤ, exact s m - exact s r = k * exact t n) ↔
      signed t n ∣ signed s m - signed s r := exists_congr whole
  have divisor : signed t n ∣ signed s m - signed s r ↔ (n : ℤ) ∣ signed s m - signed s r := by
    cases t
    · exact Iff.rfl
    · exact neg_dvd
  have dividend : (n : ℤ) ∣ signed s m - signed s r ↔ (n : ℤ) ∣ m - r := by
    cases s
    · exact Iff.rfl
    · have mirrored : signed true m - signed true r = -((m : ℤ) - r) := by
        simp only [signed, if_true]
        omega
      rw [mirrored, dvd_neg]
  rw [divides, divisor, dividend]

/-- Among the numbers with the sign of the dividend there is one remainder. -/
theorem isRemainder_iff (nonzero : n ≠ 0) :
    IsRemainder (exact s m) (exact t n) (exact s r) ↔ r = m % n := by
  have positive : 0 < n := Nat.pos_of_ne_zero nonzero
  constructor
  · rintro ⟨multiple, smaller⟩
    have congruent : r ≡ m [MOD n] := Nat.modEq_iff_dvd.2 (exists_multiple_iff.1 multiple)
    rw [← congruent, Nat.mod_eq_of_lt (abs_exact_lt_abs_exact.1 smaller)]
  · rintro rfl
    have congruent : m % n ≡ m [MOD n] := Nat.mod_modEq m n
    exact ⟨exists_multiple_iff.2 (Nat.modEq_iff_dvd.1 congruent),
      abs_exact_lt_abs_exact.2 (Nat.mod_lt m positive)⟩

end Double

namespace Expression

open Double

/-- The remainder of any two numbers is defined, whether operands without one are told apart first or not.
Of two finite numbers it is exact, and it has the sign of the dividend, also where it is zero. An infinite
divisor leaves the dividend as it is, and in all other cases there is no number. -/
theorem modulo_exact (left right : Double) :
    ∃ x, Operator.applyNamed "%" left right = .ok x ∧ guardedRemainder left right = .ok x ∧
      (∀ s m t n, left = .finite s m → right = .finite t n → n ≠ 0 →
        ∃ r, x = .finite s r ∧ (IsMagnitude m → IsMagnitude n → IsMagnitude r) ∧
          ∀ u, IsRemainder (exact s m) (exact t n) (exact s u) ↔ u = r) ∧
      (∀ s m t, left = .finite s m → right = .infinite t → x = left) ∧
      (right.isZero ∨ left.isInfinite ∨ left.isNan ∨ right.isNan → x = .nan) := by
  refine ⟨left.rem right, rfl, guardedRemainder_eq left right, ?_, ?_, ?_⟩
  · rintro s m t n rfl rfl nonzero
    refine ⟨m % n, ?_, isMagnitude_mod, fun u => isRemainder_iff nonzero⟩
    rw [Double.rem, if_neg nonzero]
  · rintro s m t rfl rfl
    rfl
  · intro undefined
    cases left with
    | nan => rfl
    | infinite s => rfl
    | finite s m =>
      cases right with
      | nan => rfl
      | infinite t => simp [isZero, isInfinite, isNan] at undefined
      | finite t n =>
        have zero : n = 0 := by simpa [isZero, isInfinite, isNan] using undefined
        rw [Double.rem, if_pos zero]

/-- The greatest number, and three units below zero. -/
theorem modulo_exact_extremes :
    ofBits 0x7FEFFFFFFFFFFFFF = .finite false (0x1FFFFFFFFFFFFF <<< 2045) ∧
      ofBits 0x8000000000000003 = .finite true 3 ∧
      Operator.applyNamed "%" (.finite false (0x1FFFFFFFFFFFFF <<< 2045)) (.finite true 3) =
        .ok (.finite false 2) ∧
      IsRemainder (exact false (0x1FFFFFFFFFFFFF <<< 2045)) (exact true 3) (exact false 2) := by
  have applied : Operator.applyNamed "%" (.finite false (0x1FFFFFFFFFFFFF <<< 2045)) (.finite true 3) =
      .ok (.finite false 2) := by decide +kernel
  obtain ⟨x, found, -, finite, -⟩ :=
    modulo_exact (.finite false (0x1FFFFFFFFFFFFF <<< 2045)) (.finite true 3)
  obtain ⟨r, rfl, -, unique⟩ := finite _ _ _ _ rfl rfl (by decide)
  have same : r = 2 := by
    have equal := Except.ok.inj (found.symm.trans applied)
    injection equal
  exact ⟨by decide +kernel, by decide +kernel, applied, (unique 2).2 same.symm⟩

end Expression

end Switchboard
