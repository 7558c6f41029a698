import Switchboard.Number.Decimal

/-!
# How much rounding adds

The distances between neighbouring numbers are powers of two. Rounding adds at most such a distance, which is
no more than the number itself.
-/

namespace Switchboard.Double

theorem one_shiftLeft_add (a b : Nat) : 1 <<< (a + b) = 1 <<< a * 1 <<< b := by
  rw [Nat.one_shiftLeft, Nat.one_shiftLeft, Nat.one_shiftLeft, Nat.pow_add]

theorem one_shiftLeft_dvd {a b : Nat} (le : a ≤ b) : 1 <<< a ∣ 1 <<< b := by
  rw [Nat.one_shiftLeft, Nat.one_shiftLeft]
  exact Nat.pow_dvd_pow 2 le

theorem one_shiftLeft_pos (a : Nat) : 0 < 1 <<< a := by
  rw [Nat.one_shiftLeft]
  exact Nat.two_pow_pos a

theorem one_shiftLeft_le {a b : Nat} (le : a ≤ b) : 1 <<< a ≤ 1 <<< b :=
  Nat.le_of_dvd (one_shiftLeft_pos b) (one_shiftLeft_dvd le)

theorem roundHalfEven_le (num den : Nat) : roundHalfEven num den ≤ num / den + 1 := by
  simp only [roundHalfEven]
  split
  · omega
  · split <;> omega

theorem spacing_le (q : Nat) : spacing q ≤ q + 1 := by
  rw [spacing, Nat.one_shiftLeft]
  by_cases zero : q = 0
  · subst zero
    decide
  · have wide : 2 ^ (q.log2 - 52) ≤ 2 ^ q.log2 := Nat.pow_le_pow_right (by decide) (Nat.sub_le _ _)
    have below := Nat.log2_self_le zero
    omega

theorem roundUnits_le (num den : Nat) : roundUnits num den ≤ 2 * (num / den) + 1 := by
  have step := spacing_le (num / den)
  have whole : num / (den * spacing (num / den)) * spacing (num / den) ≤ num / den := by
    rw [← Nat.div_div_eq_div_mul]
    exact Nat.div_mul_le_self _ _
  have rounded := Nat.mul_le_mul_right (spacing (num / den))
    (roundHalfEven_le num (den * spacing (num / den)))
  rw [Nat.add_mul, Nat.one_mul] at rounded
  rw [roundUnits]
  omega

theorem one_pos : 0 < one := one_shiftLeft_pos 1074

theorem natAbs_signed (negative : Bool) (units : Nat) : (signed negative units).natAbs = units := by
  cases negative <;> simp [signed]

end Switchboard.Double
