import Switchboard.Proofs.Number.Nearest

/-!
# Whole numbers and halves

Below a magnitude of `2 ^ 52` every multiple of a half is a number of the format. So whole numbers of that
size are what they are read from.
-/

namespace Switchboard.Double

def oneHalf : Nat := 1 <<< 1073

/-- The magnitude, in units, from which on there are no halves. -/
def halvesLimit : Nat := 1 <<< 1126

theorem one_eq : one = 2 * oneHalf := one_shiftLeft_add 1 1073

theorem halvesLimit_eq : halvesLimit = leadingBit * one := one_shiftLeft_add 52 1074

theorem mul_one_lt {k : Nat} (small : k < leadingBit) : k * one < halvesLimit := by
  rw [halvesLimit_eq]
  exact Nat.mul_lt_mul_of_pos_right small one_pos

section Exact

variable {u : Nat} {n : Int}

theorem spacing_dvd_oneHalf (small : u < halvesLimit) : spacing u ∣ oneHalf := by
  by_cases zero : u = 0
  · subst zero
    rw [spacing_of_lt (by decide)]
    exact Nat.one_dvd _
  · have order : u.log2 < 1126 := (lt_shiftLeft_iff zero).1 small
    exact one_shiftLeft_dvd (by omega)

/-- Halves are not rounded. -/
theorem ofRatio_halves (small : u < halvesLimit) (halves : oneHalf ∣ u) (negative : Bool) :
    ofRatio negative u 1 = finite negative u := by
  have kept := roundUnits_of_fine (Nat.dvd_trans (spacing_dvd_oneHalf small) halves)
  have room : halvesLimit ≤ limit := one_shiftLeft_le (by decide)
  rw [ofRatio, kept, ofUnits, if_pos (Nat.lt_of_lt_of_le small room)]

theorem oneHalf_dvd_mul_one (k : Nat) : oneHalf ∣ k * one := by
  rw [one_eq, ← Nat.mul_assoc]
  exact Nat.dvd_mul_left _ _

theorem ofInt_of_small (small : n.natAbs < leadingBit) :
    ofInt n = finite (n < 0) (n.natAbs * one) :=
  ofRatio_halves (mul_one_lt small) (oneHalf_dvd_mul_one _) _

theorem signed_mul (negative : Bool) (m k : Nat) :
    signed negative (m * k) = signed negative m * k := by
  cases negative with
  | false => exact Int.natCast_mul m k
  | true => rw [signed, signed, if_pos rfl, if_pos rfl, Int.natCast_mul, Int.neg_mul]

theorem signed_natAbs (i : Int) : signed (i < 0) i.natAbs = i := by
  rw [signed]
  split
  · rename_i negative
    have below := of_decide_eq_true negative
    omega
  · rename_i positive
    have above := of_decide_eq_false (Bool.eq_false_iff.2 positive)
    omega

end Exact

end Switchboard.Double
