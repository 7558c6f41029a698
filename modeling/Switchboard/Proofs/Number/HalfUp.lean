import Mathlib.Algebra.Ring.Int.Parity
import Mathlib.Tactic.Ring
import Switchboard.Proofs.Expression.Reported
import Switchboard.Proofs.Number.Whole

/-!
# A half more, rounded down

The nearest integer is found by adding a half and rounding down. The sum is a number of the format too, so
it is rounded before, and where it lies just below an integer it may become that integer. This happens to
one number below a half, and to the odd integers with all 53 binary digits, which have no halves next to
them. Every other number goes to the nearest integer, and a half goes up.
-/

namespace Switchboard.Double

def settled (sum : Int) : Int := signed (sum < 0) (roundUnits sum.natAbs 1)

section Sum

variable {s t : Bool} {m n : Nat} {i : Int}

theorem settled_natCast (n : Nat) : settled n = roundUnits n 1 := by
  have positive : decide ((n : Int) < 0) = false := by simp
  rw [settled, positive, Int.natAbs_natCast]
  rfl

theorem settled_neg_natCast (n : Nat) : settled (-n) = -roundUnits n 1 := by
  rw [settled, Int.natAbs_neg, Int.natAbs_natCast]
  by_cases zero : n = 0
  · subst zero
    decide
  · have negative : decide (-(n : Int) < 0) = true := decide_eq_true (by omega)
    rw [negative]
    rfl

theorem settled_of_fine (fine : spacing i.natAbs ∣ i.natAbs) : settled i = i := by
  rw [settled, roundUnits_of_fine fine, signed_natAbs]

/-- A sum that stays finite, whatever the sign of a zero. -/
theorem add_finite (small : roundUnits (signed s m + signed t n).natAbs 1 < limit) :
    ∃ negative units, (finite s m).add (finite t n) = finite negative units ∧
      signed negative units = settled (signed s m + signed t n) := by
  rw [add]
  split
  · rename_i zero
    refine ⟨_, 0, rfl, ?_⟩
    rw [zero]
    cases s && t <;> decide
  · refine ⟨_, _, ?_, rfl⟩
    rw [ofRatio, ofUnits, if_pos small]

end Sum

def plusHalf (negative : Bool) (units : Nat) : Int := signed negative units + oneHalf

/-- How many units apart the magnitudes from a quarter to a half are. -/
def stepBelowHalf : Nat := 1 <<< 1020

def belowHalf : Nat := oneHalf - stepBelowHalf

theorem oneHalf_eq : oneHalf = 2 * leadingBit * stepBelowHalf := one_shiftLeft_add 53 1020

theorem belowHalf_eq : belowHalf = (2 * leadingBit - 1) * stepBelowHalf := by
  rw [belowHalf, oneHalf_eq, Nat.sub_one_mul]

theorem stepBelowHalf_pos : 0 < stepBelowHalf := one_shiftLeft_pos 1020

theorem oneHalf_pos : 0 < oneHalf := one_shiftLeft_pos 1073

theorem oneHalf_lt_halvesLimit : oneHalf < halvesLimit := by
  have room : 1 <<< 1074 ≤ halvesLimit := one_shiftLeft_le (by decide)
  have double : 1 <<< 1074 = 2 * oneHalf := one_eq
  have positive := oneHalf_pos
  omega

/-- The greatest integer that is not above a number of units. -/
theorem ediv_one_eq_iff {i n : Int} : i / (one : Int) = n ↔ n * one ≤ i ∧ i < n * one + one := by
  have unit : (0 : Int) < one := Int.natCast_pos.2 one_pos
  have next : n * one + one = (n + 1) * one := by rw [Int.add_mul, Int.one_mul]
  rw [next, ← Int.le_ediv_iff_mul_le unit, ← Int.ediv_lt_iff_lt_mul unit]
  omega

theorem ediv_one_of_lt {i : Int} (lower : 0 ≤ i) (upper : i < one) : i / (one : Int) = 0 := by
  rw [ediv_one_eq_iff]
  omega

theorem mul_one_ediv_one (n : Int) : n * one / (one : Int) = n := by
  have positive := one_pos
  rw [ediv_one_eq_iff]
  omega

theorem floor_add_oneHalf (n : Int) : (n * one + oneHalf) / (one : Int) = n := by
  have positive := oneHalf_pos
  have double := one_eq
  rw [ediv_one_eq_iff]
  omega

section PlusHalf

variable {s : Bool} {m n k : Nat}

/-- All magnitudes below a half but the greatest are two steps below it. -/
theorem add_step_le (fine : spacing m ∣ m) (below : m < oneHalf) (other : m ≠ belowHalf) :
    m + 2 * stepBelowHalf ≤ oneHalf := by
  have leading : leadingBit = 4503599627370496 := rfl
  rw [belowHalf] at other
  rw [oneHalf_eq] at below other ⊢
  by_cases low : m < leadingBit * stepBelowHalf
  · have positive := stepBelowHalf_pos
    rw [leading] at low ⊢
    generalize stepBelowHalf = g at *
    omega
  · have grid : spacing m = stepBelowHalf := spacing_eq_of_bounds (Nat.le_of_not_lt low) below
    rw [grid] at fine
    obtain ⟨c, rfl⟩ := fine
    have under : c < 2 * leadingBit := by
      rw [Nat.mul_comm] at below
      exact Nat.lt_of_mul_lt_mul_right below
    have apart : c + 1 ≠ 2 * leadingBit := by
      intro last
      rw [← last, Nat.add_mul, Nat.one_mul, Nat.add_sub_cancel, Nat.mul_comm] at other
      exact other rfl
    have room := Nat.mul_le_mul_right stepBelowHalf (show c + 2 ≤ 2 * leadingBit by omega)
    rwa [Nat.add_mul, Nat.mul_comm c] at room

/-- The greatest magnitude below one. -/
theorem fine_belowOne : spacing (one - 2 * stepBelowHalf) ∣ one - 2 * stepBelowHalf := by
  have leading : leadingBit = 4503599627370496 := rfl
  have step : 1 <<< 1021 = 2 * stepBelowHalf := one_shiftLeft_add 1 1020
  have whole : one = 2 * leadingBit * (2 * stepBelowHalf) := by
    rw [← step]
    exact one_shiftLeft_add 53 1021
  have positive := stepBelowHalf_pos
  have grid : spacing (one - 2 * stepBelowHalf) = 2 * stepBelowHalf := by
    rw [← step]
    apply spacing_eq_of_bounds <;> rw [step, whole, leading] <;> omega
  rw [grid, whole]
  exact Nat.dvd_sub (Nat.dvd_mul_left _ _) (Nat.dvd_refl _)

/-- A sum does not pass a magnitude, so it has no whole part if the magnitude has none. -/
theorem settled_ediv_one_of_le {u : Nat} (fine : spacing u ∣ u) (below : u < one) (le : n ≤ u) :
    settled n / one = (n : Int) / one := by
  have near := natAbs_roundUnits_sub_le fine n
  rw [settled_natCast]
  generalize roundUnits n 1 = r at near ⊢
  rw [ediv_one_of_lt (i := r) (by omega) (by omega), ediv_one_of_lt (i := n) (by omega) (by omega)]

theorem settled_plusHalf_of_lt (fine : spacing m ∣ m) (below : m < oneHalf) (other : m ≠ belowHalf) :
    settled (plusHalf false m) / one = plusHalf false m / one := by
  have room := add_step_le fine below other
  have sum : plusHalf false m = (m + oneHalf : Nat) := rfl
  have double := one_eq
  have positive := stepBelowHalf_pos
  rw [sum]
  exact settled_ediv_one_of_le fine_belowOne (by omega) (by omega)

/-- A half more than a small number below zero has no whole part. -/
theorem settled_plusHalf_of_le (small : m ≤ oneHalf) :
    settled (plusHalf true m) / one = plusHalf true m / one := by
  have fine : spacing oneHalf ∣ oneHalf := spacing_dvd_oneHalf oneHalf_lt_halvesLimit
  have sum : plusHalf true m = (oneHalf - m : Nat) := by
    rw [plusHalf, signed, if_pos rfl]
    omega
  have double := one_eq
  have positive := oneHalf_pos
  rw [sum]
  exact settled_ediv_one_of_le fine (by omega) (Nat.sub_le _ _)

/-- What is not farther from a sum than an integer less than a half below it has the same whole part. -/
theorem ediv_one_of_near {p r : Nat} (whole : one ∣ p) (lower : p ≤ n) (upper : n < p + oneHalf)
    (near : ((r : Int) - n).natAbs ≤ ((p : Int) - n).natAbs) : (r : Int) / one = (n : Int) / one := by
  obtain ⟨q, rfl⟩ := whole
  have double := one_eq
  have floor {i : Int} (lower : (one * q : Nat) ≤ i) (upper : i < (one * q : Nat) + one) :
      i / one = q := by
    rw [Nat.mul_comm, Int.natCast_mul] at lower upper
    exact ediv_one_eq_iff.2 ⟨lower, upper⟩
  generalize one * q = p at *
  rw [floor (i := r) (by omega) (by omega), floor (i := n) (by omega) (by omega)]

theorem settled_plusHalf_of_mid (fine : spacing m ∣ m) (lower : oneHalf ≤ m) (upper : m < halvesLimit) :
    settled (plusHalf false m) / one = plusHalf false m / one := by
  have sum : plusHalf false m = (m + oneHalf : Nat) := rfl
  have shared : spacing m ∣ m + oneHalf := Nat.dvd_add fine (spacing_dvd_oneHalf upper)
  rw [sum, settled_natCast]
  by_cases order : (m + oneHalf).log2 ≤ m.log2
  · rw [roundUnits_of_fine (Nat.dvd_trans (spacing_dvd_spacing order) shared)]
  -- The sum has one binary digit more, so a power of two lies between the number and the sum.
  · have nonzero : m ≠ 0 := Nat.ne_of_gt (Nat.lt_of_lt_of_le oneHalf_pos lower)
    have half : ¬ m.log2 < 1073 := mt (lt_shiftLeft_iff nonzero).2 (Nat.not_lt.2 lower)
    have above : m < 2 ^ (m + oneHalf).log2 := (Nat.log2_lt nonzero).1 (Nat.lt_of_not_le order)
    have reached := Nat.log2_self_le (Nat.ne_of_gt (Nat.add_pos_right m oneHalf_pos))
    rw [← Nat.one_shiftLeft] at above reached
    have whole : one ∣ 1 <<< (m + oneHalf).log2 := one_shiftLeft_dvd (by omega)
    exact ediv_one_of_near whole reached (Nat.add_lt_add_right above oneHalf)
      (natAbs_roundUnits_sub_le (fine_one_shiftLeft _) _)

/-- The magnitude, in units, from which on there are no odd integers. -/
def oddsLimit : Nat := 1 <<< 1127

theorem oddsLimit_eq : oddsLimit = 2 * leadingBit * one := one_shiftLeft_add 53 1074

theorem spacing_shiftLeft (e : Nat) : spacing (1 <<< (52 + e)) = 1 <<< e := by
  rw [spacing, Nat.one_shiftLeft (52 + e), Nat.log2_two_pow, Nat.add_sub_cancel_left]

theorem exists_integer (fine : spacing m ∣ m) (large : halvesLimit ≤ m) :
    ∃ k, m = k * one ∧ leadingBit ≤ k := by
  have grid : spacing halvesLimit = one := spacing_shiftLeft 1074
  have coarser := spacing_dvd_spacing_of_le large
  rw [grid] at coarser
  have whole : one ∣ m := Nat.dvd_trans coarser fine
  obtain ⟨k, rfl⟩ := whole
  rw [halvesLimit_eq, Nat.mul_comm one] at large
  exact ⟨k, Nat.mul_comm _ _, Nat.le_of_mul_le_mul_right large one_pos⟩

/-- Where neighbours are a whole apart, a half between them goes to the even one. -/
theorem roundUnits_tie (lower : leadingBit ≤ k) (upper : k < 2 * leadingBit) :
    roundUnits (k * one + oneHalf) 1 = (k + k % 2) * one := by
  have double := one_eq
  have positive := oneHalf_pos
  have grid : spacing (k * one + oneHalf) = one := by
    have first := Nat.mul_le_mul_right one lower
    have next := Nat.mul_le_mul_right one (Nat.succ_le_of_lt upper)
    have below : k * one + oneHalf < k * one + one := by omega
    rw [← Nat.succ_mul] at below
    exact spacing_eq_of_bounds (e := 1074) (Nat.le_trans first (Nat.le_add_right _ _))
      (Nat.lt_of_lt_of_le below next)
  have tie : roundHalfEven (k * one + oneHalf) one = k + k % 2 := by
    rw [roundHalfEven_eq_iff one_pos]
    refine .inr ⟨?_, by omega⟩
    rw [gap]
    rcases Nat.mod_two_eq_zero_or_one k with even | odd
    · rw [even, Nat.add_zero]
      omega
    · rw [odd, Nat.add_mul, Nat.one_mul]
      omega
  rw [roundUnits, Nat.div_one, grid, Nat.one_mul, tie]

theorem two_mul_one_dvd_spacing (large : oddsLimit ≤ n) : 2 * one ∣ spacing n := by
  have grid : spacing oddsLimit = 1 <<< 1075 := spacing_shiftLeft 1075
  have double : 1 <<< 1075 = 2 * one := one_shiftLeft_add 1 1074
  rw [← double, ← grid]
  exact spacing_dvd_spacing_of_le large

/-- Where neighbours are more than one apart, a half makes no difference. -/
theorem roundUnits_coarse (fine : spacing m ∣ m) (large : oddsLimit ≤ m) (large' : oddsLimit ≤ n)
    (near : ((m : Int) - n).natAbs ≤ oneHalf) : roundUnits n 1 = m := by
  have coarse : 2 * one ∣ m := Nat.dvd_trans (two_mul_one_dvd_spacing large) fine
  have coarse' : 2 * one ∣ roundUnits n 1 := by
    rw [roundUnits, Nat.div_one]
    exact Nat.dvd_trans (two_mul_one_dvd_spacing large') (Nat.dvd_mul_left _ _)
  have nearer := natAbs_roundUnits_sub_le fine n
  have double := one_eq
  have positive := oneHalf_pos
  generalize roundUnits n 1 = r at coarse' nearer ⊢
  have apart : (2 * one : Nat) ∣ ((r : Int) - m).natAbs :=
    Int.natCast_dvd.1 (Int.dvd_sub (Int.natCast_dvd_natCast.2 coarse') (Int.natCast_dvd_natCast.2 coarse))
  have same : ((r : Int) - m).natAbs = 0 := Nat.eq_zero_of_dvd_of_lt apart (by omega)
  omega

theorem plusHalf_integer_ediv (s : Bool) (k : Nat) : plusHalf s (k * one) / one = signed s k := by
  rw [plusHalf, signed_mul, floor_add_oneHalf]

/-- A half more than an integer below zero, seen from the integer above. -/
theorem plusHalf_succ (k : Nat) : plusHalf true ((k + 1) * one) = -(k * one + oneHalf : Nat) := by
  have double := one_eq
  rw [plusHalf, signed, if_pos rfl, Nat.succ_mul]
  omega

/-- A half next to an integer is rounded to it, if the integer is even or neighbours are more than one apart. -/
theorem roundUnits_integer {j : Nat} (fine : spacing (k * one) ∣ k * one) (next : k = j ∨ k = j + 1)
    (lower : leadingBit ≤ j) (even : k < 2 * leadingBit → k % 2 = 0) :
    roundUnits (j * one + oneHalf) 1 = k * one := by
  by_cases tied : j < 2 * leadingBit
  · have sum : j + j % 2 = k := by omega
    rw [roundUnits_tie lower tied, sum]
  · have large := Nat.mul_le_mul_right one (Nat.le_of_not_lt tied)
    rw [← oddsLimit_eq] at large
    have larger : j * one ≤ k * one := Nat.mul_le_mul_right one (by omega)
    refine roundUnits_coarse fine (Nat.le_trans large larger)
      (Nat.le_trans large (Nat.le_add_right _ _)) ?_
    have double := one_eq
    rcases next with rfl | rfl
    · omega
    · rw [Nat.succ_mul]
      omega

/-- Integers are kept, unless they are odd and need all binary digits. -/
theorem settled_plusHalf_integer (fine : spacing (k * one) ∣ k * one) (lower : leadingBit ≤ k)
    (even : k < 2 * leadingBit → k % 2 = 0) :
    settled (plusHalf s (k * one)) / one = plusHalf s (k * one) / one := by
  cases s with
  | false =>
    have sum : plusHalf false (k * one) = (k * one + oneHalf : Nat) := rfl
    rw [plusHalf_integer_ediv, sum, settled_natCast, roundUnits_integer fine (.inl rfl) lower even,
      Int.natCast_mul, mul_one_ediv_one]
    rfl
  | true =>
    obtain ⟨j, rfl⟩ : ∃ j, k = j + 1 := Nat.exists_eq_add_of_le' (Nat.lt_of_lt_of_le (by decide) lower)
    by_cases first : leadingBit ≤ j
    · rw [plusHalf_integer_ediv, plusHalf_succ, settled_neg_natCast,
        roundUnits_integer fine (.inr rfl) first even, Int.natCast_mul, ← Int.neg_mul, mul_one_ediv_one]
      rfl
    -- Below the first of these integers there are still halves.
    · have below : j * one + oneHalf < halvesLimit := by
        have double := one_eq
        have positive := oneHalf_pos
        have room := Nat.mul_le_mul_right one (show j + 1 ≤ leadingBit by omega)
        rw [Nat.succ_mul, ← halvesLimit_eq] at room
        omega
      have halves : oneHalf ∣ j * one + oneHalf := Nat.dvd_add (oneHalf_dvd_mul_one j) (Nat.dvd_refl _)
      have kept := roundUnits_of_fine (Nat.dvd_trans (spacing_dvd_oneHalf below) halves)
      rw [plusHalf_succ, settled_neg_natCast, kept]

/-- An odd integer without halves next to it becomes the one above. -/
theorem settled_plusHalf_odd (odd : k % 2 = 1) (lower : leadingBit < k) (upper : k < 2 * leadingBit) :
    settled (plusHalf s (k * one)) / one = plusHalf s (k * one) / one + 1 := by
  cases s with
  | false =>
    have sum : plusHalf false (k * one) = (k * one + oneHalf : Nat) := rfl
    rw [plusHalf_integer_ediv, sum, settled_natCast, roundUnits_tie (Nat.le_of_lt lower) upper, odd,
      Int.natCast_mul, mul_one_ediv_one]
    rfl
  | true =>
    obtain ⟨j, rfl⟩ : ∃ j, k = j + 1 := Nat.exists_eq_add_of_le' (Nat.lt_of_le_of_lt (Nat.zero_le _) lower)
    have even : j % 2 = 0 := by omega
    rw [plusHalf_integer_ediv, plusHalf_succ, settled_neg_natCast,
      roundUnits_tie (Nat.le_of_lt_succ lower) (Nat.lt_of_succ_lt upper), even, Nat.add_zero,
      Int.natCast_mul, ← Int.neg_mul, mul_one_ediv_one, signed, if_pos rfl]
    omega

theorem natAbs_plusHalf_le (s : Bool) (m : Nat) : (plusHalf s m).natAbs ≤ m + oneHalf := by
  have sum := Int.natAbs_add_le (signed s m) oneHalf
  rwa [natAbs_signed, Int.natAbs_natCast] at sum

theorem natAbs_sub_natAbs_plusHalf_le (s : Bool) (large : oneHalf ≤ m) :
    ((m : Int) - (plusHalf s m).natAbs).natAbs ≤ oneHalf := by
  rw [plusHalf, signed]
  split <;> omega

/-- A half more does not lead out of the format. -/
theorem roundUnits_plusHalf_lt (s : Bool) (h : IsMagnitude m) :
    roundUnits (plusHalf s m).natAbs 1 < limit := by
  have wide : oneHalf ≤ oddsLimit := one_shiftLeft_le (by decide)
  by_cases small : m ≤ oddsLimit
  · have room : 1 <<< 1130 ≤ limit := one_shiftLeft_le (by decide)
    have eightfold : 1 <<< 1130 = 8 * oddsLimit := one_shiftLeft_add 3 1127
    have rounded := roundUnits_le (plusHalf s m).natAbs 1
    have sum := natAbs_plusHalf_le s m
    have positive := oneHalf_pos
    rw [eightfold] at room
    rw [Nat.div_one] at rounded
    omega
  · have large := Nat.lt_of_not_le small
    have first : halvesLimit ≤ oddsLimit := one_shiftLeft_le (by decide)
    obtain ⟨k, rfl, -⟩ := exists_integer h.fine (Nat.le_trans first (Nat.le_of_lt large))
    have near := natAbs_sub_natAbs_plusHalf_le s (Nat.le_trans wide (Nat.le_of_lt large))
    have apart : oddsLimit ≤ (plusHalf s (k * one)).natAbs := by
      rw [oddsLimit_eq] at large ⊢
      have next := Nat.mul_le_mul_right one (Nat.succ_le_of_lt (Nat.lt_of_mul_lt_mul_right large))
      have double := one_eq
      rw [Nat.succ_mul] at next
      omega
    rw [roundUnits_coarse h.fine (Nat.le_of_lt large) apart near]
    exact h.below

theorem add_oneHalf (s : Bool) (h : IsMagnitude m) :
    ∃ negative units, (finite s m).add (finite false oneHalf) = finite negative units ∧
      signed negative units = settled (plusHalf s m) :=
  add_finite (s := s) (m := m) (t := false) (n := oneHalf) (roundUnits_plusHalf_lt s h)

/-- The numbers whose sum with a half is rounded up to an integer above it. -/
inductive Overshot : Bool → Nat → Prop
  | belowHalf : Overshot false belowHalf
  | odd (negative : Bool) {k : Nat} (odd : k % 2 = 1) (lower : leadingBit < k)
      (upper : k < 2 * leadingBit) : Overshot negative (k * one)

theorem settled_plusHalf_of_overshot (h : Overshot s m) :
    settled (plusHalf s m) / one = plusHalf s m / one + 1 := by
  cases h with
  | belowHalf => decide +kernel
  | odd _ odd lower upper => exact settled_plusHalf_odd odd lower upper

theorem settled_plusHalf_of_not_overshot (fine : spacing m ∣ m) (h : ¬ Overshot s m) :
    settled (plusHalf s m) / one = plusHalf s m / one := by
  by_cases large : halvesLimit ≤ m
  · obtain ⟨k, rfl, lower⟩ := exists_integer fine large
    refine settled_plusHalf_integer fine lower fun upper => ?_
    by_contra odd
    have above : leadingBit ≠ k := by
      rintro rfl
      exact odd (by decide)
    exact h (.odd s (Nat.mod_two_ne_zero.1 odd) (Nat.lt_of_le_of_ne lower above) upper)
  have mid := Nat.lt_of_not_le large
  cases s with
  | false =>
    by_cases small : m < oneHalf
    · refine settled_plusHalf_of_lt fine small ?_
      rintro rfl
      exact h .belowHalf
    · exact settled_plusHalf_of_mid fine (Nat.le_of_not_lt small) mid
  | true =>
    by_cases small : m ≤ oneHalf
    · exact settled_plusHalf_of_le small
    -- Below minus a half the sum is a smaller number, on the same grid.
    · have less : (plusHalf true m).natAbs = m - oneHalf := by
        rw [plusHalf, signed, if_pos rfl]
        omega
      have shared : spacing m ∣ m - oneHalf := Nat.dvd_sub fine (spacing_dvd_oneHalf mid)
      have finer := spacing_dvd_spacing_of_le (Nat.sub_le m oneHalf)
      rw [settled_of_fine (less ▸ Nat.dvd_trans finer shared)]

end PlusHalf

/-- An integer is the nearest one to a number; a half goes up. -/
def HalfUp (x : ℚ) (n : ℤ) : Prop := n - 1 / 2 ≤ x ∧ x < n + 1 / 2

/-- The numbers of the format that a half more, rounded to the format, takes to an integer above the sum. -/
def Overshoots (x : ℚ) : Prop :=
  x = 1 / 2 - 1 / 2 ^ 54 ∨ ∃ k : ℤ, x = k ∧ Odd k ∧ 2 ^ 52 < |k| ∧ |k| < 2 ^ 53

section Nearest

variable {x : ℚ} {n k : ℤ} {s : Bool} {m : Nat}

theorem HalfUp.eq_of_int (h : HalfUp x n) (whole : x = k) : n = k := by
  obtain ⟨lower, upper⟩ := h
  have above : (n : ℚ) < (k + 1 : ℤ) := by
    push_cast
    linarith
  have below : (k : ℚ) < (n + 1 : ℤ) := by
    push_cast
    linarith
  have above := Int.cast_lt.1 above
  have below := Int.cast_lt.1 below
  omega

/-- Integers of this size have halves next to them. -/
theorem not_overshoots_of_small (small : |k| ≤ 2 ^ 52) : ¬ Overshoots k := by
  rintro (below | ⟨j, same, -, lower, -⟩)
  · have positive : (0 : ℚ) < k := by
      rw [below]
      norm_num
    have less : (k : ℚ) < 1 := by
      rw [below]
      norm_num
    have positive : 0 < k := by exact_mod_cast positive
    have less : k < 1 := by exact_mod_cast less
    omega
  · rw [Int.cast_inj.1 same] at small
    exact absurd lower (not_lt.2 small)

theorem cast_oneHalf : (oneHalf : ℚ) = one / 2 := by
  rw [one_eq]
  push_cast
  ring

theorem halfUp_exact_iff : HalfUp (exact s m) n ↔ plusHalf s m / one = n := by
  have lower : n - 1 / 2 ≤ exact s m ↔ n * one ≤ plusHalf s m := by
    have moved : (n - 1 / 2) * one ≤ (signed s m : ℚ) ↔ (n * one : ℚ) ≤ signed s m + oneHalf := by
      rw [cast_oneHalf]
      constructor <;> intro <;> linarith
    rw [exact, le_div_iff₀ cast_one_pos, moved, plusHalf]
    exact_mod_cast Iff.rfl
  have upper : exact s m < n + 1 / 2 ↔ plusHalf s m < n * one + one := by
    have moved : (signed s m : ℚ) < (n + 1 / 2) * one ↔ (signed s m + oneHalf : ℚ) < n * one + one := by
      rw [cast_oneHalf]
      constructor <;> intro <;> linarith
    rw [exact, div_lt_iff₀ cast_one_pos, moved, plusHalf]
    exact_mod_cast Iff.rfl
  rw [HalfUp, lower, upper, ediv_one_eq_iff]

theorem exact_eq_cast_iff : exact s m = k ↔ signed s m = k * one := by
  rw [exact, div_eq_iff cast_one_pos.ne']
  exact_mod_cast Iff.rfl

theorem exact_belowHalf : exact false belowHalf = 1 / 2 - 1 / 2 ^ 54 := by
  have whole : one = 2 ^ 54 * stepBelowHalf := one_shiftLeft_add 54 1020
  have half : belowHalf = (2 ^ 53 - 1) * stepBelowHalf := belowHalf_eq
  have positive : (0 : ℚ) < stepBelowHalf := Nat.cast_pos.2 stepBelowHalf_pos
  rw [exact, signed, if_neg Bool.false_ne_true, Int.cast_natCast, whole, half]
  push_cast
  field_simp
  norm_num

theorem eq_belowHalf_of_exact (same : exact s m = exact false belowHalf) : s = false ∧ m = belowHalf := by
  have units : signed s m = signed false belowHalf := by
    rw [exact, exact, div_left_inj' cast_one_pos.ne'] at same
    exact Int.cast_inj.1 same
  have positive : 0 < belowHalf := by
    rw [belowHalf_eq]
    exact Nat.mul_pos (by decide) stepBelowHalf_pos
  cases s with
  | false => exact ⟨rfl, Int.ofNat.inj units⟩
  | true =>
    simp only [signed, if_true, Bool.false_eq_true, if_false] at units
    omega

theorem odd_signed_iff {j : Nat} : Odd (signed s j) ↔ j % 2 = 1 := by
  rw [← Int.natAbs_odd, natAbs_signed, Nat.odd_iff]

/-- The numbers that are overshot are the same, told by their value or by their units. -/
theorem overshoots_exact_iff : Overshoots (exact s m) ↔ Overshot s m := by
  have leading : leadingBit = 2 ^ 52 := rfl
  constructor
  · rintro (below | ⟨k, whole, odd, lower, upper⟩)
    · obtain ⟨rfl, rfl⟩ := eq_belowHalf_of_exact (below.trans exact_belowHalf.symm)
      exact .belowHalf
    · have units := congrArg Int.natAbs (exact_eq_cast_iff.1 whole)
      rw [natAbs_signed, Int.natAbs_mul, Int.natAbs_natCast] at units
      rw [Int.abs_eq_natAbs] at lower upper
      rw [units]
      exact .odd s (Nat.odd_iff.1 odd.natAbs) (by omega) (by omega)
  · rintro (_ | ⟨s, odd, lower, upper⟩)
    · exact .inl exact_belowHalf
    · rename_i j
      refine .inr ⟨signed s j, exact_eq_cast_iff.2 (signed_mul s j one), odd_signed_iff.2 odd, ?_⟩
      rw [Int.abs_eq_natAbs, natAbs_signed]
      omega

end Nearest

end Switchboard.Double
