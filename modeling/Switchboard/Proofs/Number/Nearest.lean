import Switchboard.Proofs.Number.Magnitude

/-!
# Rounding to the nearest

A quotient is rounded to the integer nearest to it, a half to the even one, and to the nearest among the
magnitudes of the format. These are the magnitudes with at most 53 binary digits that lie below the
infinities, and 64 bits stand for no others.
-/

namespace Switchboard.Double

/-- How far an integer is from the quotient `num / den`, counted in parts of which `den` make one. -/
def gap (num den n : Nat) : Nat := ((n * den : Nat) - (num : Int)).natAbs

section Quotient

variable {num den n : Nat}

theorem roundHalfEven_eq_iff (positive : 0 < den) : roundHalfEven num den = n ↔
    2 * gap num den n < den ∨ 2 * gap num den n = den ∧ n % 2 = 0 := by
  have parts := Nat.div_add_mod num den
  have rest := Nat.mod_lt num positive
  rw [Nat.mul_comm] at parts
  simp only [roundHalfEven, gap]
  generalize num / den = q at parts ⊢
  generalize num % den = r at parts rest ⊢
  obtain below | rfl | rfl | above : n < q ∨ n = q ∨ n = q + 1 ∨ q + 2 ≤ n := by omega
  · have far := Nat.mul_le_mul_right den (Nat.succ_le_of_lt below)
    rw [Nat.succ_mul] at far
    split
    · omega
    · split <;> omega
  · split
    · omega
    · split <;> omega
  · have next : (q + 1) * den = q * den + den := Nat.succ_mul q den
    split
    · omega
    · split <;> omega
  · have far := Nat.mul_le_mul_right den above
    rw [Nat.add_mul] at far
    split
    · omega
    · split <;> omega

theorem two_mul_gap_roundHalfEven_le (positive : 0 < den) (num : Nat) :
    2 * gap num den (roundHalfEven num den) ≤ den := by
  rcases (roundHalfEven_eq_iff positive).1 rfl with near | ⟨half, -⟩
  · exact Nat.le_of_lt near
  · exact Nat.le_of_eq half

/-- No integer is nearer than the one that is chosen. -/
theorem gap_roundHalfEven_le (positive : 0 < den) (num n : Nat) :
    gap num den (roundHalfEven num den) ≤ gap num den n := by
  have near := two_mul_gap_roundHalfEven_le positive num
  generalize roundHalfEven num den = m at near ⊢
  obtain below | rfl | above := Nat.lt_trichotomy n m
  · have far := Nat.mul_le_mul_right den (Nat.succ_le_of_lt below)
    rw [Nat.succ_mul] at far
    simp only [gap] at near ⊢
    omega
  · exact Nat.le_refl _
  · have far := Nat.mul_le_mul_right den (Nat.succ_le_of_lt above)
    rw [Nat.succ_mul] at far
    simp only [gap] at near ⊢
    omega

/-- Nor is a negative one, as the quotient has no sign. -/
theorem gap_roundHalfEven_le_natAbs (positive : 0 < den) (num : Nat) (k : Int) :
    gap num den (roundHalfEven num den) ≤ (k * den - num).natAbs := by
  cases k with
  | ofNat n => exact gap_roundHalfEven_le positive num n
  | negSucc n =>
    have none := gap_roundHalfEven_le positive num 0
    have product : Int.negSucc n * den = -((n + 1 : Nat) * den : Nat) := by
      rw [Int.negSucc_eq, Int.neg_mul]
      rfl
    rw [product]
    simp only [gap] at none ⊢
    omega

/-- The gap between two products does not depend on which of them is the one that is rounded. -/
theorem gap_comm (a b c d : Nat) : gap (a * b) c d = gap (d * c) b a := by
  simp only [gap]
  omega

theorem gap_mul (num den n s : Nat) : gap num den (n * s) = gap num (den * s) n := by
  rw [gap, gap, Nat.mul_assoc, Nat.mul_comm s den]

theorem gap_eq_zero_iff : gap num den n = 0 ↔ n * den = num := by
  simp only [gap]
  omega

/-- A quotient that is a whole number stays what it is. -/
theorem roundHalfEven_mul (positive : 0 < den) (n : Nat) : roundHalfEven (n * den) den = n := by
  rw [roundHalfEven_eq_iff positive, gap_eq_zero_iff.2 rfl]
  exact .inl positive

theorem roundHalfEven_scaled {k : Nat} (positive : 0 < den) (scale : 0 < k) :
    roundHalfEven (num * k) (den * k) = roundHalfEven num den := by
  have scaled : gap (num * k) (den * k) (roundHalfEven num den) =
      gap num den (roundHalfEven num den) * k := by
    rw [gap, gap, ← Nat.mul_assoc, Int.natCast_mul _ k, Int.natCast_mul _ k, ← Int.sub_mul,
      Int.natAbs_mul, Int.natAbs_natCast]
  rw [roundHalfEven_eq_iff (Nat.mul_pos positive scale), scaled, ← Nat.mul_assoc]
  rcases (roundHalfEven_eq_iff positive).1 rfl with near | ⟨half, even⟩
  · exact .inl (Nat.mul_lt_mul_of_pos_right near scale)
  · exact .inr ⟨congrArg (· * k) half, even⟩

end Quotient

/-- Magnitudes of the format, in units. -/
structure IsMagnitude (units : Nat) : Prop where
  /-- No more than 53 binary digits are given. -/
  fine : spacing units ∣ units
  below : units < limit

theorem spacing_eq (q : Nat) : spacing q = Nat.pow 2 (q.log2 - 52) := Nat.one_shiftLeft _

theorem spacing_pos (q : Nat) : 0 < spacing q := by
  rw [spacing_eq]
  exact Nat.two_pow_pos _

theorem spacing_dvd_spacing {q u : Nat} (le : q.log2 ≤ u.log2) : spacing q ∣ spacing u := by
  rw [spacing_eq, spacing_eq]
  exact Nat.pow_dvd_pow 2 (Nat.sub_le_sub_right le 52)

theorem spacing_of_lt {q : Nat} (small : q < leadingBit) : spacing q = 1 := by
  by_cases zero : q = 0
  · subst zero
    decide
  · have low : q.log2 < 52 := (Nat.log2_lt zero).2 small
    rw [spacing_eq, Nat.sub_eq_zero_of_le (Nat.le_of_lt low)]

theorem spacing_dvd_spacing_of_le {q u : Nat} (le : q ≤ u) : spacing q ∣ spacing u := by
  by_cases zero : q = 0
  · rw [zero, spacing_of_lt (by decide)]
    exact Nat.one_dvd _
  · apply spacing_dvd_spacing
    rw [Nat.le_log2 (by omega)]
    exact Nat.le_trans (Nat.log2_self_le zero) le

theorem fine_one_shiftLeft (k : Nat) : spacing (1 <<< k) ∣ 1 <<< k := by
  rw [spacing, Nat.one_shiftLeft k, Nat.log2_two_pow, ← Nat.one_shiftLeft k]
  exact one_shiftLeft_dvd (Nat.sub_le k 52)

/-- Below the leading binary digit of `q` the magnitudes may be finer than they are at `q`, but then that
digit is nearer to `q` and above than they are. -/
theorem fine_or_exists_between {q u : Nat} (fine : spacing u ∣ u) :
    spacing q ∣ u ∨ ∃ p, spacing q ∣ p ∧ u ≤ p ∧ p ≤ q := by
  by_cases large : 2 ^ q.log2 ≤ u
  · have nonzero : u ≠ 0 := Nat.ne_of_gt (Nat.lt_of_lt_of_le (Nat.two_pow_pos _) large)
    exact .inl (Nat.dvd_trans (spacing_dvd_spacing ((Nat.le_log2 nonzero).2 large)) fine)
  · by_cases zero : q = 0
    · subst zero
      rw [show Nat.log2 0 = 0 by decide] at large
      obtain rfl : u = 0 := by omega
      exact .inl (Nat.dvd_zero _)
    · refine .inr ⟨2 ^ q.log2, ?_, Nat.le_of_not_le large, Nat.log2_self_le zero⟩
      rw [spacing_eq]
      exact Nat.pow_dvd_pow 2 (Nat.sub_le _ _)

section Units

variable {num den u : Nat}

/-- Among the multiples of the spacing none is nearer. -/
theorem gap_roundUnits_le_of_dvd (positive : 0 < den) (given : spacing (num / den) ∣ u) :
    gap num den (roundUnits num den) ≤ gap num den u := by
  obtain ⟨n, rfl⟩ := given
  rw [roundUnits, Nat.mul_comm (spacing _) n, gap_mul, gap_mul]
  exact gap_roundHalfEven_le (Nat.mul_pos positive (spacing_pos _)) num n

/-- No magnitude is nearer than the one that is chosen. -/
theorem gap_roundUnits_le (positive : 0 < den) (num : Nat) (fine : spacing u ∣ u) :
    gap num den (roundUnits num den) ≤ gap num den u := by
  rcases fine_or_exists_between (q := num / den) fine with given | ⟨p, given, lower, upper⟩
  · exact gap_roundUnits_le_of_dvd positive given
  · have nearer : gap num den p ≤ gap num den u := by
      have below := Nat.mul_le_mul_right den lower
      have above := (Nat.le_div_iff_mul_le positive).1 upper
      simp only [gap]
      omega
    exact Nat.le_trans (gap_roundUnits_le_of_dvd positive given) nearer

/-- A magnitude is rounded to itself. -/
theorem roundUnits_mul (positive : 0 < den) (fine : spacing u ∣ u) :
    roundUnits (u * den) den = u := by
  have near := gap_roundUnits_le positive (u * den) fine
  rw [gap_eq_zero_iff.2 rfl, Nat.le_zero, gap_eq_zero_iff] at near
  exact Nat.eq_of_mul_eq_mul_right positive near

theorem roundUnits_of_fine (fine : spacing u ∣ u) : roundUnits u 1 = u := by
  have kept := roundUnits_mul Nat.one_pos fine
  rwa [Nat.mul_one] at kept

/-- No magnitude is nearer to a number of units than the one that the number is rounded to. -/
theorem natAbs_roundUnits_sub_le (fine : spacing u ∣ u) (n : Nat) :
    ((roundUnits n 1 : Int) - n).natAbs ≤ ((u : Int) - n).natAbs := by
  have near := gap_roundUnits_le Nat.one_pos n fine
  rwa [gap, gap, Nat.mul_one, Nat.mul_one] at near

/-- What a quotient is rounded to has no more binary digits than fit. -/
theorem fine_roundUnits (positive : 0 < den) (num : Nat) :
    spacing (roundUnits num den) ∣ roundUnits num den := by
  have given : spacing (num / den) ∣ roundUnits num den := Nat.dvd_mul_left _ _
  by_cases order : (roundUnits num den).log2 ≤ (num / den).log2
  · exact Nat.dvd_trans (spacing_dvd_spacing order) given
  -- Else the next power of two has been reached, and it is nearer than what lies beyond it.
  · have nonzero : roundUnits num den ≠ 0 := by
      intro zero
      rw [zero] at order
      exact order (Nat.zero_le _)
    have reached := (Nat.le_log2 nonzero).1 (Nat.lt_of_not_le order)
    have above := (Nat.div_lt_iff_lt_mul positive).1 (Nat.lt_log2_self (n := num / den))
    have fine := fine_one_shiftLeft ((num / den).log2 + 1)
    rw [Nat.one_shiftLeft] at fine
    have near := gap_roundUnits_le positive num fine
    have product := Nat.mul_le_mul_right den reached
    have same : roundUnits num den = 2 ^ ((num / den).log2 + 1) := by
      refine Nat.le_antisymm (Nat.le_of_mul_le_mul_right ?_ positive) reached
      simp only [gap] at near
      omega
    rwa [same]

theorem roundUnits_scaled {k : Nat} (positive : 0 < den) (scale : 0 < k) :
    roundUnits (num * k) (den * k) = roundUnits num den := by
  have same : num * k / (den * k) = num / den := Nat.mul_div_mul_right _ _ scale
  rw [roundUnits, roundUnits, same, Nat.mul_right_comm den k,
    roundHalfEven_scaled (Nat.mul_pos positive (spacing_pos _)) scale]

/-- A magnitude is written as a whole number of coarse parts, and read from that as a magnitude again. Reading
does not lead farther away from the written number than the magnitude was. -/
theorem roundHalfEven_roundUnits {s : Nat} (positive : 0 < den) (scale : 0 < s) (fine : spacing u ∣ u) :
    roundHalfEven (roundUnits (roundHalfEven (u * s) den * den) s * s) den = roundHalfEven (u * s) den := by
  have near := (roundHalfEven_eq_iff positive).1 (Eq.refl (roundHalfEven (u * s) den))
  generalize roundHalfEven (u * s) den = n at near ⊢
  have nearer := gap_roundUnits_le scale (n * den) fine
  rw [gap_comm n den, gap_comm n den] at nearer
  rw [roundHalfEven_eq_iff positive]
  omega

end Units

/-- A significand of 53 binary digits, shifted. -/
theorem log2_shiftLeft {m e : Nat} (lower : leadingBit ≤ m) (upper : m < 2 * leadingBit) :
    (m <<< e).log2 = 52 + e := by
  have positive : 0 < m := Nat.lt_of_lt_of_le (by decide) lower
  rw [Nat.shiftLeft_eq, Nat.log2_eq_iff (Nat.ne_of_gt (Nat.mul_pos positive (Nat.two_pow_pos e))),
    Nat.pow_add, Nat.add_right_comm, Nat.pow_add]
  exact ⟨Nat.mul_le_mul_right _ lower, Nat.mul_lt_mul_of_pos_right upper (Nat.two_pow_pos e)⟩

/-- Magnitudes of one binary order have one spacing. -/
theorem spacing_eq_of_bounds {u e : Nat} (lower : leadingBit * 1 <<< e ≤ u)
    (upper : u < 2 * leadingBit * 1 <<< e) : spacing u = 1 <<< e := by
  have leading : leadingBit = 2 ^ 52 := rfl
  rw [leading, Nat.one_shiftLeft] at lower upper
  have nonzero : u ≠ 0 := by
    have positive : 0 < 2 ^ 52 * 2 ^ e := Nat.mul_pos (Nat.two_pow_pos 52) (Nat.two_pow_pos e)
    omega
  have order : u.log2 = 52 + e := by
    rw [Nat.log2_eq_iff nonzero, Nat.add_right_comm, Nat.pow_add, Nat.pow_add]
    exact ⟨lower, upper⟩
  rw [spacing, order, Nat.add_sub_cancel_left]

theorem isMagnitude_of_lt {units : Nat} (small : units < leadingBit) : IsMagnitude units := by
  constructor
  · rw [spacing_of_lt small]
    exact Nat.one_dvd _
  · exact Nat.lt_of_lt_of_le small (one_shiftLeft_le (by decide))

theorem lt_shiftLeft_iff {n k : Nat} (nonzero : n ≠ 0) : n < 1 <<< k ↔ n.log2 < k := by
  rw [Nat.log2_lt nonzero, Nat.one_shiftLeft]

theorem lt_limit_iff {units : Nat} (nonzero : units ≠ 0) : units < limit ↔ units.log2 < 2098 :=
  lt_shiftLeft_iff nonzero

theorem isMagnitude_shiftLeft {m e : Nat} (lower : leadingBit ≤ m) (upper : m < 2 * leadingBit)
    (finite : e < 2046) : IsMagnitude (m <<< e) := by
  have order := log2_shiftLeft (e := e) lower upper
  constructor
  · rw [spacing_eq, order, Nat.add_sub_cancel_left, Nat.shiftLeft_eq]
    exact Nat.dvd_mul_left _ _
  · have nonzero : m <<< e ≠ 0 := by
      intro zero
      have none : Nat.log2 0 = 0 := by decide
      rw [zero, none] at order
      omega
    rw [lt_limit_iff nonzero, order]
    omega

/-- Bits stand for magnitudes of the format alone. -/
theorem isMagnitude_of_ofBits {bits units : Nat} {negative : Bool}
    (h : ofBits bits = finite negative units) : IsMagnitude units := by
  have fraction : bits % leadingBit < leadingBit := Nat.mod_lt _ (by decide)
  have exponent : bits / leadingBit % 0x800 < 0x800 := Nat.mod_lt _ (by decide)
  simp only [ofBits] at h
  split at h
  · split at h <;> cases h
  · rename_i infinite
    split at h
    · cases h
      exact isMagnitude_of_lt fraction
    · cases h
      exact isMagnitude_shiftLeft (by omega) (by omega) (by omega)

def InFormat : Double → Prop
  | finite _ units => IsMagnitude units
  | _ => True

theorem inFormat_ofRatio {num den : Nat} (positive : 0 < den) (negative : Bool) :
    (ofRatio negative num den).InFormat := by
  rw [ofRatio, ofUnits]
  split
  · rename_i below
    exact ⟨fine_roundUnits positive num, below⟩
  · trivial

theorem inFormat_ofInt (n : Int) : (ofInt n).InFormat := inFormat_ofRatio Nat.one_pos _

theorem inFormat_ofDecimal (negative : Bool) (digits : Nat) (exponent : Int) :
    (ofDecimal negative digits exponent).InFormat := by
  have zero : IsMagnitude 0 := isMagnitude_of_lt (by decide)
  unfold ofDecimal
  split
  · exact zero
  · split
    · trivial
    · split
      · exact zero
      · cases exponent with
        | ofNat e => exact inFormat_ofRatio Nat.one_pos _
        | negSucc e => exact inFormat_ofRatio (Nat.pow_pos (by decide)) _

end Switchboard.Double
