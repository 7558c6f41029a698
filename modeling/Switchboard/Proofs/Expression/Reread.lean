import Switchboard.Proofs.Expression.Reported
import Switchboard.Proofs.Expression.Validity

/-!
# A report is an expression

The report of a number below `10 ^ 21` can be evaluated. The numeral in it is rounded once more, to a number
that is at least as near to it as the one that was reported. So the report of what is read is the same again,
and a whole number is read as it was.
-/

namespace Switchboard

namespace Double

/-- The magnitude as which a number of millionths is read. -/
def fromMillionths (n : Nat) : Nat := roundUnits (n * one) 1000000

section Rereading

variable {units : Nat}

theorem inMillionths_reread (fine : spacing units ∣ units) :
    inMillionths (fromMillionths (inMillionths units)) = inMillionths units :=
  roundHalfEven_roundUnits one_pos (by decide) fine

/-- From 53 binary digits on there is nothing behind the point. -/
theorem one_dvd_or_lt (fine : spacing units ∣ units) : one ∣ units ∨ units < leadingBit * one := by
  rcases Nat.lt_or_ge units (leadingBit * one) with small | large
  · exact .inr small
  · have nonzero : leadingBit * one ≠ 0 := by decide +kernel
    have order : (leadingBit * one).log2 ≤ units.log2 := by
      have lower := Nat.le_trans (Nat.log2_self_le nonzero) large
      exact (Nat.le_log2 (by omega)).2 lower
    have unit : spacing (leadingBit * one) = one := by decide +kernel
    left
    rw [← unit]
    exact Nat.dvd_trans (spacing_dvd_spacing order) fine

theorem reread_of_dvd (fine : spacing units ∣ units) (whole : one ∣ units) :
    fromMillionths (inMillionths units) = units := by
  obtain ⟨n, rfl⟩ := whole
  rw [Nat.mul_comm one n] at fine ⊢
  rw [inMillionths_mul, fromMillionths, Nat.mul_right_comm]
  exact roundUnits_mul (by decide) fine

end Rereading

end Double

namespace Expression

open Double PlainNumeral

variable {negative : Bool} {units : Nat}

theorem reread_lt (fine : spacing units ∣ units) (small : units < hugeUnits) :
    fromMillionths (inMillionths units) < hugeUnits := by
  rcases one_dvd_or_lt fine with whole | low
  · rwa [reread_of_dvd fine whole]
  · have room : 2 * ((leadingBit * 1000000 + 1) * one / 1000000) + 1 < hugeUnits := by decide +kernel
    have count : inMillionths units ≤ leadingBit * 1000000 + 1 := by
      have most := roundHalfEven_le (units * 1000000) one
      have below : units * 1000000 / one ≤ leadingBit * 1000000 := by
        apply Nat.div_le_of_le_mul
        rw [← Nat.mul_assoc, Nat.mul_comm one]
        exact Nat.mul_le_mul_right 1000000 (Nat.le_of_lt low)
      exact Nat.le_trans most (Nat.succ_le_succ below)
    have rounded := roundUnits_le (inMillionths units * one) 1000000
    have parts := Nat.div_le_div_right (c := 1000000) (Nat.mul_le_mul_right one count)
    rw [fromMillionths]
    omega

end Expression

theorem Double.ofDecimal_neg {digits places : Nat} (nonzero : digits ≠ 0) (few : places ≤ 6) :
    ofDecimal false digits (-(places : Int)) = ofRatio false (digits * one) (Nat.pow 10 places) := by
  unfold ofDecimal
  rw [if_neg nonzero, if_neg (by omega), if_neg (by omega)]
  cases places with
  | zero =>
    change ofRatio false (digits * Nat.pow 10 0 * one) 1 = _
    rw [Nat.pow_eq, Nat.pow_zero, Nat.mul_one]
  | succ k => rfl

namespace PlainNumeral

open Double

variable (p : PlainNumeral)

def numeral : Expression.Numeral := ⟨p.whole, if p.fraction = [] then none else some p.fraction⟩

theorem fraction_numeral : p.numeral.fraction.getD [] = p.fraction := by
  by_cases none : p.fraction = [] <;> simp [numeral, none]

theorem text_numeral : p.numeral.text = p.unsigned := by
  by_cases none : p.fraction = [] <;> simp [numeral, Expression.Numeral.text, unsigned, none]

theorem wellFormed_numeral : p.numeral.WellFormed := by
  refine ⟨List.all_eq_true.2 p.digits, ?_, .inl p.given⟩
  rw [fraction_numeral]
  exact List.all_eq_true.2 p.digits'

/-- Reading counts in the last place of the numeral. That comes to the same as counting in millionths. -/
theorem value_numeral (nonzero : p.millionths ≠ 0) :
    p.numeral.value = ofUnits false (fromMillionths p.millionths) := by
  have count := p.natOfDigits_mul_power
  have given : natOfDigits (p.whole ++ p.fraction) ≠ 0 := by
    intro zero
    rw [zero, Nat.zero_mul] at count
    exact nonzero count.symm
  have places (n : Nat) : 0 < 10 ^ n := Nat.pow_pos (by decide)
  have scaled : roundUnits (natOfDigits (p.whole ++ p.fraction) * one * 10 ^ (6 - p.fraction.length))
      (10 ^ p.fraction.length * 10 ^ (6 - p.fraction.length)) =
        roundUnits (natOfDigits (p.whole ++ p.fraction) * one) (10 ^ p.fraction.length) :=
    roundUnits_scaled (places _) (places _)
  rw [Nat.mul_right_comm, count, power_mul_power] at scaled
  rw [Expression.Numeral.value, fraction_numeral]
  change ofDecimal false (natOfDigits (p.whole ++ p.fraction)) _ = _
  rw [ofDecimal_neg given p.short, ofRatio, Nat.pow_eq, ← scaled, fromMillionths]

end PlainNumeral

namespace Expression

open Double PlainNumeral

variable {negative : Bool} {units : Nat}

theorem value_signed_numeral {n : Numeral} (wellFormed : n.WellFormed) (negative : Bool) :
    value (minus negative ++ n.text) = .ok (signed negative n.value) := by
  have alone : Scans n.text [.number n] := by
    have ends : n.StopsBefore [] := nofun
    have scans := Scans.number wellFormed ends .nothing
    rwa [List.append_nil] at scans
  cases negative with
  | false =>
    rw [value, minus, if_neg Bool.false_ne_true, List.nil_append, tokens_eq_ok_iff.2 alone]
    rfl
  | true =>
    have minus : Token.ofChar? '-' = some (.operator .minus) := rfl
    rw [value, Double.minus, if_pos rfl, List.singleton_append, tokens_eq_ok_iff.2 (.mark minus alone)]
    rfl

theorem ne_zero_of_inMillionths (count : inMillionths units ≠ 0) : units ≠ 0 := by
  rintro rfl
  exact count inMillionths_zero

theorem value_report_toList (fine : spacing units ∣ units) (small : |exact negative units| < 10 ^ 21)
    (count : inMillionths units ≠ 0) : value (report (.finite negative units)).toList =
      .ok (.finite negative (fromMillionths (inMillionths units))) := by
  have finite : fromMillionths (inMillionths units) < limit :=
    Nat.lt_trans (reread_lt fine (abs_exact_lt_iff.1 small)) (by decide +kernel)
  have counted := millionths_ofMillionths negative (inMillionths units)
  have numbered : (ofMillionths negative (inMillionths units)).millionths ≠ 0 := by rwa [counted]
  rw [text_reportedNumeral small, reportedNumeral_of_ne_zero negative (ne_zero_of_inMillionths count),
    PlainNumeral.text, negative_ofMillionths, ← text_numeral, value_signed_numeral (wellFormed_numeral _),
    value_numeral _ numbered, counted, ofUnits, if_pos finite]
  cases negative <;> rfl

theorem report_reread (fine : spacing units ∣ units) (small : |exact negative units| < 10 ^ 21)
    (count : inMillionths units ≠ 0) :
    report (.finite negative (fromMillionths (inMillionths units))) = report (.finite negative units) := by
  have again : |exact negative (fromMillionths (inMillionths units))| < 10 ^ 21 :=
    abs_exact_lt_iff.2 (reread_lt fine (abs_exact_lt_iff.1 small))
  have same := inMillionths_reread fine
  have count' : inMillionths (fromMillionths (inMillionths units)) ≠ 0 := by rwa [same]
  rw [← String.toList_inj, text_reportedNumeral small, text_reportedNumeral again,
    reportedNumeral_of_ne_zero negative (ne_zero_of_inMillionths count),
    reportedNumeral_of_ne_zero negative (ne_zero_of_inMillionths count'), same]

/-- The report of a number below `10 ^ 21` that is not reported as zero is valid, and it has a value with the
same report, which is the number itself if that is whole. -/
theorem value_report {bits : Nat} (double : ofBits bits = .finite negative units)
    (small : |exact negative units| < 10 ^ 21)
    (nonzero : ¬ Denotes (report (.finite negative units)).toList 0) :
    validate (report (.finite negative units)).toList = .ok () ∧
      ∃ w, value (report (.finite negative units)).toList = .ok w ∧
        report w = report (.finite negative units) ∧
        ((∃ n : ℤ, exact negative units = n) → w = .finite negative units) := by
  have fine := (isMagnitude_of_ofBits double).fine
  have count : inMillionths units ≠ 0 := by
    intro zero
    apply nonzero
    rw [denotes_report_iff small, value_reportedNumeral, zero, cast_signed]
    cases negative <;> simp
  have read := value_report_toList fine small count
  refine ⟨validate_of_value read, _, read, report_reread fine small count, fun whole => ?_⟩
  rw [reread_of_dvd fine (exact_eq_int_iff.1 whole)]

theorem value_report_third :
    ofBits 0xBFD5555555555555 = .finite true (0x15555555555555 <<< 1020) ∧
      |exact true (0x15555555555555 <<< 1020)| < 10 ^ 21 ∧
      ¬ Denotes (report (.finite true (0x15555555555555 <<< 1020))).toList 0 ∧
      ∃ w, value "-0.333333".toList = .ok w ∧ report w = "-0.333333" := by
  have double : ofBits 0xBFD5555555555555 = .finite true (0x15555555555555 <<< 1020) := by decide +kernel
  have small : |exact true (0x15555555555555 <<< 1020)| < 10 ^ 21 :=
    abs_exact_lt_iff.2 (by decide +kernel)
  have count : inMillionths (0x15555555555555 <<< 1020) = 333333 := by decide +kernel
  have nonzero : ¬ Denotes (report (.finite true (0x15555555555555 <<< 1020))).toList 0 := by
    rw [denotes_report_iff small, value_reportedNumeral, count, cast_signed]
    norm_num
  have reported : report (.finite true (0x15555555555555 <<< 1020)) = "-0.333333" := by decide +kernel
  obtain ⟨-, w, found, same, -⟩ := value_report double small nonzero
  rw [reported] at found same
  exact ⟨double, small, nonzero, w, found, same⟩

end Expression

end Switchboard
