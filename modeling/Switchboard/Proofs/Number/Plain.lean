import Mathlib.Algebra.Order.Field.Rat
import Mathlib.Data.List.Induction
import Mathlib.Tactic.FieldSimp
import Mathlib.Tactic.Linarith
import Switchboard.Number.Decimal
import Switchboard.Proofs.Text.Trim

/-!
# Plain numerals

A plain numeral has digits without superfluous zeros before them, and perhaps a minus before these and a
point with at most six more digits behind them, the last of which is no zero. It denotes a rational number.
Counted in millionths every such number has one plain numeral, but for zero, which may have a minus.
-/

namespace Switchboard

section Digits

variable {a b : List Char} {n : Nat}

theorem natOfDigits_append (a b : List Char) :
    natOfDigits (a ++ b) = natOfDigits a * 10 ^ b.length + natOfDigits b := by
  have behind : natOfDigits (a ++ b) = Nat.ofDigitChars 10 b (natOfDigits a) :=
    Nat.ofDigitChars_append 0
  rw [behind, Nat.ofDigitChars_eq_ofDigitChars_zero, Nat.mul_comm]
  rfl

theorem natOfDigits_cons (c : Char) (a : List Char) :
    natOfDigits (c :: a) = digitValue c * 10 ^ a.length + natOfDigits a := by
  rw [← List.singleton_append, natOfDigits_append]
  simp [natOfDigits]

theorem natOfDigits_concat (a : List Char) (c : Char) :
    natOfDigits (a ++ [c]) = 10 * natOfDigits a + digitValue c := by
  simp [natOfDigits]

theorem natOfDigits_zeros (count : Nat) : natOfDigits (List.replicate count '0') = 0 := by
  have zeros : natOfDigits (List.replicate count '0') = 10 ^ count * 0 :=
    Nat.ofDigitChars_replicate_zero
  rw [zeros, Nat.mul_zero]

theorem isDigit_iff {c : Char} : isDigit c = true ↔ 48 ≤ c.toNat ∧ c.toNat ≤ 57 := by
  rw [isDigit, Bool.and_eq_true, decide_eq_true_eq, decide_eq_true_eq]
  exact Iff.rfl

theorem ne_point_of_isDigit {c : Char} (digit : isDigit c = true) : (c == '.') = false := by
  rw [beq_eq_false_iff_ne]
  rintro rfl
  cases digit

theorem digitValue_lt {c : Char} (digit : isDigit c = true) : digitValue c < 10 := by
  have range := isDigit_iff.1 digit
  change c.toNat - 48 < 10
  omega

theorem digitValue_inj {c d : Char} (digit : isDigit c = true) (digit' : isDigit d = true)
    (same : digitValue c = digitValue d) : c = d := by
  have range := isDigit_iff.1 digit
  have range' := isDigit_iff.1 digit'
  change c.toNat - 48 = d.toNat - 48 at same
  exact Char.toNat_inj.1 (by omega)

theorem isDigit_digitChar (small : n < 10) : isDigit n.digitChar = true := by
  have all : ∀ n < 10, isDigit n.digitChar = true := by decide
  exact all n small

theorem digitValue_digitChar (small : n < 10) : digitValue n.digitChar = n := by
  have all : ∀ n < 10, digitValue n.digitChar = n := by decide
  exact all n small

theorem natOfDigits_lt (digits : ∀ c ∈ a, isDigit c = true) : natOfDigits a < 10 ^ a.length := by
  induction a with
  | nil => decide
  | cons c a ih =>
    rw [List.forall_mem_cons] at digits
    have first := Nat.mul_le_mul_right (10 ^ a.length) (Nat.le_of_lt_succ (digitValue_lt digits.1))
    have rest := ih digits.2
    rw [natOfDigits_cons, List.length_cons, Nat.pow_succ]
    omega

/-- Rows of digits that are equally long tell numbers apart. -/
theorem natOfDigits_inj (digits : ∀ c ∈ a, isDigit c = true) (digits' : ∀ c ∈ b, isDigit c = true)
    (length : a.length = b.length) (same : natOfDigits a = natOfDigits b) : a = b := by
  induction a generalizing b with
  | nil => exact (List.eq_nil_of_length_eq_zero length.symm).symm
  | cons c a ih =>
    cases b with
    | nil => cases length
    | cons d b =>
      rw [List.forall_mem_cons] at digits digits'
      have length : a.length = b.length := Nat.succ.inj length
      have rest := natOfDigits_lt digits.2
      have rest' := natOfDigits_lt digits'.2
      rw [natOfDigits_cons, natOfDigits_cons, ← length] at same
      rw [← length] at rest'
      have power : 0 < 10 ^ a.length := Nat.pow_pos (by decide)
      have first : digitValue c = digitValue d := by
        have left := Nat.add_mul_div_right (natOfDigits a) (digitValue c) power
        have right := Nat.add_mul_div_right (natOfDigits b) (digitValue d) power
        rw [Nat.div_eq_of_lt rest, Nat.zero_add, Nat.add_comm, same, Nat.add_comm] at left
        rw [Nat.div_eq_of_lt rest', Nat.zero_add] at right
        exact left.symm.trans right
      rw [first] at same
      rw [digitValue_inj digits.1 digits'.1 first, ih digits.2 digits'.2 length (Nat.add_left_cancel same)]

theorem natOfDigits_digitsOf (n : Nat) : natOfDigits (digitsOf n) = n :=
  Nat.ofDigitChars_ten_toDigits

theorem isDigit_of_mem_digitsOf {c : Char} (member : c ∈ digitsOf n) : isDigit c = true :=
  Nat.isDigit_of_mem_toDigits (by decide) (by decide) member

theorem digitsOf_ne_nil (n : Nat) : digitsOf n ≠ [] := Nat.toDigits_ne_nil

theorem digitsOf_of_lt (small : n < 10) : digitsOf n = [n.digitChar] := Nat.toDigits_of_lt_base small

theorem digitsOf_of_le (large : 10 ≤ n) : digitsOf n = digitsOf (n / 10) ++ [(n % 10).digitChar] :=
  Nat.toDigits_of_base_le (by decide) large

/-- Only the digits of zero start with a zero. -/
theorem digitsOf_lead (n : Nat) (zero : (digitsOf n).head? = some '0') : digitsOf n = ['0'] := by
  induction n using Nat.strongRecOn with
  | ind n ih =>
    by_cases small : n < 10
    · rw [digitsOf_of_lt small] at zero ⊢
      rw [Option.some.inj zero]
    · have large := Nat.le_of_not_lt small
      rw [digitsOf_of_le large, List.head?_append_of_ne_nil _ (digitsOf_ne_nil _)] at zero
      have none := congrArg natOfDigits (ih (n / 10) (by omega) zero)
      rw [natOfDigits_digitsOf] at none
      have some : n / 10 ≠ 0 := by omega
      exact absurd none some

/-- Digits without superfluous zeros are those of their number. -/
theorem digitsOf_natOfDigits (digits : ∀ c ∈ a, isDigit c = true) (given : a ≠ [])
    (lead : a.head? = some '0' → a = ['0']) : digitsOf (natOfDigits a) = a := by
  induction a using List.reverseRecOn with
  | nil => exact absurd rfl given
  | append_singleton front c ih =>
    rw [List.forall_mem_append, List.forall_mem_singleton] at digits
    have small := digitValue_lt digits.2
    have last : (digitValue c).digitChar = c :=
      digitValue_inj (isDigit_digitChar small) digits.2 (digitValue_digitChar small)
    rw [natOfDigits_concat]
    cases front with
    | nil =>
      change digitsOf (0 + digitValue c) = [c]
      rw [Nat.zero_add, digitsOf_of_lt small, last]
    | cons d front =>
      have nonzero : d ≠ '0' := by
        rintro rfl
        simpa using lead rfl
      have before := ih digits.1 (List.cons_ne_nil _ _) fun zero => absurd (Option.some.inj zero) nonzero
      generalize natOfDigits (d :: front) = m at before ⊢
      have positive : m ≠ 0 := by
        rintro rfl
        exact nonzero (List.cons.inj before).1.symm
      rw [digitsOf_of_le (by omega)]
      have quotient : (10 * m + digitValue c) / 10 = m := by omega
      have remainder : (10 * m + digitValue c) % 10 = digitValue c := by omega
      rw [quotient, remainder, before, last]

end Digits

open Double Text

theorem dropTrailing_eq (c : Char) (row : List Char) : dropTrailing c row = dropEndWhile (· == c) row := rfl

theorem natOfDigits_padded (width : Nat) (row : List Char) :
    natOfDigits (padded width row) = natOfDigits row := by
  rw [padded, natOfDigits_append, natOfDigits_zeros, Nat.zero_mul, Nat.zero_add]

theorem length_sixDigits (n : Nat) : (padded 6 (digitsOf (n % 1000000))).length = 6 := by
  have short : (digitsOf (n % 1000000)).length ≤ 6 :=
    (Nat.length_toDigits_le_iff (by decide) (by decide)).2 (Nat.mod_lt _ (by decide))
  rw [padded, List.length_append, List.length_replicate, Nat.sub_add_cancel short]

theorem isDigit_of_mem_sixDigits (n : Nat) :
    ∀ c ∈ padded 6 (digitsOf (n % 1000000)), isDigit c = true := by
  rw [padded, List.forall_mem_append]
  refine ⟨fun c member => ?_, fun c => isDigit_of_mem_digitsOf⟩
  rw [List.eq_of_mem_replicate member]
  rfl

theorem Double.cast_signed (negative : Bool) (n : Nat) :
    (signed negative n : ℚ) = if negative then -(n : ℚ) else n := by
  cases negative with
  | false => exact Int.cast_natCast n
  | true => exact (Int.cast_neg _).trans (congrArg Neg.neg (Int.cast_natCast n))

@[ext] structure PlainNumeral where
  negative : Bool
  whole : List Char
  fraction : List Char
  digits : ∀ c ∈ whole, isDigit c = true
  given : whole ≠ []
  lead : whole.head? = some '0' → whole = ['0']
  digits' : ∀ c ∈ fraction, isDigit c = true
  short : fraction.length ≤ 6
  last : fraction.getLast? ≠ some '0'

namespace PlainNumeral

def unsigned (p : PlainNumeral) : List Char :=
  p.whole ++ if p.fraction = [] then [] else '.' :: p.fraction

def text (p : PlainNumeral) : List Char := minus p.negative ++ p.unsigned

def value (p : PlainNumeral) : ℚ :=
  let magnitude : ℚ := natOfDigits p.whole + natOfDigits p.fraction / 10 ^ p.fraction.length
  if p.negative then -magnitude else magnitude

/-- The digits behind the point, filled up to six. -/
def places (p : PlainNumeral) : List Char :=
  p.fraction ++ List.replicate (6 - p.fraction.length) '0'

/-- How many millionths make the magnitude. -/
def millionths (p : PlainNumeral) : Nat := natOfDigits p.whole * 1000000 + natOfDigits p.places

theorem length_places (p : PlainNumeral) : p.places.length = 6 := by
  have short := p.short
  rw [places, List.length_append, List.length_replicate]
  omega

theorem isDigit_of_mem_places (p : PlainNumeral) : ∀ c ∈ p.places, isDigit c = true := by
  rw [places, List.forall_mem_append]
  refine ⟨p.digits', fun c member => ?_⟩
  rw [List.eq_of_mem_replicate member]
  rfl

theorem natOfDigits_places_lt (p : PlainNumeral) : natOfDigits p.places < 1000000 := by
  have bound := natOfDigits_lt p.isDigit_of_mem_places
  rwa [length_places] at bound

theorem natOfDigits_places (p : PlainNumeral) :
    natOfDigits p.places = natOfDigits p.fraction * 10 ^ (6 - p.fraction.length) := by
  rw [places, natOfDigits_append, natOfDigits_zeros, List.length_replicate, Nat.add_zero]

/-- The places that are given and those that are filled up make six. -/
theorem power_mul_power (p : PlainNumeral) :
    10 ^ p.fraction.length * 10 ^ (6 - p.fraction.length) = 1000000 := by
  rw [← Nat.pow_add, Nat.add_sub_cancel' p.short]

theorem natOfDigits_mul_power (p : PlainNumeral) :
    natOfDigits (p.whole ++ p.fraction) * 10 ^ (6 - p.fraction.length) = p.millionths := by
  rw [natOfDigits_append, Nat.add_mul, Nat.mul_assoc, power_mul_power, millionths, natOfDigits_places]

theorem value_eq (p : PlainNumeral) : p.value = signed p.negative p.millionths / 1000000 := by
  have power : (10 : ℚ) ^ (6 - p.fraction.length) * 10 ^ p.fraction.length = 1000000 := by
    rw [mul_comm]
    exact_mod_cast p.power_mul_power
  have magnitude : (natOfDigits p.whole + natOfDigits p.fraction / 10 ^ p.fraction.length : ℚ) =
      p.millionths / 1000000 := by
    rw [millionths, natOfDigits_places, ← power]
    push_cast
    rw [← power]
    field_simp
  rw [value, magnitude, cast_signed]
  split
  · exact (neg_div _ _).symm
  · rfl

def ofMillionths (negative : Bool) (n : Nat) : PlainNumeral where
  negative := negative
  whole := digitsOf (n / 1000000)
  fraction := dropTrailing '0' (padded 6 (digitsOf (n % 1000000)))
  digits := fun c => isDigit_of_mem_digitsOf
  given := digitsOf_ne_nil _
  lead := digitsOf_lead _
  digits' := fun c member => isDigit_of_mem_sixDigits _ c ((dropEndWhile_isPrefix _ _).subset member)
  short := Nat.le_trans (dropEndWhile_isPrefix _ _).length_le (Nat.le_of_eq (length_sixDigits _))
  last := fun zero => by cases last_dropEndWhile _ _ _ zero

@[simp] theorem negative_ofMillionths (negative : Bool) (n : Nat) :
    (ofMillionths negative n).negative = negative := rfl

@[simp] theorem whole_ofMillionths (negative : Bool) (n : Nat) :
    (ofMillionths negative n).whole = digitsOf (n / 1000000) := rfl

@[simp] theorem fraction_ofMillionths (negative : Bool) (n : Nat) : (ofMillionths negative n).fraction =
    dropTrailing '0' (padded 6 (digitsOf (n % 1000000))) := rfl

theorem places_ofMillionths (negative : Bool) (n : Nat) :
    (ofMillionths negative n).places = padded 6 (digitsOf (n % 1000000)) := by
  obtain ⟨dropped, zeros, parts⟩ := eq_dropEndWhile_append (· == '0') (padded 6 (digitsOf (n % 1000000)))
  have length := congrArg List.length parts
  rw [length_sixDigits, List.length_append] at length
  have count : 6 - (ofMillionths negative n).fraction.length = dropped.length := by
    rw [fraction_ofMillionths, dropTrailing_eq]
    omega
  have filled : dropped = List.replicate dropped.length '0' :=
    List.eq_replicate_iff.2 ⟨rfl, fun c member => eq_of_beq (zeros c member)⟩
  rw [places, count, ← filled]
  exact parts.symm

theorem millionths_ofMillionths (negative : Bool) (n : Nat) :
    (ofMillionths negative n).millionths = n := by
  rw [millionths, places_ofMillionths, natOfDigits_padded, whole_ofMillionths, natOfDigits_digitsOf,
    natOfDigits_digitsOf, Nat.mul_comm]
  exact Nat.div_add_mod n 1000000

/-- Every plain numeral is the one of its millionths. -/
theorem ofMillionths_millionths (p : PlainNumeral) : ofMillionths p.negative p.millionths = p := by
  have small := p.natOfDigits_places_lt
  have quotient : p.millionths / 1000000 = natOfDigits p.whole := by
    rw [millionths]
    omega
  have remainder : p.millionths % 1000000 = natOfDigits p.places := by
    rw [millionths]
    omega
  have places : padded 6 (digitsOf (p.millionths % 1000000)) = p.places := by
    apply natOfDigits_inj (isDigit_of_mem_sixDigits _) p.isDigit_of_mem_places
    · rw [length_sixDigits, length_places]
    · rw [natOfDigits_padded, natOfDigits_digitsOf, remainder]
  ext1
  case negative => exact negative_ofMillionths _ _
  case whole =>
    rw [whole_ofMillionths, quotient, digitsOf_natOfDigits p.digits p.given p.lead]
  case fraction =>
    have zeros : ∀ c ∈ List.replicate (6 - p.fraction.length) '0', (c == '0') = true :=
      fun c member => beq_iff_eq.2 (List.eq_of_mem_replicate member)
    rw [fraction_ofMillionths, places, PlainNumeral.places, dropTrailing_eq,
      dropEndWhile_append_of_all zeros, dropEndWhile_eq_self]
    intro c last
    rw [beq_eq_false_iff_ne]
    rintro rfl
    exact p.last last

theorem value_ofMillionths (negative : Bool) (n : Nat) :
    (ofMillionths negative n).value = signed negative n / 1000000 := by
  rw [value_eq, millionths_ofMillionths, negative_ofMillionths]

theorem value_eq_zero_iff {p : PlainNumeral} : p.value = 0 ↔ p.millionths = 0 := by
  rw [value_eq, cast_signed]
  split <;> simp

/-- A number other than zero has one plain numeral. -/
theorem eq_of_value_eq {p q : PlainNumeral} (nonzero : p.value ≠ 0) (same : p.value = q.value) :
    p = q := by
  have some : p.millionths ≠ 0 := fun none => nonzero (value_eq_zero_iff.2 none)
  rw [value_eq, value_eq, div_left_inj' (by norm_num), Int.cast_inj] at same
  rw [← p.ofMillionths_millionths, ← q.ofMillionths_millionths]
  generalize p.negative = s at same
  generalize q.negative = t at same
  cases s <;> cases t <;> simp only [signed, if_true, Bool.false_eq_true, if_false] at same
  · rw [Int.natCast_inj.1 same]
  · omega
  · omega
  · rw [Int.natCast_inj.1 (Int.neg_inj.1 same)]

/-- Zero has two plain numerals. -/
theorem text_of_value_eq_zero {p : PlainNumeral} (zero : p.value = 0) :
    p.text = minus p.negative ++ ['0'] := by
  have none := value_eq_zero_iff.1 zero
  rw [← p.ofMillionths_millionths, none]
  rfl

theorem span_unsigned (p : PlainNumeral) : p.unsigned.takeWhile isDigit = p.whole ∧
    p.unsigned.dropWhile isDigit = if p.fraction = [] then [] else '.' :: p.fraction := by
  have point : isDigit '.' = false := rfl
  rw [unsigned, List.takeWhile_append_of_pos p.digits, List.dropWhile_append_of_pos p.digits]
  split <;> simp [point]

theorem head_unsigned (p : PlainNumeral) : p.unsigned.head? ≠ some '-' := by
  intro minus
  rw [unsigned, List.head?_append_of_ne_nil _ p.given] at minus
  cases p.digits '-' (List.mem_of_head? minus)

/-- A text belongs to one numeral at most. -/
theorem text_inj {p q : PlainNumeral} (same : p.text = q.text) : p = q := by
  have parts : p.negative = q.negative ∧ p.unsigned = q.unsigned := by
    have first := p.head_unsigned
    have second := q.head_unsigned
    rw [text, text] at same
    generalize p.negative = s at same
    generalize q.negative = t at same
    cases s <;> cases t
    case false.false => exact ⟨rfl, same⟩
    case true.true => exact ⟨rfl, List.append_cancel_left same⟩
    case false.true => exact absurd (congrArg List.head? same) first
    case true.false => exact absurd (congrArg List.head? same).symm second
  obtain ⟨whole, rest⟩ := p.span_unsigned
  obtain ⟨whole', rest'⟩ := q.span_unsigned
  rw [parts.2] at whole rest
  have rests := rest.symm.trans rest'
  ext1
  case negative => exact parts.1
  case whole => exact whole.symm.trans whole'
  case fraction =>
    split at rests <;> split at rests
    case isTrue.isTrue none none' => rw [none, none']
    case isTrue.isFalse => cases rests
    case isFalse.isTrue => cases rests
    case isFalse.isFalse => exact List.tail_eq_of_cons_eq rests

section Writing

variable {whole row : List Char}

theorem dropZeros_point (whole row : List Char) :
    dropTrailing '0' (whole ++ '.' :: row) = whole ++ '.' :: dropTrailing '0' row := by
  obtain ⟨dropped, zeros, parts⟩ := eq_dropEndWhile_append (· == '0') row
  have last := last_dropEndWhile (· == '0') row
  rw [dropTrailing_eq, dropTrailing_eq]
  generalize dropEndWhile (· == '0') row = kept at parts last ⊢
  rw [parts, ← List.cons_append, ← List.append_assoc, dropEndWhile_append_of_all zeros,
    dropEndWhile_eq_self]
  intro c ending
  rw [List.getLast?_append, List.getLast?_cons, Option.some_or, Option.mem_some_iff] at ending
  cases final : kept.getLast? with
  | none =>
    rw [final] at ending
    subst ending
    rfl
  | some d =>
    rw [final] at ending
    subst ending
    exact last d final

theorem dropPoint (digits : ∀ c ∈ whole, isDigit c = true) (digits' : ∀ c ∈ row, isDigit c = true) :
    dropTrailing '.' (whole ++ '.' :: row) = whole ++ if row = [] then [] else '.' :: row := by
  have stays {kept : List Char} (digit : ∀ c ∈ kept.getLast?, isDigit c = true) :
      dropTrailing '.' kept = kept :=
    dropEndWhile_eq_self fun c last => ne_point_of_isDigit (digit c last)
  cases row with
  | nil =>
    have point : ∀ c ∈ ['.'], (c == '.') = true := by simp
    rw [if_pos rfl, List.append_nil, dropTrailing_eq, dropEndWhile_append_of_all point]
    exact stays fun c last => digits c (List.mem_of_getLast? last)
  | cons d row =>
    rw [if_neg (List.cons_ne_nil _ _)]
    apply stays
    intro c last
    rw [List.getLast?_append, List.getLast?_cons_cons,
      List.getLast?_eq_some_getLast (List.cons_ne_nil d row), Option.some_or] at last
    cases last
    exact digits' _ (List.getLast_mem _)

end Writing

/-- Six digits behind a point lose the zeros at their end, and the point if no digit is left. -/
theorem text_ofMillionths (negative : Bool) (n : Nat) : (ofMillionths negative n).text =
    minus negative ++ dropTrailing '.' (dropTrailing '0'
      (digitsOf (n / 1000000) ++ '.' :: padded 6 (digitsOf (n % 1000000)))) := by
  have written := dropPoint (ofMillionths negative n).digits (ofMillionths negative n).digits'
  rw [dropZeros_point]
  exact congrArg (minus negative ++ ·) written.symm

/-- No millionths are left over, so neither is a point. -/
theorem text_ofMillionths_mul (negative : Bool) (n : Nat) :
    (ofMillionths negative (n * 1000000)).text = minus negative ++ digitsOf n := by
  have quotient : n * 1000000 / 1000000 = n := Nat.mul_div_cancel n (by decide)
  have remainder : n * 1000000 % 1000000 = 0 := Nat.mul_mod_left n 1000000
  have none : (ofMillionths negative (n * 1000000)).fraction = [] := by
    rw [fraction_ofMillionths, remainder]
    rfl
  rw [text, unsigned, if_pos none, List.append_nil, negative_ofMillionths, whole_ofMillionths, quotient]

end PlainNumeral

/-- A text denotes the number of which it is a plain numeral. -/
def Denotes (text : List Char) (x : ℚ) : Prop := ∃ p : PlainNumeral, p.text = text ∧ p.value = x

end Switchboard
