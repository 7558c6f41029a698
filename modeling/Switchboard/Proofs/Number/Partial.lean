import Switchboard.Data.Conversion
import Switchboard.Proofs.Number.Magnitude

/-!
# Operations that may have no result

Division refuses a zero divisor. The remainder has no result for an infinite dividend or a zero divisor,
unless a part is no number. A number that is not finite has no whole part, and an integer with too many
digits is not written. Quotients and remainders of all numbers come about by looking at these cases
first. The looking leaves none of them to the operations, so what results is total.
-/

namespace Switchboard

inductive Undefined where
  | zeroDivisor
  | noRemainder
  | conversion (m : Mismatch)
  | tooManyDigits
deriving DecidableEq, Repr

def Undefined.ofConversion {α : Type} : Except Mismatch α → Except Undefined α :=
  Except.mapError conversion

theorem Undefined.ofConversion_ok {α : Type} (a : α) :
    ofConversion (.ok a) = .ok a := rfl

namespace Double

def isZero : Double → Bool
  | finite _ units => units == 0
  | _ => false

def isNan : Double → Bool
  | nan => true
  | _ => false

def isInfinite : Double → Bool
  | infinite _ => true
  | _ => false

def hasMinus : Double → Bool
  | nan => false
  | infinite negative => negative
  | finite negative _ => negative

/-- The magnitude of a number with the sign of another one. -/
def withSignOf (x sign : Double) : Double :=
  match x with
  | nan => nan
  | infinite _ => infinite sign.hasMinus
  | finite _ units => finite sign.hasMinus units

def quotient (x y : Double) : Except Undefined Double :=
  if y.isZero then .error .zeroDivisor else .ok (x.div y)

def remainder (x y : Double) : Except Undefined Double :=
  if (x.isInfinite && !y.isNan) || (y.isZero && !x.isNan) then .error .noRemainder
  else .ok (x.rem y)

/-- Division that looks at zero divisors first. -/
def guardedQuotient (x y : Double) : Except Undefined Double :=
  if y.isZero then
    if x.isZero || x.isNan then .ok nan
    else .ok (((infinite false).withSignOf x).mul ((finite false one).withSignOf y))
  else quotient x y

/-- The remainder, after the cases that have none. -/
def guardedRemainder (x y : Double) : Except Undefined Double :=
  if y.isZero || x.isInfinite || x.isNan || y.isNan then .ok nan else remainder x y

theorem guardedQuotient_eq (x y : Double) : guardedQuotient x y = .ok (x.div y) := by
  rw [guardedQuotient]
  split
  · rename_i zero
    cases y with
    | nan => cases zero
    | infinite t => cases zero
    | finite t n =>
      obtain rfl : n = 0 := eq_of_beq zero
      have unit : one ≠ 0 := Nat.ne_of_gt one_pos
      cases x with
      | nan => rfl
      | infinite s => simp [isZero, isNan, withSignOf, hasMinus, mul, div, unit]
      | finite s m =>
        by_cases none : m = 0 <;>
          simp [isZero, isNan, withSignOf, hasMinus, mul, div, unit, none]
  · rename_i nonzero
    rw [quotient, if_neg nonzero]

theorem guardedRemainder_eq (x y : Double) : guardedRemainder x y = .ok (x.rem y) := by
  rw [guardedRemainder]
  split
  · rename_i undefined
    cases x with
    | nan => rfl
    | infinite s => cases y <;> rfl
    | finite s m =>
      cases y with
      | nan => rfl
      | infinite t => cases undefined
      | finite t n =>
        have zero : n = 0 := by simpa [isZero, isInfinite, isNan] using undefined
        rw [rem, if_pos zero]
  · rename_i defined
    simp only [Bool.or_eq_true, not_or, Bool.not_eq_true] at defined
    obtain ⟨⟨⟨zero, infinite⟩, -⟩, -⟩ := defined
    simp [remainder, zero, infinite]

end Double

def writtenInt (n : Int) : Except Undefined String :=
  if (Scalar.int n).isWritable then .ok (intText n) else .error .tooManyDigits

theorem lt_writableBound {n : Nat} (h : n < Nat.pow 10 21) : n < Scalar.writableBound := by
  have room (limit : Nat) (high : 21 ≤ limit) : Nat.pow 10 21 ≤ Nat.pow 10 limit :=
    Nat.pow_le_pow_right (by decide) high
  unfold Scalar.writableBound
  exact Nat.lt_of_lt_of_le h (room digitLimit (by decide))

theorem writtenInt_eq {n : Int} (h : n.natAbs < Nat.pow 10 21) : writtenInt n = .ok (intText n) := by
  have writable : (Scalar.int n).isWritable = true := by
    simp only [Scalar.isWritable, decide_eq_true_eq]
    exact lt_writableBound h
  rw [writtenInt, if_pos writable]

end Switchboard
