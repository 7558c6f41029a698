/-!
# Binary64 numbers, exactly

Every finite number of the format is an integer multiple of its least positive number, `2 ^ -1074`.
A finite number is kept here as a sign and that multiple, so sums, remainders and floors are
statements about natural numbers, and the only place where a number is rounded is `roundUnits`.
-/

namespace Switchboard

inductive Double where
  | nan
  | infinite (negative : Bool)
  /-- The number `± units * 2 ^ -1074`; a zero keeps its sign. -/
  | finite (negative : Bool) (units : Nat)
deriving DecidableEq, Repr

namespace Double

def one : Nat := 1 <<< 1074

/-- The first magnitude, in units, that is too large for a finite number. -/
def limit : Nat := 1 <<< 2098

/-- The integer nearest to `num / den`; a half goes to the even neighbour. -/
def roundHalfEven (num den : Nat) : Nat :=
  let q := num / den
  let r := num % den
  if 2 * r < den then q else if den < 2 * r then q + 1 else q + q % 2

/-- The distance between neighbouring numbers at a magnitude of `q` units: a significand has
53 binary digits, and no number is finer than one unit. -/
def spacing (q : Nat) : Nat := 1 <<< (q.log2 - 52)

/-- The magnitude, in units, that is nearest to `num / den` units. -/
def roundUnits (num den : Nat) : Nat :=
  let s := spacing (num / den)
  roundHalfEven num (den * s) * s

def ofUnits (negative : Bool) (units : Nat) : Double :=
  if units < limit then finite negative units else infinite negative

def ofRatio (negative : Bool) (num den : Nat) : Double :=
  ofUnits negative (roundUnits num den)

def zero : Double := finite false 0

/-- The number nearest to an integer, infinite where it is too large for the format. -/
def ofInt (n : Int) : Double := ofRatio (n < 0) (n.natAbs * one) 1

def neg : Double → Double
  | nan => nan
  | infinite s => infinite !s
  | finite s n => finite (!s) n

def signed (negative : Bool) (units : Nat) : Int := if negative then -units else units

/-- The sum, rounded once. Opposite numbers give a positive zero, two negative zeros a negative one. -/
def add : Double → Double → Double
  | finite s m, finite t n =>
    let sum := signed s m + signed t n
    if sum = 0 then finite (s && t) 0 else ofRatio (sum < 0) sum.natAbs 1
  | infinite s, infinite t => if s = t then infinite s else nan
  | infinite s, finite _ _ => infinite s
  | finite _ _, infinite t => infinite t
  | nan, _ => nan
  | _, nan => nan

def sub (x y : Double) : Double := x.add y.neg

def mul : Double → Double → Double
  | finite s m, finite t n => ofRatio (s != t) (m * n) one
  | infinite s, infinite t => infinite (s != t)
  | infinite s, finite t n => if n = 0 then nan else infinite (s != t)
  | finite s m, infinite t => if m = 0 then nan else infinite (s != t)
  | nan, _ => nan
  | _, nan => nan

/-- The quotient, rounded once. Division by zero gives an infinity, or no number for `0 / 0`. -/
def div : Double → Double → Double
  | finite s m, finite t n =>
    if n = 0 then (if m = 0 then nan else infinite (s != t)) else ofRatio (s != t) (m * one) n
  | infinite _, infinite _ => nan
  | infinite s, finite t _ => infinite (s != t)
  | finite s _, infinite t => finite (s != t) 0
  | nan, _ => nan
  | _, nan => nan

/-- The remainder of truncated division, which is exact and keeps the sign of the dividend. -/
def rem : Double → Double → Double
  | finite s m, finite _ n => if n = 0 then nan else finite s (m % n)
  | finite s m, infinite _ => finite s m
  | infinite _, _ => nan
  | nan, _ => nan
  | _, nan => nan

/-- The whole part, toward zero. -/
def truncate (negative : Bool) (units : Nat) : Int := signed negative (units / one)

def floor (negative : Bool) (units : Nat) : Int := signed negative units / one

def signBit (negative : Bool) : Nat := if negative then 1 <<< 63 else 0

/-- The leading bit of a significand, which the bit pattern leaves out. -/
def leadingBit : Nat := 1 <<< 52

/-- The bit pattern: sign, eleven bits of exponent, 52 bits of fraction. -/
def toBits : Double → Nat
  | nan => 0x7FF8000000000000
  | infinite s => signBit s + 0x7FF0000000000000
  | finite s n =>
    if n < leadingBit then signBit s + n
    else
      let e := n.log2 - 52
      signBit s + (e + 1) * leadingBit + (n >>> e - leadingBit)

def ofBits (bits : Nat) : Double :=
  let negative := bits.testBit 63
  let exponent := bits / leadingBit % 0x800
  let fraction := bits % leadingBit
  if exponent = 0x7FF then (if fraction = 0 then infinite negative else nan)
  else if exponent = 0 then finite negative fraction
  else finite negative ((leadingBit + fraction) <<< (exponent - 1))

end Double

end Switchboard
