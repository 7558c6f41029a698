import Switchboard.Number.Double

/-!
# Decimal text of numbers

Reading a decimal rounds it once. Two ways of writing a number are given: with six places at most,
and with the fewest digits that read back as the same number.
-/

namespace Switchboard

def digitsOf (n : Nat) : List Char := Nat.toDigits 10 n

def isDigit (c : Char) : Bool := '0' ≤ c && c ≤ '9'

def digitValue (c : Char) : Nat := c.toNat - '0'.toNat

/-- The natural number that a row of ASCII digits denotes. -/
def natOfDigits (digits : List Char) : Nat :=
  digits.foldl (fun n c => 10 * n + digitValue c) 0

def intDigits (n : Int) : List Char := (if n < 0 then ['-'] else []) ++ digitsOf n.natAbs

def intText (n : Int) : String := String.ofList (intDigits n)

namespace Double

/-- The number nearest to `± digits * 10 ^ exponent`. Exponents far outside the range of the format
are answered at once, so that no huge power is computed. -/
def ofDecimal (negative : Bool) (digits : Nat) (exponent : Int) : Double :=
  if digits = 0 then finite negative 0
  else if 400 < exponent then infinite negative
  else if exponent + digits.log2 < -400 then finite negative 0
  else
    match exponent with
    | .ofNat e => ofRatio negative (digits * Nat.pow 10 e * one) 1
    | .negSucc e => ofRatio negative (digits * one) (Nat.pow 10 (e + 1))

def minus (negative : Bool) : List Char := if negative then ['-'] else []

def dropTrailing (c : Char) (text : List Char) : List Char :=
  (text.reverse.dropWhile (· == c)).reverse

def padded (width : Nat) (digits : List Char) : List Char :=
  List.replicate (width - digits.length) '0' ++ digits

/-- The magnitude to six decimal places: a whole part, a point and six digits. -/
def sixPlaces (units : Nat) : List Char :=
  let n := roundHalfEven (units * 1000000) one
  digitsOf (n / 1000000) ++ '.' :: padded 6 (digitsOf (n % 1000000))

/-- The number to six places, without trailing zeros and without a trailing point. -/
def atMostSixPlaces (negative : Bool) (units : Nat) : List Char :=
  minus negative ++ dropTrailing '.' (dropTrailing '0' (sixPlaces units))

structure Decimal where
  digits : Nat
  exponent : Int
deriving DecidableEq, Repr

def Decimal.ReadsBack (d : Decimal) (units : Nat) : Prop :=
  ofDecimal false d.digits d.exponent = finite false units

instance (d : Decimal) (units : Nat) : Decidable (d.ReadsBack units) :=
  inferInstanceAs (Decidable (_ = _))

/-- The magnitude in units of the power of ten `10 ^ e`, as a fraction. -/
def tenPower (e : Int) : Nat × Nat :=
  match e with
  | .ofNat e => (Nat.pow 10 e * one, 1)
  | .negSucc e => (one, Nat.pow 10 (e + 1))

/-- The least `e` for which a positive magnitude is below `10 ^ e`: the number of digits before the
point, zero or negative for numbers below a tenth. -/
def decimalOrder (units : Nat) : Int :=
  if one ≤ units then (digitsOf (units / one)).length
  else 1 - (digitsOf ((one - 1) / units)).length

/-- The two neighbours of the magnitude among the multiples of `10 ^ e`, the nearer one first; a tie
puts the even one first. -/
def neighbours (units : Nat) (e : Int) : List Decimal :=
  let (num, den) := tenPower e
  let q := units * den / num
  let near := roundHalfEven (units * den) num
  let far := if near = q then q + 1 else q
  [⟨near, e⟩, ⟨far, e⟩]

/-- The shortest decimal that reads back as the magnitude, the nearest one where several are equally
short. Seventeen digits always suffice. -/
def shortest (units : Nat) : Decimal :=
  let order := decimalOrder units
  let candidates := (List.range 17).flatMap fun i => neighbours units (order - (i + 1 : Nat))
  (candidates.find? fun d => d.ReadsBack units).getD ⟨0, 0⟩

/-- Writes digits with an exponent of at least two digits: `1.5e+22`. -/
def scientific (digits : List Char) (exponent : Int) : List Char :=
  let mantissa := match digits with
    | [] => []
    | [d] => [d]
    | d :: rest => d :: '.' :: rest
  mantissa ++ ['e', if exponent < 0 then '-' else '+'] ++ padded 2 (digitsOf exponent.natAbs)

/-- Writes digits whose point stands after the first `order` of them. -/
def positional (digits : List Char) (order : Int) : List Char :=
  if order ≤ 0 then
    '0' :: '.' :: (List.replicate order.natAbs '0' ++ digits)
  else
    let whole := order.toNat
    if digits.length ≤ whole then
      digits ++ List.replicate (whole - digits.length) '0' ++ ['.', '0']
    else digits.take whole ++ '.' :: digits.drop whole

/-- The fewest digits that read back; positional from `10 ^ -4` up to `10 ^ 16`, with an exponent
elsewhere. -/
def fewestDigits (negative : Bool) (units : Nat) : List Char :=
  if units = 0 then minus negative ++ ['0', '.', '0']
  else
    let d := shortest units
    let all := digitsOf d.digits
    let digits := dropTrailing '0' all
    let order : Int := d.exponent + all.length
    minus negative ++
      if -4 < order ∧ order ≤ 16 then positional digits order else scientific digits (order - 1)

def text : Double → String
  | nan => "nan"
  | infinite s => if s then "-inf" else "inf"
  | finite s n => String.ofList (fewestDigits s n)

end Double

end Switchboard
