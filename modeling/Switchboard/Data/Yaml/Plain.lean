import Switchboard.Data.Yaml.Timestamp
import Switchboard.Data.Misreading
import Switchboard.Text.Line

/-!
# Plain scalars of YAML

A scalar without quotes is a truth value, an integer, a number with a point, a moment, or nothing,
where it has the form of one; else it is a text. Integers may be binary, octal, hexadecimal or in
base sixty, and numbers with a point may be in base sixty too.
-/

namespace Switchboard.Yaml

def words : List (String × Scalar) :=
  (["yes", "Yes", "YES", "true", "True", "TRUE", "on", "On", "ON"].map fun w => (w, .bool true)) ++
  (["no", "No", "NO", "false", "False", "FALSE", "off", "Off", "OFF"].map fun w => (w, .bool false)) ++
  (["", "~", "null", "Null", "NULL"].map fun w => (w, .null))

def isLowLine (c : Char) : Bool := c == '_'

def isBaseDigit (base : Nat) (c : Char) : Bool := (Text.hexValue? c).any (· < base)

def natOfBase (base : Nat) (digits : List Char) : Nat :=
  digits.foldl (fun n c => base * n + (Text.hexValue? c).getD 0) 0

/-- Whether a row that is not empty consists of digits of a base and low lines. -/
def isRow (base : Nat) (text : List Char) : Bool :=
  !text.isEmpty && text.all fun c => isLowLine c || isBaseDigit base c

/-- Whether a row starts with a digit and goes on with digits and low lines. -/
def isCount (text : List Char) : Bool := isRow 10 text && text.head?.any isDigit

def dropLines (text : List Char) : List Char := text.filter (!isLowLine ·)

/-- A part of a number in base sixty after the first one: one digit, or two below sixty. -/
def isSixtieth : List Char → Bool
  | [c] => isDigit c
  | [c, d] => ('0' ≤ c && c ≤ '5') && isDigit d
  | _ => false

inductive IntegerForm where
  | base (base : Nat) (digits : List Char)
  /-- The parts of a number in base sixty, or the only part of a decimal number. -/
  | sixties (parts : List (List Char))

def integerForm? (text : List Char) : Option IntegerForm :=
  match text with
  | '0' :: 'b' :: digits => if isRow 2 digits then some (.base 2 (dropLines digits)) else none
  | '0' :: 'x' :: digits => if isRow 16 digits then some (.base 16 (dropLines digits)) else none
  | ['0'] => some (.sixties [['0']])
  | '0' :: digits => if isRow 8 digits then some (.base 8 ('0' :: dropLines digits)) else none
  | text =>
    match Text.splitAt ':' text with
    | first :: more =>
      if isCount first && more.all isSixtieth then some (.sixties (dropLines first :: more)) else none
    | [] => none

/-- The number of a form. There must be a digit, and decimal numbers must not be too long. -/
def IntegerForm.value : IntegerForm → Except Mismatch Nat
  | base b digits => if digits.isEmpty then .error .badContent else .ok (natOfBase b digits)
  | sixties parts =>
    parts.foldlM (fun n part =>
      match readNat part with
      | some digit => .ok (60 * n + digit)
      | none => .error .badContent) 0

/-- An exponent with a sign, or none. -/
def signedExponent? : List Char → Option Int
  | [] => some 0
  | e :: sign :: digits =>
    if (e == 'e' || e == 'E') && (sign == '+' || sign == '-') && !digits.isEmpty &&
        digits.all isDigit then
      let n : Int := natOfDigits digits
      some (if sign == '-' then -n else n)
    else none
  | _ => none

/-- A number that is a row of digits with a point after the first few of them. -/
def pointValue (whole fraction : List Char) (exponent : Int) : Double :=
  .ofDecimal false (natOfDigits (whole ++ fraction)) (exponent - fraction.length)

/-- The sum of the parts of a number in base sixty, the last part first. Each part counts sixty times
as much as the one before it, and each step is rounded. -/
def sumSixties (sum : Double) (weight : Nat) : List Double → Except Mismatch Double
  | [] => .ok sum
  | part :: rest =>
    match Double.ofInt weight with
    | .infinite _ => .error .outOfRange
    | w => sumSixties (sum.add (part.mul w)) (60 * weight) rest

inductive PointForm where
  | decimal (whole fraction : List Char) (exponent : Int)
  | sixties (parts : List (List Char)) (last fraction : List Char)

def pointForm? (text : List Char) : Option PointForm :=
  let whole := text.takeWhile (· != '.')
  match text.dropWhile (· != '.') with
  | '.' :: rest =>
    let fraction := rest.takeWhile fun c => isDigit c || isLowLine c
    let after := rest.dropWhile fun c => isDigit c || isLowLine c
    match (Text.splitAt ':' whole).reverse with
    | last :: first :: more =>
      let parts := (first :: more).reverse
      if after.isEmpty && parts.head?.any isCount && (parts.drop 1 ++ [last]).all isSixtieth then
        some (.sixties (parts.map dropLines) last (dropLines fraction))
      else none
    | _ =>
      if isCount whole || (whole.isEmpty && isCount fraction) then
        (signedExponent? after).map fun exponent =>
          .decimal (dropLines whole) (dropLines fraction) exponent
      else none
  | _ => none

def PointForm.value : PointForm → Except Mismatch Double
  | decimal whole fraction exponent => .ok (pointValue whole fraction exponent)
  | sixties parts last fraction =>
    sumSixties .zero 1
      (pointValue last fraction 0 :: (parts.map fun part => pointValue part [] 0).reverse)

def specialNumber? (negative : Bool) (text unsigned : List Char) : Option Double :=
  if [".inf", ".Inf", ".INF"].contains (String.ofList unsigned) then some (.infinite negative)
  else if [".nan", ".NaN", ".NAN"].contains (String.ofList text) then some .nan
  else none

def signedDouble (negative : Bool) (x : Double) : Double := if negative then x.neg else x

def number? (text : List Char) : Option (Except Mismatch Scalar) :=
  let (negative, unsigned) := splitSign text
  let signed := unsigned.length != text.length
  match specialNumber? negative text unsigned with
  | some x => some (.ok (.float x))
  | none =>
    match pointForm? unsigned with
    | some form =>
      if signed && unsigned.head? == some '.' then none
      else some (form.value.map fun x => .float (signedDouble negative x))
    | none =>
      (integerForm? unsigned).map fun form =>
        form.value.map fun n => .int (if negative then -n else n)

/-- The scalar that a text without quotes stands for. -/
def plainScalar (text : List Char) : Except Mismatch Scalar :=
  match words.lookup (String.ofList text) with
  | some s => .ok s
  | none =>
    match number? text with
    | some result => result
    | none =>
      match momentForm? text with
      | some m => if m.isValid then .ok (.moment m) else .error .badContent
      | none => .ok (.text (String.ofList text))

end Switchboard.Yaml
