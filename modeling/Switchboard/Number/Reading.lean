import Switchboard.Number.Decimal
import Switchboard.Text.Blank
import Switchboard.Text.Digit

/-!
# Numbers written as text

A number may stand between blanks, have digits of any script, and have a low line between two
digits. An integer is a row of digits with a sign; other numbers may have a point, an exponent, or
be one of the words for an infinity and for no number.
-/

namespace Switchboard

open Text

/-- The blanks of ASCII, its information separators apart. -/
def isPlainBlank (c : Char) : Bool := c == ' ' || ('\t' ≤ c && c ≤ '\r')

/-- Writes digits of any script as ASCII digits, and blanks outside ASCII as spaces. -/
def plainForm (c : Char) : Char :=
  if c.toNat < 0x80 then c
  else if isBlank c then ' '
  else
    match decimalDigit? c with
    | some d => Char.ofNat ('0'.toNat + d)
    | none => c

def numberText (s : List Char) : List Char := trimWhile isPlainBlank (s.map plainForm)

/-- Drops the low lines of a text if each of them stands between two digits. -/
def dropLowLines (afterDigit : Bool) : List Char → Option (List Char)
  | [] => some []
  | c :: rest =>
    if c == '_' then
      if afterDigit && rest.head?.any isDigit then dropLowLines false rest else none
    else (dropLowLines (isDigit c) rest).map (c :: ·)

/-- Splits a text after its sign, and says whether that is a minus. -/
def splitSign : List Char → Bool × List Char
  | '-' :: rest => (true, rest)
  | '+' :: rest => (false, rest)
  | text => (false, text)

def digitLimit : Nat := 4300

def readNat (digits : List Char) : Option Nat :=
  if digits.isEmpty || !digits.all isDigit || digitLimit < digits.length then none
  else some (natOfDigits digits)

def readInt (s : List Char) : Option Int := do
  let text ← dropLowLines false (numberText s)
  let (negative, digits) := splitSign text
  let n ← readNat digits
  return if negative then -n else n

/-- An exponent: `e`, a sign if any, and digits. -/
def readExponent : List Char → Option Int
  | [] => some 0
  | c :: rest =>
    let (negative, digits) := splitSign rest
    if (c == 'e' || c == 'E') && !digits.isEmpty && digits.all isDigit then
      let n : Int := natOfDigits digits
      some (if negative then -n else n)
    else none

/-- A number without a sign: digits, with a point among them if any, and an exponent if any. -/
def readDecimal (negative : Bool) (text : List Char) : Option Double := do
  let whole := text.takeWhile isDigit
  let (fraction, rest) := match text.dropWhile isDigit with
    | '.' :: rest => (rest.takeWhile isDigit, rest.dropWhile isDigit)
    | rest => ([], rest)
  if whole.isEmpty && fraction.isEmpty then none
  else
    let exponent ← readExponent rest
    some (.ofDecimal negative (natOfDigits (whole ++ fraction)) (exponent - fraction.length))

def readDouble (s : List Char) : Option Double := do
  let text ← dropLowLines false (numberText s)
  let (negative, body) := splitSign text
  let word := String.ofList (body.map Char.toLower)
  if word == "inf" || word == "infinity" then some (.infinite negative)
  else if word == "nan" then some .nan
  else readDecimal negative body

end Switchboard
