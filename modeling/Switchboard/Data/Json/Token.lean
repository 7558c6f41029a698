import Switchboard.Data.Value
import Switchboard.Text.Encoding

/-!
# Tokens of JSON

Brackets, separators and scalars. Beside the words of the standard, `NaN`, `Infinity` and
`-Infinity` are numbers. A number with a point or an exponent is no integer.
-/

namespace Switchboard.Json

open Text

inductive Token where
  | openList | closeList | openRecord | closeRecord | comma | colon
  | scalar (s : Scalar)
  /-- An integer of more digits than are read. -/
  | outsized
  /-- What starts no token. -/
  | unreadable

def isJsonBlank (c : Char) : Bool := c == ' ' || c == '\t' || c == '\n' || c == '\r'

/-- The character that a letter stands for after a backslash. -/
def escaped? : Char → Option Char
  | '"' => some '"'
  | '\\' => some '\\'
  | '/' => some '/'
  | 'b' => some '\x08'
  | 'f' => some '\x0c'
  | 'n' => some '\n'
  | 'r' => some '\r'
  | 't' => some '\t'
  | _ => none

/-- The code points of a text after its opening quote, and what follows the closing one. -/
def codesAfterQuote : List Char → Option (List Nat × List Char)
  | '"' :: rest => some ([], rest)
  | '\\' :: 'u' :: a :: b :: c :: d :: rest => do
    let n ← hexNat? [a, b, c, d]
    let (codes, after) ← codesAfterQuote rest
    return (n :: codes, after)
  | '\\' :: e :: rest => do
    let c ← escaped? e
    let (codes, after) ← codesAfterQuote rest
    return (c.toNat :: codes, after)
  | '\\' :: [] => none
  | c :: rest =>
    if c.toNat < 0x20 then none
    else do
      let (codes, after) ← codesAfterQuote rest
      return (c.toNat :: codes, after)
  | [] => none

/-- The digits of a number without superfluous zeros, and what follows them. -/
def wholeDigits? : List Char → Option (List Char × List Char)
  | '0' :: rest => some (['0'], rest)
  | text =>
    let digits := text.takeWhile isDigit
    if digits.isEmpty then none else some (digits, text.dropWhile isDigit)

/-- The digits after a point, if there is a point with a digit after it. -/
def fractionDigits? : List Char → Option (List Char × List Char)
  | '.' :: rest =>
    let digits := rest.takeWhile isDigit
    if digits.isEmpty then none else some (digits, rest.dropWhile isDigit)
  | _ => none

def exponent? : List Char → Option (Int × List Char)
  | e :: rest =>
    if e == 'e' || e == 'E' then
      let (negative, unsigned) := splitSign rest
      let digits := unsigned.takeWhile isDigit
      if digits.isEmpty then none
      else
        let n : Int := natOfDigits digits
        some (if negative then -n else n, unsigned.dropWhile isDigit)
    else none
  | [] => none

def number? (text : List Char) : Option (Token × List Char) := do
  let (negative, unsigned) := match text with
    | '-' :: rest => (true, rest)
    | _ => (false, text)
  let (whole, rest) ← wholeDigits? unsigned
  match fractionDigits? rest, exponent? ((fractionDigits? rest).elim rest (·.2)) with
  | none, none =>
    match readNat whole with
    | some n => return (.scalar (.int (if negative then -n else n)), rest)
    | none => return (.outsized, rest)
  | fraction, exponent =>
    let digits := fraction.elim [] (·.1)
    let power := exponent.elim 0 (·.1)
    let after := exponent.elim (fraction.elim rest (·.2)) (·.2)
    let number := Double.ofDecimal negative (natOfDigits (whole ++ digits)) (power - digits.length)
    return (.scalar (.float number), after)

def words : List (List Char × Scalar) := [
  ("null".toList, .null), ("true".toList, .bool true), ("false".toList, .bool false),
  ("NaN".toList, .float .nan), ("Infinity".toList, .float (.infinite false)),
  ("-Infinity".toList, .float (.infinite true))]

def word? (text : List Char) : Option (Token × List Char) :=
  words.findSome? fun w =>
    if w.1.isPrefixOf text then some (.scalar w.2, text.drop w.1.length) else none

/-- The first token of a text that does not start with a blank, and what follows it. -/
def token? : List Char → Option (Token × List Char)
  | [] => none
  | '[' :: rest => some (.openList, rest)
  | ']' :: rest => some (.closeList, rest)
  | '\x7b' :: rest => some (.openRecord, rest)
  | '\x7d' :: rest => some (.closeRecord, rest)
  | ',' :: rest => some (.comma, rest)
  | ':' :: rest => some (.colon, rest)
  | '"' :: rest => do
    let (codes, after) ← codesAfterQuote rest
    let chars ← (joinPairs codes).mapM charOfCode
    return (.scalar (.text (String.ofList chars)), after)
  | text => word? text <|> number? text

/-- The tokens of a text, up to what starts no token. Each takes at least one character, so the bound
is the text's length. -/
def tokensWithin : Nat → List Char → List Token
  | bound, text =>
    match text.dropWhile isJsonBlank with
    | [] => []
    | text =>
      match bound with
      | 0 => [.unreadable]
      | bound + 1 =>
        match token? text with
        | some (token, rest) => token :: tokensWithin bound rest
        | none => [.unreadable]

def tokens (text : List Char) : List Token := tokensWithin text.length text

end Switchboard.Json
