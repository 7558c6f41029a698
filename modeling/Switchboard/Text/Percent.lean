import Switchboard.Text.Utf8
import Switchboard.Number.Decimal

/-!
# Texts in addresses

In a segment of a path letters, digits and four signs of ASCII stand for themselves. Every other
character is written as its UTF-8 bytes, each as a percent sign and two hexadecimal digits.
-/

namespace Switchboard.Text

def isUnreserved (c : Char) : Bool :=
  ('a' ≤ c && c ≤ 'z') || ('A' ≤ c && c ≤ 'Z') || isDigit c || c == '_' || c == '.' || c == '-' ||
    c == '~'

def upperHexDigit (n : Nat) : Char :=
  if n < 10 then Char.ofNat ('0'.toNat + n) else Char.ofNat ('A'.toNat + (n - 10))

def percentByte (b : Nat) : List Char := ['%', upperHexDigit (b / 16), upperHexDigit (b % 16)]

def segmentChar (c : Char) : List Char :=
  if isUnreserved c then [c] else (encodeChar c).flatMap percentByte

def segment (s : List Char) : List Char := s.flatMap segmentChar

end Switchboard.Text
