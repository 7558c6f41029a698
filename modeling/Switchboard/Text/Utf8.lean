/-!
# UTF-8

Bytes are natural numbers below 256. Reading accepts the shortest form of each character only; the
forms of code points that are no characters are read as the replacement character.
-/

namespace Switchboard.Text

def replacementChar : Char := '\uFFFD'

/-- The character of a code point; surrogates give the replacement character. -/
def charOfCode (n : Nat) : Option Char :=
  if 0xD800 ≤ n ∧ n ≤ 0xDFFF then some replacementChar
  else if n ≤ 0x10FFFF then some (Char.ofNat n)
  else none

def encodeChar (c : Char) : List Nat :=
  let n := c.toNat
  if n < 0x80 then [n]
  else if n < 0x800 then [0xC0 + n / 0x40, 0x80 + n % 0x40]
  else if n < 0x10000 then [0xE0 + n / 0x1000, 0x80 + n / 0x40 % 0x40, 0x80 + n % 0x40]
  else [0xF0 + n / 0x40000, 0x80 + n / 0x1000 % 0x40, 0x80 + n / 0x40 % 0x40, 0x80 + n % 0x40]

def utf8Bytes (s : List Char) : List Nat := s.flatMap encodeChar

def continuation? (b : Nat) : Option Nat :=
  if 0x80 ≤ b ∧ b < 0xC0 then some (b - 0x80) else none

def longForm? (least code : Nat) : Option Char :=
  if least ≤ code then charOfCode code else none

def ofUtf8 : List Nat → Option (List Char)
  | [] => some []
  | a :: rest =>
    if a < 0x80 then (ofUtf8 rest).map (Char.ofNat a :: ·)
    else if a < 0xC0 then none
    else if a < 0xE0 then
      match rest with
      | b :: rest => do
        let c ← longForm? 0x80 ((a - 0xC0) * 0x40 + (← continuation? b))
        (ofUtf8 rest).map (c :: ·)
      | _ => none
    else if a < 0xF0 then
      match rest with
      | b :: d :: rest => do
        let c ← longForm? 0x800
          ((a - 0xE0) * 0x1000 + (← continuation? b) * 0x40 + (← continuation? d))
        (ofUtf8 rest).map (c :: ·)
      | _ => none
    else if a < 0xF8 then
      match rest with
      | b :: d :: e :: rest => do
        let c ← longForm? 0x10000
          ((a - 0xF0) * 0x40000 + (← continuation? b) * 0x1000 + (← continuation? d) * 0x40
            + (← continuation? e))
        (ofUtf8 rest).map (c :: ·)
      | _ => none
    else none

end Switchboard.Text
