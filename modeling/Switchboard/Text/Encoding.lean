import Switchboard.Text.Utf8

/-!
# Bytes of unknown encoding

Text that starts with an ASCII character shows in its first bytes whether it is written in units of
one, two or four bytes, and in which order; a byte order mark says so outright.
-/

namespace Switchboard.Text

inductive ByteOrder where
  | big | little
deriving DecidableEq, Repr

inductive Encoding where
  | utf8
  | utf16 (order : ByteOrder)
  | utf32 (order : ByteOrder)
deriving DecidableEq, Repr

/-- The encoding that a byte order mark names, with the bytes after the mark. -/
def marked? : List Nat → Option (Encoding × List Nat)
  | 0x00 :: 0x00 :: 0xFE :: 0xFF :: rest => some (.utf32 .big, rest)
  | 0xFF :: 0xFE :: 0x00 :: 0x00 :: rest => some (.utf32 .little, rest)
  | 0xFE :: 0xFF :: rest => some (.utf16 .big, rest)
  | 0xFF :: 0xFE :: rest => some (.utf16 .little, rest)
  | 0xEF :: 0xBB :: 0xBF :: rest => some (.utf8, rest)
  | _ => none

/-- The encoding in which the zero bytes at the start fit an ASCII character. -/
def encodingOf : List Nat → Encoding
  | a :: b :: c :: d :: _ =>
    if a = 0 then (if b = 0 then .utf32 .big else .utf16 .big)
    else if b = 0 then (if c = 0 ∧ d = 0 then .utf32 .little else .utf16 .little)
    else .utf8
  | [a, b] => if a = 0 then .utf16 .big else if b = 0 then .utf16 .little else .utf8
  | _ => .utf8

def units16? (order : ByteOrder) : List Nat → Option (List Nat)
  | [] => some []
  | [_] => none
  | a :: b :: rest =>
    let unit := match order with
      | .big => a * 0x100 + b
      | .little => b * 0x100 + a
    (units16? order rest).map (unit :: ·)

def units32? (order : ByteOrder) : List Nat → Option (List Nat)
  | [] => some []
  | a :: b :: c :: d :: rest =>
    let unit := match order with
      | .big => a * 0x1000000 + b * 0x10000 + c * 0x100 + d
      | .little => d * 0x1000000 + c * 0x10000 + b * 0x100 + a
    (units32? order rest).map (unit :: ·)
  | _ => none

def joinPairs : List Nat → List Nat
  | high :: low :: rest =>
    if 0xD800 ≤ high ∧ high < 0xDC00 ∧ 0xDC00 ≤ low ∧ low < 0xE000 then
      (0x10000 + (high - 0xD800) * 0x400 + (low - 0xDC00)) :: joinPairs rest
    else high :: joinPairs (low :: rest)
  | units => units

def decodeAs (encoding : Encoding) (bytes : List Nat) : Option (List Char) :=
  match encoding with
  | .utf8 => ofUtf8 bytes
  | .utf16 order => do
    let units ← units16? order bytes
    (joinPairs units).mapM charOfCode
  | .utf32 order => do
    let units ← units32? order bytes
    units.mapM charOfCode

/-- The text of some bytes in the encoding that they show. -/
def decodeBytes (bytes : List Nat) : Option (List Char) :=
  match marked? bytes with
  | some (encoding, rest) => decodeAs encoding rest
  | none => decodeAs (encodingOf bytes) bytes

end Switchboard.Text
