/-!
# Hexadecimal digits
-/

namespace Switchboard.Text

/-- The lower-case hexadecimal digits of a number, filled with zeros to a width. -/
def hexDigits (width n : Nat) : List Char :=
  let digits := Nat.toDigits 16 n
  List.replicate (width - digits.length) '0' ++ digits

def hexValue? (c : Char) : Option Nat :=
  if '0' ≤ c && c ≤ '9' then some (c.toNat - '0'.toNat)
  else if 'a' ≤ c && c ≤ 'f' then some (c.toNat - 'a'.toNat + 10)
  else if 'A' ≤ c && c ≤ 'F' then some (c.toNat - 'A'.toNat + 10)
  else none

def hexNat? (digits : List Char) : Option Nat := do
  let values ← digits.mapM hexValue?
  return values.foldl (fun n d => 16 * n + d) 0

end Switchboard.Text
