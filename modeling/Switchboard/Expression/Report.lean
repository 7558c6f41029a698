import Switchboard.Number.Decimal

/-!
# How a value is reported

Whole numbers are written out, others with six places at most, and numbers from `10 ^ 21` on with
the fewest digits that read back.
-/

namespace Switchboard.Expression

def hugeUnits : Nat := Nat.pow 10 21 * Double.one

def reportFinite (negative : Bool) (units : Nat) : List Char :=
  if hugeUnits ≤ units then Double.fewestDigits negative units
  else if units % Double.one = 0 then intDigits (Double.truncate negative units)
  else Double.atMostSixPlaces negative units

def report : Double → String
  | .nan => "Not a number"
  | .infinite negative => if negative then "-Infinity" else "Infinity"
  | .finite negative units => String.ofList (reportFinite negative units)

end Switchboard.Expression
