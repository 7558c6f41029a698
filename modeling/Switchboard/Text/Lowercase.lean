import Switchboard.Text.Letter

/-!
# Small letters

Each character gives its small form, with two exceptions: the dotted capital I gives two characters,
and the form of a capital sigma hangs on its neighbours.
-/

namespace Switchboard.Text

def inRanges (ranges : List (Nat × Nat)) (n : Nat) : Bool :=
  ranges.any fun r => r.1 ≤ n && n ≤ r.2

def isCased (c : Char) : Bool := inRanges casedRanges c.toNat

def isCaseIgnorable (c : Char) : Bool := inRanges caseIgnorableRanges c.toNat

/-- Whether a text goes on with a cased letter, marks that a word may carry apart. -/
def goesOnWithCased (s : List Char) : Bool :=
  match s.find? (!isCaseIgnorable ·) with
  | some c => isCased c
  | none => false

def capitalSigma : Char := 'Σ'

def dottedCapitalI : Char := 'İ'

/-- A sigma is final where a letter stands before it and none after it. The text before is given
last character first. -/
def smallSigma (before after : List Char) : Char :=
  if goesOnWithCased before && !goesOnWithCased after then 'ς' else 'σ'

def lowerAfter (before : List Char) : List Char → List Char
  | [] => []
  | c :: rest =>
    let small :=
      if c == capitalSigma then [smallSigma before rest]
      else if c == dottedCapitalI then ['i', '\u0307']
      else [smallForm c]
    small ++ lowerAfter (c :: before) rest

def lower (s : List Char) : List Char := lowerAfter [] s

def lowerText (s : String) : String := String.ofList (lower s.toList)

end Switchboard.Text
