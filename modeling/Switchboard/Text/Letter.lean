import Switchboard.Text.LetterTable

/-!
# Letters without regard to case

Two characters count as one letter when they have the same key: the small form of a character, with
one form standing for all the small forms of a letter. So the relation is an equivalence, and a text
has as many letters as characters.
-/

namespace Switchboard.Text

def CapitalRun.holds (run : CapitalRun) (n : Nat) : Bool :=
  run.first ≤ n && n ≤ run.last && (n - run.first) % run.step == 0

/-- The small form of a character, where it is one character; else the character. -/
def smallForm (c : Char) : Char :=
  let n := c.toNat
  if n < 0x80 then (if 0x41 ≤ n && n ≤ 0x5A then Char.ofNat (n + 0x20) else c)
  else
    match capitalRuns.find? (·.holds n) with
    | some run => Char.ofNat (n + run.up - run.down)
    | none => c

def letterKey (c : Char) : Char :=
  let small := smallForm c
  match letterForms.lookup small.toNat with
  | some n => Char.ofNat n
  | none => small

def sameLetter (a b : Char) : Bool := letterKey a == letterKey b

end Switchboard.Text
