/-!
# Blank characters

Which characters separate words, and what is left of a text when they are taken from its ends.
-/

namespace Switchboard.Text

/-- The blank characters of Unicode, with the four information separators of ASCII. -/
def isBlank (c : Char) : Bool :=
  let n := c.toNat
  (9 ≤ n && n ≤ 13) || (28 ≤ n && n ≤ 32) || n == 0x85 || n == 0xA0 || n == 0x1680 ||
    (0x2000 ≤ n && n ≤ 0x200A) || n == 0x2028 || n == 0x2029 || n == 0x202F || n == 0x205F ||
    n == 0x3000

def dropEndWhile (p : Char → Bool) (s : List Char) : List Char := (s.reverse.dropWhile p).reverse

def trimWhile (p : Char → Bool) (s : List Char) : List Char := dropEndWhile p (s.dropWhile p)

def trim (s : List Char) : List Char := trimWhile isBlank s

theorem dropWhile_length_le (p : Char → Bool) (s : List Char) :
    (s.dropWhile p).length ≤ s.length := (List.dropWhile_suffix p).length_le

def words : List Char → List (List Char)
  | [] => []
  | c :: rest =>
    if isBlank c then words rest
    else (c :: rest.takeWhile (!isBlank ·)) :: words (rest.dropWhile (!isBlank ·))
termination_by s => s.length
decreasing_by
  · exact Nat.lt_succ_self _
  · exact Nat.lt_succ_of_le (dropWhile_length_le _ _)

def collapse : List Char → List Char
  | [] => []
  | c :: rest =>
    if isBlank c then ' ' :: collapse (rest.dropWhile isBlank) else c :: collapse rest
termination_by s => s.length
decreasing_by
  · exact Nat.lt_succ_of_le (dropWhile_length_le _ _)
  · exact Nat.lt_succ_self _

end Switchboard.Text
