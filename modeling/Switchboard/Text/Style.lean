/-!
# Styles of terminal text

An escape character, a square bracket, parameters and a letter change the style of the text after
them and are no text themselves.
-/

namespace Switchboard.Text

def escapeChar : Char := '\x1b'

def isStyleParameter (c : Char) : Bool := c == ';' || c == '?' || c.isDigit

/-- How many characters of a style follow its escape character, if there is one. -/
def styleLength? : List Char → Option Nat
  | '[' :: rest =>
    let parameters := rest.takeWhile isStyleParameter
    match rest.drop parameters.length with
    | c :: _ => if c.isAlpha then some (parameters.length + 2) else none
    | [] => none
  | _ => none

def withoutStyles : List Char → List Char
  | [] => []
  | c :: rest =>
    if c == escapeChar then
      match styleLength? rest with
      | some n => withoutStyles (rest.drop n)
      | none => c :: withoutStyles rest
    else c :: withoutStyles rest
termination_by s => s.length
decreasing_by
  all_goals
    simp only [List.length_cons, List.length_drop]
    omega

end Switchboard.Text
