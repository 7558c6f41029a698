import Switchboard.Text.Blank

/-!
# Lines and blanks of YAML

Four characters end a line. Between two tokens there may be spaces, ends of lines and comments, and a
comment ends with its line. Inside a scalar an end of a line with the blanks around it is folded: it
stands for a space, or for the empty lines after it where there are some.
-/

namespace Switchboard.Yaml

def isBreak (c : Char) : Bool := c == '\n' || c == '\u0085' || c == '\u2028' || c == '\u2029'

/-- Whether a character may stand between the words of a scalar. -/
def isGap (c : Char) : Bool := c == ' ' || c == '\t' || isBreak c

/-- Whether nothing, or a gap, comes first. -/
def atGap : List Char → Bool
  | [] => true
  | c :: _ => isGap c

/-- The column after a character. A byte order mark takes no room. -/
def columnAfter (column : Nat) (c : Char) : Nat :=
  if isBreak c then 0 else if c == '\uFEFF' then column else column + 1

/-- A place in a text: how many characters and lines come before it, and its column. -/
structure Place where
  index : Nat
  line : Nat
  column : Nat

namespace Place

def start : Place := ⟨0, 0, 0⟩

def after (place : Place) (c : Char) : Place :=
  ⟨place.index + 1, if isBreak c then place.line + 1 else place.line, columnAfter place.column c⟩

def afterAll (place : Place) (written : List Char) : Place := written.foldl after place

end Place

/-- The place after spaces, ends of lines and comments, and the text from there on. -/
def skipBlanks (place : Place) (inComment : Bool) : List Char → Place × List Char
  | [] => (place, [])
  | c :: rest =>
    if isBreak c then skipBlanks (place.after c) false rest
    else if inComment || c == ' ' then skipBlanks (place.after c) inComment rest
    else if c == '#' then skipBlanks (place.after c) true rest
    else (place, c :: rest)

/-- A next line is a line feed in a scalar; the two separators stay what they are. -/
def foldedBreak (c : Char) : Char := if c == '\u0085' then '\n' else c

def breaksOf (gap : List Char) : List Char := (gap.filter isBreak).map foldedBreak

/-- What a gap inside a scalar stands for. -/
def foldGap (gap : List Char) : List Char :=
  match breaksOf gap with
  | [] => gap
  | ['\n'] => [' ']
  | '\n' :: more => more
  | breaks => breaks

/-- Whether three marks stand alone: they start or end a document at the start of a line. -/
def startsWithMark (mark : Char) : List Char → Bool
  | a :: b :: c :: rest => a == mark && b == mark && c == mark && atGap rest
  | _ => false

def startsWithDocumentMark (text : List Char) : Bool :=
  startsWithMark '-' text || startsWithMark '.' text

/-- Whether a gap before a text has ended a document that the text would go on with. -/
def endsDocument (gap text : List Char) : Bool :=
  gap.getLast?.any isBreak && startsWithDocumentMark text

end Switchboard.Yaml
