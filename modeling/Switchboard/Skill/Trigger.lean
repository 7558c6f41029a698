import Switchboard.Text.Blank
import Switchboard.Text.Escape
import Switchboard.Text.Search

/-!
# Triggers

A command is called by a slash and its name, whatever the case of its letters. It may ask for an
argument, take none, or leave the choice. The argument is the rest of the line, which must be the
last line of the text.
-/

namespace Switchboard

open Text

inductive Trigger where
  /-- The name, blanks and an argument. -/
  | command (name : String)
  /-- The name alone. -/
  | bare (name : String)
  /-- The name, alone or with blanks and an argument. -/
  | optional (name : String)
deriving DecidableEq, Repr

namespace Trigger

def pattern : Trigger → String
  | command name => "^/" ++ escapedPattern name ++ "\\s+(.+)$"
  | bare name => "^/" ++ escapedPattern name ++ "$"
  | optional name => "^/" ++ escapedPattern name ++ "(?:\\s+(.+))?$"

def afterName (name : String) (text : List Char) : Option (List Char) :=
  afterWord ('/' :: name.toList) text

/-- Whether a text ends here, a final line feed apart. -/
def atEnd (text : List Char) : Bool := text == [] || text == ['\n']

/-- The text, if it is one line with at least one character. -/
def line? (text : List Char) : Option (List Char) :=
  let line := text.takeWhile (· != '\n')
  if !line.isEmpty && atEnd (text.dropWhile (· != '\n')) then some line else none

/-- The line after blanks, as many of them as leave a line. -/
def lineAfterBlanks? : List Char → Option (List Char)
  | [] => none
  | c :: rest => if isBlank c then lineAfterBlanks? rest <|> line? rest else none

/-- The argument that a text gives to a trigger, empty where it gives none; nothing where the
trigger does not match. -/
def argument? (trigger : Trigger) (text : List Char) : Option (List Char) :=
  match trigger with
  | command name => (afterName name text).bind lineAfterBlanks?
  | bare name => (afterName name text).bind fun rest => if atEnd rest then some [] else none
  | optional name =>
    (afterName name text).bind fun rest =>
      lineAfterBlanks? rest <|> if atEnd rest then some [] else none

end Trigger

end Switchboard
