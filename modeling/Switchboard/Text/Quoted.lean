import Switchboard.Text.Hex
import Switchboard.Text.InvisibleTable
import Switchboard.Text.Lowercase

/-!
# Text between quotes

A text is shown between single quotes, or between double quotes where it holds a single one and no
double one. Inside, a backslash starts the escape of a quote, of a backslash, or of a character that
has no visible form.
-/

namespace Switchboard.Text

def isInvisible (c : Char) : Bool := inRanges invisibleRanges c.toNat

def invisibleEscape (c : Char) : List Char :=
  let n := c.toNat
  if n < 0x100 then '\\' :: 'x' :: hexDigits 2 n
  else if n < 0x10000 then '\\' :: 'u' :: hexDigits 4 n
  else '\\' :: 'U' :: hexDigits 8 n

def quotedChar (quote c : Char) : List Char :=
  if c == quote || c == '\\' then ['\\', c]
  else if c == '\n' then ['\\', 'n']
  else if c == '\r' then ['\\', 'r']
  else if c == '\t' then ['\\', 't']
  else if isInvisible c then invisibleEscape c
  else [c]

def quoteFor (s : List Char) : Char :=
  if s.contains '\'' && !s.contains '"' then '"' else '\''

def quoted (s : List Char) : List Char :=
  let quote := quoteFor s
  quote :: (s.flatMap (quotedChar quote) ++ [quote])

def quotedText (s : String) : String := String.ofList (quoted s.toList)

end Switchboard.Text
