import Switchboard.Data.Value

/-!
# Writing JSON

On one line, or with two spaces of indentation for each level. Only quotes, backslashes and controls
are escaped.
-/

namespace Switchboard.Json

def escapedChar (c : Char) : List Char :=
  if c == '"' || c == '\\' then ['\\', c]
  else if c == '\n' then ['\\', 'n']
  else if c == '\r' then ['\\', 'r']
  else if c == '\t' then ['\\', 't']
  else if c == '\x08' then ['\\', 'b']
  else if c == '\x0c' then ['\\', 'f']
  else if c.toNat < 0x20 then '\\' :: 'u' :: Text.hexDigits 4 c.toNat
  else [c]

def quotedText (s : String) : String :=
  String.ofList ('"' :: (s.toList.flatMap escapedChar ++ ['"']))

def numberText : Double → String
  | .nan => "NaN"
  | .infinite negative => if negative then "-Infinity" else "Infinity"
  | x => x.text

def scalarText : Scalar → String
  | .null => "null"
  | .bool b => if b then "true" else "false"
  | .int n => intText n
  | .float x => numberText x
  | .text s => quotedText s
  | .moment m => quotedText m.text

def nameText : Scalar → String
  | .text s => quotedText s
  | s => quotedText (scalarText s)

mutual

def compact : Value → String
  | .list items => "[" ++ ",".intercalate (compactItems items) ++ "]"
  | .record fields => "\x7b" ++ ",".intercalate (compactFields fields) ++ "\x7d"
  | .scalar s => scalarText s

def compactItems : List Value → List String
  | [] => []
  | v :: rest => compact v :: compactItems rest

def compactFields : List (Scalar × Value) → List String
  | [] => []
  | (name, v) :: rest => (nameText name ++ ":" ++ compact v) :: compactFields rest

end

def newline (level : Nat) : String := "\n" ++ String.ofList (List.replicate (2 * level) ' ')

/-- Parts between brackets, each on a line of its own. -/
def block (opening closing : String) (level : Nat) (parts : List String) : String :=
  if parts.isEmpty then opening ++ closing
  else
    opening ++ newline (level + 1) ++ ("," ++ newline (level + 1)).intercalate parts ++
      newline level ++ closing

mutual

def indentedAt (level : Nat) : Value → String
  | .list items => block "[" "]" level (indentedItems (level + 1) items)
  | .record fields => block "\x7b" "\x7d" level (indentedFields (level + 1) fields)
  | .scalar s => scalarText s

def indentedItems (level : Nat) : List Value → List String
  | [] => []
  | v :: rest => indentedAt level v :: indentedItems level rest

def indentedFields (level : Nat) : List (Scalar × Value) → List String
  | [] => []
  | (name, v) :: rest => (nameText name ++ ": " ++ indentedAt level v) :: indentedFields level rest

end

def indented? (v : Value) : Option String :=
  if v.isWritable then some (indentedAt 0 v) else none

end Switchboard.Json
