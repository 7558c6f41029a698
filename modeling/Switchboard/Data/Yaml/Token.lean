import Switchboard.Data.Yaml.Writing

/-!
# Tokens of YAML

Signs, scalars and the marks of a document are written in a text. Where blocks start and end is told
by their indentation, and where fields start by the colons after their names.
-/

namespace Switchboard.Yaml

inductive Token where
  /-- The start of a list in a block, with the dash of its first item. -/
  | listStart
  /-- The start of a record in a block, with the start of its first field. -/
  | recordStart
  | blockEnd
  | dash
  /-- The start of a field, whose name follows. -/
  | field
  | colon | comma | openList | closeList | openRecord | closeRecord
  | documentStart | documentEnd
  | scalar (w : Writing)
  /-- A reference or a kind of value, which is not read. -/
  | unread

/-- A token that is written, the characters that it takes, and what follows. -/
structure Lexeme where
  token : Token
  written : List Char
  rest : List Char

/-- Whether the token reaches over the end of its line. -/
def Lexeme.endsLine (l : Lexeme) : Bool :=
  (l.written.reverse.takeWhile fun c => c == ' ' || isBreak c).any isBreak

/-- The signs that are a token of their own. Some are so only before a gap, or inside brackets. -/
def signToken? (inFlow : Bool) : List Char → Option Token
  | '[' :: _ => some .openList
  | ']' :: _ => some .closeList
  | '\x7b' :: _ => some .openRecord
  | '\x7d' :: _ => some .closeRecord
  | ',' :: _ => some .comma
  | '-' :: rest => if atGap rest then some .dash else none
  | '?' :: rest => if inFlow || atGap rest then some .field else none
  | ':' :: rest => if inFlow || atGap rest then some .colon else none
  | _ => none

def documentToken? (column : Nat) (text : List Char) : Option Token :=
  if column = 0 then
    if startsWithMark '-' text then some .documentStart
    else if startsWithMark '.' text then some .documentEnd
    else none
  else none

/-- Whether a character may stand in the name of a reference. -/
def isReferenceChar (c : Char) : Bool := c.isAlphanum || c == '-' || c == '_'

/-- What may follow a reference besides a gap. -/
def referenceEnds : List Char := "?:,]\x7d%@\x60".toList

/-- A sign and the name after it, which must not be empty. -/
def reference (sign : Char) (rest : List Char) : Except Misreading Lexeme :=
  let name := rest.takeWhile isReferenceChar
  let after := rest.dropWhile isReferenceChar
  if !name.isEmpty && (atGap after || after.head?.any referenceEnds.contains) then
    .ok ⟨.unread, sign :: name, after⟩
  else .error .malformed

/-- A kind of value, which ends at a gap. -/
def kind (text : List Char) : Lexeme :=
  ⟨.unread, text.takeWhile (!isGap ·), text.dropWhile (!isGap ·)⟩

/-- The token that a text starts with. Other lines of a scalar must be indented to the least column
where the text does not stand inside brackets. -/
def lexeme (inFlow : Bool) (least column : Nat) (text : List Char) : Except Misreading Lexeme :=
  match documentToken? column text, text with
  | some token, text => .ok ⟨token, text.take 3, text.drop 3⟩
  | none, [] => .error .malformed
  | none, c :: rest =>
    match signToken? inFlow (c :: rest) with
    | some token => .ok ⟨token, [c], rest⟩
    | none =>
      if c == '*' || c == '&' then reference c rest
      else if c == '!' then .ok (kind (c :: rest))
      else do
        let (w, cut) ← cutScalar inFlow least column (c :: rest)
        return ⟨.scalar w, cut.written, cut.rest⟩

end Switchboard.Yaml
