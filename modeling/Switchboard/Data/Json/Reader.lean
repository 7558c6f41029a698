import Switchboard.Data.Json.Token
import Switchboard.Data.Misreading

/-!
# Reading JSON

Tokens are read one by one, with the lists and records that are still open kept on a stack. A field
that is named twice has its last value. The first token that cannot follow ends the reading.
-/

namespace Switchboard.Json

/-- An open list or record with what it holds so far, the latest part first. -/
inductive Frame where
  | list (items : List Value)
  | record (fields : Fields) (name : String)

inductive Reading where
  /-- A value must follow. -/
  | wantValue (outer : List Frame)
  /-- A list has been opened: a value or its end must follow. -/
  | wantItem (outer : List Frame)
  /-- A record has been opened: a name or its end must follow. -/
  | wantField (outer : List Frame)
  /-- A name must follow. -/
  | wantName (outer : List Frame) (fields : Fields)
  /-- A colon must follow. -/
  | wantColon (outer : List Frame) (fields : Fields) (name : String)
  /-- A part of the innermost list or record is complete: a comma or an end must follow. -/
  | complete (inner : Frame) (outer : List Frame)
  | done (v : Value)

/-- Puts a complete value into the innermost open list or record. -/
def place (v : Value) : List Frame → Reading
  | [] => .done v
  | .list items :: outer => .complete (.list (v :: items)) outer
  | .record fields name :: outer => .complete (.record ((.text name, v) :: fields) name) outer

def depthLimit : Nat := 970

/-- Opens a list or a record, unless it lies too deep. -/
def opened (outer : List Frame) (inside : Reading) : Except Misreading Reading :=
  if outer.length < depthLimit then .ok inside else .error .tooDeep

def readValue (outer : List Frame) : Token → Except Misreading Reading
  | .scalar s => .ok (place (.scalar s) outer)
  | .openList => opened outer (.wantItem outer)
  | .openRecord => opened outer (.wantField outer)
  | .outsized => .error (.mismatch .badContent)
  | _ => .error .malformed

def Reading.next : Reading → Token → Except Misreading Reading
  | .wantValue outer, token => readValue outer token
  | .wantItem outer, .closeList => .ok (place (.list []) outer)
  | .wantItem outer, token => readValue (.list [] :: outer) token
  | .wantField outer, .closeRecord => .ok (place .emptyRecord outer)
  | .wantField outer, .scalar (.text name) => .ok (.wantColon outer [] name)
  | .wantName outer fields, .scalar (.text name) => .ok (.wantColon outer fields name)
  | .wantColon outer fields name, .colon => .ok (.wantValue (.record fields name :: outer))
  | .complete (.list items) outer, .comma => .ok (.wantValue (.list items :: outer))
  | .complete (.list items) outer, .closeList => .ok (place (.list items.reverse) outer)
  | .complete (.record fields _) outer, .comma => .ok (.wantName outer fields)
  | .complete (.record fields _) outer, .closeRecord =>
    .ok (place (.record (Fields.ofPairs fields.reverse)) outer)
  | _, _ => .error .malformed

def read (text : List Char) : Except Misreading Value := do
  match ← (tokens text).foldlM Reading.next (.wantValue []) with
  | .done v => return v
  | _ => .error .malformed

/-- The value that some bytes are, in whichever encoding they show. -/
def readBytes (bytes : List Nat) : Except Misreading Value := do
  let text ← Misreading.require (Text.decodeBytes bytes)
  read text

end Switchboard.Json
