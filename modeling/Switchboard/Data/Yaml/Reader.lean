import Switchboard.Data.Yaml.Node
import Switchboard.Data.Yaml.Outline

/-!
# Reading YAML

Lists and records that are still open are kept on a stack, innermost first, each with the parts that
have been read. A token closes some of them, opens one, or is a part of the innermost one. Tokens are
read once the outline has settled them.

Only a part of YAML is read. Anchors, aliases, tags, directives, and texts in blocks count as malformed
here, so a folder takes its reader as a field and this one is what it runs with by default.
-/

namespace Switchboard.Yaml

/-- An open list or record. The part that is being read does not belong to the frame. -/
inductive Frame where
  | blockList (items : List Node)
  /-- A list that is not indented more than the record around it. -/
  | looseList (items : List Node)
  /-- A record whose last field is being named. -/
  | blockName (fields : NodeFields)
  | blockValue (fields : NodeFields) (name : Node)
  | flowList (items : List Node)
  /-- A record without brackets, an item of a list. Its only field is being named. -/
  | pairName
  | pairValue (name : Node)
  /-- A record in which a field may follow. -/
  | flowRecord (fields : NodeFields)
  | flowName (fields : NodeFields)
  | flowValue (fields : NodeFields) (name : Node)
  /-- A record whose last field is a name that no colon follows. -/
  | flowLone (fields : NodeFields)

/-- How far a text has been read. -/
inductive Phase where
  | before | inside | ended
deriving DecidableEq, Repr

structure Reading where
  phase : Phase
  frames : List Frame
  /-- The part that is being read, once it is complete. -/
  slot : Option Node

namespace Frame

/-- The fields of a record with the last part, the latest first. -/
def fields (last : Node) : Frame → NodeFields
  | blockName fields => (last, .empty) :: fields
  | blockValue fields name => (name, last) :: fields
  | pairName => [(last, .empty)]
  | pairValue name => [(name, last)]
  | flowRecord fields => fields
  | flowName fields => (last, .empty) :: fields
  | flowValue fields name => (name, last) :: fields
  | flowLone fields => (last, .empty) :: fields
  | _ => []

/-- The node of a frame with its last part. -/
def close (last : Node) : Frame → Node
  | blockList items => .list (last :: items).reverse
  | looseList items => .list (last :: items).reverse
  | flowList items => .list (last :: items).reverse
  | frame => .record (frame.fields last).reverse

def isLoose : Frame → Bool
  | looseList _ => true
  | _ => false

def isPair : Frame → Bool
  | pairName => true
  | pairValue _ => true
  | _ => false

/-- The frame while a part is read that no sign of a field comes before. -/
def around : Frame → Frame
  | flowRecord fields => flowLone fields
  | frame => frame

end Frame

namespace Reading

def start : Reading := ⟨.before, [], none⟩

/-- The part that is being read; it is empty where nothing has been read. -/
def last (r : Reading) : Node := r.slot.getD .empty

def depthLimit : Nat := 480

/-- The frames while a part of the innermost one is read. -/
def framesAround (r : Reading) : List Frame :=
  match r.frames with
  | frame :: outer => frame.around :: outer
  | [] => []

/-- Opens a list or a record where a part has not been read. -/
def opened (r : Reading) (frame : Frame) : Except Misreading Reading :=
  if r.slot.isSome then .error .malformed
  else if r.frames.length < depthLimit then .ok ⟨.inside, frame :: r.framesAround, none⟩
  else .error .tooDeep

def filled (r : Reading) (node : Node) : Except Misreading Reading :=
  if r.slot.isSome then .error .malformed else .ok ⟨.inside, r.framesAround, some node⟩

/-- The reading with another innermost frame, in which nothing has been read. -/
def changed (r : Reading) (frame : Frame) (outer : List Frame) : Reading :=
  { r with frames := frame :: outer, slot := none }

/-- Closes the innermost frame, whose node completes a part of the frame around it. -/
def closed (r : Reading) (frame : Frame) (outer : List Frame) : Reading :=
  { r with frames := outer, slot := some (frame.close r.last) }

/-- Closes the innermost frame if it is of a kind. -/
def closedIf (kind : Frame → Bool) (r : Reading) : Reading :=
  match r.frames with
  | frame :: outer => if kind frame then r.closed frame outer else r
  | [] => r

def blockEnd (r : Reading) : Except Misreading Reading :=
  match r.frames with
  | .blockList items :: outer => .ok (r.closed (.blockList items) outer)
  | .blockName fields :: outer => .ok (r.closed (.blockName fields) outer)
  | .blockValue fields name :: outer => .ok (r.closed (.blockValue fields name) outer)
  | _ => .error .malformed

/-- A dash starts an item. In a record it starts a list if nothing else has been read. -/
def dash (r : Reading) : Except Misreading Reading :=
  match r.frames with
  | .blockList items :: outer => .ok (r.changed (.blockList (r.last :: items)) outer)
  | .looseList items :: outer => .ok (r.changed (.looseList (r.last :: items)) outer)
  | .blockName _ :: _ => r.opened (.looseList [])
  | .blockValue _ _ :: _ => r.opened (.looseList [])
  | _ => .error .malformed

def field (r : Reading) : Except Misreading Reading :=
  match r.frames with
  | .blockName fields :: outer =>
    .ok (r.changed (.blockName ((Frame.blockName fields).fields r.last)) outer)
  | .blockValue fields name :: outer =>
    .ok (r.changed (.blockName ((Frame.blockValue fields name).fields r.last)) outer)
  | .flowList _ :: _ => r.opened .pairName
  | .flowRecord fields :: outer => .ok (r.changed (.flowName fields) outer)
  | _ => .error .malformed

def colon (r : Reading) : Except Misreading Reading :=
  match r.frames with
  | .blockName fields :: outer => .ok (r.changed (.blockValue fields r.last) outer)
  | .pairName :: outer => .ok (r.changed (.pairValue r.last) outer)
  | .flowName fields :: outer => .ok (r.changed (.flowValue fields r.last) outer)
  | _ => .error .malformed

def comma (r : Reading) : Except Misreading Reading :=
  match r.frames, r.slot with
  | .flowList items :: outer, some item => .ok (r.changed (.flowList (item :: items)) outer)
  | .flowName fields :: outer, _ =>
    .ok (r.changed (.flowRecord ((Frame.flowName fields).fields r.last)) outer)
  | .flowValue fields name :: outer, _ =>
    .ok (r.changed (.flowRecord ((Frame.flowValue fields name).fields r.last)) outer)
  | .flowLone fields :: outer, _ =>
    .ok (r.changed (.flowRecord ((Frame.flowLone fields).fields r.last)) outer)
  | _, _ => .error .malformed

def closeList (r : Reading) : Except Misreading Reading :=
  match r.frames with
  | .flowList items :: outer =>
    .ok { r with frames := outer, slot := some (.list (r.slot.toList ++ items).reverse) }
  | _ => .error .malformed

def closeRecord (r : Reading) : Except Misreading Reading :=
  match r.frames with
  | .flowRecord fields :: outer => .ok (r.closed (.flowRecord fields) outer)
  | .flowName fields :: outer => .ok (r.closed (.flowName fields) outer)
  | .flowValue fields name :: outer => .ok (r.closed (.flowValue fields name) outer)
  | .flowLone fields :: outer => .ok (r.closed (.flowLone fields) outer)
  | _ => .error .malformed

def documentStart (r : Reading) : Except Misreading Reading :=
  if r.phase = .before then .ok ⟨.inside, [], none⟩ else .error .malformed

def documentEnd (r : Reading) : Except Misreading Reading :=
  if r.phase ≠ .before ∧ r.frames.isEmpty then .ok { r with phase := .ended }
  else .error .malformed

def inDocument (r : Reading) : Token → Except Misreading Reading
  | .scalar w => r.filled (.scalar w)
  | .openList => r.opened (.flowList [])
  | .openRecord => r.opened (.flowRecord [])
  | .listStart => r.opened (.blockList [])
  | .recordStart => r.opened (.blockName [])
  | .blockEnd => (r.closedIf Frame.isLoose).blockEnd
  | .dash => r.dash
  | .field => (r.closedIf Frame.isLoose).field
  | .colon => (r.closedIf Frame.isLoose).colon
  | .comma => (r.closedIf Frame.isPair).comma
  | .closeList => (r.closedIf Frame.isPair).closeList
  | .closeRecord => r.closeRecord
  | .documentStart => r.documentStart
  | .documentEnd => r.documentEnd
  | .unread => .error .malformed

/-- Takes a token. Nothing but its mark comes after the end of a document. -/
def next (r : Reading) (token : Token) : Except Misreading Reading :=
  match r.phase, token with
  | .ended, .documentEnd => .ok r
  | .ended, _ => .error .malformed
  | _, token => r.inDocument token

/-- The only node of the text. -/
def finish (r : Reading) : Except Misreading Node :=
  if r.frames.isEmpty then .ok r.last else .error .malformed

/-- Takes the tokens that an outline has settled. -/
def take (r : Reading) (o : Outline) : Except Misreading Reading := o.settled.reverse.foldlM next r

/-- Reads a text from a place on. A token takes at least one character, so the bound is the text's
length. What is settled is read before more is looked at. -/
def textWithin : Nat → Reading → Outline → Place → List Char → Except Misreading Reading
  | bound, r, o, before, text => do
    let o ← o.releaseStale before
    let r ← r.take o
    let (place, text) := skipBlanks before false text
    let o ← { o with settled := [] }.arrive before place
    match bound, text with
    | _, [] => do
      let o ← o.finish
      r.take o
    | 0, _ => .error .malformed
    | bound + 1, text => do
      let o := o.endBlocks (place.column + 1)
      let found ← lexeme o.inFlow o.least place.column text
      let o ← o.add place found
      textWithin bound r o (place.afterAll found.written) found.rest

end Reading

def isPrintable (c : Char) : Bool :=
  let n := c.toNat
  n == 0x09 || n == 0x0A || n == 0x0D || (0x20 ≤ n && n ≤ 0x7E) || n == 0x85 ||
    (0xA0 ≤ n && n ≤ 0xFFFD) || 0x10000 ≤ n

def withoutMark : List Char → List Char
  | '\uFEFF' :: rest => rest
  | text => text

/-- The value that a text is, if it is in the part of YAML that is read; nothing at all is null. -/
def read (text : List Char) : Except Misreading Value := do
  if !text.all isPrintable then .error .malformed
  else
    let text := withoutMark text
    let r ← Reading.textWithin text.length .start .start .start text
    (← r.finish).toValue

end Switchboard.Yaml
