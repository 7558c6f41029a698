import Switchboard.Data.Yaml.Token

/-!
# The outline of a YAML text

The column of a token tells which blocks end before it, and whether it starts one. A scalar or a
bracket may turn out to be a name when a colon comes after it. Until that is settled it is held back,
and so are all tokens after it. A name has a limited length and does not go over the end of its line.
-/

namespace Switchboard.Yaml

/-- A token that a name may start with. It is held back with the tokens after it. -/
structure Candidate where
  /-- How many brackets are open around it. -/
  level : Nat
  place : Place
  /-- Whether nothing but the name of a field may stand here. -/
  required : Bool
  /-- The tokens from the candidate on, the latest first. -/
  tokens : List Token

/-- How many characters may come from the start of a name up to its colon. -/
def nameLimit : Nat := 1024

/-- Whether no name from there can reach a place. -/
def Candidate.isStale (c : Candidate) (place : Place) : Bool :=
  c.place.line != place.line || nameLimit < place.index - c.place.index

structure Outline where
  /-- The columns of the open blocks, innermost first. -/
  blocks : List Nat
  /-- How many brackets are open. -/
  level : Nat
  /-- Whether a name may start here. -/
  mayName : Bool
  /-- At most one for each level, innermost first. -/
  candidates : List Candidate
  /-- The tokens that are not held back, the latest first. -/
  settled : List Token

namespace Outline

def start : Outline := ⟨[], 0, true, [], []⟩

def inFlow (o : Outline) : Bool := o.level != 0

/-- The column that a token must reach to stand inside the innermost block. -/
def least (o : Outline) : Nat := o.blocks.head?.elim 0 (· + 1)

def push (o : Outline) (tokens : List Token) : Outline :=
  match o.candidates with
  | [] => { o with settled := tokens ++ o.settled }
  | c :: outer => { o with candidates := { c with tokens := tokens ++ c.tokens } :: outer }

/-- Settles that a candidate outside all others is no name. -/
def release (o : Outline) (c : Candidate) : Except Misreading Outline :=
  if c.required then .error .malformed else .ok (o.push c.tokens)

/-- Settles which candidates cannot reach a place. -/
def releaseStale (o : Outline) (place : Place) : Except Misreading Outline :=
  o.candidates.foldrM
    (fun c o => if c.isStale place then o.release c
      else .ok { o with candidates := c :: o.candidates })
    { o with candidates := [] }

/-- Settles that the candidate between the innermost brackets is no name. -/
def releaseLevel (o : Outline) : Except Misreading Outline :=
  match o.candidates with
  | c :: outer =>
    if c.level = o.level then { o with candidates := outer }.release c else .ok o
  | [] => .ok o

/-- Appends a token, which is a candidate where a name may start. -/
def hold (o : Outline) (place : Place) (token : Token) : Except Misreading Outline :=
  if o.mayName then do
    let o ← o.releaseLevel
    let required := !o.inFlow && o.blocks.head? == some place.column
    return { o with candidates := ⟨o.level, place, required, [token]⟩ :: o.candidates }
  else .ok (o.push [token])

/-- Ends the blocks that are indented to a column or more. -/
def endBlocks (o : Outline) (column : Nat) : Outline :=
  if o.inFlow then o
  else
    { o with blocks := o.blocks.dropWhile (column ≤ ·) }.push
      ((o.blocks.takeWhile (column ≤ ·)).map fun _ => .blockEnd)

def startsBlock (o : Outline) (column : Nat) : Bool :=
  !o.inFlow && o.blocks.head?.all (· < column)

/-- Starts a block at a column if it is indented enough. -/
def indent (o : Outline) (column : Nat) : Outline :=
  if o.startsBlock column then { o with blocks := column :: o.blocks } else o

/-- Appends a sign that starts a block, or goes on with one, where a name may start. -/
def blockSign (o : Outline) (column : Nat) (first other : Token) : Except Misreading Outline :=
  if !o.mayName then .error .malformed
  else do
    let o' ← (o.indent column).releaseLevel
    return o'.push [if o.startsBlock column then first else other]

/-- A sign of a list or of a field. After it a name may start, but for a field inside brackets. -/
def sign (o : Outline) (column : Nat) (first other : Token) (mayName : Bool) :
    Except Misreading Outline :=
  if o.inFlow then do
    let o ← o.releaseLevel
    return { o.push [other] with mayName }
  else o.blockSign column first other

/-- A colon after what is no candidate belongs to a field that has been started by its sign. -/
def loneColon (o : Outline) (column : Nat) : Except Misreading Outline :=
  if o.inFlow then .ok { o.push [.colon] with mayName := false }
  else if !o.mayName then .error .malformed
  else .ok ((o.indent column).push (if o.startsBlock column then [.colon, .unread] else [.colon]))

/-- A colon makes a name of the candidate between the innermost brackets. -/
def colon (o : Outline) (column : Nat) : Except Misreading Outline :=
  match o.candidates with
  | c :: outer =>
    if c.level = o.level then
      let start := if o.startsBlock c.place.column then Token.recordStart else .field
      .ok { ({ o with candidates := outer }.indent c.place.column).push
        (Token.colon :: c.tokens ++ [start]) with mayName := false }
    else o.loneColon column
  | [] => o.loneColon column

/-- Goes to a place. A name may start where a line does, but for lines inside brackets. -/
def arrive (o : Outline) (before place : Place) : Except Misreading Outline :=
  { o with mayName := o.mayName || (!o.inFlow && before.line != place.line) }.releaseStale place

def add (o : Outline) (place : Place) (l : Lexeme) : Except Misreading Outline :=
  match l.token with
  | .dash => o.sign place.column .listStart .dash true
  | .field => o.sign place.column .recordStart .field false
  | .colon => o.colon place.column
  | .comma => do
    let o ← o.releaseLevel
    return { o.push [.comma] with mayName := true }
  | .openList | .openRecord => do
    let o ← o.hold place l.token
    return { o with level := o.level + 1, mayName := true }
  | .closeList | .closeRecord => do
    let o ← o.releaseLevel
    return { o with level := o.level - 1, mayName := false }.push [l.token]
  | .documentStart | .documentEnd => do
    let o ← (o.endBlocks 0).releaseLevel
    return { o.push [l.token] with mayName := false }
  | token => do
    let o ← o.hold place token
    return { o with mayName := l.endsLine }

def finish (o : Outline) : Except Misreading Outline := do
  let o ← (o.endBlocks 0).releaseLevel
  return { o with candidates := [], settled := o.candidates.flatMap (·.tokens) ++ o.settled }

end Outline

end Switchboard.Yaml
