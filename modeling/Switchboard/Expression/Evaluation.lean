import Switchboard.Expression.Token

/-!
# The value of an expression

Tokens are read one by one. What has been read and cannot be computed yet is kept as a stack of
pending parts, the latest one first: a sign or an operator that waits for its right side, or an open
parenthesis. `* / %` bind before `+ -`, operators of one level go from left to right, and a sign
binds before every operator. Each token is accepted or refused on the spot, so the first refused
token is the first one after which no expression can follow.
-/

namespace Switchboard.Expression

inductive Pending where
  | sign (negative : Bool)
  /-- A left side that waits for the right side of `*`, `/` or `%`. -/
  | factor (left : Double) (o : Operator)
  /-- A left side that waits for the right side of `+` or `-`. -/
  | term (left : Double) (o : Operator)
  | group
deriving DecidableEq, Repr

/-- What has been read: the pending parts, and the operand after them if it is complete. -/
structure Reading where
  pending : List Pending
  operand : Option Double
deriving DecidableEq, Repr

def Reading.start : Reading := ⟨[], none⟩

/-- How much a pending part counts against the limit of nesting. -/
def Pending.weight : Pending → Nat
  | sign _ => 1
  | group => 4
  | factor _ _ => 0
  | term _ _ => 0

def depth : List Pending → Nat
  | [] => 0
  | part :: rest => part.weight + depth rest

def depthLimit : Nat := 980

def push (part : Pending) (pending : List Pending) : Except Fault Reading :=
  if depth (part :: pending) ≤ depthLimit then .ok ⟨part :: pending, none⟩ else .error .tooDeep

/-- Gives a value to the signs that wait for it, and then to one operator that binds before `+`. -/
def settleFactor (value : Double) : List Pending → Reading
  | .sign negative :: rest => settleFactor (if negative then value.neg else value) rest
  | .factor left o :: rest => ⟨rest, some (o.apply left value)⟩
  | rest => ⟨rest, some value⟩

/-- Gives a value to a sum that waits for it. -/
def settleTerm (value : Double) : List Pending → Double × List Pending
  | .term left o :: rest => (o.apply left value, rest)
  | rest => (value, rest)

def readOperand (pending : List Pending) : Token → Except Fault Reading
  | .number n => .ok (settleFactor n.value pending)
  | .opening => push .group pending
  | .operator .plus => push (.sign false) pending
  | .operator .minus => push (.sign true) pending
  | token => .error (.unexpected token.text)

def readAfterOperand (pending : List Pending) (value : Double) :
    Token → Except Fault Reading
  | .operator .plus =>
    let (sum, rest) := settleTerm value pending
    .ok ⟨.term sum .plus :: rest, none⟩
  | .operator .minus =>
    let (sum, rest) := settleTerm value pending
    .ok ⟨.term sum .minus :: rest, none⟩
  | .operator o => .ok ⟨.factor value o :: pending, none⟩
  | .closing =>
    match settleTerm value pending with
    | (sum, .group :: rest) => .ok (settleFactor sum rest)
    | _ => .error (.unexpected Token.closing.text)
  | token =>
    if pending.contains .group then .error .closingExpected else .error (.unexpected token.text)

def Reading.next (reading : Reading) (token : Token) : Except Fault Reading :=
  match reading.operand with
  | none => readOperand reading.pending token
  | some value => readAfterOperand reading.pending value token

/-- The value, if what has been read is a whole expression. -/
def Reading.finish (reading : Reading) : Except Fault Double :=
  match reading.operand with
  | none => .error .endReached
  | some value =>
    match settleTerm value reading.pending with
    | (sum, []) => .ok sum
    | _ => .error .endReached

def valueOfTokens (tokens : List Token) : Except Fault Double :=
  if tokens.isEmpty then .error .empty
  else do
    let reading ← tokens.foldlM Reading.next .start
    reading.finish

def value (text : List Char) : Except Fault Double := do
  let tokens ← tokens text
  valueOfTokens tokens

end Switchboard.Expression
