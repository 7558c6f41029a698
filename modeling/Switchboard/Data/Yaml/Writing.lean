import Switchboard.Data.Yaml.Layout
import Switchboard.Data.Yaml.Plain
import Switchboard.Text.Utf8

/-!
# Scalars of YAML as they are written

A plain scalar consists of words. A word ends before a gap and before a colon that a gap follows, and
inside brackets before the signs that part the values there. The words of a plain scalar may stand on
several lines if these are indented enough. A quoted scalar ends with its quote.
-/

namespace Switchboard.Yaml

open Text

/-- A scalar without what its writing adds: ends of lines are folded and escapes are resolved. -/
inductive Writing where
  | plain (text : List Char)
  | quoted (text : List Char)
deriving DecidableEq, Repr

namespace Writing

/-- What stands where a value is left out. -/
def empty : Writing := plain []

/-- Whether a name takes in the fields of other records. -/
def isMerge : Writing → Bool
  | plain text => text == ['<', '<']
  | quoted _ => false

def scalar : Writing → Except Misreading Scalar
  | quoted text => .ok (.text (String.ofList text))
  | plain text =>
    if text == ['<', '<'] || text == ['='] then .error .malformed
    else
      match plainScalar text with
      | .ok s => .ok s
      | .error m => .error (.mismatch m)

def name (w : Writing) : Except Misreading Scalar :=
  if w == plain ['='] then .ok (.text "=") else w.scalar

end Writing

/-- A part cut off a text: what it stands for, the characters that it takes, and what follows. -/
structure Cut where
  value : List Char
  written : List Char
  rest : List Char

/-- A cut with more in front of it. -/
def Cut.push (written value : List Char) (cut : Cut) : Cut :=
  ⟨value ++ cut.value, written ++ cut.written, cut.rest⟩

def flowSigns : List Char := ",[]\x7b\x7d".toList

def startSigns : List Char := ",[]\x7b\x7d#&*!|>'\"%@\x60".toList

/-- Whether nothing comes first that a word could go on with after a colon. -/
def endsColon (inFlow : Bool) (text : List Char) : Bool :=
  atGap text || (inFlow && text.head?.any flowSigns.contains)

def stopsWord (inFlow : Bool) (c : Char) (rest : List Char) : Bool :=
  isGap c || (c == ':' && endsColon inFlow rest) || (inFlow && (c == '?' || flowSigns.contains c))

def startsPlain (inFlow : Bool) : List Char → Bool
  | [] => false
  | c :: rest =>
    if c == '-' then !atGap rest
    else if c == '?' || c == ':' then !inFlow && !atGap rest
    else !isGap c && !startSigns.contains c

/-- Whether a word after a gap does not belong to the scalar. The column must be at least as given
where the lines tell what belongs together. -/
def partsWords (inFlow : Bool) (least column : Nat) (gap text : List Char) : Bool :=
  text.head? == some '#' || endsDocument gap text || (!inFlow && column < least)

/-- The rest of a plain scalar after a gap. It takes the gap, which counts if another word follows. -/
def plainRest (inFlow : Bool) (least column : Nat) (gap : List Char) : List Char → Cut
  | [] => ⟨[], gap, []⟩
  | c :: rest =>
    if c == ' ' || isBreak c then plainRest inFlow least (columnAfter column c) (gap ++ [c]) rest
    else if stopsWord inFlow c rest || (!gap.isEmpty && partsWords inFlow least column gap (c :: rest))
      then ⟨[], gap, c :: rest⟩
    else
      (plainRest inFlow least (columnAfter column c) [] rest).push (gap ++ [c]) (foldGap gap ++ [c])

/-- A text after its opening single quote, up to the closing one. A quote inside is written twice. -/
def singleQuoted (gap : List Char) : List Char → Except Misreading Cut
  | [] => .error .malformed
  | c :: rest =>
    if isGap c then singleQuoted (gap ++ [c]) rest
    else if endsDocument gap (c :: rest) then .error .malformed
    else if c == '\'' then
      match rest with
      | '\'' :: after => (singleQuoted [] after).map (·.push (gap ++ [c, c]) (foldGap gap ++ [c]))
      | _ => .ok ⟨foldGap gap, gap ++ [c], rest⟩
    else (singleQuoted [] rest).map (·.push (gap ++ [c]) (foldGap gap ++ [c]))

/-- The character that a letter stands for after a backslash. -/
def escapes : List (Char × Char) := [
  ('0', '\x00'), ('a', '\x07'), ('b', '\x08'), ('t', '\t'), ('\t', '\t'), ('n', '\n'),
  ('v', '\x0b'), ('f', '\x0c'), ('r', '\r'), ('e', '\x1b'), (' ', ' '), ('"', '"'), ('\\', '\\'),
  ('/', '/'), ('N', '\u0085'), ('_', '\u00a0'), ('L', '\u2028'), ('P', '\u2029')]

/-- How many hexadecimal digits follow a letter after a backslash. -/
def codeLengths : List (Char × Nat) := [('x', 2), ('u', 4), ('U', 8)]

/-- The character of a code. Numbers of 32 bits are out of range; smaller ones may still be no code. -/
def charOfHex (count : Nat) (digits : List Char) : Except Misreading Char := do
  if digits.length < count then .error .malformed
  else
    let n ← Misreading.require (hexNat? digits)
    match charOfCode n with
    | some c => return c
    | none => .error (.mismatch (if n < 0x80000000 then .badContent else .outOfRange))

/-- The character that a letter after a backslash stands for, and how many of the characters after the
letter belong to it. -/
def escaped (letter : Char) (after : List Char) : Except Misreading (Char × Nat) :=
  match escapes.lookup letter, codeLengths.lookup letter with
  | some c, _ => .ok (c, 0)
  | none, some count => (charOfHex count (after.take count)).map fun c => (c, count)
  | none, none => .error .malformed

/-- A gap inside double quotes. A backslash may stand in front of its first end of a line. -/
structure QuotedGap where
  escaped : Bool
  chars : List Char

namespace QuotedGap

def none : QuotedGap := ⟨false, []⟩

def add (gap : QuotedGap) (c : Char) : QuotedGap := { gap with chars := gap.chars ++ [c] }

/-- What the gap stands for. After a backslash only the empty lines count. -/
def value (gap : QuotedGap) : List Char :=
  if gap.escaped then breaksOf (gap.chars.drop 1) else foldGap gap.chars

end QuotedGap

/-- A text after its opening double quote, up to the closing one. -/
def doubleQuoted (gap : QuotedGap) (text : List Char) : Except Misreading Cut :=
  match text with
  | [] => .error .malformed
  | c :: rest =>
    if isGap c then doubleQuoted (gap.add c) rest
    else if endsDocument gap.chars (c :: rest) then .error .malformed
    else if c == '"' then .ok ⟨gap.value, gap.chars ++ [c], rest⟩
    else if c == '\\' then
      match rest with
      | e :: after =>
        if isBreak e then (doubleQuoted ⟨true, [e]⟩ after).map (·.push (gap.chars ++ [c]) gap.value)
        else do
          let (d, count) ← escaped e after
          let cut ← doubleQuoted .none (after.drop count)
          return cut.push (gap.chars ++ c :: e :: after.take count) (gap.value ++ [d])
      | [] => .error .malformed
    else (doubleQuoted .none rest).map (·.push (gap.chars ++ [c]) (gap.value ++ [c]))
termination_by text.length
decreasing_by
  all_goals
    simp only [List.length_cons, List.length_drop]
    omega

def cutScalar (inFlow : Bool) (least column : Nat) : List Char → Except Misreading (Writing × Cut)
  | '\'' :: rest => (singleQuoted [] rest).map fun cut => (.quoted cut.value, cut.push ['\''] [])
  | '"' :: rest => (doubleQuoted .none rest).map fun cut => (.quoted cut.value, cut.push ['"'] [])
  | text =>
    if startsPlain inFlow text then
      let cut := plainRest inFlow least column [] text
      .ok (.plain cut.value, cut)
    else .error .malformed

end Switchboard.Yaml
