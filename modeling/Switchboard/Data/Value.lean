import Switchboard.Data.Scalar

/-!
# Dynamic values

The values of configuration files, of requests and of answers. A record keeps its fields in the
order in which they were first set, and setting a field again replaces its value in place.
-/

namespace Switchboard

inductive Value where
  | scalar (s : Scalar)
  | list (items : List Value)
  | record (fields : List (Scalar × Value))
deriving Inhabited, Repr

abbrev Fields := List (Scalar × Value)

namespace Fields

def get? (fields : Fields) (name : Scalar) : Option Value :=
  (fields.find? fun f => f.1.same name).map (·.2)

/-- Sets a field, in its place where there is one and else at the end. -/
def put (name : Scalar) (value : Value) : Fields → Fields
  | [] => [(name, value)]
  | (n, v) :: rest => if n.same name then (n, value) :: rest else (n, v) :: put name value rest

def erase (name : Scalar) (fields : Fields) : Fields := fields.filter fun f => !f.1.same name

def putAll (fields more : Fields) : Fields := more.foldl (fun f p => f.put p.1 p.2) fields

/-- The fields in order of their first mention, each with the value mentioned last. -/
def ofPairs (pairs : List (Scalar × Value)) : Fields := putAll [] pairs

def names (fields : Fields) : List Scalar := fields.map (·.1)

end Fields

namespace Value

@[match_pattern] abbrev null : Value := scalar .null

@[match_pattern] abbrev bool (b : Bool) : Value := scalar (.bool b)

@[match_pattern] abbrev int (n : Int) : Value := scalar (.int n)

@[match_pattern] abbrev float (x : Double) : Value := scalar (.float x)

@[match_pattern] abbrev text (s : String) : Value := scalar (.text s)

def emptyRecord : Value := record []

def option : Option Value → Value
  | some v => v
  | none => null

def optionText : Option String → Value
  | some s => text s
  | none => null

def texts (items : List String) : Value := list (items.map text)

def isNull : Value → Bool
  | null => true
  | _ => false

def isRecord : Value → Bool
  | record _ => true
  | _ => false

/-- Whether a value counts as given: the empty list and record and some scalars do not. -/
def truthy : Value → Bool
  | scalar s => s.truthy
  | list items => !items.isEmpty
  | record fields => !fields.isEmpty

def orElse (v default : Value) : Value := if v.truthy then v else default

/-- A value that is null where it is not there. -/
def toOption : Value → Option Value
  | null => none
  | v => some v

def kindName : Value → String
  | scalar s => s.kindName
  | list _ => "list"
  | record _ => "dict"

mutual

/-- The text of a value inside another one, where texts stand between quotes. -/
def nestedText : Value → String
  | scalar s => s.nestedText
  | list items => "[" ++ ", ".intercalate (nestedTexts items) ++ "]"
  | record fields => "\x7b" ++ ", ".intercalate (fieldTexts fields) ++ "\x7d"

def nestedTexts : List Value → List String
  | [] => []
  | v :: rest => nestedText v :: nestedTexts rest

def fieldTexts : List (Scalar × Value) → List String
  | [] => []
  | (name, v) :: rest => (name.nestedText ++ ": " ++ nestedText v) :: fieldTexts rest

end

def display : Value → String
  | scalar s => s.display
  | v => nestedText v

mutual

def isWritable : Value → Bool
  | scalar s => s.isWritable
  | list items => areWritable items
  | record fields => haveWritable fields

def areWritable : List Value → Bool
  | [] => true
  | v :: rest => isWritable v && areWritable rest

def haveWritable : List (Scalar × Value) → Bool
  | [] => true
  | (name, v) :: rest => name.isWritable && isWritable v && haveWritable rest

end

mutual

/-- How many lists and records lie inside each other. -/
def depth : Value → Nat
  | scalar _ => 0
  | list items => depthOfItems items + 1
  | record fields => depthOfFields fields + 1

def depthOfItems : List Value → Nat
  | [] => 0
  | v :: rest => max (depth v) (depthOfItems rest)

def depthOfFields : List (Scalar × Value) → Nat
  | [] => 0
  | (_, v) :: rest => max (depth v) (depthOfFields rest)

end

/-- Values that are deeper cannot be taken apart level by level. -/
def depthLimit : Nat := 480

mutual

def decEq : (v w : Value) → Decidable (v = w)
  | scalar s, scalar t => decidable_of_iff (s = t) (by simp)
  | list items, list others =>
    have := decEqItems items others
    decidable_of_iff (items = others) (by simp)
  | record fields, record others =>
    have := decEqFields fields others
    decidable_of_iff (fields = others) (by simp)
  | scalar _, list _ => isFalse nofun
  | scalar _, record _ => isFalse nofun
  | list _, scalar _ => isFalse nofun
  | list _, record _ => isFalse nofun
  | record _, scalar _ => isFalse nofun
  | record _, list _ => isFalse nofun

def decEqItems : (items others : List Value) → Decidable (items = others)
  | [], [] => isTrue rfl
  | [], _ :: _ => isFalse nofun
  | _ :: _, [] => isFalse nofun
  | v :: rest, w :: others =>
    have := decEq v w
    have := decEqItems rest others
    decidable_of_iff (v = w ∧ rest = others) (by simp)

def decEqFields : (fields others : List (Scalar × Value)) → Decidable (fields = others)
  | [], [] => isTrue rfl
  | [], _ :: _ => isFalse nofun
  | _ :: _, [] => isFalse nofun
  | (name, v) :: rest, (name', w) :: others =>
    have := decEq v w
    have := decEqFields rest others
    decidable_of_iff (name = name' ∧ v = w ∧ rest = others) (by simp [and_assoc])

end

instance : DecidableEq Value := decEq

end Value

end Switchboard
