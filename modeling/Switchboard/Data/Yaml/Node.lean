import Switchboard.Data.Yaml.Writing

/-!
# Values of YAML as they are written

A node is a value whose scalars are not read yet. A record may take in the fields of other records:
they come before its own ones, which therefore replace them. Where several parts of a node stand for
no value, the least deep one counts, and of these the first one.
-/

namespace Switchboard.Yaml

inductive Node where
  | scalar (w : Writing)
  | list (items : List Node)
  | record (fields : List (Node × Node))

/-- The fields of a record. What names them is a node as well. -/
abbrev NodeFields := List (Node × Node)

/-- Why a part of a node stands for no value, and how deep it lies. -/
structure Flaw where
  depth : Nat
  cause : Misreading

/-- Both results. Of two flaws the less deep one is kept. -/
def both {α β : Type} : Except Flaw α → Except Flaw β → Except Flaw (α × β)
  | .ok a, .ok b => .ok (a, b)
  | .ok _, .error g => .error g
  | .error f, .ok _ => .error f
  | .error f, .error g => .error (if g.depth < f.depth then g else f)

def atDepth {α : Type} (depth : Nat) : Except Misreading α → Except Flaw α
  | .ok a => .ok a
  | .error cause => .error ⟨depth, cause⟩

namespace Node

def empty : Node := scalar .empty

/-- Whether a name takes in the fields of other records. -/
def isMerge : Node → Bool
  | scalar w => w.isMerge
  | _ => false

/-- The name that a node stands for. Lists and records name nothing. -/
def name : Node → Except Misreading Scalar
  | scalar w => w.name
  | _ => .error .malformed

mutual

/-- Whether fields take in nothing but records and lists of records, which do so as well. -/
def canMerge : List (Node × Node) → Bool
  | [] => true
  | (name, node) :: rest => (!name.isMerge || node.isMergeable) && canMerge rest

def isMergeable : Node → Bool
  | scalar _ => false
  | record fields => canMerge fields
  | list items => areMergeable items

def areMergeable : List Node → Bool
  | [] => true
  | record fields :: rest => canMerge fields && areMergeable rest
  | _ :: _ => false

end

mutual

/-- The value of a node at a depth. -/
def value (depth : Nat) : Node → Except Flaw Value
  | scalar w => atDepth depth (w.scalar.map .scalar)
  | list items => (values (depth + 1) items).map .list
  | record fields =>
    if canMerge fields then
      (both (inherited (depth + 1) fields) (own (depth + 1) fields)).map fun p =>
        .record (Fields.ofPairs (p.1 ++ p.2))
    else .error ⟨depth + 1, .malformed⟩

def values (depth : Nat) : List Node → Except Flaw (List Value)
  | [] => .ok []
  | node :: rest => (both (value depth node) (values depth rest)).map fun p => p.1 :: p.2

/-- The fields that are not taken in from other records. -/
def own (depth : Nat) : List (Node × Node) → Except Flaw (List (Scalar × Value))
  | [] => .ok []
  | (name, node) :: rest =>
    if name.isMerge then own depth rest
    else
      (both (both (atDepth depth name.name) (value depth node)) (own depth rest)).map fun p =>
        p.1 :: p.2

/-- The fields that are taken in from other records. -/
def inherited (depth : Nat) : List (Node × Node) → Except Flaw (List (Scalar × Value))
  | [] => .ok []
  | (name, node) :: rest =>
    if name.isMerge then
      (both (merged depth node) (inherited depth rest)).map fun p => p.1 ++ p.2
    else inherited depth rest

/-- The fields that a record or a list of records brings in. The records of a list come last first. -/
def merged (depth : Nat) : Node → Except Flaw (List (Scalar × Value))
  | scalar _ => .error ⟨depth, .malformed⟩
  | record fields =>
    (both (inherited depth fields) (own depth fields)).map fun p => p.1 ++ p.2
  | list items => mergedItems depth items

def mergedItems (depth : Nat) : List Node → Except Flaw (List (Scalar × Value))
  | [] => .ok []
  | node :: rest => (both (mergedItems depth rest) (merged depth node)).map fun p => p.1 ++ p.2

end

/-- The value that a node stands for. -/
def toValue (node : Node) : Except Misreading Value :=
  match node.value 0 with
  | .ok v => .ok v
  | .error flaw => .error flaw.cause

end Node

end Switchboard.Yaml
