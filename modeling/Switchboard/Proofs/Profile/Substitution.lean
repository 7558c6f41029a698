import Switchboard.Proofs.Profile.Chain
import Switchboard.Proofs.Profile.Expansion
import Switchboard.Proofs.Text.Trim

/-!
# What stands in the place of placeholders

A text that is put together from placeholders and from pieces without a dollar sign is replaced piece by
piece, and what has been put in is not looked at again. In a value this happens to all texts. The names
in it, the lengths of its lists and its other scalars stay what they are.
-/

namespace Switchboard

variable {env : Environment}

namespace Placeholder

/-- Placeholders that can be read back from their text. -/
structure WellFormed (p : Placeholder) : Prop where
  nonempty : p.name ≠ []
  noBrace : '\x7d' ∉ p.name
  noColon : ':' ∉ p.name
  closed : ∀ d ∈ p.default, '\x7d' ∉ d

inductive Piece where
  | literal (text : List Char)
  | placeholder (p : Placeholder)

namespace Piece

def text : Piece → List Char
  | literal text => text
  | placeholder p => p.text

def Regular : Piece → Prop
  | literal text => '$' ∉ text
  | placeholder p => p.WellFormed

/-- What stands in the place of a piece. -/
def filled (env : Environment) : Piece → List Char
  | literal text => text
  | placeholder p => p.value env

end Piece

open Text

variable {name default rest : List Char}

theorem span_name (brace : '\x7d' ∉ name) (colon : ':' ∉ name) (rest : List Char)
    (stop : ∀ c ∈ rest.head?, c = '\x7d' ∨ c = ':') :
    (name ++ rest).takeWhile (fun c => c != '\x7d' && c != ':') = name ∧
      (name ++ rest).dropWhile (fun c => c != '\x7d' && c != ':') = rest := by
  apply span_append
  · intro c member
    have notBrace : c ≠ '\x7d' := fun same => brace (same ▸ member)
    have notColon : c ≠ ':' := fun same => colon (same ▸ member)
    simp [notBrace, notColon]
  · intro c first
    rcases stop c first with rfl | rfl <;> rfl

theorem afterOpening?_name (nonempty : name ≠ []) (brace : '\x7d' ∉ name) (colon : ':' ∉ name) :
    afterOpening? (name ++ '\x7d' :: rest) = some (⟨name, none⟩, rest) := by
  obtain ⟨taken, dropped⟩ := span_name brace colon ('\x7d' :: rest) (by simp)
  simp only [afterOpening?, taken, dropped]
  simp [nonempty]

theorem afterOpening?_default (nonempty : name ≠ []) (brace : '\x7d' ∉ name) (colon : ':' ∉ name)
    (closed : '\x7d' ∉ default) :
    afterOpening? (name ++ ':' :: (default ++ '\x7d' :: rest)) =
      some (⟨name, some default⟩, rest) := by
  obtain ⟨taken, dropped⟩ := span_name brace colon (':' :: (default ++ '\x7d' :: rest)) (by simp)
  have inside : ∀ c ∈ default, (c != '\x7d') = true := by
    intro c member
    exact bne_iff_ne.2 fun same => closed (same ▸ member)
  have after : ∀ c ∈ ('\x7d' :: rest).head?, (c != '\x7d') = false := by simp
  obtain ⟨taken', dropped'⟩ := span_append inside after
  simp only [afterOpening?, taken, dropped, taken', dropped']
  simp [nonempty]

theorem leading?_text {p : Placeholder} (h : p.WellFormed) (rest : List Char) :
    leading? (p.text ++ rest) = some (p, rest) := by
  obtain ⟨name, default⟩ := p
  obtain ⟨nonempty, brace, colon, closed⟩ := h
  cases default with
  | none => simpa [text, leading?] using afterOpening?_name nonempty brace colon
  | some default =>
    simpa [text, leading?] using afterOpening?_default nonempty brace colon (closed default rfl)

/-- A piece is replaced, and what follows it is looked at next. -/
theorem expand_piece {piece : Piece} (h : piece.Regular) (rest : List Char) :
    expand env (piece.text ++ rest) = piece.filled env ++ expand env rest := by
  cases piece with
  | literal text => exact expand_append_of_not_mem h rest
  | placeholder p => exact expand_of_leading? (leading?_text h rest)

theorem expand_pieces (pieces : List Piece) (h : ∀ piece ∈ pieces, piece.Regular) :
    expand env (pieces.flatMap Piece.text) = pieces.flatMap (Piece.filled env) := by
  induction pieces with
  | nil => rw [List.flatMap_nil, expand, List.flatMap_nil]
  | cons piece pieces ih =>
    obtain ⟨here, later⟩ := List.forall_mem_cons.1 h
    rw [List.flatMap_cons, expand_piece here, ih later, List.flatMap_cons]

end Placeholder

namespace Value

variable {v : Value} {steps : List Step}

/-- A step down into a value, to a field of a record or to an item of a list. -/
inductive Step where
  | field (name : Scalar)
  | item (index : Nat)

def partAt : List Step → Value → Option Value
  | [], v => some v
  | .field name :: steps, record fields => (Fields.get? fields name).bind (partAt steps)
  | .item index :: steps, list items => items[index]?.bind (partAt steps)
  | _ :: _, _ => none

theorem expandItems_eq (items : List Value) : expandItems env items = items.map (expand env) := by
  induction items with
  | nil => rw [expandItems, List.map_nil]
  | cons v rest ih => rw [expandItems, ih, List.map_cons]

/-- The parts of a value are replaced each by itself. -/
theorem partAt_expand (steps : List Step) (v : Value) :
    (expand env v).partAt steps = (v.partAt steps).map (expand env) := by
  induction steps generalizing v with
  | nil => rfl
  | cons step steps ih =>
    match v, step with
    | scalar s, _ => cases s <;> simp [expand, partAt]
    | list items, .field name => simp [expand, partAt]
    | list items, .item index =>
      rw [expand, partAt, partAt, expandItems_eq, List.getElem?_map]
      cases items[index]? with
      | none => rfl
      | some w => exact ih w
    | record fields, .item index => simp [partAt]
    | record fields, .field name =>
      rw [expand_record, partAt, partAt, get?_expandFields]
      cases Fields.get? fields name with
      | none => rfl
      | some w => exact ih w

def nested : Nat → Value → Value
  | 0, v => v
  | n + 1, v => list [nested n v]

theorem depth_nested (n : Nat) (v : Value) : (nested n v).depth = v.depth + n := by
  induction n with
  | zero => rfl
  | succ n ih =>
    rw [nested, depth, depthOfItems, depthOfItems, ih]
    omega

theorem partAt_nested (n : Nat) (v : Value) :
    (nested n v).partAt (List.replicate n (.item 0)) = some v := by
  induction n with
  | zero => rfl
  | succ n ih =>
    rw [nested, List.replicate_succ, partAt]
    exact ih

end Value

namespace Folder

open Value
open Placeholder (Piece expand_pieces)

def nestedPlaceholder : List Char :=
  "\x7b\"a\":".toList ++ List.replicate 700 '[' ++ "\"$\x7bX:y\x7d\"".toList ++
    List.replicate 700 ']' ++ "\x7d".toList

def nestedFolder : Folder where
  title := "profiles"
  length := 8
  home := []
  folders := []
  files := [(["p.json"], String.ofList nestedPlaceholder)]

theorem profileFile_nestedFolder :
    nestedFolder.profileFile "p" = .ok ("p.json", String.ofList nestedPlaceholder) := by
  apply profileFile_of_json
  · exact eq_error_of_fault? (by decide +kernel)
  · exact eq_error_of_fault? (by decide +kernel)
  · have name : IsFileName "p.json" := ⟨by simp, by simp, by simp, by simp⟩
    change nestedFolder.file "p.json" = _
    rw [file_of_isFileName name (by decide +kernel)]
    exact fileAt_of_lookup (by decide) (by decide +kernel) rfl

theorem inherited_nestedFolder :
    nestedFolder.inherited [] "p" = .ok [("a", nested 700 (text "$\x7bX:y\x7d"))] := by
  have json : Format.ofPath "p.json" = .json := by decide +kernel
  have read : nestedFolder.read .json (String.ofList nestedPlaceholder) =
      .ok (record [("a", nested 700 (text "$\x7bX:y\x7d"))]) := by
    rw [read_json, String.toList_ofList]
    exact eq_ok_of_toOption (by decide +kernel)
  have fields : nestedFolder.fieldsOf "p.json" (String.ofList nestedPlaceholder) =
      .ok [("a", nested 700 (text "$\x7bX:y\x7d"))] := by
    rw [fieldsOf, json, read]
  have sheet : nestedFolder.sheet "p" = .ok ⟨[], [("a", nested 700 (text "$\x7bX:y\x7d"))]⟩ := by
    rw [sheet_of_profileFile profileFile_nestedFolder fields]
    rfl
  rw [inherited_of_sheet (by decide) (by simp) sheet]
  rfl

end Folder

end Switchboard
