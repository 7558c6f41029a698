import Switchboard.Proofs.Profile.Lineage

/-!
# Placeholders and inheritance

Replacing placeholders changes texts only. It leaves names and kinds of values as they are, and so it
makes no difference whether values are merged before or after their placeholders are replaced.
-/

namespace Switchboard

open Value

variable {env : Environment} {fields under above : Fields} {name n : Scalar} {v : Value}

namespace Value

@[simp] theorem expandFields_nil : expandFields env [] = [] := by
  rw [expandFields]

@[simp] theorem expandFields_cons :
    expandFields env ((name, v) :: fields) = (name, expand env v) :: expandFields env fields := by
  rw [expandFields]

@[simp] theorem expand_record : expand env (record fields) = record (expandFields env fields) := by
  rw [expand]

theorem isRecord_expand (v : Value) : (expand env v).isRecord = v.isRecord := by
  cases v with
  | scalar s => cases s <;> simp [expand, isRecord]
  | list items => simp [expand, isRecord]
  | record fields => simp [isRecord]

theorem get?_expandFields :
    Fields.get? (expandFields env fields) n = (Fields.get? fields n).map (expand env) := by
  induction fields with
  | nil => simp
  | cons f fields ih =>
    obtain ⟨name, v⟩ := f
    rw [expandFields_cons, Fields.get?_cons, Fields.get?_cons, ih]
    split <;> rfl

theorem expandFields_put : expandFields env (Fields.put name v fields) =
    Fields.put name (expand env v) (expandFields env fields) := by
  induction fields with
  | nil => simp [Fields.put]
  | cons f fields ih =>
    obtain ⟨m, w⟩ := f
    rw [Fields.put_cons, expandFields_cons, Fields.put_cons]
    split
    · rw [expandFields_cons]
    · rw [expandFields_cons, ih]

mutual

theorem expand_laidOver (env : Environment) (under : Option Value) : ∀ v,
    expand env (laidOver under v) = laidOver (under.map (expand env)) (expand env v)
  | record above => by
    match under with
    | none => rw [Option.map_none, laidOver_none, laidOver_none]
    | some (record fields) =>
      rw [Option.map_some, expand_record, expand_record, laidOver_records, laidOver_records,
        expand_record, expandFields_mergeFields env fields above]
    | some (scalar s) =>
      have other : (expand env (scalar s)).isRecord = false := isRecord_expand _
      rw [laidOver_of_not_records (.inr (by rintro _ ⟨⟩; rfl)),
        laidOver_of_not_records (.inr (by rintro _ ⟨⟩; exact other))]
    | some (list items) =>
      have other : (expand env (list items)).isRecord = false := isRecord_expand _
      rw [laidOver_of_not_records (.inr (by rintro _ ⟨⟩; rfl)),
        laidOver_of_not_records (.inr (by rintro _ ⟨⟩; exact other))]
  | scalar s => by
    rw [laidOver_of_not_records (.inl rfl), laidOver_of_not_records (.inl (isRecord_expand _))]
  | list items => by
    rw [laidOver_of_not_records (.inl rfl), laidOver_of_not_records (.inl (isRecord_expand _))]

theorem expandFields_mergeFields (env : Environment) (under : Fields) : ∀ above,
    expandFields env (mergeFields under above) =
      mergeFields (expandFields env under) (expandFields env above)
  | [] => by rw [mergeFields_nil, expandFields_nil, mergeFields_nil]
  | (name, v) :: above => by
    rw [mergeFields_cons, expandFields_mergeFields env _ above, expandFields_put,
      expand_laidOver env _ v, expandFields_cons, mergeFields_cons, get?_expandFields]

end

end Value

namespace Placeholder

variable {text after : List Char} {p : Placeholder}

theorem expand_of_leading? (h : leading? text = some (p, after)) :
    expand env text = p.value env ++ expand env after := by
  cases text with
  | nil => cases h
  | cons c rest =>
    rw [expand]
    split
    · rename_i found
      cases h.symm.trans found
      rfl
    · rename_i none
      cases h.symm.trans none

/-- A placeholder starts with a dollar sign. -/
theorem expand_append_of_not_mem (h : '$' ∉ text) (after : List Char) :
    expand env (text ++ after) = text ++ expand env after := by
  induction text with
  | nil => rfl
  | cons c rest ih =>
    rw [List.mem_cons, not_or] at h
    have none : leading? (c :: (rest ++ after)) = none := by
      rw [leading?]
      intro rest' same
      exact h.1 (List.cons.inj same).1.symm
    rw [List.cons_append, expand]
    split
    · rename_i found
      cases none.symm.trans found
    · rw [ih h.2, List.cons_append]

theorem expand_of_not_mem (h : '$' ∉ text) : expand env text = text := by
  have alone : expand env (text ++ []) = text ++ expand env [] := expand_append_of_not_mem h []
  rwa [expand, List.append_nil] at alone

end Placeholder

namespace Value

mutual

/-- The texts in a value, without the names in it. -/
def innerTexts : Value → List String
  | text s => [s]
  | list items => textsOfItems items
  | record fields => textsOfFields fields
  | _ => []

def textsOfItems : List Value → List String
  | [] => []
  | v :: rest => innerTexts v ++ textsOfItems rest

def textsOfFields : List (Scalar × Value) → List String
  | [] => []
  | (_, v) :: rest => innerTexts v ++ textsOfFields rest

end

theorem expand_text_of_not_mem {s : String} (h : '$' ∉ s.toList) :
    expand env (text s) = text s := by
  rw [expand, Placeholder.expand_of_not_mem h, String.ofList_toList]

mutual

theorem expand_of_plain (env : Environment) :
    ∀ v : Value, (∀ s ∈ v.innerTexts, '$' ∉ s.toList) → expand env v = v
  | scalar s, plain => by
    cases s with
    | text s =>
      rw [innerTexts, List.forall_mem_singleton] at plain
      exact expand_text_of_not_mem plain
    | _ => simp [expand]
  | list items, plain => by
    rw [innerTexts] at plain
    rw [expand, expandItems_of_plain env items plain]
  | record fields, plain => by
    rw [innerTexts] at plain
    rw [expand, expandFields_of_plain env fields plain]

theorem expandItems_of_plain (env : Environment) : ∀ items : List Value,
    (∀ s ∈ textsOfItems items, '$' ∉ s.toList) → expandItems env items = items
  | [], _ => by rw [expandItems]
  | v :: rest, plain => by
    rw [textsOfItems, List.forall_mem_append] at plain
    rw [expandItems, expand_of_plain env v plain.1, expandItems_of_plain env rest plain.2]

theorem expandFields_of_plain (env : Environment) : ∀ fields : Fields,
    (∀ s ∈ textsOfFields fields, '$' ∉ s.toList) → expandFields env fields = fields
  | [], _ => by rw [expandFields]
  | (name, v) :: rest, plain => by
    rw [textsOfFields, List.forall_mem_append] at plain
    rw [expandFields, expand_of_plain env v plain.1, expandFields_of_plain env rest plain.2]

end

end Value

namespace Lineage

mutual

def map (f : Fields → Fields) : Lineage → Lineage
  | node profile own parents => node profile (f own) (mapAll f parents)

def mapAll (f : Fields → Fields) : List Lineage → List Lineage
  | [] => []
  | tree :: rest => tree.map f :: mapAll f rest

end

mutual

theorem merged_map_expand (env : Environment) : ∀ tree : Lineage,
    (tree.map (expandFields env)).merged = expandFields env tree.merged
  | node profile own parents => by
    rw [map, merged, merged, expandFields_mergeFields, ← mergedOver_mapAll_expand env [] parents,
      expandFields_nil]

theorem mergedOver_mapAll_expand (env : Environment) (below : Fields) : ∀ parents : List Lineage,
    mergedOver (expandFields env below) (mapAll (expandFields env) parents) =
      expandFields env (mergedOver below parents)
  | [] => rfl
  | tree :: rest => by
    rw [mapAll, mergedOver, mergedOver, merged_map_expand env tree, ← expandFields_mergeFields,
      mergedOver_mapAll_expand env _ rest]

end

end Lineage

namespace Folder

theorem expandFields_withDefault (name : String) :
    expandFields env (withDefault name v fields) =
      withDefault name (expand env v) (expandFields env fields) := by
  rw [withDefault, withDefault, get?_expandFields, Option.isSome_map]
  split
  · rfl
  · exact expandFields_put

/-- Placeholders may be replaced before or after merging. So a profile is loaded as if the
placeholders of each file below it had been replaced before the files are merged, as long as what it
inherits can be taken apart. -/
theorem expand_before_merging (env : Environment) :
    (∀ a b, expandFields env (mergeFields a b) =
      mergeFields (expandFields env a) (expandFields env b)) ∧
    ∀ (folder : Folder) (profile : String) (fields : Fields),
      folder.inherited [] profile = .ok fields → ∃ tree,
        (∀ other, folder.IsLineage other ∧ other.profile = profile ↔ other = tree) ∧
        fields = tree.merged ∧
        folder.load env profile =
          if depthLimit < (record fields).depth then .error .tooDeep
          else .ok (withDefault "profile" (expand env (.text profile))
            (tree.map (expandFields env)).merged) := by
  refine ⟨fun a b => expandFields_mergeFields env a b, ?_⟩
  intro folder profile fields found
  obtain ⟨tree, lineage, rfl, rfl⟩ := exists_lineage ⟨[], profile⟩ found
  refine ⟨tree, lineage.eq_iff, rfl, ?_⟩
  rw [load_of_inherited env found, expandFields_withDefault, Lineage.merged_map_expand]

theorem expand_before_merging_default :
    let folder := shippedFolder "config" 20 [["core"], ["tests"]]
    let env := [("OPENWEATHER_API_KEY", "k")]
    ∃ tree : Lineage, folder.inherited [] "default" = .ok tree.merged ∧
      folder.load env "default" =
        .ok (withDefault "profile" (expand env (.text "default"))
          (tree.map (expandFields env)).merged) := by
  intro folder env
  have found : folder.inherited [] "default" =
      .ok (mergeFields (mergeFields [] baseFields) []) := inherited_default ships_config
  obtain ⟨-, loads⟩ := expand_before_merging env
  obtain ⟨tree, -, same, loaded⟩ := loads folder "default" _ found
  have shallow : ¬ depthLimit <
      (record (mergeFields (mergeFields [] baseFields) [])).depth := by decide
  rw [if_neg shallow] at loaded
  exact ⟨tree, same ▸ found, loaded⟩

end Folder

end Switchboard
