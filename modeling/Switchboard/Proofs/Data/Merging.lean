import Switchboard.Data.Merge

/-!
# What merging keeps

Merged fields have no names and no depth that neither side has.
-/

namespace Switchboard

namespace Fields

theorem mem_names_put {name n : Scalar} {v : Value} {fields : Fields}
    (h : n ∈ names (put name v fields)) : n = name ∨ n ∈ names fields := by
  induction fields with
  | nil => exact .inl (by simpa [put, names] using h)
  | cons f fields ih =>
    obtain ⟨other, w⟩ := f
    rw [put] at h
    split at h
    · exact .inr h
    · rcases List.mem_cons.1 h with rfl | later
      · exact .inr List.mem_cons_self
      · rcases ih later with rfl | known
        · exact .inl rfl
        · exact .inr (List.mem_cons_of_mem _ known)

theorem get?_eq_none_iff {fields : Fields} {name : Scalar} :
    get? fields name = none ↔ ∀ n ∈ names fields, n.same name = false := by
  simp [get?, names]

theorem depth_put (name : Scalar) (v : Value) (fields : Fields) :
    Value.depthOfFields (put name v fields) ≤ max (Value.depthOfFields fields) v.depth := by
  induction fields with
  | nil => simp [put, Value.depthOfFields]
  | cons f fields ih =>
    obtain ⟨other, w⟩ := f
    rw [put]
    split
    · simp only [Value.depthOfFields]
      omega
    · simp only [Value.depthOfFields]
      omega

theorem depth_get? {fields : Fields} {name : Scalar} {v : Value} (h : get? fields name = some v) :
    v.depth ≤ Value.depthOfFields fields := by
  induction fields with
  | nil => cases h
  | cons f fields ih =>
    obtain ⟨other, w⟩ := f
    rw [Value.depthOfFields]
    by_cases here : other.same name = true
    · have same : w = v := by simpa [get?, here] using h
      rw [same]
      exact Nat.le_max_left _ _
    · have later : get? fields name = some v := by simpa [get?, here] using h
      exact Nat.le_trans (ih later) (Nat.le_max_right _ _)

end Fields

namespace Value

theorem mem_names_mergeFields {under above : Fields} {n : Scalar}
    (h : n ∈ Fields.names (mergeFields under above)) :
    n ∈ Fields.names under ∨ n ∈ Fields.names above := by
  induction above generalizing under with
  | nil => exact .inl (by simpa [mergeFields] using h)
  | cons f above ih =>
    obtain ⟨name, v⟩ := f
    rw [mergeFields] at h
    rcases ih h with first | later
    · rcases Fields.mem_names_put first with rfl | known
      · exact .inr List.mem_cons_self
      · exact .inl known
    · exact .inr (List.mem_cons_of_mem _ later)

mutual

theorem depth_laidOver (under : Option Value) (bound : Nat)
    (h : ∀ v ∈ under, v.depth ≤ bound) : ∀ v, (laidOver under v).depth ≤ max bound v.depth
  | record above => by
    unfold laidOver
    split
    · rename_i fields
      have below := h _ rfl
      have merged := depth_mergeFields fields above
      rw [depth] at below
      rw [depth, depth]
      omega
    · exact Nat.le_max_right _ _
  | scalar s => by
    unfold laidOver
    exact Nat.le_max_right _ _
  | list items => by
    unfold laidOver
    exact Nat.le_max_right _ _

theorem depth_mergeFields (under : Fields) : ∀ above,
    depthOfFields (mergeFields under above) ≤ max (depthOfFields under) (depthOfFields above)
  | [] => by
    rw [mergeFields]
    exact Nat.le_max_left _ _
  | (name, v) :: rest => by
    have known := depth_laidOver (Fields.get? under name) (depthOfFields under)
      (fun _ found => Fields.depth_get? found) v
    have placed := Fields.depth_put name (laidOver (Fields.get? under name) v) under
    have merged := depth_mergeFields
      (Fields.put name (laidOver (Fields.get? under name) v) under) rest
    rw [mergeFields, depthOfFields]
    omega

end

end Value

end Switchboard
