import Switchboard.Proofs.Data.Attempt
import Switchboard.Proofs.Data.Merging

/-!
# How deep the parts of a value lie

A field or an item lies less deep than the value that holds it.
-/

namespace Switchboard.Value

variable {v w default : Value} {items : List Value} {name : String} {bound : Nat}

theorem depthOfItems_le_iff : depthOfItems items ≤ bound ↔ ∀ item ∈ items, item.depth ≤ bound := by
  induction items with
  | nil => simp [depthOfItems]
  | cons item items ih => rw [depthOfItems, Nat.max_le, ih, List.forall_mem_cons]

theorem depth_field (h : v.field name = .ok w) : w.depth < v.depth := by
  cases v with
  | record fields =>
    rw [field] at h
    split at h
    · rename_i found
      cases h
      rw [depth]
      exact Nat.lt_succ_of_le (Fields.depth_get? found)
    · cases h
  | _ => cases h

theorem depth_fieldOr (h : v.fieldOr name default = .ok w) :
    0 < v.depth ∧ (w = default ∨ w.depth < v.depth) := by
  cases v with
  | record fields =>
    cases h
    rw [depth]
    refine ⟨Nat.succ_pos _, ?_⟩
    cases found : Fields.get? fields name with
    | none => exact .inl rfl
    | some w => exact .inr (Nat.lt_succ_of_le (Fields.depth_get? found))
  | _ => cases h

theorem depth_fieldOr_scalar {s : Scalar} (h : v.fieldOr name (.scalar s) = .ok w) :
    w.depth ≤ v.depth - 1 := by
  rcases (depth_fieldOr h).2 with rfl | inside
  · exact Nat.zero_le _
  · exact Nat.le_sub_one_of_lt inside

theorem depth_orElse (v default : Value) :
    (v.orElse default).depth ≤ max v.depth default.depth := by
  rw [orElse]
  split
  · exact Nat.le_max_left _ _
  · exact Nat.le_max_right _ _

theorem depth_parts (h : v.parts = .ok items) : ∀ item ∈ items, item.depth ≤ v.depth - 1 := by
  cases v with
  | list items =>
    cases h
    rw [depth]
    exact depthOfItems_le_iff.1 (Nat.le_refl _)
  | record fields =>
    cases h
    intro item member
    obtain ⟨name, -, rfl⟩ := List.mem_map.1 member
    exact Nat.zero_le _
  | scalar s =>
    cases s with
    | text s =>
      cases h
      intro item member
      obtain ⟨c, -, rfl⟩ := List.mem_map.1 member
      exact Nat.zero_le _
    | _ => cases h

end Switchboard.Value
