import Switchboard.Proofs.Data.Merging

/-!
# Fields by their names

Setting a field changes what its name finds and nothing else, and a name is added only where it is
new. Fields of different names are settled by their names in order and by what each name finds.
-/

namespace Switchboard.Fields

variable {fields others : Fields} {name n : Scalar} {v w : Value}

def keys (fields : Fields) : List Scalar.Key := (names fields).map Scalar.key

def Distinct (fields : Fields) : Prop := (keys fields).Nodup

instance : Decidable (Distinct fields) := inferInstanceAs (Decidable (keys fields).Nodup)

@[simp] theorem keys_nil : keys [] = [] := rfl

@[simp] theorem keys_cons : keys ((name, v) :: fields) = name.key :: keys fields := rfl

@[simp] theorem names_cons : names ((name, v) :: fields) = name :: names fields := rfl

@[simp] theorem get?_nil : get? [] n = none := rfl

theorem get?_cons :
    get? ((name, v) :: fields) n = if name.key = n.key then some v else get? fields n := by
  by_cases h : name.key = n.key <;> simp [get?, Scalar.same, h]

theorem get?_eq_none_iff_key : get? fields n = none ↔ n.key ∉ keys fields := by
  simp [get?_eq_none_iff, keys, Scalar.same]

theorem mem_keys_of_get? (h : get? fields n = some v) : n.key ∈ keys fields := by
  apply Decidable.byContradiction
  intro fresh
  cases (get?_eq_none_iff_key.2 fresh).symm.trans h

theorem mem_of_get? (h : get? fields n = some v) : ∃ m, (m, v) ∈ fields := by
  induction fields with
  | nil => cases h
  | cons f fields ih =>
    obtain ⟨m, w⟩ := f
    rw [get?_cons] at h
    split at h
    · cases h
      exact ⟨m, List.mem_cons_self⟩
    · obtain ⟨m', member⟩ := ih h
      exact ⟨m', List.mem_cons_of_mem _ member⟩

theorem put_cons : put name v ((n, w) :: fields) =
    if n.key = name.key then (n, v) :: fields else (n, w) :: put name v fields := by
  simp [put, Scalar.same]

theorem get?_put : get? (put name v fields) n = if name.key = n.key then some v else get? fields n := by
  induction fields with
  | nil => exact get?_cons
  | cons f fields ih =>
    obtain ⟨m, w⟩ := f
    rw [put_cons]
    split
    · rename_i same
      simp only [get?_cons, same]
      split <;> rfl
    · rename_i other
      rw [get?_cons, get?_cons, ih]
      split
      · rename_i here
        rw [if_neg fun same => other (here.trans same.symm)]
      · rfl

theorem get?_erase : get? (erase name fields) n = if name.key = n.key then none else get? fields n := by
  induction fields with
  | nil => exact (ite_self none).symm
  | cons f fields ih =>
    obtain ⟨m, w⟩ := f
    rw [get?_cons]
    by_cases same : m.key = name.key
    · have dropped : erase name ((m, w) :: fields) = erase name fields :=
        List.filter_cons_of_neg (by simp [Scalar.same, same])
      rw [dropped, ih, same]
      split <;> rfl
    · have kept : erase name ((m, w) :: fields) = (m, w) :: erase name fields :=
        List.filter_cons_of_pos (by simp [Scalar.same, same])
      rw [kept, get?_cons, ih]
      split
      · rename_i here
        rw [if_neg fun other => same (here.trans other.symm)]
      · rfl

theorem names_put : names (put name v fields) =
    if name.key ∈ keys fields then names fields else names fields ++ [name] := by
  induction fields with
  | nil => rfl
  | cons f fields ih =>
    obtain ⟨m, w⟩ := f
    rw [put_cons]
    by_cases same : m.key = name.key
    · simp [same]
    · rw [if_neg same, names_cons, ih]
      by_cases known : name.key ∈ keys fields <;> simp [known, Ne.symm same]

theorem Distinct.put (h : Distinct fields) : Distinct (put name v fields) := by
  rw [Distinct, keys, names_put]
  split
  · exact h
  · rename_i fresh
    rw [List.map_append, List.nodup_append]
    refine ⟨h, by simp, ?_⟩
    intro a old b new same
    obtain rfl := List.mem_singleton.1 new
    exact fresh (same ▸ old)

theorem mem_put {f : Scalar × Value} (h : f ∈ put name v fields) : f.2 = v ∨ f ∈ fields := by
  induction fields with
  | nil =>
    obtain rfl := List.mem_singleton.1 h
    exact .inl rfl
  | cons g fields ih =>
    obtain ⟨m, w⟩ := g
    rw [put_cons] at h
    split at h
    · rcases List.mem_cons.1 h with rfl | later
      · exact .inl rfl
      · exact .inr (List.mem_cons_of_mem _ later)
    · rcases List.mem_cons.1 h with rfl | later
      · exact .inr List.mem_cons_self
      · exact (ih later).imp_right (List.mem_cons_of_mem _)

/-- Setting fields one after the other keeps what setting one field keeps. -/
theorem putAll_invariant {P : Fields → Prop} {more : Fields} (initial : P fields)
    (step : ∀ f ∈ more, ∀ before, P before → P (put f.1 f.2 before)) : P (putAll fields more) := by
  induction more generalizing fields with
  | nil => exact initial
  | cons f more ih =>
    exact ih (step f List.mem_cons_self fields initial)
      fun g later => step g (List.mem_cons_of_mem _ later)

/-- Fields of different names are the same where names and finds are. -/
theorem Distinct.ext (h : Distinct fields) (sameNames : names fields = names others)
    (sameFinds : ∀ n, get? fields n = get? others n) : fields = others := by
  induction fields generalizing others with
  | nil => exact (List.map_eq_nil_iff.1 sameNames.symm).symm
  | cons f fields ih =>
    obtain ⟨name, v⟩ := f
    obtain ⟨fresh, distinct⟩ := List.nodup_cons.1 h
    cases others with
    | nil => cases sameNames
    | cons g others =>
      obtain ⟨name', w⟩ := g
      obtain ⟨rfl, sameRest⟩ := List.cons.inj sameNames
      have sameKeys : keys fields = keys others := congrArg (List.map Scalar.key) sameRest
      have first := sameFinds name
      rw [get?_cons, get?_cons, if_pos rfl, if_pos rfl] at first
      have later (n : Scalar) : get? fields n = get? others n := by
        by_cases same : name.key = n.key
        · rw [get?_eq_none_iff_key.2 (same ▸ fresh),
            get?_eq_none_iff_key.2 (same ▸ sameKeys ▸ fresh)]
        · simpa [get?_cons, same] using sameFinds n
      rw [ih distinct sameRest later, Option.some.inj first]

end Switchboard.Fields
