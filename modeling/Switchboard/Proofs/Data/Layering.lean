import Switchboard.Proofs.Data.Naming

/-!
# Laying several configurations over each other

Two configurations fit together where no way down through field names leads to a record in one and to
something else in the other. Configurations that fit together may be laid over each other in groups:
the grouping makes no difference, not even for the order of the fields.
-/

namespace Switchboard.Value

variable {under above a b c fields : Fields} {name n : Scalar} {v w : Value}

theorem isRecord_iff : v.isRecord = true ↔ ∃ fields, v = record fields := by
  cases v <;> simp [isRecord]

theorem laidOver_none (v : Value) : laidOver none v = v := by
  cases v <;> simp [laidOver]

theorem laidOver_records (f g : Fields) :
    laidOver (some (record f)) (record g) = record (mergeFields f g) := by
  simp [laidOver]

/-- What is no record replaces everything, and everything replaces what is no record. -/
theorem laidOver_of_not_records {under : Option Value}
    (h : v.isRecord = false ∨ ∀ w ∈ under, w.isRecord = false) : laidOver under v = v := by
  match v, under with
  | scalar s, _ => simp [laidOver]
  | list items, _ => simp [laidOver]
  | record fields, none => exact laidOver_none _
  | record fields, some (scalar s) => simp [laidOver]
  | record fields, some (list items) => simp [laidOver]
  | record fields, some (record f) => simp [isRecord] at h

/-- What a name finds once fields have been laid over others. -/
def laid (under above : Option Value) : Option Value :=
  match above with
  | none => under
  | some v => some (laidOver under v)

theorem mergeFields_cons :
    mergeFields under ((name, v) :: above) =
      mergeFields (Fields.put name (laidOver (Fields.get? under name) v) under) above := by
  rw [mergeFields]

theorem mergeFields_nil : mergeFields under [] = under := by
  rw [mergeFields]

theorem get?_congr (h : name.key = n.key) : Fields.get? fields name = Fields.get? fields n := by
  simp [Fields.get?, Scalar.same, h]

theorem get?_mergeFields (distinct : Fields.Distinct above) (n : Scalar) :
    Fields.get? (mergeFields under above) n = laid (Fields.get? under n) (Fields.get? above n) := by
  induction above generalizing under with
  | nil => rw [mergeFields_nil, Fields.get?_nil, laid]
  | cons f above ih =>
    obtain ⟨name, v⟩ := f
    obtain ⟨fresh, distinct⟩ := List.nodup_cons.1 distinct
    rw [mergeFields_cons, ih distinct, Fields.get?_put, Fields.get?_cons]
    by_cases same : name.key = n.key
    · have last : Fields.get? above n = none := Fields.get?_eq_none_iff_key.2 (same ▸ fresh)
      rw [if_pos same, if_pos same, last, get?_congr same]
      rfl
    · rw [if_neg same, if_neg same]

theorem names_mergeFields (distinct : Fields.Distinct above) :
    Fields.names (mergeFields under above) =
      Fields.names under ++ (Fields.names above).filter (·.key ∉ Fields.keys under) := by
  induction above generalizing under with
  | nil => simp [mergeFields_nil, Fields.names]
  | cons f above ih =>
    obtain ⟨name, v⟩ := f
    obtain ⟨fresh, distinct⟩ := List.nodup_cons.1 distinct
    rw [mergeFields_cons, ih distinct, Fields.keys, Fields.names_put, Fields.names_cons]
    by_cases known : name.key ∈ Fields.keys under
    · rw [if_pos known, List.filter_cons_of_neg (by simpa using known), Fields.keys]
    · rw [if_neg known, List.filter_cons_of_pos (by simpa using known), List.append_assoc]
      have later : ∀ m ∈ Fields.names above,
          decide (m.key ∉ (Fields.names under ++ [name]).map Scalar.key) =
            decide (m.key ∉ Fields.keys under) := by
        intro m member
        have other : m.key ≠ name.key := by
          intro same
          exact fresh (same ▸ List.mem_map_of_mem member)
        simp [Fields.keys, other]
      rw [List.filter_congr later]
      rfl

theorem mem_keys_mergeFields (distinct : Fields.Distinct above) :
    n.key ∈ Fields.keys (mergeFields under above) ↔
      n.key ∈ Fields.keys under ∨ n.key ∈ Fields.keys above := by
  apply Decidable.not_iff_not.1
  rw [not_or, ← Fields.get?_eq_none_iff_key, ← Fields.get?_eq_none_iff_key,
    ← Fields.get?_eq_none_iff_key, get?_mergeFields distinct]
  cases Fields.get? above n <;> simp [laid]

theorem distinct_mergeFields (h : Fields.Distinct under) :
    Fields.Distinct (mergeFields under above) := by
  induction above generalizing under with
  | nil => rwa [mergeFields_nil]
  | cons f above ih =>
    obtain ⟨name, v⟩ := f
    rw [mergeFields_cons]
    exact ih h.put

/-- No record in a value has two fields of the same name. -/
inductive Unambiguous : Value → Prop
  | scalar (s : Scalar) : Unambiguous (scalar s)
  | list {items : List Value} (each : ∀ v ∈ items, Unambiguous v) : Unambiguous (list items)
  | record {fields : Fields} (distinct : Fields.Distinct fields)
      (each : ∀ f ∈ fields, Unambiguous f.2) : Unambiguous (record fields)

theorem Unambiguous.distinct (h : Unambiguous (Value.record fields)) : Fields.Distinct fields := by
  cases h with
  | record distinct each => exact distinct

theorem Unambiguous.each (h : Unambiguous (Value.record fields)) : ∀ f ∈ fields, Unambiguous f.2 := by
  cases h with
  | record distinct each => exact each

theorem Unambiguous.of_get? (h : Unambiguous (Value.record fields))
    (found : Fields.get? fields n = some v) : Unambiguous v := by
  obtain ⟨m, member⟩ := Fields.mem_of_get? found
  exact h.each _ member

theorem Unambiguous.put (h : Unambiguous (Value.record fields)) (hv : Unambiguous v) :
    Unambiguous (Value.record (Fields.put name v fields)) := by
  refine .record h.distinct.put fun f member => ?_
  rcases Fields.mem_put member with same | known
  · exact same ▸ hv
  · exact h.each f known

theorem unambiguous_nil : Unambiguous (record []) := .record List.nodup_nil nofun

theorem unambiguous_ofPairs {pairs : List (Scalar × Value)}
    (each : ∀ f ∈ pairs, Unambiguous f.2) : Unambiguous (Value.record (Fields.ofPairs pairs)) :=
  Fields.putAll_invariant (P := fun fields => Unambiguous (Value.record fields)) unambiguous_nil
    fun f member _ before => before.put (each f member)

mutual

theorem Unambiguous.laidOver {under : Option Value} (h : ∀ w ∈ under, Unambiguous w) :
    ∀ {v}, Unambiguous v → Unambiguous (Value.laidOver under v)
  | .record above, hv => by
    cases under with
    | none => rwa [laidOver_none]
    | some w =>
      cases w with
      | record fields =>
        rw [laidOver_records]
        exact Unambiguous.mergeFields (h _ rfl) hv.each
      | scalar s => rwa [laidOver_of_not_records (.inr (by rintro _ ⟨⟩; rfl))]
      | list items => rwa [laidOver_of_not_records (.inr (by rintro _ ⟨⟩; rfl))]
  | .scalar s, hv => by rwa [laidOver_of_not_records (.inl rfl)]
  | .list items, hv => by rwa [laidOver_of_not_records (.inl rfl)]

theorem Unambiguous.mergeFields {under : Fields} (h : Unambiguous (Value.record under)) :
    ∀ {above : Fields}, (∀ f ∈ above, Unambiguous f.2) →
      Unambiguous (Value.record (Value.mergeFields under above))
  | [], _ => by rwa [mergeFields_nil]
  | (name, v) :: above, each => by
    have first : Unambiguous (Value.laidOver (Fields.get? under name) v) :=
      Unambiguous.laidOver (fun w found => h.of_get? found) (each _ List.mem_cons_self)
    rw [mergeFields_cons]
    exact Unambiguous.mergeFields (h.put first) fun f later => each f (List.mem_cons_of_mem _ later)

end

def valueAt : List Scalar → Value → Option Value
  | [], v => some v
  | name :: way, record fields => (Fields.get? fields name).bind (valueAt way)
  | _ :: _, _ => none

/-- No way leads to a record in one value and to something else in the other. -/
def Compatible (v w : Value) : Prop :=
  ∀ way x y, v.valueAt way = some x → w.valueAt way = some y → x.isRecord = y.isRecord

mutual

def agree : Value → Value → Bool
  | record fields, record others => fieldsAgree others fields
  | v, w => v.isRecord == w.isRecord

def fieldsAgree (others : Fields) : List (Scalar × Value) → Bool
  | [] => true
  | (name, v) :: rest =>
    (match Fields.get? others name with
      | some w => agree v w
      | none => true) && fieldsAgree others rest

end

theorem compatible_of_not_record (h : v.isRecord = false) (h' : w.isRecord = false) :
    Compatible v w := by
  rintro (_ | ⟨n, way⟩) x y found found'
  · cases found
    cases found'
    rw [h, h']
  · cases v with
    | record fields => cases h
    | scalar s => cases found
    | list items => cases found

mutual

theorem compatible_of_agree : ∀ {v w : Value}, agree v w = true → Compatible v w
  | record fields, record others, h => by
    rw [agree] at h
    rintro (_ | ⟨n, way⟩) x y found found'
    · cases found
      cases found'
      rfl
    · obtain ⟨v, first, found⟩ := Option.bind_eq_some_iff.1 found
      obtain ⟨w, first', found'⟩ := Option.bind_eq_some_iff.1 found'
      exact compatible_of_fieldsAgree h first first' way x y found found'
  | scalar s, w, h => by
    have same : (scalar s).isRecord = w.isRecord := by simpa [agree] using h
    exact compatible_of_not_record rfl same.symm
  | list items, w, h => by
    have same : (list items).isRecord = w.isRecord := by simpa [agree] using h
    exact compatible_of_not_record rfl same.symm
  | record fields, scalar s, h => by simp [agree, isRecord] at h
  | record fields, list items, h => by simp [agree, isRecord] at h

theorem compatible_of_fieldsAgree {others : Fields} : ∀ {fields : List (Scalar × Value)},
    fieldsAgree others fields = true → ∀ {n : Scalar} {v w : Value},
      Fields.get? fields n = some v → Fields.get? others n = some w → Compatible v w
  | [], _, n, v, w, found, _ => by cases found
  | (name, first) :: rest, h, n, v, w, found, found' => by
    rw [fieldsAgree, Bool.and_eq_true] at h
    rw [Fields.get?_cons] at found
    split at found
    · rename_i same
      cases found
      rw [← get?_congr same] at found'
      rw [found'] at h
      exact compatible_of_agree h.1
    · exact compatible_of_fieldsAgree h.2 found found'

end

/-- Fields without ambiguous names, in which the kinds of what ways lead to are as foreseen. -/
structure Fits (kind : List Scalar → Bool) (fields : Fields) : Prop where
  shaped : ∀ way w, (record fields).valueAt way = some w → w.isRecord = kind way
  unambiguous : Unambiguous (record fields)

variable {kind : List Scalar → Bool}

/-- The kinds of what ways lead to can be foreseen for values that are compatible. -/
theorem exists_kind {P : Fields → Prop} (unambiguous : ∀ f, P f → Unambiguous (record f))
    (compatible : ∀ f g, P f → P g → Compatible (record f) (record g)) :
    ∃ kind, ∀ f, P f → Fits kind f := by
  classical
  refine ⟨fun way => decide (∃ f, P f ∧ ∃ w, (record f).valueAt way = some w ∧ w.isRecord = true),
    fun f hf => ⟨?_, unambiguous f hf⟩⟩
  intro way w found
  rw [eq_comm, Bool.eq_iff_iff, decide_eq_true_iff]
  constructor
  · rintro ⟨g, hg, x, found', isRecord⟩
    rwa [compatible f g hf hg way w x found found']
  · intro isRecord
    exact ⟨f, hf, w, found, isRecord⟩

theorem Fits.nil (h : Fits kind fields) : Fits kind [] := by
  refine ⟨?_, unambiguous_nil⟩
  intro way w found
  cases way with
  | nil =>
    cases found
    exact h.shaped [] (record fields) rfl
  | cons name way => cases found

theorem Fits.isRecord (h : Fits kind fields) (found : Fields.get? fields n = some v) :
    v.isRecord = kind [n] :=
  h.shaped [n] v (by simp [valueAt, found])

theorem Fits.inner (h : Fits kind fields) {inside : Fields}
    (found : Fields.get? fields n = some (record inside)) : Fits (fun way => kind (n :: way)) inside := by
  refine ⟨?_, h.unambiguous.of_get? found⟩
  intro way w reached
  exact h.shaped (n :: way) w (by simpa [valueAt, found] using reached)

theorem shaped_mergeFields (ha : Fits kind a) (hb : Fits kind b) {way : List Scalar}
    (found : (record (mergeFields a b)).valueAt way = some w) : w.isRecord = kind way := by
  induction way generalizing kind a b with
  | nil =>
    cases found
    exact ha.shaped [] (record a) rfl
  | cons n way ih =>
    rw [valueAt, get?_mergeFields hb.unambiguous.distinct] at found
    cases above : Fields.get? b n with
    | none =>
      rw [above, laid] at found
      exact ha.shaped (n :: way) w found
    | some v =>
      rw [above, laid, Option.bind_some] at found
      have alone (h : laidOver (Fields.get? a n) v = v) : w.isRecord = kind (n :: way) := by
        rw [h] at found
        exact hb.shaped (n :: way) w (by rwa [valueAt, above])
      match v, below : Fields.get? a n with
      | record g, some (record f) =>
        rw [below, laidOver_records] at found
        exact ih (ha.inner below) (hb.inner above) found
      | record g, none => exact alone (below ▸ laidOver_none _)
      | record g, some (scalar s) => exact alone (by simp [below, laidOver])
      | record g, some (list items) => exact alone (by simp [below, laidOver])
      | scalar s, _ => exact alone (laidOver_of_not_records (.inl rfl))
      | list items, _ => exact alone (laidOver_of_not_records (.inl rfl))

theorem Fits.mergeFields (ha : Fits kind a) (hb : Fits kind b) : Fits kind (mergeFields a b) :=
  ⟨fun _ _ found => shaped_mergeFields ha hb found,
    Unambiguous.mergeFields ha.unambiguous hb.unambiguous.each⟩

theorem laid_none (under : Option Value) : laid under none = under := rfl

theorem laid_from_none (above : Option Value) : laid none above = above := by
  cases above with
  | none => rfl
  | some v => rw [laid, laidOver_none]

theorem names_mergeFields_assoc (hb : Fields.Distinct b) (hc : Fields.Distinct c) :
    Fields.names (mergeFields (mergeFields a b) c) =
      Fields.names (mergeFields a (mergeFields b c)) := by
  rw [names_mergeFields hc, names_mergeFields hb,
    names_mergeFields (distinct_mergeFields hb), names_mergeFields hc, List.filter_append,
    List.filter_filter, List.append_assoc]
  congr 2
  apply List.filter_congr
  intro n _
  simp [mem_keys_mergeFields hb, not_or]

/-- Three finds of the same kind may be grouped if those that are records may be. -/
theorem laid_assoc {x y z : Option Value} (isRecord : Bool)
    (kinds : ∀ v, v ∈ x ∨ v ∈ y ∨ v ∈ z → v.isRecord = isRecord)
    (records : ∀ f g h, x = some (record f) → y = some (record g) → z = some (record h) →
      mergeFields (mergeFields f g) h = mergeFields f (mergeFields g h)) :
    laid (laid x y) z = laid x (laid y z) := by
  match x, y, z with
  | x, y, none => rw [laid_none, laid_none]
  | x, none, some z => rw [laid_none, laid_from_none]
  | none, some y, some z => rw [laid_from_none, laid_from_none]
  | some x, some y, some z =>
    have hx := kinds x (.inl rfl)
    have hy := kinds y (.inr (.inl rfl))
    have hz := kinds z (.inr (.inr rfl))
    simp only [laid]
    cases isRecord with
    | false => rw [laidOver_of_not_records (.inl hz), laidOver_of_not_records (.inl hz),
        laidOver_of_not_records (.inl hz)]
    | true =>
      obtain ⟨f, rfl⟩ := isRecord_iff.1 hx
      obtain ⟨g, rfl⟩ := isRecord_iff.1 hy
      obtain ⟨h, rfl⟩ := isRecord_iff.1 hz
      rw [laidOver_records, laidOver_records, laidOver_records, laidOver_records,
        records f g h rfl rfl rfl]

/-- Of three configurations that fit together, two may be merged first. -/
theorem mergeFields_assoc (ha : Fits kind a) (hb : Fits kind b) (hc : Fits kind c) :
    mergeFields (mergeFields a b) c = mergeFields a (mergeFields b c) := by
  have unambiguous := hc.unambiguous
  generalize whole : record c = v at unambiguous
  induction unambiguous generalizing kind a b c with
  | scalar s => cases whole
  | list each => cases whole
  | record distinct each ih =>
    obtain rfl := record.inj whole
    have middle := hb.unambiguous.distinct
    apply (distinct_mergeFields (distinct_mergeFields ha.unambiguous.distinct)).ext
      (names_mergeFields_assoc middle distinct)
    intro n
    rw [get?_mergeFields distinct, get?_mergeFields middle,
      get?_mergeFields (distinct_mergeFields middle), get?_mergeFields distinct]
    apply laid_assoc (kind [n])
    · rintro v (found | found | found)
      · exact ha.isRecord found
      · exact hb.isRecord found
      · exact hc.isRecord found
    · intro f g h foundA foundB foundC
      obtain ⟨m, member⟩ := Fields.mem_of_get? foundC
      exact ih _ member (ha.inner foundA) (hb.inner foundB) (hc.inner foundC) rfl

end Switchboard.Value
