import Switchboard.Proofs.Data.Layering

/-!
# What ways lead to after merging

A way through field names leads to what has been laid over, where there is something, and else to what
was there before, unless it is cut off by something that is no record. So each way is settled by what it
leads to in the two configurations, and laying the same configuration over a second time changes nothing.
-/

namespace Switchboard.Value

variable {under : Option Value} {v w x : Value} {a b f g : Fields} {way : List Scalar} {n : Scalar}

theorem valueAt_append (first later : List Scalar) (v : Value) :
    valueAt (first ++ later) v = (valueAt first v).bind (valueAt later) := by
  induction first generalizing v with
  | nil => rfl
  | cons n first ih =>
    cases v with
    | record fields =>
      rw [List.cons_append, valueAt, valueAt, Option.bind_assoc]
      exact Option.bind_congr fun w _ => ih w
    | scalar s => rfl
    | list items => rfl

theorem valueAt_of_not_record (h : v.isRecord = false) (later : way ≠ []) : valueAt way v = none := by
  cases way with
  | nil => exact absurd rfl later
  | cons n way =>
    cases v with
    | record fields => cases h
    | scalar s => rfl
    | list items => rfl

theorem valueAt_cons_eq_some : valueAt (n :: way) v = some x ↔
    ∃ fields w, v = record fields ∧ Fields.get? fields n = some w ∧ valueAt way w = some x := by
  cases v with
  | record fields => simp [valueAt, Option.bind_eq_some_iff]
  | scalar s => simp [valueAt]
  | list items => simp [valueAt]

theorem Unambiguous.valueAt (h : Unambiguous v) (found : v.valueAt way = some x) : Unambiguous x := by
  induction way generalizing v with
  | nil =>
    cases found
    exact h
  | cons n way ih =>
    obtain ⟨fields, w, rfl, first, rest⟩ := valueAt_cons_eq_some.1 found
    exact ih (h.of_get? first) rest

/-- Before its end a way leads to something that is no record. -/
def CutOff (v : Value) (way : List Scalar) : Prop :=
  ∃ first x, first <+: way ∧ first ≠ way ∧ v.valueAt first = some x ∧ x.isRecord = false

theorem CutOff.valueAt (h : CutOff v way) : v.valueAt way = none := by
  obtain ⟨first, x, ⟨later, rfl⟩, proper, found, other⟩ := h
  have nonempty : later ≠ [] := by
    rintro rfl
    exact proper (List.append_nil first).symm
  rw [valueAt_append, found, Option.bind_some, valueAt_of_not_record other nonempty]

theorem CutOff.cons (found : Fields.get? f n = some w) (h : CutOff w way) :
    CutOff (record f) (n :: way) := by
  obtain ⟨first, x, leads, proper, reached, other⟩ := h
  refine ⟨n :: first, x, List.cons_prefix_cons.2 ⟨rfl, leads⟩, ?_, ?_, other⟩
  · exact fun same => proper (List.cons.inj same).2
  · exact valueAt_cons_eq_some.2 ⟨f, w, rfl, found, reached⟩

theorem not_cutOff_concat (found : v.valueAt way = some (record f)) (n : Scalar) :
    ¬ CutOff v (way ++ [n]) := by
  rintro ⟨first, x, leads, proper, reached, other⟩
  rcases List.prefix_concat_iff.1 leads with whole | ⟨later, rfl⟩
  · exact proper whole
  · rw [valueAt_append, reached, Option.bind_some] at found
    by_cases last : later = []
    · subst last
      cases found
      cases other
    · rw [valueAt_of_not_record other last] at found
      cases found

theorem record_or_not (under : Option Value) :
    (∃ f, under = some (record f)) ∨ ∀ w ∈ under, w.isRecord = false := by
  match under with
  | none => exact .inr nofun
  | some (record f) => exact .inl ⟨f, rfl⟩
  | some (scalar s) => exact .inr (by rintro _ ⟨⟩; rfl)
  | some (list items) => exact .inr (by rintro _ ⟨⟩; rfl)

theorem bind_valueAt_of_not_record (h : ∀ w ∈ under, w.isRecord = false) (later : way ≠ []) :
    under.bind (valueAt way) = none := by
  cases under with
  | none => rfl
  | some w => exact valueAt_of_not_record (h w rfl) later

theorem valueAt_laidOver_records (distinct : Fields.Distinct g) :
    (laidOver (some (record f)) (record g)).valueAt (n :: way) =
      (laid (Fields.get? f n) (Fields.get? g n)).bind (valueAt way) := by
  rw [laidOver_records, valueAt, get?_mergeFields distinct]

/-- What has been laid over is found over what was there. -/
theorem valueAt_laidOver (unambiguous : Unambiguous v) (found : v.valueAt way = some x) :
    (laidOver under v).valueAt way = some (laidOver (under.bind (valueAt way)) x) := by
  induction way generalizing under v with
  | nil =>
    cases found
    cases under <;> rfl
  | cons n way ih =>
    obtain ⟨g, w, rfl, first, rest⟩ := valueAt_cons_eq_some.1 found
    rcases record_or_not under with ⟨f, rfl⟩ | other
    · rw [valueAt_laidOver_records unambiguous.distinct, first, laid, Option.bind_some,
        ih (unambiguous.of_get? first) rest]
      rfl
    · rw [laidOver_of_not_records (.inr other),
        bind_valueAt_of_not_record other (List.cons_ne_nil n way), laidOver_none, found]

/-- Where nothing has been laid over, what was there is found. -/
theorem valueAt_laidOver_of_none (unambiguous : Unambiguous v) (nothing : v.valueAt way = none)
    (through : ¬ CutOff v way) : (laidOver under v).valueAt way = under.bind (valueAt way) := by
  induction way generalizing under v with
  | nil => cases nothing
  | cons n way ih =>
    have isRecord : v.isRecord = true := by
      rw [← Bool.not_eq_false]
      intro other
      exact through ⟨[], v, List.nil_prefix, (List.cons_ne_nil n way).symm, rfl, other⟩
    obtain ⟨g, rfl⟩ := isRecord_iff.1 isRecord
    rcases record_or_not under with ⟨f, rfl⟩ | other
    · rw [valueAt_laidOver_records unambiguous.distinct]
      cases first : Fields.get? g n with
      | none => rfl
      | some w =>
        have rest : w.valueAt way = none := by rwa [valueAt, first] at nothing
        rw [laid, Option.bind_some, ih (unambiguous.of_get? first) rest fun cut => through (cut.cons first)]
        rfl
    · rw [laidOver_of_not_records (.inr other), nothing,
        bind_valueAt_of_not_record other (List.cons_ne_nil n way)]

theorem CutOff.laidOver (unambiguous : Unambiguous v) (h : CutOff v way) :
    CutOff (laidOver under v) way := by
  obtain ⟨first, x, leads, proper, found, other⟩ := h
  refine ⟨first, x, leads, proper, ?_, other⟩
  rw [valueAt_laidOver unambiguous found, laidOver_of_not_records (.inl other)]

/-- Nothing changes where each field is there as it would be merged. -/
theorem mergeFields_eq_self (hf : Fields.Distinct f) (hg : Fields.Distinct g)
    (settled : ∀ n v, Fields.get? g n = some v →
      Fields.get? f n = some (laidOver (Fields.get? f n) v)) : mergeFields f g = f := by
  apply (distinct_mergeFields hf).ext
  · rw [names_mergeFields hg, List.filter_eq_nil_iff.2, List.append_nil]
    intro n member
    rw [decide_eq_true_eq, Decidable.not_not]
    have there : n.key ∈ Fields.keys g := List.mem_map_of_mem member
    cases found : Fields.get? g n with
    | none => exact absurd there (Fields.get?_eq_none_iff_key.1 found)
    | some v => exact Fields.mem_keys_of_get? (settled n v found)
  · intro n
    rw [get?_mergeFields hg]
    cases found : Fields.get? g n with
    | none => rfl
    | some v => exact (settled n v found).symm

theorem laidOver_laidOver (hu : ∀ w ∈ under, Unambiguous w) (hv : Unambiguous v) :
    laidOver (some (laidOver under v)) v = laidOver under v := by
  induction hv generalizing under with
  | scalar s => rw [laidOver_of_not_records (.inl rfl), laidOver_of_not_records (.inl rfl)]
  | list each => rw [laidOver_of_not_records (.inl rfl), laidOver_of_not_records (.inl rfl)]
  | @record g distinct each ih =>
    rcases record_or_not under with ⟨f, rfl⟩ | other
    · have below : Unambiguous (record f) := hu _ rfl
      rw [laidOver_records, laidOver_records]
      congr 1
      apply mergeFields_eq_self (distinct_mergeFields below.distinct) distinct
      intro n v found
      obtain ⟨m, member⟩ := Fields.mem_of_get? found
      rw [get?_mergeFields distinct, found, laid,
        ih _ member fun w inside => below.of_get? inside]
    · rw [laidOver_of_not_records (.inr other), laidOver_records]
      congr 1
      apply mergeFields_eq_self distinct distinct
      intro n v found
      obtain ⟨m, member⟩ := Fields.mem_of_get? found
      have alone : laidOver (some (laidOver none v)) v = laidOver none v := ih _ member (by simp)
      rw [laidOver_none] at alone
      rw [found, alone]

/-- Two records are merged, and each way is settled by what it leads to in them. Something laid over that
is no record is found as it is, and cuts off the ways through it. Two records are found as one with the
names of both, and a record where there was none is found as it is. Everything else is what was there.
Merging the same overrides a second time changes nothing. -/
theorem merge_settled (ha : Unambiguous (record a)) (hb : Unambiguous (record b)) :
    ∃ m, merge (record a) (record b) = .ok m ∧ Unambiguous (record m) ∧
      (∀ way,
        (∀ v, (record b).valueAt way = some v → v.isRecord = false →
          (record m).valueAt way = some v) ∧
        (∀ f g, (record a).valueAt way = some (record f) → (record b).valueAt way = some (record g) →
          ∃ h, (record m).valueAt way = some (record h) ∧ ∀ n : Scalar,
            n.key ∈ Fields.keys h ↔ n.key ∈ Fields.keys f ∨ n.key ∈ Fields.keys g) ∧
        (∀ g, (record b).valueAt way = some (record g) →
          (∀ f, (record a).valueAt way ≠ some (record f)) →
            (record m).valueAt way = some (record g)) ∧
        ((record b).valueAt way = none → ¬ CutOff (record b) way →
          (record m).valueAt way = (record a).valueAt way) ∧
        (CutOff (record b) way → (record m).valueAt way = none)) ∧
      merge (record m) (record b) = .ok m := by
  have merged : record (mergeFields a b) = laidOver (some (record a)) (record b) :=
    (laidOver_records a b).symm
  refine ⟨mergeFields a b, rfl, Unambiguous.mergeFields ha hb.each, ?_, ?_⟩
  · intro way
    refine ⟨?_, ?_, ?_, ?_, ?_⟩
    · intro v found other
      rw [merged, valueAt_laidOver hb found, laidOver_of_not_records (.inl other)]
    · intro f g below above
      refine ⟨mergeFields f g, ?_, fun n => mem_keys_mergeFields (hb.valueAt above).distinct⟩
      rw [merged, valueAt_laidOver hb above, Option.bind_some, below, laidOver_records]
    · intro g above other
      rw [merged, valueAt_laidOver hb above, Option.bind_some]
      rcases record_or_not ((record a).valueAt way) with ⟨f, below⟩ | below
      · exact absurd below (other f)
      · rw [laidOver_of_not_records (.inr below)]
    · intro nothing through
      rw [merged, valueAt_laidOver_of_none hb nothing through, Option.bind_some]
    · intro cut
      rw [merged]
      exact (cut.laidOver hb).valueAt
  · have again : laidOver (some (laidOver (some (record a)) (record b))) (record b) =
        laidOver (some (record a)) (record b) := laidOver_laidOver (by rintro _ ⟨⟩; exact ha) hb
    rw [laidOver_records, laidOver_records] at again
    change Except.ok (mergeFields (mergeFields a b) b) = _
    rw [record.inj again]

theorem merge_settled_weather :
    let base : Fields := [("weather", record [("units", text "metric"), ("live", bool true)])]
    let overrides : Fields := [("weather", record [("live", bool false)]), ("app", null)]
    Unambiguous (record base) ∧ Unambiguous (record overrides) ∧
      ∃ m, merge (record base) (record overrides) = .ok m ∧
        (record m).valueAt ["weather", "units"] = some (text "metric") ∧
        (record m).valueAt ["weather", "live"] = some (bool false) ∧
        (record m).valueAt ["app", "name"] = none ∧
        merge (record m) (record overrides) = .ok m := by
  intro base overrides
  have ha : Unambiguous (record base) := by
    have inner : Unambiguous (record [("units", text "metric"), ("live", bool true)]) :=
      .record (by decide) (by simp [Unambiguous.scalar])
    exact .record (by decide) (by simpa [base] using inner)
  have hb : Unambiguous (record overrides) := by
    have inner : Unambiguous (record [("live", bool false)]) :=
      .record (by decide) (by simp [Unambiguous.scalar])
    exact .record (by decide) (by simpa [overrides, Unambiguous.scalar] using inner)
  obtain ⟨m, merged, -, ways, again⟩ := merge_settled ha hb
  refine ⟨ha, hb, m, merged, ?_, ?_, ?_, again⟩
  · have inner : (record overrides).valueAt ["weather"] = some (record [("live", bool false)]) := rfl
    exact (ways _).2.2.2.1 rfl (not_cutOff_concat inner "units")
  · exact (ways _).1 _ rfl rfl
  · apply (ways _).2.2.2.2
    exact ⟨["app"], null, ⟨["name"], rfl⟩, by decide, rfl, rfl⟩

end Switchboard.Value
