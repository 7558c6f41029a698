import Switchboard.Proofs.Data.Merging
import Switchboard.Proofs.Profile.Chain

/-!
# Inheritance between profiles

The names on a way down are different. Where all profiles can be loaded, the visits follow
inheritance wherever it leads, so a name comes again on some way if and only if some profile below
inherits from itself. Merging keeps what holds of the fields of each profile.
-/

namespace Switchboard.Folder

open Relation

variable {folder : Folder} {way : List String} {profile : String}

/-- A profile can be read and taken apart, and its parents can be written. -/
def WellFormed (folder : Folder) (profile : String) : Prop :=
  ∃ sheet, folder.sheet profile = .ok sheet ∧ (∀ v ∈ sheet.parents, v.isWritable = true) ∧
    (Value.record sheet.own).depth ≤ Value.depthLimit

/-- Some profile that is reached from a profile inherits from itself. -/
def IsCyclic (folder : Folder) (profile : String) : Prop :=
  ∃ q, ReflTransGen folder.Inherits profile q ∧ TransGen folder.Inherits q q

structure Visit.Sound (folder : Folder) (root : String) (v : Visit) : Prop where
  nodup : v.way.Nodup
  known : ∀ n ∈ v.way, n ∈ root :: folder.parentNames
  profile_known : v.profile ∈ root :: folder.parentNames
  reached : ReflTransGen folder.Inherits root v.profile
  above : ∀ n ∈ v.way, TransGen folder.Inherits n v.profile

theorem Visit.Sound.next {root : String} {v w : Visit} (h : v.Sound folder root)
    (next : Visit.Next folder v w) : w.Sound folder root := by
  obtain ⟨fresh, inherits⟩ := next
  constructor
  · rw [List.nodup_append]
    refine ⟨h.nodup, by simp, ?_⟩
    intro n hn m hm same
    obtain rfl := List.mem_singleton.1 hm
    exact fresh (same ▸ hn)
  · intro n hn
    rcases List.mem_append.1 hn with earlier | last
    · exact h.known n earlier
    · obtain rfl := List.mem_singleton.1 last
      exact h.profile_known
  · exact List.mem_cons_of_mem _ (mem_parentNames_of_inherits inherits)
  · exact h.reached.tail inherits
  · intro n hn
    rcases List.mem_append.1 hn with earlier | last
    · exact (h.above n earlier).tail inherits
    · obtain rfl := List.mem_singleton.1 last
      exact .single inherits

theorem Visits.sound {root : String} {v : Visit} (h : Visits folder root v) :
    v.Sound folder root := by
  induction h with
  | refl => exact ⟨by simp, by simp, by simp, .refl, by simp⟩
  | tail _ next ih => exact ih.next next

theorem Visit.Sound.length_le {root : String} {v : Visit} (h : v.Sound folder root) :
    v.way.length ≤ folder.parentNames.length + 1 :=
  List.Nodup.length_le_of_subset h.nodup h.known

/-- A visit whose profile is on the way to it shows a cycle. -/
theorem Visits.isCyclic {root : String} {v : Visit} (h : Visits folder root v)
    (again : v.profile ∈ v.way) : folder.IsCyclic root :=
  ⟨v.profile, h.sound.reached, h.sound.above _ again⟩

theorem mem_way_of_visits {v w : Visit} (h : ReflTransGen (Visit.Next folder) v w) :
    ∀ n ∈ v.way, n ∈ w.way := by
  induction h with
  | refl => exact fun _ hn => hn
  | tail _ next ih =>
    obtain ⟨-, -⟩ := next
    intro n hn
    exact List.mem_append_left _ (ih n hn)

section Loaded

variable {v : Visit} {q : String} (loaded : ∃ fields, folder.inherited v.way v.profile = .ok fields)

include loaded

theorem inherited_of_visits {w : Visit} (h : ReflTransGen (Visit.Next folder) v w) :
    ∃ fields, folder.inherited w.way w.profile = .ok fields := by
  induction h with
  | refl => exact loaded
  | tail _ next ih => exact inherited_of_next next ih

/-- Below a profile that is loaded, visits follow inheritance wherever it leads. -/
theorem exists_visit (h : ReflTransGen folder.Inherits v.profile q) :
    ∃ w, ReflTransGen (Visit.Next folder) v w ∧ w.profile = q := by
  induction h with
  | refl => exact ⟨v, .refl, rfl⟩
  | tail _ inherits ih =>
    obtain ⟨w, visited, rfl⟩ := ih
    obtain ⟨fields, found⟩ := inherited_of_visits loaded visited
    have fresh := (inherited_eq_ok found).1
    exact ⟨_, visited.tail (.down fresh inherits), rfl⟩

theorem not_transGen_self : ¬ TransGen folder.Inherits v.profile v.profile := by
  intro cycle
  obtain ⟨parent, inherits, back⟩ := TransGen.head'_iff.1 cycle
  obtain ⟨fields, found⟩ := loaded
  have first : Visit.Next folder v ⟨v.way ++ [v.profile], parent⟩ :=
    .down (inherited_eq_ok found).1 inherits
  obtain ⟨w, visited, same⟩ := exists_visit (inherited_of_next first ⟨fields, found⟩) back
  -- The second visit of the profile has the first one on its way.
  have again : w.profile ∈ w.way := by
    rw [same]
    exact mem_way_of_visits visited _ (List.mem_append_right _ List.mem_cons_self)
  obtain ⟨fields', found'⟩ := inherited_of_visits ⟨fields, found⟩ (.head first visited)
  exact (inherited_eq_ok found').1 again

end Loaded

theorem not_isCyclic_of_inherited {fields : Fields} (h : folder.inherited [] profile = .ok fields) :
    ¬ folder.IsCyclic profile := by
  rintro ⟨q, reached, cycle⟩
  have loaded : ∃ fields, folder.inherited (⟨[], profile⟩ : Visit).way profile = .ok fields :=
    ⟨fields, h⟩
  obtain ⟨v, visited, rfl⟩ := exists_visit loaded reached
  exact not_transGen_self (inherited_of_visits loaded visited) cycle

def NamesNoParents (fields : Fields) : Prop :=
  ∀ n ∈ Fields.names fields, n.same "inherits" = false

theorem namesNoParents_of_sheet {sheet : Sheet} (h : folder.sheet profile = .ok sheet) :
    NamesNoParents sheet.own := by
  obtain ⟨path, text, fields, -, -, own⟩ := sheet_eq_ok h
  intro n hn
  rw [own] at hn
  obtain ⟨f, kept, rfl⟩ := List.mem_map.1 hn
  simpa using (List.mem_filter.1 kept).2

theorem namesNoParents_of_inherited {fields : Fields}
    (h : folder.inherited way profile = .ok fields) : NamesNoParents fields := by
  refine inherited_invariant (P := NamesNoParents) ?_ ?_ ⟨way, profile⟩ ?_ h
  · intro n hn
    cases hn
  · intro under above hunder habove n hn
    rcases Value.mem_names_mergeFields hn with below | upper
    · exact hunder n below
    · exact habove n upper
  · intro q sheet _ read
    exact namesNoParents_of_sheet read

theorem depth_of_inherited {fields : Fields}
    (formed : ∀ q, ReflTransGen folder.Inherits profile q → folder.WellFormed q)
    (h : folder.inherited way profile = .ok fields) :
    (Value.record fields).depth ≤ Value.depthLimit := by
  refine inherited_invariant (P := fun fields => (Value.record fields).depth ≤ Value.depthLimit)
    ?_ ?_ ⟨way, profile⟩ ?_ h
  · decide
  · intro under above hunder habove
    have merged := Value.depth_mergeFields under above
    rw [Value.depth] at hunder habove ⊢
    omega
  · intro q sheet reached read
    obtain ⟨sheet', read', -, shallow⟩ := formed q reached
    rw [read] at read'
    cases read'
    exact shallow

theorem names_expandFields (env : Environment) (fields : Fields) :
    Fields.names (Value.expandFields env fields) = Fields.names fields := by
  induction fields with
  | nil => rfl
  | cons f fields ih =>
    rw [Value.expandFields, Fields.names, List.map_cons]
    exact congrArg (f.1 :: ·) ih

theorem namesNoParents_withDefault {v : Value} {fields : Fields} (h : NamesNoParents fields) :
    NamesNoParents (withDefault "profile" v fields) := by
  rw [withDefault]
  split
  · exact h
  · intro n hn
    rcases Fields.mem_names_put hn with rfl | known
    · rfl
    · exact h n known

section Chains

variable {n i : Nat}

theorem wellFormed_of_reached (bound : n < 0x2000) {q : String}
    (h : ReflTransGen (chain n).Inherits (chainName 0) q) : (chain n).WellFormed q := by
  have shallow : (Value.record []).depth ≤ Value.depthLimit := by decide
  obtain ⟨i, hi, rfl⟩ := reflTransGen_chain bound h
  by_cases last : i = n
  · subst last
    exact ⟨⟨[], []⟩, sheet_chain_last bound, by simp, shallow⟩
  · refine ⟨⟨[.text (chainName (i + 1))], []⟩, sheet_chain bound (by omega), ?_, shallow⟩
    intro v member
    obtain rfl := List.mem_singleton.1 member
    rfl

theorem not_isCyclic_chain (bound : n < 0x2000) : ¬ (chain n).IsCyclic (chainName 0) := by
  rintro ⟨q, reached, cycle⟩
  obtain ⟨i, hi, rfl⟩ := reflTransGen_chain bound reached
  obtain ⟨j, later, hj, same⟩ := transGen_chain bound hi cycle
  have := chainName_inj (by omega) (by omega) same
  omega

theorem visits_chain (bound : n < 0x2000) {v : Visit} (h : Visits (chain n) (chainName 0) v) :
    ∃ i, i ≤ n ∧ v = ⟨chainWay i, chainName i⟩ := by
  induction h with
  | refl => exact ⟨0, by omega, rfl⟩
  | tail _ next ih =>
    obtain ⟨i, hi, rfl⟩ := ih
    cases next with
    | down fresh inherits =>
      obtain ⟨inner, rfl⟩ := inherits_chain bound hi inherits
      exact ⟨i + 1, by omega, by rw [chainWay_succ]⟩

end Chains

theorem load_of_fault {env : Environment} {fault : LoadFault}
    (h : folder.inherited [] profile = .error fault) : folder.load env profile = .error fault := by
  rw [load, h]
  rfl

theorem load_of_inherited (env : Environment) {fields : Fields}
    (h : folder.inherited [] profile = .ok fields) :
    folder.load env profile =
      if Value.depthLimit < (Value.record fields).depth then .error .tooDeep
      else .ok (Value.expandFields env (withDefault "profile" (.text profile) fields)) := by
  rw [load, h]
  rfl

/-- A configuration that is not too deep is loaded unless what is inherited has a fault. -/
theorem load_eq_error_iff {env : Environment} {fault : LoadFault}
    (shallow : ∀ fields, folder.inherited [] profile = .ok fields →
      (Value.record fields).depth ≤ Value.depthLimit) :
    folder.load env profile = .error fault ↔ folder.inherited [] profile = .error fault := by
  cases found : folder.inherited [] profile with
  | error fault' => rw [load_of_fault found]
  | ok fields =>
    have here := shallow fields found
    rw [load_of_inherited env found, if_neg (by omega)]
    constructor
    · intro h
      cases h
    · intro h
      cases h

theorem namesNoParents_of_load {env : Environment} {config : Fields}
    (h : folder.load env profile = .ok config) : NamesNoParents config := by
  rw [load] at h
  obtain ⟨fields, found, expanded⟩ := bind_eq_ok_iff.1 h
  split at expanded
  · cases expanded
  · cases expanded
    rw [NamesNoParents, names_expandFields]
    exact namesNoParents_withDefault (namesNoParents_of_inherited found)

/-- Of well-formed profiles, only a cycle is refused, and a way with too many names. -/
theorem raises_of_wellFormed {fault : LoadFault}
    (formed : ∀ q, ReflTransGen folder.Inherits profile q → folder.WellFormed q)
    (h : folder.inherited [] profile = .error fault) :
    (∃ names, fault = .circular names ∧ folder.IsCyclic profile) ∨
      (fault = .tooDeep ∧ ∃ v, Visits folder profile v ∧ wayLimit < v.way.length) := by
  obtain ⟨v, visits, raises⟩ := exists_raises ⟨[], profile⟩ h
  have well := formed v.profile (Visits.sound visits).reached
  cases raises with
  | tooDeep long => exact .inr ⟨rfl, _, visits, long⟩
  | circular again => exact .inl ⟨_, rfl, Visits.isCyclic visits again⟩
  | unread bad =>
    obtain ⟨sheet, read, -⟩ := well
    rw [bad] at read
    cases read
  | unwritable read member bad =>
    obtain ⟨sheet, read', writable, -⟩ := well
    rw [read] at read'
    cases read'
    rw [writable _ member] at bad
    cases bad

end Switchboard.Folder
