import Mathlib.Logic.Relation
import Switchboard.Proofs.Data.Attempt
import Switchboard.Profile.Loading

/-!
# Visits of profiles

Loading visits a profile, then its parents, each with the names on the way down to it. There is no
way down without an end. A visit fails by itself, or because a visit of a parent fails.
-/

namespace Switchboard.Folder

open Relation

variable {folder : Folder}

/-- A profile names another one among its parents. -/
def Inherits (folder : Folder) (profile parent : String) : Prop :=
  ∃ sheet, folder.sheet profile = .ok sheet ∧ ∃ v ∈ sheet.parents, v.display = parent

def layParent (folder : Folder) (way : List String) (below : Fields) (parent : Value) :
    Except LoadFault Fields :=
  if parent.isWritable then do
    let above ← folder.inherited way parent.display
    return Value.mergeFields below above
  else .error .unwritable

theorem layParent_text (way : List String) (below : Fields) (name : String) :
    folder.layParent way below (.text name) =
      (folder.inherited way name).map (Value.mergeFields below) := by
  have writable : (Value.text name).isWritable = true := rfl
  rw [layParent, if_pos writable]
  change folder.inherited way name >>= _ = _
  cases folder.inherited way name <;> rfl

theorem layParent_eq_ok {way : List String} {below fields : Fields} {parent : Value}
    (h : folder.layParent way below parent = .ok fields) :
    ∃ above, folder.inherited way parent.display = .ok above ∧
      fields = Value.mergeFields below above := by
  rw [layParent] at h
  split at h
  · obtain ⟨above, found, same⟩ := bind_eq_ok_iff.1 h
    cases same
    exact ⟨above, found, rfl⟩
  · cases h

theorem isWritable_of_layParent {way : List String} {below fields : Fields} {parent : Value}
    (h : folder.layParent way below parent = .ok fields) : parent.isWritable = true := by
  rw [layParent] at h
  split at h
  · assumption
  · cases h

theorem layParent_eq_error {way : List String} {below : Fields} {parent : Value}
    {fault : LoadFault} (h : folder.layParent way below parent = .error fault) :
    parent.isWritable = false ∧ fault = .unwritable ∨
      folder.inherited way parent.display = .error fault := by
  rw [layParent] at h
  split at h
  · rcases bind_eq_error_iff.1 h with failed | ⟨above, -, h⟩
    · exact .inr failed
    · cases h
  · rename_i bad
    cases h
    exact .inl ⟨Bool.eq_false_iff.2 bad, rfl⟩

variable {way : List String} {profile : String}

theorem inherited_of_sheet {sheet : Sheet} (short : way.length ≤ wayLimit) (fresh : profile ∉ way)
    (h : folder.sheet profile = .ok sheet) :
    folder.inherited way profile = do
      let below ← sheet.parents.foldlM (folder.layParent (way ++ [profile])) []
      return Value.mergeFields below sheet.own := by
  have parents : sheet.parents.attach.foldlM (fun below (parent : {v // v ∈ sheet.parents}) =>
      folder.layParent (way ++ [profile]) below parent.1) [] =
        sheet.parents.foldlM (folder.layParent (way ++ [profile])) [] := by
    conv => rhs; rw [← List.attach_map_subtype_val sheet.parents, List.foldlM_map]
  rw [← parents, inherited, if_neg (by omega), dif_neg (by simpa using fresh)]
  split
  · rename_i fault other
    rw [h] at other
    cases other
  · rename_i sheet' same
    rw [h] at same
    cases same
    rfl

theorem inherited_of_long (long : wayLimit < way.length) :
    folder.inherited way profile = .error .tooDeep := by
  rw [inherited, if_pos long]

theorem length_le_of_inherited {fields : Fields} (h : folder.inherited way profile = .ok fields) :
    way.length ≤ wayLimit := by
  apply Nat.le_of_not_lt
  intro long
  rw [inherited_of_long long] at h
  cases h

theorem inherited_of_mem (short : way.length ≤ wayLimit) (known : profile ∈ way) :
    folder.inherited way profile = .error (.circular (way ++ [profile])) := by
  rw [inherited, if_neg (by omega), dif_pos (by simpa using known)]

theorem inherited_of_fault {fault : LoadFault} (short : way.length ≤ wayLimit)
    (fresh : profile ∉ way) (h : folder.sheet profile = .error fault) :
    folder.inherited way profile = .error fault := by
  rw [inherited, if_neg (by omega), dif_neg (by simpa using fresh)]
  split
  · rename_i fault' same
    rw [h] at same
    cases same
    rfl
  · rename_i sheet other
    rw [h] at other
    cases other

theorem inherited_eq_ok {fields : Fields} (h : folder.inherited way profile = .ok fields) :
    profile ∉ way ∧ ∃ sheet below, folder.sheet profile = .ok sheet ∧
      sheet.parents.foldlM (folder.layParent (way ++ [profile])) [] = .ok below ∧
      fields = Value.mergeFields below sheet.own := by
  have short := length_le_of_inherited h
  by_cases known : profile ∈ way
  · rw [inherited_of_mem short known] at h
    cases h
  refine ⟨known, ?_⟩
  cases read : folder.sheet profile with
  | error fault =>
    rw [inherited_of_fault short known read] at h
    cases h
  | ok sheet =>
    rw [inherited_of_sheet short known read] at h
    obtain ⟨below, laid, same⟩ := bind_eq_ok_iff.1 h
    cases same
    exact ⟨sheet, below, rfl, laid, rfl⟩

structure Visit where
  way : List String
  profile : String

/-- From a profile that is not on the way yet, a visit goes on to a parent. -/
inductive Visit.Next (folder : Folder) : Visit → Visit → Prop
  | down {way : List String} {profile parent : String} : profile ∉ way →
      folder.Inherits profile parent → Next folder ⟨way, profile⟩ ⟨way ++ [profile], parent⟩

inductive Visit.Raises (folder : Folder) : Visit → LoadFault → Prop
  | tooDeep {way : List String} {profile : String} : wayLimit < way.length →
      Raises folder ⟨way, profile⟩ .tooDeep
  | circular {way : List String} {profile : String} : profile ∈ way →
      Raises folder ⟨way, profile⟩ (.circular (way ++ [profile]))
  | unread {way : List String} {profile : String} {fault : LoadFault} :
      folder.sheet profile = .error fault → Raises folder ⟨way, profile⟩ fault
  | unwritable {way : List String} {profile : String} {sheet : Sheet} {parent : Value} :
      folder.sheet profile = .ok sheet → parent ∈ sheet.parents → parent.isWritable = false →
      Raises folder ⟨way, profile⟩ .unwritable

abbrev Visits (folder : Folder) (profile : String) (v : Visit) : Prop :=
  ReflTransGen (Visit.Next folder) ⟨[], profile⟩ v

theorem mem_parentNames_of_inherits {parent : String} (h : folder.Inherits profile parent) :
    parent ∈ folder.parentNames := by
  obtain ⟨sheet, read, v, member, rfl⟩ := h
  exact mem_parentNames read member

/-- There is no way down without an end. -/
theorem wellFounded_next (folder : Folder) : WellFounded fun w v => Visit.Next folder v w := by
  apply Subrelation.wf (r := InvImage (· < ·) fun v : Visit => folder.unmet v.way v.profile)
  · rintro w v ⟨fresh, inherits⟩
    exact unmet_lt (by simpa using fresh) (mem_parentNames_of_inherits inherits)
  · exact InvImage.wf _ Nat.lt_wfRel.wf

/-- A fault of a visit is its own or one of a visit of a parent. -/
theorem inherited_eq_error {fault : LoadFault} (h : folder.inherited way profile = .error fault) :
    Visit.Raises folder ⟨way, profile⟩ fault ∨
      ∃ parent, Visit.Next folder ⟨way, profile⟩ ⟨way ++ [profile], parent⟩ ∧
        folder.inherited (way ++ [profile]) parent = .error fault := by
  by_cases long : wayLimit < way.length
  · rw [inherited_of_long long] at h
    cases h
    exact .inl (.tooDeep long)
  have short : way.length ≤ wayLimit := by omega
  by_cases known : profile ∈ way
  · rw [inherited_of_mem short known] at h
    cases h
    exact .inl (.circular known)
  cases read : folder.sheet profile with
  | error fault' =>
    rw [inherited_of_fault short known read] at h
    cases h
    exact .inl (.unread read)
  | ok sheet =>
    rw [inherited_of_sheet short known read] at h
    rcases bind_eq_error_iff.1 h with laid | ⟨below, -, h⟩
    · obtain ⟨parent, member, below, failed⟩ := foldlM_eq_error laid
      rcases layParent_eq_error failed with ⟨bad, rfl⟩ | deeper
      · exact .inl (.unwritable read member bad)
      · exact .inr ⟨parent.display, .down known ⟨sheet, read, parent, member, rfl⟩, deeper⟩
    · cases h

theorem exists_raises (v : Visit) {fault : LoadFault}
    (h : folder.inherited v.way v.profile = .error fault) :
    ∃ w, ReflTransGen (Visit.Next folder) v w ∧ Visit.Raises folder w fault := by
  induction v using (wellFounded_next folder).induction with
  | _ v ih =>
    rcases inherited_eq_error h with here | ⟨parent, next, deeper⟩
    · exact ⟨v, .refl, here⟩
    · obtain ⟨w, below, raises⟩ := ih _ next deeper
      exact ⟨w, .head next below, raises⟩

/-- Where a profile is loaded, its parents are loaded too. -/
theorem inherited_of_next {v w : Visit} (next : Visit.Next folder v w)
    (h : ∃ fields, folder.inherited v.way v.profile = .ok fields) :
    ∃ fields, folder.inherited w.way w.profile = .ok fields := by
  obtain ⟨fields, h⟩ := h
  obtain ⟨-, sheet, read, parent, member, rfl⟩ := next
  obtain ⟨-, sheet', below, read', laid, -⟩ := inherited_eq_ok h
  rw [read] at read'
  cases read'
  obtain ⟨under, upper, step⟩ := foldlM_eq_ok laid parent member
  obtain ⟨above, found, -⟩ := layParent_eq_ok step
  exact ⟨above, found⟩

/-- What holds of the fields of each profile, and of merged fields, holds of what is inherited. -/
theorem inherited_invariant {P : Fields → Prop} (empty : P [])
    (merge : ∀ under above, P under → P above → P (Value.mergeFields under above)) (v : Visit)
    (own : ∀ q sheet, ReflTransGen folder.Inherits v.profile q → folder.sheet q = .ok sheet →
      P sheet.own) {fields : Fields} (h : folder.inherited v.way v.profile = .ok fields) :
    P fields := by
  induction v using (wellFounded_next folder).induction generalizing fields with
  | _ v ih =>
    obtain ⟨fresh, sheet, below, read, laid, rfl⟩ := inherited_eq_ok h
    refine merge _ _ (foldlM_invariant empty ?_ laid) (own _ _ .refl read)
    intro parent member under upper kept step
    obtain ⟨above, found, rfl⟩ := layParent_eq_ok step
    have inherits : folder.Inherits v.profile parent.display := ⟨sheet, read, parent, member, rfl⟩
    apply merge _ _ kept
    apply ih ⟨v.way ++ [v.profile], parent.display⟩ (.down fresh inherits) _ found
    intro q sheet' reached read'
    exact own q sheet' (.head inherits reached) read'

end Switchboard.Folder
