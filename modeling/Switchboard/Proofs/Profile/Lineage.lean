import Mathlib.Data.List.Induction
import Switchboard.Proofs.Data.Reading
import Switchboard.Proofs.Profile.Shipped

/-!
# What a profile is made of

A profile is merged from its parents, which have been merged from theirs. Where the files fit
together, it is the same to lay all of them over each other one by one, each after its parents and as
often as a way leads to it.
-/

namespace Switchboard

open Relation Value

/-- A profile with its own fields, and its parents in order with what they are made of. -/
inductive Lineage where
  | node (profile : String) (own : Fields) (parents : List Lineage)

namespace Lineage

def profile : Lineage → String
  | node profile _ _ => profile

mutual

/-- The fields of a profile over those of its parents, which are merged first. -/
def merged : Lineage → Fields
  | node _ own parents => mergeFields (mergedOver [] parents) own

def mergedOver (below : Fields) : List Lineage → Fields
  | [] => below
  | tree :: rest => mergedOver (mergeFields below tree.merged) rest

end

mutual

/-- The fields of each profile after those of its parents, which come from left to right. -/
def listed : Lineage → List Fields
  | node _ own parents => listedAll parents ++ [own]

def listedAll : List Lineage → List Fields
  | [] => []
  | tree :: rest => tree.listed ++ listedAll rest

end

section Fitting

variable {kind : List Scalar → Bool} {below : Fields} {layers : List Fields}

def layAll (below : Fields) (layers : List Fields) : Fields := layers.foldl mergeFields below

theorem fits_layAll (hb : Fits kind below) (each : ∀ own ∈ layers, Fits kind own) :
    Fits kind (layAll below layers) := by
  induction layers generalizing below with
  | nil => exact hb
  | cons own layers ih =>
    obtain ⟨first, later⟩ := List.forall_mem_cons.1 each
    exact ih (hb.mergeFields first) later

theorem layAll_append (first later : List Fields) :
    layAll below (first ++ later) = layAll (layAll below first) later :=
  List.foldl_append

/-- Fields that fit together may be laid over each other before they are laid over others. -/
theorem layAll_eq (hb : Fits kind below) (each : ∀ own ∈ layers, Fits kind own) :
    layAll below layers = mergeFields below (layAll [] layers) := by
  induction layers using List.reverseRecOn with
  | nil => exact mergeFields_nil.symm
  | append_singleton layers own ih =>
    obtain ⟨earlier, last⟩ := List.forall_mem_append.1 each
    have fits := fits_layAll hb.nil earlier
    have top := last own List.mem_cons_self
    calc layAll below (layers ++ [own])
      _ = mergeFields (layAll below layers) own := layAll_append layers [own]
      _ = mergeFields (mergeFields below (layAll [] layers)) own := by rw [ih earlier]
      _ = mergeFields below (mergeFields (layAll [] layers) own) := mergeFields_assoc hb fits top
      _ = mergeFields below (layAll [] (layers ++ [own])) := by
        rw [layAll_append]
        rfl

mutual

theorem merged_eq : ∀ tree : Lineage, (∀ own ∈ tree.listed, Fits kind own) →
    tree.merged = layAll [] tree.listed
  | node profile own parents, each => by
    rw [listed] at each ⊢
    obtain ⟨above, here⟩ := List.forall_mem_append.1 each
    have empty : Fits kind [] := (here own List.mem_cons_self).nil
    rw [merged, mergedOver_eq empty parents above, layAll_append]
    rfl

theorem mergedOver_eq {below : Fields} (hb : Fits kind below) : ∀ parents : List Lineage,
    (∀ own ∈ listedAll parents, Fits kind own) →
      mergedOver below parents = layAll below (listedAll parents)
  | [], _ => rfl
  | tree :: rest, each => by
    rw [listedAll] at each ⊢
    obtain ⟨first, later⟩ := List.forall_mem_append.1 each
    have fits : Fits kind (layAll below tree.listed) := fits_layAll hb first
    have here : layAll below tree.listed = mergeFields below tree.merged := by
      rw [layAll_eq hb first, merged_eq tree first]
    rw [layAll_append, ← mergedOver_eq fits rest later, here]
    rfl

end

end Fitting

end Lineage

namespace Folder

variable {folder : Folder} {way : List String} {profile : String}

/-- Every profile of a tree is read from the folder, with the parents that it names. -/
inductive IsLineage (folder : Folder) : Lineage → Prop
  | node {profile : String} {sheet : Sheet} {parents : List Lineage}
      (read : folder.sheet profile = .ok sheet)
      (named : parents.map Lineage.profile = sheet.parents.map display)
      (each : ∀ tree ∈ parents, IsLineage folder tree) :
      IsLineage folder (.node profile sheet.own parents)

/-- Trees that are told apart by their profiles are the same where the profiles are. -/
theorem eq_of_profiles {trees others : List Lineage}
    (apart : ∀ tree ∈ trees, ∀ other ∈ others, tree.profile = other.profile → tree = other)
    (profiles : trees.map Lineage.profile = others.map Lineage.profile) : trees = others := by
  induction trees generalizing others with
  | nil => exact (List.map_eq_nil_iff.1 profiles.symm).symm
  | cons tree trees ih =>
    cases others with
    | nil => cases profiles
    | cons other others =>
      obtain ⟨first, later⟩ := List.cons.inj profiles
      have here := apart tree List.mem_cons_self other List.mem_cons_self first
      have below := ih (fun t ht o ho =>
        apart t (List.mem_cons_of_mem _ ht) o (List.mem_cons_of_mem _ ho)) later
      rw [here, below]

/-- A profile is made of one thing only. -/
theorem IsLineage.unique {tree other : Lineage} (h : folder.IsLineage tree)
    (h' : folder.IsLineage other) (same : tree.profile = other.profile) : tree = other := by
  induction h generalizing other with
  | @node profile sheet parents read named each ih =>
    cases h' with
    | @node profile' sheet' parents' read' named' each' =>
      obtain rfl : profile = profile' := same
      obtain rfl : sheet = sheet' := Except.ok.inj (read.symm.trans read')
      rw [eq_of_profiles (fun tree ht other ho => ih tree ht (each' other ho))
        (named.trans named'.symm)]

theorem IsLineage.eq_iff {tree : Lineage} (h : folder.IsLineage tree) (other : Lineage) :
    folder.IsLineage other ∧ other.profile = tree.profile ↔ other = tree := by
  constructor
  · rintro ⟨h', same⟩
    exact h'.unique h same
  · rintro rfl
    exact ⟨h, rfl⟩

/-- What is listed of a profile are the files that inheritance leads to. -/
theorem IsLineage.reached {tree : Lineage} (h : folder.IsLineage tree) :
    ∀ own ∈ tree.listed, ∃ q sheet, ReflTransGen folder.Inherits tree.profile q ∧
      folder.sheet q = .ok sheet ∧ own = sheet.own := by
  induction h with
  | @node profile sheet parents read named each ih =>
    have above (trees : List Lineage) (inside : ∀ tree ∈ trees, tree ∈ parents) :
        ∀ own ∈ Lineage.listedAll trees, ∃ tree ∈ parents, own ∈ tree.listed := by
      induction trees with
      | nil => exact nofun
      | cons tree rest hrest =>
        intro own member
        rw [Lineage.listedAll] at member
        rcases List.mem_append.1 member with here | later
        · exact ⟨tree, inside tree List.mem_cons_self, here⟩
        · exact hrest (fun t ht => inside t (List.mem_cons_of_mem _ ht)) own later
    intro own member
    rw [Lineage.listed] at member
    rcases List.mem_append.1 member with inherited | here
    · obtain ⟨tree, parent, member⟩ := above parents (fun _ h => h) own inherited
      obtain ⟨q, sheet', reached, read', same⟩ := ih tree parent own member
      have display : tree.profile ∈ sheet.parents.map Value.display :=
        named ▸ List.mem_map_of_mem parent
      obtain ⟨v, hv, same'⟩ := List.mem_map.1 display
      exact ⟨q, sheet', .head ⟨sheet, read, v, hv, same'⟩ reached, read', same⟩
    · obtain rfl := List.mem_singleton.1 here
      exact ⟨profile, sheet, .refl, read, rfl⟩

/-- Parents that have been laid over each other have been merged one by one. -/
theorem exists_lineages {parents : List Value} {below fields : Fields}
    (each : ∀ parent ∈ parents, ∀ above, folder.inherited way parent.display = .ok above →
      ∃ tree, folder.IsLineage tree ∧ tree.profile = parent.display ∧ above = tree.merged)
    (h : parents.foldlM (folder.layParent way) below = .ok fields) :
    ∃ trees : List Lineage, trees.map Lineage.profile = parents.map display ∧
      (∀ tree ∈ trees, folder.IsLineage tree) ∧ fields = Lineage.mergedOver below trees := by
  induction parents generalizing below with
  | nil =>
    cases h
    exact ⟨[], rfl, nofun, rfl⟩
  | cons parent parents ih =>
    obtain ⟨first, later⟩ := List.forall_mem_cons.1 each
    rw [List.foldlM_cons] at h
    obtain ⟨next, step, rest⟩ := bind_eq_ok_iff.1 h
    obtain ⟨above, found, rfl⟩ := layParent_eq_ok step
    obtain ⟨tree, lineage, named, rfl⟩ := first above found
    obtain ⟨trees, names, lineages, rfl⟩ := ih later rest
    refine ⟨tree :: trees, ?_, List.forall_mem_cons.2 ⟨lineage, lineages⟩, rfl⟩
    rw [List.map_cons, List.map_cons, named, names]

/-- What is inherited has been merged as the profile is made. -/
theorem exists_lineage (v : Visit) {fields : Fields}
    (h : folder.inherited v.way v.profile = .ok fields) :
    ∃ tree, folder.IsLineage tree ∧ tree.profile = v.profile ∧ fields = tree.merged := by
  induction v using (wellFounded_next folder).induction generalizing fields with
  | _ v ih =>
    obtain ⟨fresh, sheet, below, read, laid, rfl⟩ := inherited_eq_ok h
    have parents := exists_lineages (fun parent member above found =>
      ih ⟨v.way ++ [v.profile], parent.display⟩
        (.down fresh ⟨sheet, read, parent, member, rfl⟩) found) laid
    obtain ⟨trees, named, lineages, rfl⟩ := parents
    exact ⟨_, .node read named lineages, rfl, rfl⟩

theorem unambiguous_erase {fields : Fields} {name : Scalar} (h : Unambiguous (.record fields)) :
    Unambiguous (.record (Fields.erase name fields)) := by
  refine .record (h.distinct.sublist ?_) fun f member => h.each f (List.mem_filter.1 member).1
  exact (List.filter_sublist.map _).map _

/-- No record that YAML is read as has two fields of one name. -/
def ReadsUnambiguously (folder : Folder) : Prop :=
  ∀ text v, folder.yaml text = .ok v → Unambiguous v

theorem unambiguous_read (reads : folder.ReadsUnambiguously) {format : Format} {text : String}
    {v : Value} (h : folder.read format text = .ok v) : Unambiguous v := by
  cases format with
  | json => exact Json.unambiguous_read h
  | yaml => exact reads _ v h

theorem unambiguous_of_sheet (reads : folder.ReadsUnambiguously) {sheet : Sheet}
    (h : folder.sheet profile = .ok sheet) : Unambiguous (.record sheet.own) := by
  obtain ⟨path, text, fields, -, read, own⟩ := sheet_eq_ok h
  rw [own]
  apply unambiguous_erase
  rcases read_of_fieldsOf read with rfl | read
  · exact unambiguous_nil
  · exact unambiguous_read reads read

/-- No way through field names leads to a record in one file below a profile and to something else in
another. -/
def FitsTogether (folder : Folder) (profile : String) : Prop :=
  ∀ p q s t, ReflTransGen folder.Inherits profile p → ReflTransGen folder.Inherits profile q →
    folder.sheet p = .ok s → folder.sheet q = .ok t → Compatible (.record s.own) (.record t.own)

theorem exists_kind_of_fitsTogether (reads : folder.ReadsUnambiguously)
    (h : folder.FitsTogether profile) :
    ∃ kind, ∀ q sheet, ReflTransGen folder.Inherits profile q → folder.sheet q = .ok sheet →
      Fits kind sheet.own := by
  obtain ⟨kind, fits⟩ := exists_kind
    (P := fun own => ∃ q sheet, ReflTransGen folder.Inherits profile q ∧
      folder.sheet q = .ok sheet ∧ sheet.own = own)
    (by
      rintro _ ⟨q, sheet, -, read, rfl⟩
      exact unambiguous_of_sheet reads read)
    (by
      rintro _ _ ⟨p, s, reachedP, readP, rfl⟩ ⟨q, t, reachedQ, readQ, rfl⟩
      exact h p q s t reachedP reachedQ readP readQ)
  exact ⟨kind, fun q sheet reached read => fits _ ⟨q, sheet, reached, read, rfl⟩⟩

/-- Where files fit together, what is inherited is what is listed of the profile, laid over each other
one by one. It is made of nothing else. Among well-formed profiles without a cycle, with ways within
the limit, there is something inherited. The files may be in YAML, with any reader that gives no record
with two fields of one name. -/
theorem inherited_flattened (folder : Folder) (reads : folder.ReadsUnambiguously) (profile : String)
    (together : folder.FitsTogether profile) :
    (∀ fields, folder.inherited [] profile = .ok fields →
      ∃ tree, (∀ other, folder.IsLineage other ∧ other.profile = profile ↔ other = tree) ∧
        fields = tree.listed.foldl mergeFields []) ∧
    ((∀ q, ReflTransGen folder.Inherits profile q → folder.WellFormed q) →
      ¬ folder.IsCyclic profile → (∀ v, Visits folder profile v → v.way.length ≤ wayLimit) →
        ∃ fields, folder.inherited [] profile = .ok fields) := by
  refine ⟨?_, ?_⟩
  · intro fields h
    obtain ⟨kind, fits⟩ := exists_kind_of_fitsTogether reads together
    obtain ⟨tree, lineage, rfl, rfl⟩ := exists_lineage ⟨[], profile⟩ h
    have each : ∀ own ∈ tree.listed, Fits kind own := by
      intro own member
      obtain ⟨q, sheet, reached, read, rfl⟩ := lineage.reached own member
      exact fits q sheet reached read
    exact ⟨tree, lineage.eq_iff, Lineage.merged_eq tree each⟩
  · intro formed acyclic within
    cases found : folder.inherited [] profile with
    | ok fields => exact ⟨fields, rfl⟩
    | error fault =>
      rcases raises_of_wellFormed formed found with ⟨-, -, cyclic⟩ | ⟨-, v, visits, long⟩
      · exact absurd cyclic acyclic
      · have short := within v visits
        omega

theorem fitsTogether_offline (ships : folder.Ships) : folder.FitsTogether "offline" := by
  have fields (q : String) (sheet : Sheet)
      (reached : ReflTransGen folder.Inherits "offline" q) (read : folder.sheet q = .ok sheet) :
      sheet.own = offlineFields ∨ sheet.own = baseFields := by
    rcases eq_or_eq_base_of_reached ships ships.offline reached with rfl | rfl
    · obtain rfl := Except.ok.inj (ships.offline.symm.trans read)
      exact .inl rfl
    · obtain rfl := Except.ok.inj (ships.base.symm.trans read)
      exact .inr rfl
  intro p q s t reachedP reachedQ readP readQ
  apply compatible_of_agree
  rcases fields p s reachedP readP with same | same <;>
    rcases fields q t reachedQ readQ with same' | same' <;> rw [same, same'] <;> decide

theorem wellFormed_offline (ships : folder.Ships) {q : String}
    (reached : ReflTransGen folder.Inherits "offline" q) : folder.WellFormed q := by
  rcases eq_or_eq_base_of_reached ships ships.offline reached with rfl | rfl
  · exact ⟨_, ships.offline, by simp [isWritable, Scalar.isWritable], by decide⟩
  · exact ⟨_, ships.base, nofun, by decide⟩

theorem inherited_flattened_offline :
    let folder := shippedFolder "config" 20 [["core"], ["tests"]]
    folder.ReadsUnambiguously ∧ folder.FitsTogether "offline" ∧
      (∀ q, ReflTransGen folder.Inherits "offline" q → folder.WellFormed q) ∧
      ¬ folder.IsCyclic "offline" ∧
      (∀ v, Visits folder "offline" v → v.way.length ≤ wayLimit) ∧
      folder.inherited [] "offline" = .ok ([baseFields, offlineFields].foldl mergeFields []) := by
  intro folder
  have ships : folder.Ships := ships_config
  have reads : folder.ReadsUnambiguously := fun _ _ => Yaml.unambiguous_read
  have together : folder.FitsTogether "offline" := fitsTogether_offline ships
  have formed (q : String) (reached : ReflTransGen folder.Inherits "offline" q) :
      folder.WellFormed q := wellFormed_offline ships reached
  have acyclic : ¬ folder.IsCyclic "offline" :=
    not_isCyclic_of_inherited (inherited_offline ships)
  have within (v : Visit) (visits : Visits folder "offline" v) : v.way.length ≤ wayLimit := by
    rcases eq_of_visits ships ships.offline visits with rfl | rfl <;> decide
  obtain ⟨flattened, existing⟩ := inherited_flattened folder reads "offline" together
  obtain ⟨fields, found⟩ := existing formed acyclic within
  obtain ⟨tree, only, rfl⟩ := flattened fields found
  have base : folder.IsLineage (.node "base" baseFields []) := .node ships.base rfl nofun
  have offline : folder.IsLineage (.node "offline" offlineFields [.node "base" baseFields []]) :=
    .node ships.offline rfl (by simpa using base)
  obtain rfl := (only _).1 ⟨offline, rfl⟩
  exact ⟨reads, together, formed, acyclic, within, found⟩

end Folder

end Switchboard
