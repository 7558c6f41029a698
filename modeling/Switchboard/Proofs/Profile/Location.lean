import Switchboard.Proofs.Profile.Expansion

/-!
# Where the files of profiles lie

For each profile that is visited a file is read. Where it lies is settled by the name of the profile
alone: the names on the path lead down from the folder, and two dots lead back up. Nothing holds them in
the folder. A file lies directly in the folder where the path comes back to it in the end, as it does
for a name without a slash.
-/

namespace Switchboard.Folder

open Relation

variable {folder : Folder} {here there place : List String} {path text : String}

/-- Where a name leads from a place in the tree. -/
def stepFrom (here : List String) (name : String) : List String :=
  if name = ".." then here.dropLast else here ++ [name]

def directories (path : String) : List String := (pathNames path).dropLast

/-- A path leads to a place in the tree where its names can be followed up to the one of the file. -/
def LeadsTo (folder : Folder) (path : String) (place : List String) : Prop :=
  ∃ here, (directories path).foldlM folder.follow (folder.origin path) = .ok (.inside here) ∧
    place = here ++ [Format.fileName path]

def IsChild (folder : Folder) (place : List String) : Prop := ∃ name, place = folder.home ++ [name]

theorem isChild_concat_iff {name : String} : folder.IsChild (here ++ [name]) ↔ here = folder.home := by
  constructor
  · rintro ⟨other, same⟩
    exact (List.append_inj' same rfl).1
  · rintro rfl
    exact ⟨name, rfl⟩

theorem follow_above {name : String} {next : Place} (h : folder.follow .above name = .ok next) :
    next = .above := by
  unfold follow at h
  split at h
  · cases h
  · dsimp only at h
    split at h <;> cases h
    rfl

theorem follow_inside {name : String} (h : folder.follow (.inside here) name = .ok (.inside there)) :
    there = stepFrom here name := by
  unfold follow at h
  split at h
  · cases h
  · dsimp only at h
    split at h
    · rename_i back
      rw [stepFrom, if_pos (beq_iff_eq.1 back)]
      split at h <;> cases h
      rfl
    · rename_i on
      rw [stepFrom, if_neg (by simpa using on)]
      split at h <;> cases h
      rfl

/-- Names that are followed in the tree lead where their spelling says. -/
theorem foldlM_follow_inside (names : List String)
    (h : names.foldlM folder.follow (.inside here) = .ok (.inside there)) :
    there = names.foldl stepFrom here := by
  induction names generalizing here with
  | nil =>
    cases h
    rfl
  | cons name names ih =>
    rw [List.foldlM_cons] at h
    obtain ⟨next, first, rest⟩ := bind_eq_ok_iff.1 h
    cases next with
    | above =>
      have lost : Place.inside there = .above := by
        apply foldlM_invariant (P := (· = Place.above)) rfl _ rest
        rintro _ _ _ _ rfl step
        exact follow_above step
      cases lost
    | inside between =>
      obtain rfl := follow_inside first
      exact ih rest

theorem LeadsTo.unique {other : List String} (h : folder.LeadsTo path place)
    (h' : folder.LeadsTo path other) : place = other := by
  obtain ⟨here, led, rfl⟩ := h
  obtain ⟨there, led', rfl⟩ := h'
  rw [led] at led'
  cases led'
  rfl

theorem LeadsTo.eq (h : folder.LeadsTo path place) (relative : isAbsolute path = false) :
    place = (directories path).foldl stepFrom folder.home ++ [Format.fileName path] := by
  obtain ⟨here, led, rfl⟩ := h
  rw [origin, relative] at led
  rw [foldlM_follow_inside _ led]

theorem fileAt_eq_ok {position : Place} {name : String} (h : folder.fileAt position name = .ok text) :
    ∃ here, position = .inside here ∧ folder.files.lookup (here ++ [name]) = some text := by
  unfold fileAt at h
  split at h
  · cases h
  · split at h
    · rename_i here
      split at h
      · cases h
      · split at h <;> cases h
        rename_i listed
        exact ⟨here, rfl, listed⟩
    · cases h

theorem file_eq_ok (h : folder.file path = .ok text) : '\x00' ∉ path.toList ∧
    ∃ place, folder.LeadsTo path place ∧ folder.files.lookup place = some text := by
  unfold file at h
  split at h
  · cases h
  · rename_i noZero
    split at h
    · cases h
    · obtain ⟨position, led, found⟩ := bind_eq_ok_iff.1 h
      obtain ⟨here, rfl, listed⟩ := fileAt_eq_ok found
      exact ⟨by simpa using noZero, _, ⟨here, led, rfl⟩, listed⟩

theorem LeadsTo.eq_of_isFileName (h : folder.LeadsTo path place) (name : IsFileName path) :
    place = folder.home ++ [path] := by
  rw [h.eq (isAbsolute_of_isFileName name), directories, Format.fileName, pathNames_of_isFileName name]
  rfl

/-- The places of the files that are read for a visit: the one of its own file, and those for the visits
of its parents. A parent is visited only when the ones before it are loaded. -/
inductive Reads (folder : Folder) : Visit → List String → Prop
  | own {way place : List String} {profile path text : String} : way.length ≤ wayLimit →
      profile ∉ way → folder.profileFile profile = .ok (path, text) → folder.LeadsTo path place →
      Reads folder ⟨way, profile⟩ place
  | parent {way place : List String} {profile : String} {sheet : Sheet} {before after : List Value}
      {parent : Value} {below : Fields} : way.length ≤ wayLimit → profile ∉ way →
      folder.sheet profile = .ok sheet → sheet.parents = before ++ parent :: after →
      before.foldlM (folder.layParent (way ++ [profile])) [] = .ok below → parent.isWritable →
      Reads folder ⟨way ++ [profile], parent.display⟩ place → Reads folder ⟨way, profile⟩ place

/-- What is read is the file of a profile that inheritance leads to. -/
theorem Reads.reached {v : Visit} (h : folder.Reads v place) :
    ∃ q, ReflTransGen folder.Inherits v.profile q ∧ ∃ path text,
      folder.profileFile q = .ok (path, text) ∧ folder.LeadsTo path place := by
  induction h with
  | own short fresh found leads => exact ⟨_, .refl, _, _, found, leads⟩
  | @parent way place profile sheet before after parent below short fresh read parents laid writable _ ih =>
    obtain ⟨q, reached, found⟩ := ih
    have member : parent ∈ sheet.parents := by simp [parents]
    exact ⟨q, .head ⟨sheet, read, parent, member, rfl⟩ reached, found⟩

section Loaded

variable {v w : Visit} {q : String} (loaded : ∃ fields, folder.inherited v.way v.profile = .ok fields)

include loaded

theorem reads_of_next (next : Visit.Next folder v w) (h : folder.Reads w place) :
    folder.Reads v place := by
  obtain ⟨fields, found⟩ := loaded
  obtain ⟨fresh, sheet, read, parent, member, rfl⟩ := next
  obtain ⟨-, sheet', below, read', laid, -⟩ := inherited_eq_ok found
  obtain rfl := Except.ok.inj (read.symm.trans read')
  obtain ⟨before, after, parents⟩ := List.append_of_mem member
  rw [parents] at laid
  obtain ⟨under, upper, run, step⟩ := foldlM_passes laid
  exact .parent (length_le_of_inherited found) fresh read parents run (isWritable_of_layParent step) h

theorem reads_of_visits (visited : ReflTransGen (Visit.Next folder) v w) (h : folder.Reads w place) :
    folder.Reads v place := by
  induction visited using ReflTransGen.head_induction_on with
  | refl => exact h
  | head next _ ih => exact reads_of_next loaded next (ih (inherited_of_next next loaded))

/-- Where a profile is loaded, the files of all profiles that inheritance leads to are read. -/
theorem reads_of_reached (reached : ReflTransGen folder.Inherits v.profile q) :
    ∃ path text place, folder.profileFile q = .ok (path, text) ∧ folder.LeadsTo path place ∧
      folder.files.lookup place = some text ∧ folder.Reads v place := by
  obtain ⟨w, visited, rfl⟩ := exists_visit loaded reached
  obtain ⟨fields, found⟩ := inherited_of_visits loaded visited
  obtain ⟨fresh, sheet, -, read, -, -⟩ := inherited_eq_ok found
  obtain ⟨path, text, -, named, -, -⟩ := sheet_eq_ok read
  obtain ⟨ending, -, -, opened⟩ := profileFile_eq_ok named
  obtain ⟨-, place, leads, listed⟩ := file_eq_ok opened
  have own : folder.Reads w place := .own (length_le_of_inherited found) fresh named leads
  exact ⟨path, text, place, named, leads, listed, reads_of_visits loaded visited own⟩

end Loaded

/-- The files that are read are those of the profiles that inheritance leads to. A relative path leads
where its names say, and the file lies directly in the folder if and only if the names before the last
one lead back there. For a profile without a slash in its name the file is the one of that name in the
folder. -/
theorem reads_location (folder : Folder) (profile : String) :
    (∀ place, folder.Reads ⟨[], profile⟩ place → ∃ q, ReflTransGen folder.Inherits profile q ∧
      ∃ ending ∈ Format.endings,
        (∃ text, folder.profileFile q = .ok (q ++ ending, text) ∧
          folder.LeadsTo (q ++ ending) place ∧ folder.files.lookup place = some text) ∧
        (isAbsolute (q ++ ending) = false →
          place = (directories (q ++ ending)).foldl stepFrom folder.home ++
              [Format.fileName (q ++ ending)] ∧
            (folder.IsChild place ↔
              (directories (q ++ ending)).foldl stepFrom folder.home = folder.home)) ∧
        ('/' ∉ q.toList → place = folder.home ++ [q ++ ending])) ∧
    ((∃ fields, folder.inherited [] profile = .ok fields) →
      ∀ q, ReflTransGen folder.Inherits profile q → ∃ path text place,
        folder.profileFile q = .ok (path, text) ∧ folder.LeadsTo path place ∧
          folder.files.lookup place = some text ∧ folder.Reads ⟨[], profile⟩ place) := by
  refine ⟨?_, fun loaded q reached => reads_of_reached loaded reached⟩
  intro place read
  obtain ⟨q, reached, path, text, named, leads⟩ := read.reached
  obtain ⟨ending, known, rfl, opened⟩ := profileFile_eq_ok named
  obtain ⟨noZero, place', leads', listed⟩ := file_eq_ok opened
  obtain rfl := leads.unique leads'
  refine ⟨q, reached, ending, known, ⟨text, named, leads, listed⟩, ?_, ?_⟩
  · intro relative
    have lies := leads.eq relative
    exact ⟨lies, by rw [lies, isChild_concat_iff]⟩
  · intro noSlash
    exact leads.eq_of_isFileName (isFileName_append noSlash known noZero)

/-- The shipped profiles are read from the folder itself, by relative paths that do not leave it. -/
theorem reads_location_default :
    let folder := shippedFolder "config" 20 [["core"], ["tests"]]
    (∃ place, folder.Reads ⟨[], "default"⟩ place) ∧
      ∀ place, folder.Reads ⟨[], "default"⟩ place → ∃ path, place = folder.home ++ [path] ∧
        isAbsolute path = false ∧ (directories path).foldl stepFrom folder.home = folder.home := by
  intro folder
  have ships : folder.Ships := ships_config
  obtain ⟨read, complete⟩ := reads_location folder "default"
  constructor
  · have found : ∃ fields, folder.inherited [] "default" = .ok fields := ⟨_, inherited_default ships⟩
    obtain ⟨-, -, place, -, -, -, own⟩ := complete found "default" .refl
    exact ⟨place, own⟩
  · intro place h
    obtain ⟨q, reached, ending, known, -, spelled, plain⟩ := read place h
    have named := eq_or_eq_base_of_reached ships ships.usual reached
    have noSlash : '/' ∉ q.toList := by rcases named with rfl | rfl <;> decide
    have relative : isAbsolute (q ++ ending) = false := by
      have each : ∀ q ∈ ["default", "base"], ∀ ending ∈ Format.endings,
        isAbsolute (q ++ ending) = false := by decide +kernel
      exact each q (by simpa using named) ending known
    have child : folder.IsChild place := ⟨_, plain noSlash⟩
    exact ⟨_, plain noSlash, relative, (spelled relative).2.1 child⟩

def folderWithin : Folder where
  title := "<DIR>"
  length := 16
  home := []
  folders := [["sub"]]
  files := [(["p.yaml"], "inherits: sub/q\n"), (["sub", "q.yaml"], "a: 1\n")]

theorem sheet_folderWithin : folderWithin.sheet "p" = .ok ⟨[.text "sub/q"], []⟩ := by
  have found : folderWithin.profileFile "p" = .ok ("p.yaml", "inherits: sub/q\n") :=
    eq_ok_of_toOption (by decide +kernel)
  have fields : folderWithin.fieldsOf "p.yaml" "inherits: sub/q\n" =
      .ok [("inherits", .text "sub/q")] := eq_ok_of_toOption (by decide +kernel)
  rw [sheet_of_profileFile found fields]
  rfl

theorem profileFile_folderWithin : folderWithin.profileFile "sub/q" = .ok ("sub/q.yaml", "a: 1\n") :=
  eq_ok_of_toOption (by decide +kernel)

theorem sheet_folderWithin_parent : folderWithin.sheet "sub/q" = .ok ⟨[], [("a", .int 1)]⟩ := by
  have fields : folderWithin.fieldsOf "sub/q.yaml" "a: 1\n" = .ok [("a", .int 1)] :=
    eq_ok_of_toOption (by decide +kernel)
  rw [sheet_of_profileFile profileFile_folderWithin fields]
  rfl

theorem inherited_folderWithin : folderWithin.inherited [] "p" = .ok [("a", .int 1)] := by
  have parent : folderWithin.inherited ["p"] "sub/q" = .ok [("a", .int 1)] := by
    rw [inherited_of_sheet (by decide) (by decide) sheet_folderWithin_parent]
    rfl
  have laid : folderWithin.layParent ["p"] [] (.text "sub/q") = .ok [("a", .int 1)] := by
    rw [layParent_text, parent]
    rfl
  rw [inherited_of_sheet (by decide) (by simp) sheet_folderWithin, List.nil_append, List.foldlM_cons,
    laid]
  rfl

/-- The parent is read, and it does not lie directly in the folder. -/
theorem reads_folderWithin :
    folderWithin.load [] "p" = .ok [("a", .int 1), ("profile", .text "p")] ∧
      folderWithin.Reads ⟨[], "p"⟩ ["sub", "q.yaml"] ∧ ¬ folderWithin.IsChild ["sub", "q.yaml"] := by
  refine ⟨?_, ?_, ?_⟩
  · rw [load_of_inherited [] inherited_folderWithin, if_neg (by decide)]
    change Except.ok (Value.expandFields [] [("a", .int 1), ("profile", .text "p")]) = _
    rw [Value.expandFields_cons, Value.expandFields_cons, Value.expandFields_nil,
      Value.expand_text_of_not_mem (by simp), Value.expand_of_plain [] (.int 1) (by decide)]
  · have leads : folderWithin.LeadsTo "sub/q.yaml" ["sub", "q.yaml"] :=
      ⟨["sub"], eq_ok_of_toOption (by decide +kernel), by decide +kernel⟩
    have own : folderWithin.Reads ⟨["p"], "sub/q"⟩ ["sub", "q.yaml"] :=
      .own (by decide) (by decide) profileFile_folderWithin leads
    have only : (⟨[.text "sub/q"], []⟩ : Sheet).parents = [] ++ .text "sub/q" :: [] := rfl
    exact .parent (by decide) (by simp) sheet_folderWithin only rfl rfl own
  · have inner : ["sub", "q.yaml"] = ["sub"] ++ ["q.yaml"] := rfl
    rw [inner, isChild_concat_iff]
    decide

end Switchboard.Folder
