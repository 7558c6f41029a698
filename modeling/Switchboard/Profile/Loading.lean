import Switchboard.Data.Merge
import Switchboard.Profile.Folder
import Switchboard.Profile.Placeholder

/-!
# Loading a profile

A profile names its parents. The parents are laid over each other from left to right, each with its
own parents below it, and the profile is laid over them. A name that occurs again on the way down is
refused, so the names on the way are all different, and loading ends.
-/

namespace Switchboard

inductive LoadFault where
  | missing (profile folder : String) (tried : List String)
  /-- A path to a file, or a name on it, is too long. -/
  | tooLong (path : String)
  | misread (format : Format) (cause : Misreading)
  | notRecord (path kind : String)
  | badParents (profile : String)
  /-- A parent is named by a value that cannot be written. -/
  | unwritable
  /-- The names on the way down, the last of which has occurred before. -/
  | circular (names : List String)
  /-- There are too many names on the way down, or the configuration is too deep to be taken apart. -/
  | tooDeep
deriving DecidableEq, Repr

def LoadFault.message : LoadFault → String
  | missing profile folder tried =>
    "Configuration profile '" ++ profile ++ "' not found in " ++ folder ++ " (tried " ++
      ", ".intercalate tried ++ ")"
  | tooLong path => "[Errno 36] File name too long: " ++ Text.quotedText path
  | misread .json _ => "Malformed JSON"
  | misread .yaml _ => "Malformed YAML"
  | notRecord path kind =>
    "Configuration file " ++ path ++ " must contain a mapping, got " ++ kind
  | badParents profile =>
    "'inherits' in profile '" ++ profile ++ "' must be a name or a list of names"
  | unwritable =>
    "Exceeds the limit (" ++ intText digitLimit ++ " digits) for integer string conversion"
  | circular names => "Circular profile inheritance detected: " ++ " -> ".intercalate names
  | tooDeep => "maximum recursion depth exceeded"

/-- One profile file: its parents and its other fields. A parent is named by the text of a value. -/
structure Sheet where
  parents : List Value
  own : Fields

namespace Sheet

/-- The parents that a field names: none, one, or a list. -/
def parents? : Value → Option (List Value)
  | .text name => some [.text name]
  | .list items => some items
  | _ => none

/-- The value of the field that names the parents, or no parents where it does not count as given. -/
def named (fields : Fields) : Value :=
  ((Fields.get? fields "inherits").getD .null).orElse (.list [])

def ofFields (profile : String) (fields : Fields) : Except LoadFault Sheet :=
  match parents? (named fields) with
  | some parents => .ok ⟨parents, Fields.erase "inherits" fields⟩
  | none => .error (.badParents profile)

end Sheet

namespace Folder

/-- The first file of a profile under some endings, with the path to it. -/
def fileUnder (folder : Folder) (profile : String) :
    List String → Except LoadFault (Option (String × String))
  | [] => .ok none
  | ending :: more =>
    match folder.file (profile ++ ending) with
    | .ok text => .ok (some (profile ++ ending, text))
    | .error .missing => folder.fileUnder profile more
    | .error .tooLong => .error (.tooLong (folder.pathTitle (profile ++ ending)))

def profileFile (folder : Folder) (profile : String) : Except LoadFault (String × String) :=
  match folder.fileUnder profile Format.endings with
  | .ok (some found) => .ok found
  | .ok none =>
    .error (.missing profile folder.title
      (Format.endings.map fun ending => Format.fileName (profile ++ ending)))
  | .error fault => .error fault

def fieldsOf (folder : Folder) (path text : String) : Except LoadFault Fields :=
  let format := Format.ofPath path
  match folder.read format text with
  | .error cause => .error (.misread format cause)
  | .ok .null => .ok []
  | .ok (.record fields) => .ok fields
  | .ok v => .error (.notRecord (folder.pathTitle path) v.kindName)

def sheet (folder : Folder) (profile : String) : Except LoadFault Sheet :=
  match folder.profileFile profile with
  | .error fault => .error fault
  | .ok (path, text) => do
    let fields ← folder.fieldsOf path text
    Sheet.ofFields profile fields

/-- The names of parents that a text gives in one of the two formats. -/
def namesIn (folder : Folder) (text : String) : List String :=
  [Format.json, Format.yaml].flatMap fun format =>
    match folder.read format text with
    | .ok (.record fields) =>
      ((Sheet.parents? (Sheet.named fields)).getD []).map Value.display
    | _ => []

def parentNames (folder : Folder) : List String := folder.files.flatMap fun f => folder.namesIn f.2

theorem mem_of_lookup {files : List (List String × String)} {names : List String} {text : String}
    (h : files.lookup names = some text) : (names, text) ∈ files := by
  induction files with
  | nil => simp at h
  | cons f files ih =>
    obtain ⟨other, content⟩ := f
    rw [List.lookup_cons] at h
    split at h
    · rename_i heq
      simp only [Option.some.injEq] at h
      simp only [beq_iff_eq] at heq
      simp [h, heq]
    · exact List.mem_cons_of_mem _ (ih h)

theorem mem_files_of_fileAt {folder : Folder} {place : Place} {name text : String}
    (h : folder.fileAt place name = .ok text) : ∃ names, (names, text) ∈ folder.files := by
  unfold fileAt at h
  split at h
  · simp at h
  · split at h
    · split at h
      · simp at h
      · split at h
        · rename_i heq
          simp only [Except.ok.injEq] at h
          exact ⟨_, h ▸ mem_of_lookup heq⟩
        · simp at h
    · simp at h

theorem mem_files_of_file {folder : Folder} {path text : String}
    (h : folder.file path = .ok text) : ∃ names, (names, text) ∈ folder.files := by
  unfold file at h
  split at h
  · simp at h
  · split at h
    · simp at h
    · cases hplace : (pathNames path).dropLast.foldlM folder.follow (folder.origin path) with
      | error e => simp [hplace, bind, Except.bind] at h
      | ok place =>
        simp only [hplace, bind, Except.bind] at h
        exact mem_files_of_fileAt h

theorem mem_files_of_fileUnder {folder : Folder} {profile path text : String}
    {endings : List String} (h : folder.fileUnder profile endings = .ok (some (path, text))) :
    ∃ names, (names, text) ∈ folder.files := by
  induction endings with
  | nil => simp [fileUnder] at h
  | cons ending more ih =>
    rw [fileUnder] at h
    split at h
    · rename_i found
      simp only [Except.ok.injEq, Option.some.injEq, Prod.mk.injEq] at h
      exact mem_files_of_file (h.2 ▸ found)
    · exact ih h
    · simp at h

theorem mem_files_of_profileFile {folder : Folder} {profile path text : String}
    (h : folder.profileFile profile = .ok (path, text)) :
    ∃ names, (names, text) ∈ folder.files := by
  unfold profileFile at h
  split at h
  · rename_i found
    simp only [Except.ok.injEq] at h
    exact mem_files_of_fileUnder (h ▸ found)
  · simp at h
  · simp at h

theorem mem_namesIn {folder : Folder} {format : Format} {text : String} {fields : Fields}
    {parents : List Value} {parent : Value}
    (hread : folder.read format text = .ok (.record fields))
    (hparents : Sheet.parents? (Sheet.named fields) = some parents) (h : parent ∈ parents) :
    parent.display ∈ folder.namesIn text := by
  refine List.mem_flatMap.2 ⟨format, by cases format <;> simp, ?_⟩
  simp only [hread, hparents]
  exact List.mem_map_of_mem h

/-- Fields that are not empty come from a record. -/
theorem read_of_fieldsOf {folder : Folder} {path text : String} {fields : Fields}
    (h : folder.fieldsOf path text = .ok fields) :
    fields = [] ∨ folder.read (Format.ofPath path) text = .ok (.record fields) := by
  unfold fieldsOf at h
  dsimp only at h
  split at h
  · simp at h
  · simp_all
  · rename_i found
    simp only [Except.ok.injEq] at h
    exact .inr (h ▸ found)
  · simp at h

theorem parents_of_ofFields {profile : String} {fields : Fields} {s : Sheet}
    (h : Sheet.ofFields profile fields = .ok s) :
    Sheet.parents? (Sheet.named fields) = some s.parents := by
  unfold Sheet.ofFields at h
  split at h
  · rename_i found
    simp only [Except.ok.injEq] at h
    exact h ▸ found
  · simp at h

theorem mem_parentNames {folder : Folder} {profile : String} {s : Sheet} {parent : Value}
    (h : folder.sheet profile = .ok s) (hp : parent ∈ s.parents) :
    parent.display ∈ folder.parentNames := by
  unfold sheet at h
  split at h
  · simp at h
  · rename_i path text hprofile
    obtain ⟨names, hmem⟩ := mem_files_of_profileFile hprofile
    refine List.mem_flatMap.2 ⟨(names, text), hmem, ?_⟩
    cases hfields : folder.fieldsOf path text with
    | error fault => simp [hfields, bind, Except.bind] at h
    | ok fields =>
      simp only [hfields, bind, Except.bind] at h
      have hparents := parents_of_ofFields h
      rcases read_of_fieldsOf hfields with rfl | hread
      · have none : s.parents = [] := by
          have : Sheet.parents? (.list []) = some s.parents := hparents
          simpa [Sheet.parents?] using this.symm
        simp [none] at hp
      · exact mem_namesIn hread hparents hp

/-- How many profiles may still be met for the first time: the parents that are not on the way, and
the profile itself where it is nobody's parent. -/
def unmet (folder : Folder) (way : List String) (profile : String) : Nat :=
  (folder.parentNames.filter (! way.contains ·)).length +
    if folder.parentNames.contains profile then 0 else 1

theorem filter_append_singleton (way names : List String) (profile : String) :
    names.filter (! (way ++ [profile]).contains ·) =
      (names.filter (! way.contains ·)).filter (· != profile) := by
  rw [List.filter_filter]
  congr 1
  funext n
  cases hn : way.contains n <;> by_cases h : n = profile <;> simp_all

theorem unmet_lt {folder : Folder} {way : List String} {profile parent : String}
    (fresh : way.contains profile = false) (known : parent ∈ folder.parentNames) :
    folder.unmet (way ++ [profile]) parent < folder.unmet way profile := by
  unfold unmet
  rw [filter_append_singleton]
  have hparent : folder.parentNames.contains parent = true := by simpa using known
  rw [if_pos hparent]
  by_cases h : folder.parentNames.contains profile = true
  · rw [if_pos h, Nat.add_zero, Nat.add_zero, List.length_filter_lt_length_iff_exists]
    exact ⟨profile, by simp_all, by simp⟩
  · rw [if_neg h]
    exact Nat.lt_succ_of_le (List.length_filter_le _ _)

/-- How many names may come before a profile on the way down to it. -/
def wayLimit : Nat := 970

/-- The fields of a profile over those of its parents. The names on the way down to the profile are
given in order. A parent is named only when the ones before it are loaded. -/
def inherited (folder : Folder) (way : List String) (profile : String) : Except LoadFault Fields :=
  if wayLimit < way.length then .error .tooDeep
  else if fresh : way.contains profile then .error (.circular (way ++ [profile]))
  else
    match h : folder.sheet profile with
    | .error fault => .error fault
    | .ok sheet => do
      let below ← sheet.parents.attach.foldlM (fun below parent => do
        if parent.1.isWritable then
          have := unmet_lt (Bool.eq_false_iff.2 fresh) (mem_parentNames h parent.2)
          let above ← folder.inherited (way ++ [profile]) parent.1.display
          return Value.mergeFields below above
        else .error .unwritable) []
      return Value.mergeFields below sheet.own
termination_by folder.unmet way profile

def withDefault (name : String) (v : Value) (fields : Fields) : Fields :=
  if (Fields.get? fields name).isSome then fields else Fields.put name v fields

/-- The configuration of a profile, with its placeholders replaced. -/
def load (folder : Folder) (env : Environment) (profile : String) : Except LoadFault Fields := do
  let fields ← folder.inherited [] profile
  if Value.depthLimit < (Value.record fields).depth then .error .tooDeep
  else return Value.expandFields env (withDefault "profile" (.text profile) fields)

end Folder

end Switchboard
