import Switchboard.Profile.Loading
import Switchboard.Proofs.Data.Attempt

/-!
# Files by their names

A path without a slash is the name of a file of the folder itself. The file of a profile has the name of
the profile with one of the endings.
-/

namespace Switchboard

theorem Text.splitAt_of_not_mem {mark : Char} {s : List Char} (h : mark ∉ s) :
    splitAt mark s = [s] := by
  induction s with
  | nil => rfl
  | cons c s ih =>
    rw [List.mem_cons, not_or] at h
    obtain ⟨other, rest⟩ := h
    rw [splitAt, ih rest]
    simp [Ne.symm other]

theorem lookup_eq_some_of_mem {α β : Type} [BEq α] [LawfulBEq α] {items : List (α × β)} {k : α}
    {v : β} (member : (k, v) ∈ items) (unique : ∀ w, (k, w) ∈ items → w = v) :
    items.lookup k = some v := by
  induction items with
  | nil => cases member
  | cons item items ih =>
    obtain ⟨k', w⟩ := item
    rw [List.lookup_cons]
    cases here : k == k' with
    | true =>
      obtain rfl := eq_of_beq here
      rw [unique w List.mem_cons_self]
    | false =>
      rcases List.mem_cons.1 member with first | later
      · exact absurd (congrArg Prod.fst first) (ne_of_beq_false here)
      · exact ih later fun w hw => unique w (List.mem_cons_of_mem _ hw)

namespace Folder

variable {folder : Folder} {path : String}

structure IsFileName (path : String) : Prop where
  noSlash : '/' ∉ path.toList
  noZero : '\x00' ∉ path.toList
  nonempty : path ≠ ""
  notHere : path ≠ "."

theorem isFileName_append {profile ending : String} (noSlash : '/' ∉ profile.toList)
    (known : ending ∈ Format.endings) (noZero : '\x00' ∉ (profile ++ ending).toList) :
    IsFileName (profile ++ ending) := by
  have plain : ∀ ending ∈ Format.endings, '/' ∉ ending.toList := by decide
  have long : ∀ ending ∈ Format.endings, 1 < ending.length := by decide
  have length : 1 < (profile ++ ending).length := by
    rw [String.length_append]
    exact Nat.lt_add_left _ (long ending known)
  refine ⟨?_, noZero, ?_, ?_⟩
  · rw [String.toList_append, List.mem_append, not_or]
    exact ⟨noSlash, plain ending known⟩
  · intro same
    rw [same] at length
    exact absurd length (by decide)
  · intro same
    rw [same] at length
    exact absurd length (by decide)

theorem pathNames_of_isFileName (h : IsFileName path) : pathNames path = [path] := by
  rw [pathNames, Text.splitAt_of_not_mem h.noSlash]
  simp [h.nonempty, h.notHere]

theorem isAbsolute_of_isFileName (h : IsFileName path) : isAbsolute path = false := by
  rw [isAbsolute, String.startsWith_string_eq_false_iff]
  rintro ⟨rest, same⟩
  apply h.noSlash
  rw [← same]
  simp

theorem file_of_isFileName (h : IsFileName path)
    (short : folder.length + 1 + path.utf8ByteSize ≤ pathLimit) :
    folder.file path = folder.fileAt (.inside folder.home) path := by
  have length : folder.pathLength path = folder.length + 1 + path.utf8ByteSize := by
    simp [pathLength, pathNames_of_isFileName h, isAbsolute_of_isFileName h]
  rw [file, if_neg (by simpa using h.noZero), if_neg (by omega), pathNames_of_isFileName h, origin,
    isAbsolute_of_isFileName h]
  rfl

theorem fileAt_of_lookup {here : List String} {name text : String}
    (brief : isLongName name = false) (noFolder : folder.hasFolder (here ++ [name]) = false)
    (listed : folder.files.lookup (here ++ [name]) = some text) :
    folder.fileAt (.inside here) name = .ok text := by
  simp [fileAt, brief, noFolder, listed]

variable {profile text : String}

theorem fileUnder_eq_ok {endings : List String}
    (h : folder.fileUnder profile endings = .ok (some (path, text))) :
    ∃ ending ∈ endings, path = profile ++ ending ∧ folder.file path = .ok text := by
  induction endings with
  | nil => cases h
  | cons ending more ih =>
    rw [fileUnder] at h
    split at h
    · rename_i found
      cases h
      exact ⟨ending, List.mem_cons_self, rfl, found⟩
    · obtain ⟨other, member, found⟩ := ih h
      exact ⟨other, List.mem_cons_of_mem _ member, found⟩
    · cases h

theorem profileFile_eq_ok (h : folder.profileFile profile = .ok (path, text)) :
    ∃ ending ∈ Format.endings, path = profile ++ ending ∧ folder.file path = .ok text := by
  unfold profileFile at h
  split at h
  · rename_i found
    cases h
    exact fileUnder_eq_ok found
  · cases h
  · cases h

theorem profileFile_of_json (yaml : folder.file (profile ++ ".yaml") = .error .missing)
    (yml : folder.file (profile ++ ".yml") = .error .missing)
    (json : folder.file (profile ++ ".json") = .ok text) :
    folder.profileFile profile = .ok (profile ++ ".json", text) := by
  rw [profileFile, Format.endings, fileUnder, yaml]
  simp only [fileUnder, yml, json]

theorem read_json (folder : Folder) (text : String) :
    folder.read .json text = Json.read (Text.plainLines text.toList) := rfl

theorem read_yaml (folder : Folder) (text : String) :
    folder.read .yaml text = folder.yaml (Text.plainLines text.toList) := rfl

theorem sheet_of_profileFile {fields : Fields} (found : folder.profileFile profile = .ok (path, text))
    (read : folder.fieldsOf path text = .ok fields) :
    folder.sheet profile = Sheet.ofFields profile fields := by
  rw [sheet, found]
  change folder.fieldsOf path text >>= _ = _
  rw [read]
  rfl

/-- What a profile says is in its file. -/
theorem sheet_eq_ok {s : Sheet} (h : folder.sheet profile = .ok s) :
    ∃ path text fields, folder.profileFile profile = .ok (path, text) ∧
      folder.fieldsOf path text = .ok fields ∧ s.own = Fields.erase "inherits" fields := by
  unfold sheet at h
  split at h
  · cases h
  · rename_i path text found
    obtain ⟨fields, read, apart⟩ := bind_eq_ok_iff.1 h
    rw [Sheet.ofFields] at apart
    split at apart
    · cases apart
      exact ⟨path, text, fields, found, read, rfl⟩
    · cases apart

end Folder

end Switchboard
