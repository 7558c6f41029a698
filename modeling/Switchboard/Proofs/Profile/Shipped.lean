import Switchboard.Profile.Shipped
import Switchboard.Proofs.Profile.Inheritance

/-!
# What the shipped profiles say

Wherever the folder stands, its profiles are found as long as its path leaves room for their names and
no folder beside it lies inside. What they say is settled by what YAML is read as, and all else about
them follows from what they say.
-/

namespace Switchboard

theorem toList_of_eq_ofList {s : String} {text : List Char} (h : s = String.ofList text) :
    s.toList = text := by
  rw [h, String.toList_ofList]

def baseFields : Fields := [
  ("app", .record [("name", .text "Skill Router Assistant"), ("history_limit", .int 100)]),
  ("http", .record [("timeout", .int 10)]),
  ("skills", .record [
    ("enabled", .texts ["weather", "calc", "define"]),
    ("weather", .record [
      ("base_url", .text "https://api.openweathermap.org/data/2.5"),
      ("units", .text "metric"),
      ("api_key", .text "$\x7bOPENWEATHER_API_KEY:\x7d")]),
    ("define", .record [("base_url", .text "https://api.dictionaryapi.dev")])]),
  ("fallback", .record [
    ("greetings", .texts ["hello", "hi"]),
    ("help_keywords", .texts ["help"]),
    ("gratitude_keywords", .texts ["thank"])])]

def offlineFields : Fields := [
  ("skills", .record [
    ("weather", .record [("live", .bool false), ("api_key", .text "")]),
    ("define", .record [("live", .bool false)])])]

/-- A reader of YAML reads the shipped texts as the fields that they write down. -/
structure ReadsShipped (yaml : List Char → Except Misreading Value) : Prop where
  ofBase : yaml (Text.plainLines baseProfile.toList) = .ok (.record baseFields)
  ofDefault : yaml (Text.plainLines defaultProfile.toList) =
    .ok (.record [("inherits", .text "base")])
  ofOffline : yaml (Text.plainLines offlineProfile.toList) =
    .ok (.record (("inherits", .text "base") :: offlineFields))

set_option maxRecDepth 4000 in
theorem Yaml.readsShipped : ReadsShipped Yaml.read where
  ofBase := by
    rw [toList_of_eq_ofList (s := baseProfile) rfl]
    exact eq_ok_of_toOption (by decide +kernel)
  ofDefault := by
    rw [toList_of_eq_ofList (s := defaultProfile) rfl]
    exact eq_ok_of_toOption (by decide +kernel)
  ofOffline := by
    rw [toList_of_eq_ofList (s := offlineProfile) rfl]
    exact eq_ok_of_toOption (by decide +kernel)

namespace Folder

open Relation

/-- The shipped folder can be reached by its path, and no folder beside it lies inside. -/
structure Reachable (length : Nat) (neighbours : List (List String)) : Prop where
  short : length + 1 + "offline.yaml".utf8ByteSize ≤ pathLimit
  beside : ∀ path ∈ neighbours, path.head? ≠ some "config"

/-- The profiles of a folder say what the shipped ones do. -/
structure Ships (folder : Folder) : Prop where
  base : folder.sheet "base" = .ok ⟨[], baseFields⟩
  usual : folder.sheet "default" = .ok ⟨[.text "base"], []⟩
  offline : folder.sheet "offline" = .ok ⟨[.text "base"], offlineFields⟩

section Shipped

variable {title : String} {length : Nat} {neighbours : List (List String)}
  {yaml : List Char → Except Misreading Value} (reachable : Reachable length neighbours)

include reachable

theorem file_shipped {name text : String} (fileName : IsFileName name)
    (size : name.utf8ByteSize ≤ "offline.yaml".utf8ByteSize)
    (listed : (shippedFolder title length neighbours yaml).files.lookup ["config", name] = some text) :
    (shippedFolder title length neighbours yaml).file name = .ok text := by
  have room := reachable.short
  have atMost : "offline.yaml".utf8ByteSize = 12 := by decide
  have short : (shippedFolder title length neighbours yaml).length + 1 + name.utf8ByteSize ≤ pathLimit := by
    change length + 1 + name.utf8ByteSize ≤ pathLimit
    omega
  have brief : isLongName name = false := by
    rw [isLongName, decide_eq_false_iff_not]
    change ¬ 255 < name.utf8ByteSize
    omega
  have outside : neighbours.any (["config", name].isPrefixOf ·) = false := by
    rw [List.any_eq_false]
    intro path member start
    obtain ⟨rest, rfl⟩ := List.isPrefixOf_iff_prefix.1 start
    exact reachable.beside _ member rfl
  have noFolder : (shippedFolder title length neighbours yaml).hasFolder ["config", name] = false := by
    rw [hasFolder]
    change (false || neighbours.any (["config", name].isPrefixOf ·) || _) = false
    rw [outside]
    rfl
  rw [file_of_isFileName fileName short]
  exact fileAt_of_lookup brief noFolder listed

theorem sheet_shipped (profile : String) {text : String} {fields : Fields}
    (fileName : IsFileName (profile ++ ".yaml"))
    (size : (profile ++ ".yaml").utf8ByteSize ≤ "offline.yaml".utf8ByteSize)
    (listed : (shippedFolder title length neighbours yaml).files.lookup ["config", profile ++ ".yaml"] =
      some text)
    (format : Format.ofPath (profile ++ ".yaml") = .yaml)
    (read : yaml (Text.plainLines text.toList) = .ok (.record fields)) :
    (shippedFolder title length neighbours yaml).sheet profile = Sheet.ofFields profile fields := by
  have found : (shippedFolder title length neighbours yaml).profileFile profile =
      .ok (profile ++ ".yaml", text) := by
    rw [profileFile, Format.endings, fileUnder, file_shipped reachable fileName size listed]
  apply sheet_of_profileFile found
  have given : (shippedFolder title length neighbours yaml).read .yaml text = .ok (.record fields) :=
    (read_yaml _ text).trans read
  rw [fieldsOf, format, given]

theorem ships_shippedFolder (reads : ReadsShipped yaml) :
    (shippedFolder title length neighbours yaml).Ships where
  base := sheet_shipped reachable "base" ⟨by simp, by simp, by simp, by simp⟩ (by decide) rfl
    (by decide +kernel) reads.ofBase
  usual := sheet_shipped reachable "default" ⟨by simp, by simp, by simp, by simp⟩ (by decide) rfl
    (by decide +kernel) reads.ofDefault
  offline := sheet_shipped reachable "offline" ⟨by simp, by simp, by simp, by simp⟩ (by decide) rfl
    (by decide +kernel) reads.ofOffline

end Shipped

section Ships

variable {folder : Folder} {profile q : String} {own : Fields}
  (ships : folder.Ships) (read : folder.sheet profile = .ok ⟨[.text "base"], own⟩)

include read in
theorem eq_base_of_inherits (h : folder.Inherits profile q) :
    q = "base" := by
  obtain ⟨sheet, read', v, member, rfl⟩ := h
  obtain rfl := Except.ok.inj (read.symm.trans read')
  obtain rfl := List.mem_singleton.1 member
  rfl

include ships

theorem not_inherits_base : ¬ folder.Inherits "base" q := by
  rintro ⟨sheet, read, v, member, -⟩
  obtain rfl := Except.ok.inj (ships.base.symm.trans read)
  cases member

include read

theorem eq_or_eq_base_of_reached
    (h : ReflTransGen folder.Inherits profile q) :
    q = profile ∨ q = "base" := by
  induction h with
  | refl => exact .inl rfl
  | tail _ inherits ih =>
    rcases ih with rfl | rfl
    · exact .inr (eq_base_of_inherits read inherits)
    · exact absurd inherits (not_inherits_base ships)

theorem eq_of_visits {v : Visit}
    (h : Visits folder profile v) :
    v = ⟨[], profile⟩ ∨ v = ⟨[profile], "base"⟩ := by
  induction h with
  | refl => exact .inl rfl
  | tail _ next ih =>
    rcases ih with rfl | rfl
    · obtain ⟨-, inherits⟩ := next
      rw [eq_base_of_inherits read inherits]
      exact .inr rfl
    · obtain ⟨-, inherits⟩ := next
      exact absurd inherits (not_inherits_base ships)

theorem inherited_over_base (other : profile ≠ "base") :
    folder.inherited [] profile =
      .ok (Value.mergeFields (Value.mergeFields [] baseFields) own) := by
  have below : folder.inherited [profile] "base" =
      .ok (Value.mergeFields [] baseFields) := by
    have short : [profile].length ≤ wayLimit := by simp [wayLimit]
    rw [inherited_of_sheet short (by simpa using other.symm) ships.base]
    rfl
  have parent : folder.layParent [profile] [] (.text "base") =
      .ok (Value.mergeFields [] (Value.mergeFields [] baseFields)) := by
    rw [layParent_text, below]
    rfl
  rw [inherited_of_sheet (by decide) (by simp) read, List.nil_append, List.foldlM_cons, parent]
  rfl

end Ships

section Loaded

variable {folder : Folder} (ships : folder.Ships)

include ships

theorem inherited_default :
    folder.inherited [] "default" = .ok (Value.mergeFields (Value.mergeFields [] baseFields) []) :=
  inherited_over_base ships ships.usual (by decide)

theorem inherited_offline :
    folder.inherited [] "offline" =
      .ok (Value.mergeFields (Value.mergeFields [] baseFields) offlineFields) :=
  inherited_over_base ships ships.offline (by decide)

end Loaded

theorem ships_config : (shippedFolder "config" 20 [["core"], ["tests"]]).Ships :=
  ships_shippedFolder ⟨by decide, by decide⟩ Yaml.readsShipped

end Folder

end Switchboard
