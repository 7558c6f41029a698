import Switchboard.Proofs.Data.Depth
import Switchboard.Skill.Dictionary

/-!
# Which entries can be read and shown

An entry is usable when its meanings, their definitions and the related words at each level can be
gone through, and each definition has a text. Any values may stand where texts are expected. A usable
entry can be shown, unless a related word that is to be shown is no text.
-/

namespace Switchboard

variable {v : Value} {word : String} {simulated : Bool} {m : Mismatch}

section Usable

/-- What a field holds, where a field that is not there holds nothing. -/
def listed (v : Value) (name : String) : Except Mismatch (List Value) :=
  v.fieldOr name (.list []) >>= Value.parts

/-- The related words of a record can be gone through. -/
def Related.Usable (v : Value) : Prop :=
  (∃ words, listed v "synonyms" = .ok words) ∧ ∃ words, listed v "antonyms" = .ok words

def Definition.Usable (item : Value) : Prop :=
  (∃ text, item.field "definition" = .ok text) ∧ Related.Usable item

def Meaning.Usable (v : Value) : Prop :=
  (∃ items, listed v "definitions" = .ok items ∧ ∀ item ∈ items, Definition.Usable item) ∧
    Related.Usable v

def Entry.Usable (v : Value) : Prop :=
  (∃ items, listed v "meanings" = .ok items ∧ ∀ item ∈ items, Meaning.Usable item) ∧
    Related.Usable v

theorem exists_own_iff : (∃ related, Related.own v = .ok related) ↔ Related.Usable v := by
  constructor
  · rintro ⟨related, h⟩
    simp only [Related.own, bind_eq_ok_iff] at h
    obtain ⟨w, hw, synonyms, hsynonyms, w', hw', antonyms, hantonyms, -⟩ := h
    exact ⟨⟨synonyms, bind_eq_ok_iff.2 ⟨w, hw, hsynonyms⟩⟩,
      antonyms, bind_eq_ok_iff.2 ⟨w', hw', hantonyms⟩⟩
  · rintro ⟨⟨synonyms, hsynonyms⟩, antonyms, hantonyms⟩
    obtain ⟨w, hw, hsynonyms⟩ := bind_eq_ok_iff.1 hsynonyms
    obtain ⟨w', hw', hantonyms⟩ := bind_eq_ok_iff.1 hantonyms
    rw [Related.own, hw, ok_bind, hsynonyms, ok_bind, hw', ok_bind, hantonyms]
    exact ⟨_, rfl⟩

theorem Related.join_eq (parts : List Related) :
    join parts = ⟨parts.flatMap Related.synonyms, parts.flatMap Related.antonyms⟩ := by
  have fold : ∀ start : Related, parts.foldl append start =
      start.append ⟨parts.flatMap Related.synonyms, parts.flatMap Related.antonyms⟩ := by
    induction parts with
    | nil => simp [append]
    | cons part parts ih => simp [ih, append]
  rw [join, fold, append]
  rfl

/-- Only a record has related words, so each of its fields can be asked for. -/
theorem Related.Usable.exists_fieldOr (h : Related.Usable v) (name : String) (default : Value) :
    ∃ w, v.fieldOr name default = .ok w := by
  obtain ⟨⟨words, h⟩, -⟩ := h
  cases v with
  | record fields => exact ⟨_, rfl⟩
  | _ => cases h

theorem Definition.exists_ofValue_iff :
    (∃ result, Definition.ofValue v = .ok result) ↔ Definition.Usable v := by
  rw [Definition.Usable, ← exists_own_iff]
  constructor
  · rintro ⟨result, h⟩
    simp only [Definition.ofValue, bind_eq_ok_iff] at h
    obtain ⟨text, htext, sample, -, related, hrelated, -⟩ := h
    exact ⟨⟨text, htext⟩, related, hrelated⟩
  · rintro ⟨⟨text, htext⟩, related, hrelated⟩
    obtain ⟨sample, hsample⟩ := (exists_own_iff.1 ⟨related, hrelated⟩).exists_fieldOr "example" .null
    rw [Definition.ofValue, htext, ok_bind, hsample, ok_bind, hrelated]
    exact ⟨_, rfl⟩

theorem Meaning.exists_ofValue_iff :
    (∃ result, Meaning.ofValue v = .ok result) ↔ Meaning.Usable v := by
  rw [Meaning.Usable, ← exists_own_iff]
  simp only [← Definition.exists_ofValue_iff, ← exists_mapM_iff]
  constructor
  · rintro ⟨result, h⟩
    simp only [Meaning.ofValue, bind_eq_ok_iff] at h
    obtain ⟨w, hw, items, hitems, parts, hparts, related, hrelated, -⟩ := h
    exact ⟨⟨items, bind_eq_ok_iff.2 ⟨w, hw, hitems⟩, parts, hparts⟩, related, hrelated⟩
  · rintro ⟨⟨items, hitems, parts, hparts⟩, related, hrelated⟩
    obtain ⟨w, hw, hitems⟩ := bind_eq_ok_iff.1 hitems
    obtain ⟨kind, hkind⟩ :=
      (exists_own_iff.1 ⟨related, hrelated⟩).exists_fieldOr "partOfSpeech" (.text "unknown")
    rw [Meaning.ofValue, hw, ok_bind, hitems, ok_bind, hparts, ok_bind, hrelated, ok_bind]
    split
    · exact ⟨_, rfl⟩
    · rw [hkind]
      exact ⟨_, rfl⟩

theorem Entry.exists_ofValue_iff :
    (∃ e, Entry.ofValue v word simulated = .ok e) ↔ Entry.Usable v := by
  rw [Entry.Usable, ← exists_own_iff]
  simp only [← Meaning.exists_ofValue_iff, ← exists_mapM_iff]
  constructor
  · rintro ⟨e, h⟩
    simp only [Entry.ofValue, bind_eq_ok_iff] at h
    obtain ⟨w, hw, items, hitems, parts, hparts, related, hrelated, -⟩ := h
    exact ⟨⟨items, bind_eq_ok_iff.2 ⟨w, hw, hitems⟩, parts, hparts⟩, related, hrelated⟩
  · rintro ⟨⟨items, hitems, parts, hparts⟩, related, hrelated⟩
    obtain ⟨w, hw, hitems⟩ := bind_eq_ok_iff.1 hitems
    have record := exists_own_iff.1 ⟨related, hrelated⟩
    obtain ⟨named, hnamed⟩ := record.exists_fieldOr "word" .null
    obtain ⟨phonetic, hphonetic⟩ := record.exists_fieldOr "phonetic" .null
    rw [Entry.ofValue, hw, ok_bind, hitems, ok_bind, hparts, ok_bind, hrelated, ok_bind, hnamed,
      ok_bind, hphonetic]
    exact ⟨_, rfl⟩

/-- An entry is marked as its reader says. -/
theorem Entry.simulated_of_ofValue {e : Entry} (h : Entry.ofValue v word simulated = .ok e) :
    e.simulated = simulated := by
  simp only [Entry.ofValue, bind_eq_ok_iff] at h
  obtain ⟨_, -, _, -, _, -, _, -, _, -, _, -, h⟩ := h
  cases h
  rfl

end Usable

namespace Entry

/-- A word that is no text comes up before enough different texts have been found. -/
def Stumbles (limit : Nat) (words : List Value) : Prop :=
  ∃ (texts : List String) (other : Value) (rest : List Value),
    words = texts.map Value.text ++ other :: rest ∧ (∀ s, other ≠ .text s) ∧
      texts.eraseDups.length < limit

/-- A related word that is to be shown is no text. -/
def Unshowable (e : Entry) : Prop :=
  e.meanings ≠ [] ∧ (Stumbles synonymLimit e.synonyms ∨ Stumbles antonymLimit e.antonyms)

section Showing

variable {limit : Nat} {seen read : List String} {words : List Value} {e : Entry} {s : String}

theorem distinct_full : distinct seen.length seen words = .ok seen := by
  cases words with
  | nil => rfl
  | cons v words =>
    unfold distinct
    rw [if_pos rfl]

theorem distinct_other (space : seen.length < limit) (other : ∀ s, v ≠ .text s) :
    distinct limit seen (v :: words) = .error .wrongKind := by
  unfold distinct
  rw [if_neg (Nat.ne_of_lt space)]
  split
  · exact absurd rfl (other _)
  · rfl

theorem eraseDups_snoc (read : List String) (s : String) :
    (read ++ [s]).eraseDups = if s ∈ read then read.eraseDups else read.eraseDups ++ [s] := by
  rw [List.eraseDups_append]
  by_cases known : s ∈ read
  · simp [known, List.removeAll]
  · simp [known, List.removeAll, List.eraseDups_cons]

/-- What has been seen are the different texts among those that have been read. -/
theorem distinct_text (space : read.eraseDups.length < limit) :
    distinct limit read.eraseDups (.text s :: words) =
      distinct limit (read ++ [s]).eraseDups words := by
  rw [distinct, if_neg (Nat.ne_of_lt space), eraseDups_snoc]
  simp only [List.contains_iff_mem, List.mem_eraseDups]

theorem length_eraseDups_le_append (read texts : List String) :
    read.eraseDups.length ≤ (read ++ texts).eraseDups.length := by
  rw [List.eraseDups_append, List.length_append]
  exact Nat.le_add_right _ _

theorem length_eraseDups_snoc_le (space : read.eraseDups.length < limit) :
    (read ++ [s]).eraseDups.length ≤ limit := by
  rw [eraseDups_snoc]
  split
  · exact Nat.le_of_lt space
  · rwa [List.length_append]

theorem distinct_eq_error_iff (read : List String) (space : read.eraseDups.length ≤ limit) :
    distinct limit read.eraseDups words = .error m ↔ m = .wrongKind ∧
      ∃ (texts : List String) (other : Value) (rest : List Value),
        words = texts.map Value.text ++ other :: rest ∧ (∀ s, other ≠ .text s) ∧
          (read ++ texts).eraseDups.length < limit := by
  induction words generalizing read with
  | nil => simp [distinct]
  | cons v words ih =>
    rcases Nat.eq_or_lt_of_le space with rfl | space
    · rw [distinct_full]
      refine ⟨nofun, ?_⟩
      rintro ⟨-, texts, -, -, -, -, few⟩
      exact absurd few (Nat.not_lt_of_le (length_eraseDups_le_append read texts))
    by_cases text : ∃ s, v = .text s
    · obtain ⟨s, rfl⟩ := text
      rw [distinct_text space, ih _ (length_eraseDups_snoc_le space)]
      constructor
      · rintro ⟨rfl, texts, other, rest, rfl, noText, few⟩
        exact ⟨rfl, s :: texts, other, rest, rfl, noText, by rwa [List.append_cons]⟩
      · rintro ⟨rfl, texts, other, rest, split, noText, few⟩
        cases texts with
        | nil =>
          cases split
          exact absurd rfl (noText s)
        | cons s' texts =>
          cases split
          exact ⟨rfl, texts, other, rest, rfl, noText, by rwa [List.append_cons] at few⟩
    · have other : ∀ s, v ≠ .text s := fun s same => text ⟨s, same⟩
      rw [distinct_other space other]
      constructor
      · intro h
        cases h
        exact ⟨rfl, [], v, words, rfl, other, by rwa [List.append_nil]⟩
      · rintro ⟨rfl, -⟩
        rfl

theorem relatedLine_eq_error_iff {label : String} :
    relatedLine label limit words = .error m ↔ m = .wrongKind ∧ Stumbles limit words := by
  have shown : distinct limit [] words = .error m ↔ m = .wrongKind ∧ Stumbles limit words :=
    distinct_eq_error_iff [] (Nat.zero_le limit)
  rw [relatedLine, bind_eq_error_iff, shown]
  constructor
  · rintro (h | ⟨texts, -, h⟩)
    · exact h
    · cases h
  · exact .inl

theorem render_eq_error_iff : e.render = .error m ↔ m = .wrongKind ∧ e.Unshowable := by
  have lines : e.render = .error m ↔ e.lines = .error m := by
    rw [render, bind_eq_error_iff]
    constructor
    · rintro (h | ⟨lines, -, h⟩)
      · exact h
      · cases h
    · exact .inl
  rw [lines, Entry.lines, Unshowable]
  cases e.meanings with
  | nil => simp
  | cons first others =>
    simp only [bind_eq_error_iff, relatedLine_eq_error_iff]
    constructor
    · rintro (⟨rfl, h⟩ | ⟨_, -, ⟨rfl, h⟩ | ⟨_, -, h⟩⟩)
      · exact ⟨rfl, nofun, .inl h⟩
      · exact ⟨rfl, nofun, .inr h⟩
      · cases h
    · rintro ⟨rfl, -, h⟩
      cases shown : relatedLine "Synonyms" synonymLimit e.synonyms with
      | error m => exact .inl ⟨rfl, (relatedLine_eq_error_iff.1 shown).2⟩
      | ok lines =>
        refine .inr ⟨lines, rfl, .inl ⟨rfl, h.resolve_left ?_⟩⟩
        intro stumbles
        cases shown.symm.trans (relatedLine_eq_error_iff.2 ⟨rfl, stumbles⟩)

theorem exists_render (h : ¬ e.Unshowable) : ∃ text, e.render = .ok text := by
  cases shown : e.render with
  | error m => exact absurd (render_eq_error_iff.1 shown).2 h
  | ok text => exact ⟨text, rfl⟩

theorem not_stumbles_texts (texts : List String) : ¬ Stumbles limit (texts.map Value.text) := by
  rintro ⟨before, other, rest, split, noText, -⟩
  have member : other ∈ texts.map Value.text := by
    rw [split]
    exact List.mem_append_right _ List.mem_cons_self
  obtain ⟨s, -, rfl⟩ := List.mem_map.1 member
  exact noText s rfl

end Showing

end Entry

section Depth

variable {item default : Value} {items : List Value} {name : String} {bound : Nat}
  {related : Related}

theorem depth_listed (h : listed v name = .ok items) : ∀ item ∈ items, item.depth ≤ v.depth - 2 := by
  obtain ⟨w, hw, hitems⟩ := bind_eq_ok_iff.1 h
  have parts := Value.depth_parts hitems
  rcases (Value.depth_fieldOr hw).2 with rfl | inside
  · cases hitems
    simp
  · intro item member
    have itemDepth := parts item member
    omega

namespace Related

def Within (bound : Nat) (related : Related) : Prop :=
  (∀ w ∈ related.synonyms, w.depth ≤ bound) ∧ ∀ w ∈ related.antonyms, w.depth ≤ bound

theorem Within.append {a b : Related} (ha : a.Within bound) (hb : b.Within bound) :
    (a.append b).Within bound :=
  ⟨List.forall_mem_append.2 ⟨ha.1, hb.1⟩, List.forall_mem_append.2 ⟨ha.2, hb.2⟩⟩

theorem Within.mono {larger : Nat} (h : related.Within bound) (le : bound ≤ larger) :
    related.Within larger :=
  ⟨fun w member => Nat.le_trans (h.1 w member) le, fun w member => Nat.le_trans (h.2 w member) le⟩

theorem within_join {parts : List Related} (h : ∀ part ∈ parts, part.Within bound) :
    (join parts).Within bound := by
  rw [join_eq]
  constructor
  · intro w member
    obtain ⟨part, source, inside⟩ := List.mem_flatMap.1 member
    exact (h part source).1 w inside
  · intro w member
    obtain ⟨part, source, inside⟩ := List.mem_flatMap.1 member
    exact (h part source).2 w inside

theorem Within.joined {α : Type} {parts : List (α × Related)} (h : related.Within bound)
    (inner : ∀ part ∈ parts, part.2.Within bound) :
    ((join (parts.map (·.2))).append related).Within bound := by
  refine (within_join ?_).append h
  intro words member
  obtain ⟨part, source, rfl⟩ := List.mem_map.1 member
  exact inner part source

theorem within_own (h : own v = .ok related) : related.Within (v.depth - 2) := by
  simp only [own, bind_eq_ok_iff] at h
  obtain ⟨w, hw, synonyms, hsynonyms, w', hw', antonyms, hantonyms, h⟩ := h
  cases h
  exact ⟨depth_listed (bind_eq_ok_iff.2 ⟨w, hw, hsynonyms⟩),
    depth_listed (bind_eq_ok_iff.2 ⟨w', hw', hantonyms⟩)⟩

end Related

theorem Definition.depth_ofValue {d : Definition} (h : Definition.ofValue item = .ok (d, related)) :
    d.data.depth ≤ item.depth ∧ related.Within (item.depth - 2) := by
  simp only [Definition.ofValue, bind_eq_ok_iff] at h
  obtain ⟨text, htext, sample, hsample, own, hown, h⟩ := h
  cases h
  refine ⟨?_, Related.within_own hown⟩
  have textDepth := Value.depth_field htext
  have sampleDepth := Value.depth_fieldOr_scalar hsample
  simp only [Definition.data, Value.depth, Value.depthOfFields]
  omega

theorem Meaning.depth_ofValue {m : Option Meaning} (h : Meaning.ofValue v = .ok (m, related)) :
    (∀ m' ∈ m, m'.data.depth ≤ max v.depth 2) ∧ related.Within (v.depth - 2) := by
  simp only [Meaning.ofValue, bind_eq_ok_iff] at h
  obtain ⟨w, hw, items, hitems, parts, hparts, own, hown, h⟩ := h
  have inside := depth_listed (bind_eq_ok_iff.2 ⟨w, hw, hitems⟩)
  have made : ∀ part ∈ parts, part.1.data.depth ≤ v.depth - 2 ∧ part.2.Within (v.depth - 2) := by
    intro part member
    obtain ⟨item, source, read⟩ := of_mem_mapM hparts part member
    obtain ⟨data, words⟩ := Definition.depth_ofValue read
    have itemDepth := inside item source
    exact ⟨Nat.le_trans data itemDepth, words.mono (by omega)⟩
  have joined := (Related.within_own hown).joined fun part source => (made part source).2
  split at h
  · cases h
    exact ⟨nofun, joined⟩
  · obtain ⟨kind, hkind, h⟩ := bind_eq_ok_iff.1 h
    cases h
    refine ⟨?_, joined⟩
    rintro _ ⟨⟩
    have kindDepth := Value.depth_fieldOr_scalar hkind
    have definitions : Value.depthOfItems ((parts.map (·.1)).map (·.data)) ≤ v.depth - 2 := by
      rw [Value.depthOfItems_le_iff, List.map_map]
      intro data member
      obtain ⟨part, source, rfl⟩ := List.mem_map.1 member
      exact (made part source).1
    simp only [Meaning.data, Value.depth, Value.depthOfFields]
    omega

/-- The data of an entry are not deeper than what they are read from, or than an entry can be that
holds nothing but texts. -/
theorem Entry.depth_ofValue {e : Entry} (h : Entry.ofValue v word simulated = .ok e) :
    e.data.depth ≤ max v.depth 4 := by
  simp only [Entry.ofValue, bind_eq_ok_iff] at h
  obtain ⟨w, hw, items, hitems, parts, hparts, own, hown, named, hnamed, phonetic, hphonetic, h⟩ := h
  cases h
  have inside := depth_listed (bind_eq_ok_iff.2 ⟨w, hw, hitems⟩)
  have made : ∀ part ∈ parts, (∀ m ∈ part.1, m.data.depth ≤ max (v.depth - 2) 2) ∧
      part.2.Within (v.depth - 2) := by
    intro part member
    obtain ⟨item, source, read⟩ := of_mem_mapM hparts part member
    obtain ⟨data, words⟩ := Meaning.depth_ofValue read
    have itemDepth := inside item source
    exact ⟨fun m here => Nat.le_trans (data m here) (by omega), words.mono (by omega)⟩
  have joined := (Related.within_own hown).joined fun part source => (made part source).2
  have meanings : Value.depthOfItems ((parts.filterMap (·.1)).map (·.data)) ≤
      max (v.depth - 2) 2 := by
    rw [Value.depthOfItems_le_iff]
    intro data member
    obtain ⟨m, source, rfl⟩ := List.mem_map.1 member
    obtain ⟨part, source, here⟩ := List.mem_filterMap.1 source
    exact (made part source).1 m here
  have synonyms := Value.depthOfItems_le_iff.2 joined.1
  have antonyms := Value.depthOfItems_le_iff.2 joined.2
  have phoneticDepth := Value.depth_fieldOr_scalar hphonetic
  have wordDepth : (named.orElse (.text word)).depth ≤ v.depth - 1 :=
    Nat.le_trans (Value.depth_orElse named (.text word))
      (Nat.max_le.2 ⟨Value.depth_fieldOr_scalar hnamed, Nat.zero_le _⟩)
  simp only [Entry.data, Value.depth, Value.depthOfFields]
  omega

end Depth

end Switchboard
