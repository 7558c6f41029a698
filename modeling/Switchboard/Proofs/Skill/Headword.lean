import Mathlib.Data.List.Forall2
import Switchboard.Proofs.Skill.Entry

/-!
# How an entry of a source is shown

An entry of a source has meanings with their definitions, and names related words at each of these
levels. The dictionary keeps all of these words in the order of the document, and the meanings that
have a definition. It shows the first definition of two meanings, and the first of the different words.
-/

namespace Switchboard

/-- The related words that one level of an entry names. -/
structure Words where
  synonyms : List String
  antonyms : List String

structure Sense extends Words where
  text : String
  sample : Value

structure Usage extends Words where
  kind : Value
  senses : List Sense

structure Headword extends Words where
  named : Value
  phonetic : Value
  usages : List Usage

structure DefinedUsage where
  kind : Value
  first : Sense
  others : List Sense

section Documents

/-- A record names these words. Where it has no field for them, there are none. -/
structure Words.In (words : Words) (v : Value) : Prop where
  synonyms : v.fieldOr "synonyms" (.list []) = .ok (.texts words.synonyms)
  antonyms : v.fieldOr "antonyms" (.list []) = .ok (.texts words.antonyms)

structure Sense.In (sense : Sense) (v : Value) : Prop where
  words : sense.toWords.In v
  text : v.field "definition" = .ok (.text sense.text)
  sample : v.fieldOr "example" .null = .ok sense.sample

structure Usage.In (usage : Usage) (v : Value) : Prop where
  words : usage.toWords.In v
  kind : v.fieldOr "partOfSpeech" (.text "unknown") = .ok usage.kind
  senses : ∃ items, v.fieldOr "definitions" (.list []) = .ok (.list items) ∧
    List.Forall₂ Sense.In usage.senses items

structure Headword.In (headword : Headword) (v : Value) : Prop where
  words : headword.toWords.In v
  named : v.fieldOr "word" .null = .ok headword.named
  phonetic : v.fieldOr "phonetic" .null = .ok headword.phonetic
  usages : ∃ items, v.fieldOr "meanings" (.list []) = .ok (.list items) ∧
    List.Forall₂ Usage.In headword.usages items

end Documents

section Order

variable (part : Words → List String)

/-- The words of one kind in a meaning: those of its definitions, and then its own. -/
def Usage.collect (usage : Usage) : List String :=
  usage.senses.flatMap (part ·.toWords) ++ part usage.toWords

/-- The words of one kind in an entry, in the order of the document. -/
def Headword.collect (headword : Headword) : List String :=
  headword.usages.flatMap (Usage.collect part) ++ part headword.toWords

end Order

section Parts

variable {v : Value} {words : Words} {sense : Sense} {usage : Usage} {headword : Headword}
  {word : String} {simulated : Bool}

def Sense.definition (sense : Sense) : Definition := ⟨.text sense.text, sense.sample⟩

def DefinedUsage.meaning (usage : DefinedUsage) : Meaning :=
  ⟨usage.kind, (usage.first :: usage.others).map Sense.definition⟩

def Usage.defined? (usage : Usage) : Option DefinedUsage :=
  match usage.senses with
  | [] => none
  | first :: others => some ⟨usage.kind, first, others⟩

def Headword.defined (headword : Headword) : List DefinedUsage :=
  headword.usages.filterMap Usage.defined?

def Headword.entry (headword : Headword) (word : String) (simulated : Bool) : Entry where
  word := headword.named.orElse (.text word)
  phonetic := headword.phonetic
  meanings := headword.defined.map DefinedUsage.meaning
  synonyms := (headword.collect Words.synonyms).map .text
  antonyms := (headword.collect Words.antonyms).map .text
  simulated := simulated

def Related.ofTexts (collect : (Words → List String) → List String) : Related :=
  ⟨(collect Words.synonyms).map .text, (collect Words.antonyms).map .text⟩

/-- The words of the parts come before the own ones, at each level. -/
theorem Related.joined_ofTexts {α β : Type} (items : List α) (made : α → β)
    (inner : (Words → List String) → α → List String) (words : Words) :
    (join ((items.map fun a => (made a, ofTexts (inner · a))).map (·.2))).append (ofTexts (· words)) =
      ofTexts fun part => items.flatMap (inner part) ++ part words := by
  simp [join_eq, append, ofTexts, List.flatMap_map, List.map_flatMap]

theorem Words.own_of_in (written : words.In v) :
    Related.own v = .ok (.ofTexts (· words)) := by
  rw [Related.own, written.synonyms, ok_bind, Value.texts, Value.parts, ok_bind, written.antonyms]
  rfl

theorem Sense.ofValue_of_in (written : sense.In v) :
    Definition.ofValue v = .ok (sense.definition, .ofTexts (· sense.toWords)) := by
  rw [Definition.ofValue, written.text, ok_bind, written.sample, ok_bind,
    Words.own_of_in written.words]
  rfl

theorem mapM_eq_ok_of_forall₂ {ε α β γ : Type} {f : β → Except ε γ} {g : α → γ} {documents : List α}
    {items : List β} (each : List.Forall₂ (fun a b => f b = .ok (g a)) documents items) :
    items.mapM f = .ok (documents.map g) := by
  induction each with
  | nil => rfl
  | cons first _ ih =>
    rw [List.mapM_cons, first, ok_bind, ih]
    rfl

theorem Usage.ofValue_of_in (written : usage.In v) :
    Meaning.ofValue v =
      .ok (usage.defined?.map DefinedUsage.meaning, .ofTexts (usage.collect ·)) := by
  obtain ⟨items, listed, senses⟩ := written.senses
  have words : (Related.join ((usage.senses.map fun sense =>
      (sense.definition, Related.ofTexts (· sense.toWords))).map (·.2))).append
      (.ofTexts (· usage.toWords)) = .ofTexts (usage.collect ·) :=
    Related.joined_ofTexts usage.senses Sense.definition (fun part sense => part sense.toWords)
      usage.toWords
  rw [Meaning.ofValue, listed, ok_bind, Value.parts, ok_bind,
    mapM_eq_ok_of_forall₂ (senses.imp fun _ _ => Sense.ofValue_of_in), ok_bind,
    Words.own_of_in written.words, ok_bind, words, written.kind, defined?]
  -- A meaning without definitions is left out, but its words have been taken already.
  cases usage.senses with
  | nil => rfl
  | cons first others =>
    rw [List.map_map]
    rfl

theorem Headword.ofValue_of_in (written : headword.In v) :
    Entry.ofValue v word simulated = .ok (headword.entry word simulated) := by
  obtain ⟨items, listed, usages⟩ := written.usages
  have words := Related.joined_ofTexts headword.usages
    (fun usage => usage.defined?.map DefinedUsage.meaning) Usage.collect headword.toWords
  have meanings : ((headword.usages.map fun usage => (usage.defined?.map DefinedUsage.meaning,
      Related.ofTexts (usage.collect ·))).filterMap (·.1)) =
      headword.defined.map DefinedUsage.meaning := by
    rw [List.filterMap_map, defined, List.map_filterMap]
    rfl
  rw [Entry.ofValue, listed, ok_bind, Value.parts, ok_bind,
    mapM_eq_ok_of_forall₂ (usages.imp fun _ _ => Usage.ofValue_of_in), ok_bind,
    Words.own_of_in written.words, ok_bind, words, written.named, ok_bind, written.phonetic,
    ok_bind, meanings]
  rfl

end Parts

section Showing

variable {limit : Nat} {headword : Headword} {v : Value}

/-- The different texts are found in the order of their first occurrence, and the search ends early
only when there are enough of them. -/
theorem Entry.distinct_texts (read texts : List String) (space : read.eraseDups.length ≤ limit) :
    distinct limit read.eraseDups (texts.map .text) =
      .ok ((read ++ texts).eraseDups.take limit) := by
  -- What has been seen so far is told by all that has been read, which grows by each text.
  induction texts generalizing read with
  | nil => rw [List.append_nil, List.take_of_length_le space, List.map_nil, distinct]
  | cons s texts ih =>
    rcases Nat.eq_or_lt_of_le space with rfl | space
    · rw [distinct_full, List.eraseDups_append, List.take_left]
    · rw [List.map_cons, distinct_text space, ih _ (length_eraseDups_snoc_le space),
        List.append_assoc, List.singleton_append]

def wordLine (label : String) : List String → List String
  | [] => []
  | words => [label ++ ": " ++ ", ".intercalate words]

theorem Entry.relatedLine_texts (label : String) (limit : Nat) (texts : List String) :
    relatedLine label limit (texts.map .text) = .ok (wordLine label (texts.eraseDups.take limit)) := by
  have shown : distinct limit [] (texts.map .text) = .ok (texts.eraseDups.take limit) :=
    distinct_texts [] texts (Nat.zero_le limit)
  rw [relatedLine, shown, ok_bind]
  cases texts.eraseDups.take limit <;> rfl

/-- The lines of an entry with a meaning, whose related words are all texts. -/
theorem Entry.render_of_texts {e : Entry} {synonyms antonyms : List String} {first : Meaning}
    {others : List Meaning} (meanings : e.meanings = first :: others)
    (hsynonyms : e.synonyms = synonyms.map .text) (hantonyms : e.antonyms = antonyms.map .text) :
    e.render = .ok ("\n".intercalate
      ([e.heading ++ "(" ++ first.partOfSpeech.display ++ ") " ++ first.firstDefinition] ++
        ((others.take 1).map fun second =>
          "Also (" ++ second.partOfSpeech.display ++ "): " ++ second.firstDefinition) ++
        wordLine "Synonyms" (synonyms.eraseDups.take synonymLimit) ++
        wordLine "Antonyms" (antonyms.eraseDups.take antonymLimit))) := by
  rw [render, lines, meanings, hsynonyms, hantonyms]
  simp only [relatedLine_texts, ok_bind, List.cons_append, List.nil_append]
  rfl

/-- An entry of a source can always be read and shown. No related word is lost or added, and their
order is that of the document; the meanings that are kept are those with a definition. The first
definitions of the first two of them are shown, and then the first five different synonyms and the
first three different antonyms. -/
theorem Headword.kept_and_shown (written : headword.In v) (word : String) (simulated : Bool) :
    ∃ e, Entry.ofValue v word simulated = .ok e ∧ e.word = headword.named.orElse (.text word) ∧
      e.synonyms = (headword.collect Words.synonyms).map .text ∧
      e.antonyms = (headword.collect Words.antonyms).map .text ∧
      e.meanings = headword.defined.map DefinedUsage.meaning ∧
      (∀ m ∈ e.meanings, m.definitions ≠ []) ∧
      (headword.defined = [] → e.render = .ok (e.heading ++ "No definition found.")) ∧
      ∀ first others, headword.defined = first :: others →
        e.render = .ok ("\n".intercalate
          ([e.heading ++ "(" ++ first.kind.display ++ ") " ++ first.first.text] ++
            ((others.take 1).map fun second =>
              "Also (" ++ second.kind.display ++ "): " ++ second.first.text) ++
            wordLine "Synonyms" ((headword.collect Words.synonyms).eraseDups.take 5) ++
            wordLine "Antonyms" ((headword.collect Words.antonyms).eraseDups.take 3))) := by
  refine ⟨headword.entry word simulated, Headword.ofValue_of_in written, rfl, rfl, rfl, rfl,
    ?_, ?_, ?_⟩
  · intro m member
    obtain ⟨usage, -, rfl⟩ := List.mem_map.1 member
    exact List.cons_ne_nil _ _
  · intro none
    have meanings : (headword.entry word simulated).meanings = [] := by
      rw [entry, none]
      rfl
    rw [Entry.render, Entry.lines, meanings, ok_bind, String.intercalate_singleton]
    rfl
  · intro first others some
    have meanings : (headword.entry word simulated).meanings =
        first.meaning :: others.map DefinedUsage.meaning := by
      rw [entry, some]
      rfl
    rw [Entry.render_of_texts meanings rfl rfl, ← List.map_take, List.map_map]
    rfl

def runDocument : Value :=
  .record [
    ("word", .text "run"),
    ("meanings", .list [
      .record [("synonyms", .texts ["dash"])],
      .record [
        ("partOfSpeech", .text "verb"),
        ("definitions", .list [
          .record [("definition", .text "Move fast."), ("synonyms", .texts ["race", "dash"])]]),
        ("antonyms", .texts ["walk"])]]),
    ("synonyms", .texts ["race", "rush"])]

def runHeadword : Headword where
  named := .text "run"
  phonetic := .null
  usages := [⟨⟨["dash"], []⟩, .text "unknown", []⟩,
    ⟨⟨[], ["walk"]⟩, .text "verb", [⟨⟨["race", "dash"], []⟩, "Move fast.", .null⟩]⟩]
  synonyms := ["race", "rush"]
  antonyms := []

theorem Headword.kept_and_shown_run : runHeadword.In runDocument ∧
    ∃ e, Entry.ofValue runDocument "run" false = .ok e ∧
      e.synonyms = ["dash", "race", "dash", "race", "rush"].map .text ∧ e.meanings.length = 1 ∧
      e.render = .ok ("Definition of \"run\": (verb) Move fast.\n" ++
        "Synonyms: dash, race, rush\nAntonyms: walk") := by
  have written : runHeadword.In runDocument :=
    ⟨⟨rfl, rfl⟩, rfl, rfl, _, rfl, .cons ⟨⟨rfl, rfl⟩, rfl, _, rfl, .nil⟩
      (.cons ⟨⟨rfl, rfl⟩, rfl, _, rfl, .cons ⟨⟨rfl, rfl⟩, rfl, rfl⟩ .nil⟩ .nil)⟩
  obtain ⟨e, read, named, synonyms, -, meanings, -, -, lines⟩ :=
    Headword.kept_and_shown written "run" false
  refine ⟨written, e, read, synonyms, ?_, ?_⟩
  · rw [meanings]
    rfl
  · have heading : e.heading = "Definition of \"run\": " := by
      change "Definition of \"" ++ e.word.display ++ "\": " = _
      rw [named]
      rfl
    rw [heading] at lines
    exact lines _ _ rfl

end Showing

end Switchboard
