import Switchboard.Fallback
import Switchboard.Proofs.Data.Attempt
import Switchboard.Proofs.Text.Lowercase

/-!
# Keywords in small talk

A keyword and a text are compared in small letters, and each is put into small letters as a whole. So a
keyword that stands in a text is found there if its small form in the text is its small form alone. That
may fail for a capital sigma at one of its ends, where the text goes on with a letter: then the message may
be that of a later group, or the one for texts that nothing is known about.
-/

namespace Switchboard

open Text

theorem Text.contains_eq_true_iff {text piece : List Char} :
    Text.contains text piece = true ↔ piece <:+: text := by
  induction text with
  | nil => rw [Text.contains, List.isEmpty_iff, List.infix_nil]
  | cons c rest ih =>
    rw [Text.contains, Bool.or_eq_true, ih, List.isPrefixOf_iff_prefix, List.infix_cons_iff]

namespace Topic

/-- The place of a topic in the order in which the topics are looked for. -/
def rank : Topic → Nat
  | greeting => 0
  | help => 1
  | gratitude => 2
  | unknown => 3

def listing : Topic → Option (String × List String)
  | greeting => some ("greetings", Fallback.default.greetings)
  | help => some ("help_keywords", Fallback.default.help)
  | gratitude => some ("gratitude_keywords", Fallback.default.gratitude)
  | unknown => none

end Topic

namespace Fallback

variable {config : Value} {fallback : Fallback} {topic : Topic} {k : String} {text : String}

/-- A configuration gives a keyword for a topic, by a list or by leaving the list out. -/
def IsKeyword (config : Value) (topic : Topic) (k : String) : Prop :=
  ∃ field otherwise found, topic.listing = some (field, otherwise) ∧
    (config.orElse .emptyRecord).field? field = .ok found ∧
    match found with
    | none => k ∈ otherwise
    | some v => ∃ parts, v.parts = .ok parts ∧ k ∈ parts.map Value.display

def keywordsOf (fallback : Fallback) : Topic → List String
  | .greeting => fallback.greetings
  | .help => fallback.help
  | .gratitude => fallback.gratitude
  | .unknown => []

theorem keywordsOf_of_ofConfig (made : ofConfig config = .ok fallback) {field : String}
    {otherwise : List String} (listed : topic.listing = some (field, otherwise)) :
    ∃ found, (config.orElse .emptyRecord).field? field = .ok found ∧
      keywords found otherwise = .ok (fallback.keywordsOf topic) := by
  rw [ofConfig] at made
  obtain ⟨greetings, hgreetings, made⟩ := bind_eq_ok_iff.1 made
  obtain ⟨help, hhelp, made⟩ := bind_eq_ok_iff.1 made
  obtain ⟨gratitude, hgratitude, made⟩ := bind_eq_ok_iff.1 made
  obtain ⟨messages, -, made⟩ := bind_eq_ok_iff.1 made
  obtain ⟨greetingWords, hgreetingWords, made⟩ := bind_eq_ok_iff.1 made
  obtain ⟨helpWords, hhelpWords, made⟩ := bind_eq_ok_iff.1 made
  obtain ⟨gratitudeWords, hgratitudeWords, made⟩ := bind_eq_ok_iff.1 made
  obtain ⟨table, -, made⟩ := bind_eq_ok_iff.1 made
  cases made
  cases topic with
  | greeting =>
    cases listed
    exact ⟨greetings, hgreetings, hgreetingWords⟩
  | help =>
    cases listed
    exact ⟨help, hhelp, hhelpWords⟩
  | gratitude =>
    cases listed
    exact ⟨gratitude, hgratitude, hgratitudeWords⟩
  | unknown => cases listed

theorem lowerText_of_listing {field : String} {otherwise : List String}
    (listed : topic.listing = some (field, otherwise)) (known : k ∈ otherwise) : lowerText k = k := by
  have all : ∀ topic ∈ [Topic.greeting, .help, .gratitude], ∀ entry ∈ topic.listing,
      ∀ k ∈ entry.2, lowerText k = k := by decide +kernel
  cases topic with
  | unknown => cases listed
  | _ => exact all _ (by decide) _ listed k known

theorem lowerText_mem_keywordsOf (made : ofConfig config = .ok fallback)
    (known : IsKeyword config topic k) : lowerText k ∈ fallback.keywordsOf topic := by
  obtain ⟨field, otherwise, found, listed, entry, given⟩ := known
  obtain ⟨found', entry', read⟩ := keywordsOf_of_ofConfig made listed
  obtain rfl : found = found' := Except.ok.inj (entry.symm.trans entry')
  cases found with
  | none =>
    cases read
    rw [lowerText_of_listing listed given]
    exact given
  | some v =>
    obtain ⟨parts, split, member⟩ := given
    rw [keywords, split] at read
    obtain ⟨part, here, rfl⟩ := List.mem_map.1 member
    rw [← Except.ok.inj read]
    exact List.mem_map.2 ⟨part, here, rfl⟩

theorem topic_ne_unknown (known : IsKeyword config topic k) : topic ≠ .unknown := by
  rintro rfl
  obtain ⟨_, _, _, listed, -⟩ := known
  cases listed

/-- A group with a keyword in the text keeps the later groups out. -/
theorem rank_topic_le (found : mentions (fallback.keywordsOf topic) (lower text.toList) = true) :
    (fallback.topic text).rank ≤ topic.rank := by
  unfold Fallback.topic
  dsimp only
  cases topic with
  | greeting =>
    rw [if_pos (show mentions fallback.greetings _ = true from found)]
  | help =>
    rw [if_pos (show mentions fallback.help _ = true from found)]
    split <;> simp [Topic.rank]
  | gratitude =>
    rw [if_pos (show mentions fallback.gratitude _ = true from found)]
    split
    · simp [Topic.rank]
    · split <;> simp [Topic.rank]
  | unknown => cases found

/-- A keyword of a configuration that stands in a text has a place in the small form of the text. What
stands there is the small form of the keyword alone if and only if the text around the keyword does not
disturb its capital sigmas, as is so for a keyword without any, and wherever no letter goes on from the
keyword to either side. Then the message is that of the keyword's group or of an earlier one. -/
theorem respond_of_keyword (made : ofConfig config = .ok fallback) (known : IsKeyword config topic k)
    (before after : String) :
    (∃ front back, lower (before ++ k ++ after).toList =
      front ++ (lowerWithin before.toList.reverse k.toList after.toList ++ back)) ∧
    (lowerWithin before.toList.reverse k.toList after.toList = lower k.toList ↔
      Undisturbed before.toList k.toList after.toList) ∧
    (capitalSigma ∉ k.toList → Undisturbed before.toList k.toList after.toList) ∧
    (goesOnWithCased before.toList.reverse = false → goesOnWithCased after.toList = false →
      Undisturbed before.toList k.toList after.toList) ∧
    (Undisturbed before.toList k.toList after.toList →
      ∃ t : Topic, t.rank ≤ topic.rank ∧ t ≠ .unknown ∧ fallback.topic (before ++ k ++ after) = t ∧
        fallback.respond (before ++ k ++ after) = fallback.message t) := by
  have text : (before ++ k ++ after).toList = before.toList ++ (k.toList ++ after.toList) := by
    simp [String.toList_append]
  have place := lower_append₃ before.toList k.toList after.toList
  refine ⟨⟨_, _, by rw [text, place]⟩, lowerWithin_eq_lower_iff, .of_not_mem, .of_apart, ?_⟩
  intro undisturbed
  rw [lowerWithin_eq_lower_iff.2 undisturbed, ← text] at place
  have stands : Text.contains (lower (before ++ k ++ after).toList) (lowerText k).toList = true := by
    rw [Text.contains_eq_true_iff, place, lowerText, String.toList_ofList]
    exact List.infix_append' ..
  have found : mentions (fallback.keywordsOf topic) (lower (before ++ k ++ after).toList) = true :=
    List.any_eq_true.2 ⟨lowerText k, lowerText_mem_keywordsOf made known, stands⟩
  have early := rank_topic_le found
  refine ⟨fallback.topic (before ++ k ++ after), early, ?_, rfl, rfl⟩
  intro unknown
  rw [unknown] at early
  cases topic with
  | unknown => exact topic_ne_unknown known rfl
  | _ => simp [Topic.rank] at early

def streetConfig : Value := .record [("help_keywords", .texts ["ΟΔΟΣ"])]

theorem isKeyword_street : IsKeyword streetConfig .help "ΟΔΟΣ" :=
  ⟨_, _, _, rfl, rfl, _, rfl, List.mem_singleton.2 rfl⟩

theorem respond_of_keyword_street :
    ∃ fallback, ofConfig streetConfig = .ok fallback ∧ IsKeyword streetConfig .help "ΟΔΟΣ" ∧
      ∃ t : Topic, t.rank ≤ Topic.help.rank ∧ t ≠ .unknown ∧
        fallback.topic ("ΠΟΙΑ " ++ "ΟΔΟΣ" ++ " ΕΙΝΑΙ;") = t ∧
        fallback.respond ("ΠΟΙΑ " ++ "ΟΔΟΣ" ++ " ΕΙΝΑΙ;") = fallback.message t := by
  obtain ⟨fallback, made⟩ : ∃ fallback, ofConfig streetConfig = .ok fallback := ⟨_, rfl⟩
  obtain ⟨-, -, -, apart, recognised⟩ :=
    respond_of_keyword made isKeyword_street "ΠΟΙΑ " " ΕΙΝΑΙ;"
  have undisturbed := apart (by decide +kernel) (by decide +kernel)
  exact ⟨fallback, made, isKeyword_street, recognised undisturbed⟩

/-- The keyword stands at the head of a longer word, where its sigma is not final. -/
theorem respond_longerWord :
    ∃ fallback, ofConfig streetConfig = .ok fallback ∧ IsKeyword streetConfig .help "ΟΔΟΣ" ∧
      fallback.topic ("" ++ "ΟΔΟΣ" ++ "ΗΜΑΝΣΗ") = .unknown ∧
      fallback.respond ("" ++ "ΟΔΟΣ" ++ "ΗΜΑΝΣΗ") = .text Topic.unknown.defaultMessage := by
  refine ⟨_, rfl, isKeyword_street, ?_, ?_⟩
  · decide +kernel
  · decide +kernel

end Fallback

end Switchboard
