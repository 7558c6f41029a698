import Switchboard.Proofs.Routing.FirstHit

/-!
# Where a phrase stands

A phrase is compared with a text character by character, so what it covers has as many characters as the
phrase, whatever their small forms are. The first place where it stands decides: the argument is what
comes after it in the text itself.
-/

namespace Switchboard

open Text

/-- The characters of a text from an index on are the letters of a phrase, as many as it has. -/
def StandsAt (phrase text : List Char) (i : Nat) : Prop :=
  SameLetters phrase ((text.drop i).take phrase.length)

/-- The least index at which a phrase stands. -/
structure FirstAt (phrase text : List Char) (i : Nat) : Prop where
  here : StandsAt phrase text i
  missed : ∀ j < i, ¬ StandsAt phrase text j

variable {phrase text rest : List Char} {c : Char} {i j : Nat}

theorem standsAt_succ : StandsAt phrase (c :: text) (i + 1) ↔ StandsAt phrase text i := by
  rw [StandsAt, StandsAt, List.drop_succ_cons]

theorem standsAt_nil : StandsAt phrase [] i ↔ phrase = [] := by
  rw [StandsAt, List.drop_nil, List.take_nil, SameLetters, List.map_nil, List.map_eq_nil_iff]

theorem afterWord_eq_some_iff_standsAt :
    afterWord phrase text = some rest ↔ StandsAt phrase text 0 ∧ rest = text.drop phrase.length := by
  rw [afterWord_eq_some_iff, StandsAt, List.drop_zero]
  constructor
  · rintro ⟨found, rfl, same⟩
    rw [← same.length_eq, List.take_left, List.drop_left]
    exact ⟨same, rfl⟩
  · rintro ⟨same, rfl⟩
    exact ⟨_, (List.take_append_drop _ _).symm, same⟩

theorem afterWord_eq_none_iff : afterWord phrase text = none ↔ ¬ StandsAt phrase text 0 := by
  rw [Option.eq_none_iff_forall_ne_some]
  constructor
  · exact fun h stands => h _ (afterWord_eq_some_iff_standsAt.2 ⟨stands, rfl⟩)
  · exact fun missed rest h => missed (afterWord_eq_some_iff_standsAt.1 h).1

theorem FirstAt.unique (h : FirstAt phrase text i) (h' : FirstAt phrase text j) : i = j := by
  rcases Nat.lt_trichotomy i j with before | same | after
  · exact absurd h.here (h'.missed i before)
  · exact same
  · exact absurd h'.here (h.missed j after)

theorem FirstAt.succ (missed : ¬ StandsAt phrase (c :: text) 0) (h : FirstAt phrase text i) :
    FirstAt phrase (c :: text) (i + 1) where
  here := standsAt_succ.2 h.here
  missed := by
    intro j before stands
    cases j with
    | zero => exact missed stands
    | succ j => exact h.missed j (Nat.lt_of_succ_lt_succ before) (standsAt_succ.1 stands)

theorem afterPhrase_eq_some_iff :
    afterPhrase phrase text = some rest ↔
      ∃ i, FirstAt phrase text i ∧ rest = text.drop (i + phrase.length) := by
  have zero {text : List Char} (stands : StandsAt phrase text 0) : FirstAt phrase text 0 :=
    ⟨stands, nofun⟩
  induction text with
  | nil =>
    rw [afterPhrase, afterWord_eq_some_iff_standsAt]
    constructor
    · rintro ⟨stands, rfl⟩
      exact ⟨0, zero stands, by rw [Nat.zero_add]⟩
    · rintro ⟨i, first, rfl⟩
      have empty := standsAt_nil.1 first.here
      exact ⟨standsAt_nil.2 empty, by rw [List.drop_nil, List.drop_nil]⟩
  | cons c text ih =>
    rw [afterPhrase]
    cases here : afterWord phrase (c :: text) with
    | some found =>
      obtain ⟨stands, rfl⟩ := afterWord_eq_some_iff_standsAt.1 here
      constructor
      · rintro ⟨⟩
        exact ⟨0, zero stands, by rw [Nat.zero_add]⟩
      · rintro ⟨i, first, rfl⟩
        rw [first.unique (zero stands), Nat.zero_add]
    | none =>
      have missed := afterWord_eq_none_iff.1 here
      change afterPhrase phrase text = some rest ↔ _
      refine ih.trans ?_
      constructor
      · rintro ⟨i, first, rfl⟩
        exact ⟨i + 1, first.succ missed, by rw [Nat.add_right_comm, List.drop_succ_cons]⟩
      · rintro ⟨i, first, rfl⟩
        cases i with
        | zero => exact absurd first.here missed
        | succ i =>
          have later : FirstAt phrase text i :=
            ⟨standsAt_succ.1 first.here, fun j before stands =>
              first.missed (j + 1) (Nat.succ_lt_succ before) (standsAt_succ.2 stands)⟩
          exact ⟨i, later, by rw [Nat.add_right_comm, List.drop_succ_cons]⟩

/-- The capital in the text counts as one letter, though its small form is two characters. -/
example : afterPhrase "ist".toList "xİST Foo".toList = some " Foo".toList := by decide

theorem afterPhrase_of_afterWord (h : afterWord phrase text = some rest) :
    afterPhrase phrase text = some rest := by
  obtain ⟨stands, rfl⟩ := afterWord_eq_some_iff_standsAt.1 h
  exact afterPhrase_eq_some_iff.2 ⟨0, ⟨stands, nofun⟩, by rw [Nat.zero_add]⟩

/-- A phrase that stands in a text character by character is found. -/
theorem Says.of_infix {phrase : String} (h : phrase.toList <:+: text) : Says phrase text := by
  obtain ⟨before, after, rfl⟩ := h
  exact ⟨before, phrase.toList, after, List.append_assoc .., rfl⟩

/-- A decision by a phrase names a phrase of its skill that stands in the trimmed text. Its argument is
what comes after the phrase, where that stands first, without the blanks around it. Every phrase is found
in a text that holds it as it is, and then some skill takes the text if that is not blank and the phrase
is one of a skill. -/
theorem matchText_spoken (assistant : Assistant) (text : String) :
    (∀ decision, assistant.matchText text = some decision → decision.strategy = .naturalLanguage →
      decision.trigger ∈ decision.skill.phrases ∧ ∃ i,
        FirstAt decision.trigger.toList (trim text.toList) i ∧
        decision.argument =
          String.ofList (trim ((trim text.toList).drop (i + decision.trigger.length)))) ∧
      ∀ phrase : String, phrase.toList <:+: trim text.toList →
        (∃ rest, afterPhrase phrase.toList (trim text.toList) = some rest) ∧
          ∀ skill ∈ assistant.skills, phrase ∈ skill.phrases → trim text.toList ≠ [] →
            ∃ decision, assistant.matchText text = some decision := by
  refine ⟨?_, ?_⟩
  · intro decision h spoken
    by_cases given : trim text.toList = []
    · cases (matchText_of_trim_eq_nil given).symm.trans h
    · rw [matchText_of_trim_ne_nil given] at h
      obtain ⟨cue, rest, -, belongs, found, strategy, named, argument⟩ := exists_call_of_decide? h
      cases cue with
      | trigger t => cases spoken.symm.trans strategy
      | phrase p =>
        obtain ⟨i, first, rfl⟩ := afterPhrase_eq_some_iff.1 found
        obtain rfl : decision.trigger = p := named
        exact ⟨belongs, i, first, argument⟩
  · intro phrase stands
    have found := Says.of_infix stands
    refine ⟨Option.isSome_iff_exists.1 ((afterPhrase_isSome_iff phrase _).2 found), ?_⟩
    intro skill known belongs given
    rw [matchText_of_trim_ne_nil given]
    cases decided : decide? assistant.skills (trim text.toList) with
    | some decision => exact ⟨decision, rfl⟩
    | none =>
      have missed := decide?_eq_none_iff.1 decided ⟨skill, .phrase phrase⟩
        (mem_calls_iff.2 ⟨known, belongs⟩)
      exact absurd found missed

end Switchboard
