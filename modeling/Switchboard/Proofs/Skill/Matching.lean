import Switchboard.Proofs.Text.Trim
import Switchboard.Skill.Trigger

/-!
# What triggers and phrases match

The searches through a text are compared with what they look for. A command stands at the start of a
text, with the letters of its name in any case; `\s+(.+)$` after it are blanks and one line. A phrase
stands anywhere. In a trimmed text the line is everything after the blanks, so there is a match if
and only if that is one line.
-/

namespace Switchboard

open Text

/-- Two texts with the same letters one by one, whatever their case. -/
def SameLetters (word text : List Char) : Prop := word.map letterKey = text.map letterKey

/-- Whether the words have the same letters up to the end of the shorter one. -/
def agree (word other : List Char) : Bool :=
  (word.map letterKey).isPrefixOf (other.map letterKey) ||
    (other.map letterKey).isPrefixOf (word.map letterKey)

theorem SameLetters.length_eq {word text : List Char} (h : SameLetters word text) :
    text.length = word.length := by
  simpa using (congrArg List.length h).symm

theorem smallForm_toLower (c : Char) : smallForm c.toLower = smallForm c := by
  by_cases capital : 65 ≤ c.toNat ∧ c.toNat ≤ 90
  · have all : ∀ n, n ≤ 90 → 65 ≤ n →
        smallForm (Char.ofNat n).toLower = smallForm (Char.ofNat n) := by decide
    have here := all c.toNat capital.2 capital.1
    rwa [Char.ofNat_toNat] at here
  · have unchanged : c.toLower = c := by
      unfold Char.toLower
      split
      · rename_i bounds
        exact absurd bounds capital
      · rfl
    rw [unchanged]

theorem letterKey_toLower (c : Char) : letterKey c.toLower = letterKey c := by
  rw [letterKey, letterKey, smallForm_toLower]

/-- The case of the letters of ASCII makes no difference. -/
theorem sameLetters_of_toLower {word text : List Char}
    (h : word.map Char.toLower = text.map Char.toLower) : SameLetters word text := by
  have keys (s : List Char) : s.map letterKey = (s.map Char.toLower).map letterKey := by
    rw [List.map_map]
    exact List.map_congr_left fun c _ => (letterKey_toLower c).symm
  rw [SameLetters, keys word, keys text, h]

theorem afterWord_eq_some_iff {word text rest : List Char} :
    afterWord word text = some rest ↔ ∃ found, text = found ++ rest ∧ SameLetters word found := by
  induction word generalizing text with
  | nil =>
    constructor
    · intro h
      exact ⟨[], Option.some.inj h, rfl⟩
    · rintro ⟨found, rfl, same⟩
      obtain rfl := List.length_eq_zero_iff.1 same.length_eq
      rfl
  | cons w word ih =>
    cases text with
    | nil =>
      constructor
      · intro h
        cases h
      · rintro ⟨found, parts, same⟩
        have long := same.length_eq
        obtain ⟨rfl, -⟩ := List.append_eq_nil_iff.1 parts.symm
        cases long
    | cons c text =>
      rw [afterWord]
      constructor
      · intro h
        split at h
        · rename_i first
          obtain ⟨found, rfl, same⟩ := ih.1 h
          refine ⟨c :: found, rfl, ?_⟩
          rw [SameLetters, List.map_cons, List.map_cons, ← same, eq_of_beq first]
        · cases h
      · rintro ⟨found, parts, same⟩
        cases found with
        | nil => cases same.length_eq
        | cons d found =>
          obtain ⟨rfl, rfl⟩ := List.cons.inj parts
          obtain ⟨first, others⟩ := List.cons.inj same
          have here : sameLetter w c = true := beq_iff_eq.2 first
          rw [if_pos here]
          exact ih.2 ⟨found, rfl, others⟩

/-- A search that only one item can end finds what that item brings. -/
theorem findSome?_eq_some_of_only {α β : Type} {f : α → Option β} {items : List α} {a : α} {b : β}
    (member : a ∈ items) (found : f a = some b)
    (only : ∀ other ∈ items, ∀ b', f other = some b' → other = a) : items.findSome? f = some b := by
  cases first : items.findSome? f with
  | none => cases found.symm.trans (List.findSome?_eq_none_iff.1 first a member)
  | some b' =>
    obtain ⟨other, known, there⟩ := List.exists_of_findSome?_eq_some first
    obtain rfl := only other known b' there
    exact there.symm.trans found

/-- Two words that start one text agree. -/
theorem agree_of_append {word other found found' rest rest' : List Char}
    (h : SameLetters word found) (h' : SameLetters other found')
    (parts : found ++ rest = found' ++ rest') : agree word other = true := by
  have left : word.map letterKey <+: (found ++ rest).map letterKey := by
    rw [List.map_append, ← h]
    exact List.prefix_append _ _
  have right : other.map letterKey <+: (found ++ rest).map letterKey := by
    rw [parts, List.map_append, ← h']
    exact List.prefix_append _ _
  rcases List.prefix_or_prefix_of_prefix left right with shorter | shorter
  · rw [agree, List.isPrefixOf_iff_prefix.2 shorter, Bool.true_or]
  · rw [agree, List.isPrefixOf_iff_prefix.2 shorter, Bool.or_true]

def IsCommand (name : String) (word : List Char) : Prop := SameLetters ('/' :: name.toList) word

def IsEnd (text : List Char) : Prop := text = [] ∨ text = ['\n']

def IsLine (line text : List Char) : Prop :=
  line ≠ [] ∧ '\n' ∉ line ∧ ∃ ending, text = line ++ ending ∧ IsEnd ending

def HasArgument (text : List Char) : Prop :=
  ∃ blanks rest line, text = blanks ++ rest ∧ blanks ≠ [] ∧ (∀ c ∈ blanks, isBlank c = true) ∧
    IsLine line rest

namespace Trigger

def name : Trigger → String
  | command name => name
  | bare name => name
  | optional name => name

def Follows : Trigger → List Char → Prop
  | command _, rest => HasArgument rest
  | bare _, rest => IsEnd rest
  | optional _, rest => HasArgument rest ∨ IsEnd rest

/-- A text that matches the pattern of a trigger. -/
def Matches (trigger : Trigger) (text : List Char) : Prop :=
  ∃ word rest, text = word ++ rest ∧ IsCommand trigger.name word ∧ trigger.Follows rest

theorem atEnd_iff {text : List Char} : atEnd text = true ↔ IsEnd text := by
  simp [atEnd, IsEnd]

theorem line?_eq_some_iff {text line : List Char} : line? text = some line ↔ IsLine line text := by
  have parts := List.takeWhile_append_dropWhile (p := (· != '\n')) (l := text)
  constructor
  · intro h
    unfold line? at h
    dsimp only at h
    split at h
    · rename_i conditions
      obtain rfl := Option.some.inj h
      obtain ⟨some, last⟩ := Bool.and_eq_true_iff.1 conditions
      refine ⟨by simpa using some, ?_, _, parts.symm, atEnd_iff.1 last⟩
      intro feed
      have other := List.all_eq_true.1 List.all_takeWhile '\n' feed
      cases other
    · cases h
  · rintro ⟨nonempty, clean, ending, rfl, last⟩
    have others : ∀ c ∈ line, (c != '\n') = true := by
      intro c hc
      rw [bne_iff_ne]
      rintro rfl
      exact clean hc
    have some : line.isEmpty = false := List.isEmpty_eq_false_iff.2 nonempty
    have taken : (line ++ ending).takeWhile (· != '\n') = line := by
      rw [List.takeWhile_append_of_pos others]
      rcases last with rfl | rfl <;> simp
    have dropped : (line ++ ending).dropWhile (· != '\n') = ending := by
      rw [List.dropWhile_append_of_pos others]
      rcases last with rfl | rfl <;> rfl
    simp [line?, taken, dropped, some, atEnd_iff.2 last]

theorem line?_isSome_iff {text : List Char} :
    (line? text).isSome = true ↔ ∃ line, IsLine line text := by
  simp only [Option.isSome_iff_exists, line?_eq_some_iff]

theorem line?_eq_self {text : List Char} (given : text ≠ []) (clean : '\n' ∉ text) :
    line? text = some text :=
  line?_eq_some_iff.2 ⟨given, clean, [], by simp, .inl rfl⟩

theorem line?_eq_none_of_mem {text : List Char} (feed : '\n' ∈ text)
    (last : ∀ c ∈ text.getLast?, isBlank c = false) : line? text = none := by
  cases found : line? text with
  | none => rfl
  | some line =>
    obtain ⟨-, clean, ending, rfl, rfl | rfl⟩ := line?_eq_some_iff.1 found
    · rw [List.append_nil] at feed
      exact absurd feed clean
    · have blank := last '\n' (by simp)
      cases blank

theorem lineAfterBlanks?_of_head {text : List Char} (h : ∀ c ∈ text.head?, isBlank c = false) :
    lineAfterBlanks? text = none := by
  cases text with
  | nil => rfl
  | cons c rest => simp [lineAfterBlanks?, h c rfl]

theorem lineAfterBlanks?_eq_none_of_mem {blanks text : List Char} (feed : '\n' ∈ text)
    (trimmed : Trimmed text) : lineAfterBlanks? (blanks ++ text) = none := by
  induction blanks with
  | nil => exact lineAfterBlanks?_of_head trimmed.head
  | cons b blanks ih =>
    have none_here : line? (blanks ++ text) = none := by
      apply line?_eq_none_of_mem (List.mem_append_right _ feed)
      intro c hc
      apply trimmed.last c
      have some := List.getLast?_eq_some_getLast (List.ne_nil_of_mem feed)
      rwa [List.getLast?_append, some, Option.some_or, ← some] at hc
    rw [List.cons_append, lineAfterBlanks?, ih, none_here]
    split <;> rfl

/-- After blanks a trimmed line is the argument as a whole. -/
theorem lineAfterBlanks?_eq_some {blanks text : List Char} (apart : blanks ≠ [])
    (all : ∀ c ∈ blanks, isBlank c = true) (given : text ≠ []) (trimmed : Trimmed text)
    (clean : '\n' ∉ text) : lineAfterBlanks? (blanks ++ text) = some text := by
  induction blanks with
  | nil => exact absurd rfl apart
  | cons b blanks ih =>
    rw [List.cons_append, lineAfterBlanks?, if_pos (all b List.mem_cons_self)]
    cases blanks with
    | nil =>
      rw [List.nil_append, lineAfterBlanks?_of_head trimmed.head, line?_eq_self given clean]
      rfl
    | cons d blanks =>
      rw [ih (by simp) fun c hc => all c (List.mem_cons_of_mem _ hc)]
      rfl

theorem lineAfterBlanks?_isSome_iff {text : List Char} :
    (lineAfterBlanks? text).isSome = true ↔ HasArgument text := by
  induction text with
  | nil =>
    constructor
    · intro h
      cases h
    · rintro ⟨blanks, rest, line, parts, some, -⟩
      exact absurd (List.append_eq_nil_iff.1 parts.symm).1 some
  | cons c text ih =>
    have step : (lineAfterBlanks? (c :: text)).isSome = true ↔
        isBlank c = true ∧ (HasArgument text ∨ ∃ line, IsLine line text) := by
      rw [lineAfterBlanks?, ← ih, ← line?_isSome_iff]
      cases isBlank c <;> simp
    rw [step]
    constructor
    · rintro ⟨blank, ⟨blanks, rest, line, rfl, -, all, isLine⟩ | ⟨line, isLine⟩⟩
      · exact ⟨c :: blanks, rest, line, rfl, by simp, by simpa using ⟨blank, all⟩, isLine⟩
      · exact ⟨[c], text, line, rfl, by simp, by simpa using blank, isLine⟩
    · rintro ⟨blanks, rest, line, parts, some, all, isLine⟩
      cases blanks with
      | nil => exact absurd rfl some
      | cons d blanks =>
        obtain ⟨rfl, rfl⟩ := List.cons.inj parts
        refine ⟨all c (by simp), ?_⟩
        cases blanks with
        | nil => exact .inr ⟨line, isLine⟩
        | cons d blanks =>
          refine .inl ⟨d :: blanks, rest, line, rfl, by simp, ?_, isLine⟩
          intro e he
          exact all e (List.mem_cons_of_mem _ he)

/-- The argument that a trigger takes from what follows its name. -/
def argumentAfter? : Trigger → List Char → Option (List Char)
  | command _, rest => lineAfterBlanks? rest
  | bare _, rest => if atEnd rest then some [] else none
  | optional _, rest => lineAfterBlanks? rest <|> if atEnd rest then some [] else none

theorem argument?_eq_bind (trigger : Trigger) (text : List Char) :
    trigger.argument? text = (afterName trigger.name text).bind trigger.argumentAfter? := by
  cases trigger <;> rfl

theorem argumentAfter?_isSome_iff (trigger : Trigger) (rest : List Char) :
    (trigger.argumentAfter? rest).isSome = true ↔ trigger.Follows rest := by
  cases trigger with
  | command name => exact lineAfterBlanks?_isSome_iff
  | bare name =>
    rw [Follows, argumentAfter?, ← atEnd_iff]
    cases atEnd rest <;> simp
  | optional name =>
    rw [Follows, argumentAfter?, ← atEnd_iff, ← lineAfterBlanks?_isSome_iff]
    cases atEnd rest <;> simp

/-- A trigger gives an argument exactly for the texts that match its pattern. -/
theorem argument?_isSome_iff (trigger : Trigger) (text : List Char) :
    (trigger.argument? text).isSome = true ↔ trigger.Matches text := by
  rw [argument?_eq_bind, Option.isSome_bind, Option.any_eq_true]
  constructor
  · rintro ⟨rest, starts, h⟩
    obtain ⟨word, rfl, same⟩ := afterWord_eq_some_iff.1 starts
    exact ⟨word, rest, rfl, same, (trigger.argumentAfter?_isSome_iff rest).1 h⟩
  · rintro ⟨word, rest, parts, same, h⟩
    have starts : afterName trigger.name text = some rest :=
      afterWord_eq_some_iff.2 ⟨word, parts, same⟩
    exact ⟨rest, starts, (trigger.argumentAfter?_isSome_iff rest).2 h⟩

end Trigger

def Says (phrase : String) (text : List Char) : Prop :=
  ∃ before word after, text = before ++ (word ++ after) ∧ SameLetters phrase.toList word

theorem afterPhrase_isSome_iff (phrase : String) (text : List Char) :
    (afterPhrase phrase.toList text).isSome = true ↔ Says phrase text := by
  induction text with
  | nil =>
    rw [afterPhrase, Option.isSome_iff_exists]
    constructor
    · rintro ⟨rest, h⟩
      obtain ⟨word, parts, same⟩ := afterWord_eq_some_iff.1 h
      exact ⟨[], word, rest, parts, same⟩
    · rintro ⟨before, word, after, parts, same⟩
      have empty := (List.append_eq_nil_iff.1 parts.symm).2
      exact ⟨after, afterWord_eq_some_iff.2 ⟨word, empty.symm, same⟩⟩
  | cons c text ih =>
    rw [afterPhrase]
    cases here : afterWord phrase.toList (c :: text) with
    | some rest =>
      obtain ⟨word, parts, same⟩ := afterWord_eq_some_iff.1 here
      exact ⟨fun _ => ⟨[], word, rest, parts, same⟩, fun _ => rfl⟩
    | none =>
      change (afterPhrase phrase.toList text).isSome = true ↔ Says phrase (c :: text)
      rw [ih]
      constructor
      · rintro ⟨before, word, after, rfl, same⟩
        exact ⟨c :: before, word, after, rfl, same⟩
      · rintro ⟨before, word, after, parts, same⟩
        cases before with
        | nil =>
          rw [afterWord_eq_some_iff.2 ⟨word, parts, same⟩] at here
          cases here
        | cons d before =>
          obtain ⟨rfl, rfl⟩ := List.cons.inj parts
          exact ⟨before, word, after, rfl, same⟩

end Switchboard
