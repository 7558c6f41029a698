import Switchboard.Proofs.Expression.Cleaning
import Switchboard.Proofs.Skill.Dictionary
import Switchboard.Proofs.Skill.Weather
import Switchboard.Proofs.Text.Lowercase

/-!
# What a query names

The weather skill takes a query for a city, without the blanks around it and the signs that end it. The
dictionary takes the first word of a query, without the signs around that word. A query of which nothing
is left is refused.

Neither choice is made again once the signs are gone. So a blank before the signs that end a query stays
at the end of the city, and a first word that is nothing but signs has the query refused, whatever words
come after it.
-/

namespace Switchboard

open Text

namespace Text

variable {before piece after : List Char}

theorem small_of_isBlank {c : Char} (blank : isBlank c = true) :
    smallForm c = c ∧ isCased c = false :=
  Expression.of_isArithmetic (P := fun c => smallForm c = c ∧ isCased c = false)
    (by decide +kernel) (Expression.isArithmetic_of_isBlank blank)

theorem lowerWithin_of_blank (blank : ∀ c ∈ piece, isBlank c = true) :
    lowerWithin before piece after = piece :=
  lowerWithin_of_small fun c member => (small_of_isBlank (blank c member)).1

theorem goesOnWithCased_of_blank (blank : ∀ c ∈ piece, isBlank c = true) :
    goesOnWithCased piece = false := by
  rw [goesOnWithCased]
  split
  · rename_i c first
    exact (small_of_isBlank (blank c (List.mem_of_find?_eq_some first))).2
  · rfl

/-- The small letters of a text are those of the trimmed text, between blanks. -/
theorem lower_eq_append_lower_trim (s : List Char) :
    ∃ before after, (∀ c ∈ before, isBlank c = true) ∧ (∀ c ∈ after, isBlank c = true) ∧
      lower s = before ++ (lower (trim s) ++ after) := by
  obtain ⟨before, after, front, back, parts⟩ := exists_eq_append_trim s
  have undisturbed : Undisturbed before (trim s) after := by
    apply Undisturbed.of_apart
    · apply goesOnWithCased_of_blank
      intro c member
      exact front c (List.mem_reverse.1 member)
    · exact goesOnWithCased_of_blank back
  refine ⟨before, after, front, back, ?_⟩
  have pieces := lower_append₃ before (trim s) after
  rwa [← parts, lowerWithin_of_blank front, lowerWithin_eq_lower_iff.2 undisturbed,
    lowerWithin_of_blank back] at pieces

theorem words_lower_trim (s : List Char) : words (lower (trim s)) = words (lower s) := by
  obtain ⟨before, after, front, back, same⟩ := lower_eq_append_lower_trim s
  rw [same, words_blanks_append front, words_append_blanks back]

end Text

namespace Weather

variable {weather : Weather} {query : String}

def search (weather : Weather) (place : String) : Plan Reply :=
  (lookup weather.live (weather.fetch place) (weather.simulate place)).map reply

/-- Blanks and closing signs are all that a query has. -/
def Bare (query : String) : Prop :=
  ∀ c ∈ query.toList, isBlank c = true ∨ isClosingSign c = true

instance (query : String) : Decidable (Bare query) :=
  decidable_of_iff (query.toList.all fun c => isBlank c || isClosingSign c) (by simp [Bare])

/-- A blank stands right before the signs that end a query. -/
def Loose (query : String) : Prop :=
  ∃ front blank signs, trim query.toList = front ++ blank :: signs ∧ isBlank blank = true ∧
    ∀ c ∈ signs, isClosingSign c = true

/-- A place is what a query has from its first character that is no blank to the signs that end it. -/
structure Names (query place : String) : Prop where
  given : place ≠ ""
  inside : place.toList <:+: query.toList
  parts : ∃ signs, (∀ c ∈ signs, isClosingSign c = true) ∧
    trim query.toList = place.toList ++ signs
  head : ∀ c ∈ place.toList.head?, isBlank c = false
  last : ∀ c ∈ place.toList.getLast?, isClosingSign c = false

theorem isClosingSign_of_isBlank {c : Char} (blank : isBlank c = true) :
    isClosingSign c = false :=
  Expression.of_isArithmetic (P := fun c => isBlank c = true → isClosingSign c = false)
    (by decide +kernel) (Expression.isArithmetic_of_isBlank blank) blank

theorem loose_iff : Loose query ↔ ∃ c ∈ (placeIn query).getLast?, isBlank c = true := by
  constructor
  · rintro ⟨front, blank, signs, parts, here, closing⟩
    have kept : placeIn query = front ++ [blank] := by
      rw [placeIn, parts, List.append_cons, dropEndWhile_append_of_all closing,
        dropEndWhile_eq_self]
      rintro c hc
      rw [List.getLast?_concat] at hc
      cases hc
      exact isClosingSign_of_isBlank here
    exact ⟨blank, by rw [kept, List.getLast?_concat]; rfl, here⟩
  · rintro ⟨blank, last, here⟩
    obtain ⟨front, place⟩ := List.getLast?_eq_some_iff.1 last
    obtain ⟨signs, closing, parts⟩ := eq_dropEndWhile_append isClosingSign (trim query.toList)
    refine ⟨front, blank, signs, ?_, here, closing⟩
    rw [parts, ← placeIn, place, List.append_assoc, List.singleton_append]

/-- Nothing is left of a query of blanks and signs, unless a blank stands before the signs at its end. -/
theorem placeIn_eq_nil_iff : placeIn query = [] ↔ Bare query ∧ ¬ Loose query := by
  obtain ⟨signs, closing, parts⟩ := eq_dropEndWhile_append isClosingSign (trim query.toList)
  rw [← placeIn] at parts
  constructor
  · intro none
    rw [none, List.nil_append] at parts
    constructor
    · intro c member
      rcases isBlank_or_mem_trim member with blank | inside
      · exact .inl blank
      · exact .inr (closing c (parts ▸ inside))
    · rw [loose_iff, none]
      rintro ⟨c, last, -⟩
      cases last
  · rintro ⟨bare, tight⟩
    by_contra given
    obtain ⟨c, last⟩ := Option.ne_none_iff_exists'.1 (mt List.getLast?_eq_none_iff.1 given)
    have inside : c ∈ trim query.toList := by
      rw [parts]
      exact List.mem_append_left _ (List.mem_of_getLast? last)
    rcases bare c ((trim_isInfix query.toList).subset inside) with blank | sign
    · exact tight (loose_iff.2 ⟨c, last, blank⟩)
    · cases (last_dropEndWhile isClosingSign _ c last).symm.trans sign

theorem names_placeIn (given : placeIn query ≠ []) :
    Names query (String.ofList (placeIn query)) := by
  have front : placeIn query <+: trim query.toList := dropEndWhile_isPrefix isClosingSign _
  constructor
  · intro none
    exact given (String.ofList_eq_empty_iff.1 none)
  · rw [String.toList_ofList]
    exact front.isInfix.trans (trim_isInfix query.toList)
  · rw [String.toList_ofList]
    exact eq_dropEndWhile_append isClosingSign _
  · rw [String.toList_ofList]
    intro c first
    obtain ⟨rest, parts⟩ := front
    apply (trimmed_trim query.toList).head c
    rw [← parts, List.head?_append, Option.mem_def.1 first]
    rfl
  · rw [String.toList_ofList]
    exact last_dropEndWhile isClosingSign _

theorem not_refused_refuse {α : Type} (m : Mismatch) :
    ¬ Refused (.error (refuse m) : Except Failure α) := by
  cases m with
  | outOfRange => exact not_refused_mismatch _
  | noFields => exact not_refused_mismatch _
  | _ => exact not_refused_unavailable _ _ _

theorem not_refused_fetch (weather : Weather) (place : String) (isOpen : Bool) (network : Network) :
    ¬ Refused ((weather.fetch place).perform isOpen network).1 := by
  rw [fetch]
  split
  · apply not_refused_bind (not_refused_get network isOpen _)
    intro report
    unfold readReport
    split
    · exact not_refused_ok _
    · exact not_refused_refuse _
  · exact not_refused_unavailable _ _ _

theorem not_refused_search (weather : Weather) (place : String) (isOpen : Bool)
    (network : Network) : ¬ Refused ((weather.search place).perform isOpen network).1 := by
  rw [search, Plan.perform_map]
  apply not_refused_map
  apply not_refused_lookup
  · exact not_refused_ofMismatch _
  · exact not_refused_fetch weather place isOpen network

/-- The skill refuses the queries of blanks and closing signs, but not where a blank stands before the
signs at the end. In any other query it searches for what is left of it between the blanks and the signs:
then no blank ends the city, unless one stands before the signs that end the query. -/
theorem searches_place (weather : Weather) (query : String) :
    (∀ isOpen network, Refused ((weather.respond query).perform isOpen network).1 ↔
      Bare query ∧ ¬ Loose query) ∧
    (¬ (Bare query ∧ ¬ Loose query) → ∃ place, weather.respond query = weather.search place ∧
      Names query place ∧
      ((∀ c ∈ place.toList.getLast?, isBlank c = false) ↔ ¬ Loose query)) := by
  by_cases none : placeIn query = []
  · have refused : weather.respond query =
        .answer (.error (.invalidArgument "City name is required" (some name))) := by
      rw [respond, city_eq_error none]
    have nothing := placeIn_eq_nil_iff.1 none
    constructor
    · intro isOpen network
      rw [refused]
      exact iff_of_true ⟨_, _, rfl⟩ nothing
    · intro something
      exact absurd nothing something
  · have searched : weather.respond query = weather.search (String.ofList (placeIn query)) := by
      rw [respond, city_of_given none]
      rfl
    constructor
    · intro isOpen network
      rw [searched, ← placeIn_eq_nil_iff]
      exact iff_of_false (not_refused_search weather _ isOpen network) none
    · intro _
      refine ⟨_, searched, names_placeIn none, ?_⟩
      rw [String.toList_ofList, loose_iff]
      simp

theorem searches_place_paris :
    ¬ Loose " Paris?! " ∧ ∃ place, keyed.respond " Paris?! " = keyed.search place ∧
      Names " Paris?! " place ∧ ∀ c ∈ place.toList.getLast?, isBlank c = false := by
  have tight : ¬ Loose " Paris?! " := by
    rw [loose_iff, show (placeIn " Paris?! ").getLast? = some 's' by decide +kernel]
    rintro ⟨_, ⟨⟩, blank⟩
    cases blank
  have named : ¬ (Bare " Paris?! " ∧ ¬ Loose " Paris?! ") := by
    rw [← placeIn_eq_nil_iff]
    decide +kernel
  obtain ⟨place, searched, names, last⟩ := (searches_place keyed " Paris?! ").2 named
  exact ⟨tight, place, searched, names, last.2 tight⟩

/-- A query of signs and a blank is searched for, and so is a city with a blank at its end. -/
theorem respond_spacedSigns :
    Bare "? ?" ∧
    (∀ isOpen network, ¬ Refused ((keyed.respond "? ?").perform isOpen network).1) ∧
    keyed.respond "? ?" = keyed.search "? " ∧ keyed.respond "Paris ?" = keyed.search "Paris " := by
  have signs : keyed.respond "? ?" = keyed.search "? " := by
    rw [respond, show city "? ?" = .ok "? " by decide +kernel]
    rfl
  refine ⟨by decide +kernel, ?_, signs, ?_⟩
  · rw [signs]
    exact not_refused_search keyed "? "
  · rw [respond, show city "Paris ?" = .ok "Paris " by decide +kernel]
    rfl

end Weather

namespace Dictionary

variable {source : Source} {query : String} {w : List Char}

def search (source : Source) (word : String) : Plan Reply :=
  (lookup source.live (fetch source word) (simulate word)).andThen (· >>= reply)

/-- What each word of a query has left, in small letters and without the signs around it. -/
def wordsLeft (query : String) : List (List Char) :=
  (words (lower query.toList)).map (trimWhile isOuterSign)

/-- The first word of a query has nothing left, but a later one has. -/
def Strays (query : String) : Prop := ∃ rest, wordsLeft query = [] :: rest ∧ ∃ w ∈ rest, w ≠ []

theorem wordIn_eq_head : wordIn query = (wordsLeft query).head?.getD [] := by
  rw [wordIn, words_lower_trim, wordsLeft]
  cases words (lower query.toList) <;> rfl

theorem wordIn_eq_nil_iff :
    wordIn query = [] ↔ (∀ w ∈ wordsLeft query, w = []) ∨ Strays query := by
  rw [wordIn_eq_head, Strays]
  cases wordsLeft query with
  | nil => exact iff_of_true rfl (.inl nofun)
  | cons first rest =>
    constructor
    · intro none
      obtain rfl : first = [] := none
      by_cases all : ∀ w ∈ rest, w = []
      · exact .inl (List.forall_mem_cons.2 ⟨rfl, all⟩)
      · exact .inr ⟨rest, rfl, by simpa using all⟩
    · rintro (all | ⟨_, parts, -⟩)
      · exact all first List.mem_cons_self
      · exact (List.cons.inj parts).1

/-- The first word with something left is the one that is taken, unless the first word has nothing. -/
theorem wordIn_of_find? (found : (wordsLeft query).find? (fun w => !w.isEmpty) = some w)
    (straight : ¬ Strays query) : wordIn query = w := by
  rw [wordIn_eq_head]
  rw [Strays] at straight
  cases left : wordsLeft query with
  | nil =>
    rw [left] at found
    cases found
  | cons first rest =>
    rw [left] at found
    cases first with
    | cons c more => exact Option.some.inj found
    | nil =>
      have later : rest.find? (fun w => !w.isEmpty) = some w := found
      have something := List.find?_some later
      exact absurd ⟨rest, left, w, List.mem_of_find?_eq_some later, by simpa using something⟩ straight

theorem not_refused_fetch (source : Source) (word : String) (isOpen : Bool) (network : Network) :
    ¬ Refused ((fetch source word).perform isOpen network).1 := by
  rw [fetch]
  split
  · apply not_refused_bind (not_refused_get network isOpen _)
    intro payload
    unfold readPayload
    split
    · split
      · exact not_refused_ok _
      · exact not_refused_unavailable _ _ _
    · exact not_refused_ok _
  · exact not_refused_unavailable _ _ _

theorem not_refused_search (source : Source) (word : String) (isOpen : Bool) (network : Network) :
    ¬ Refused ((search source word).perform isOpen network).1 := by
  rw [search, Plan.perform_andThen]
  apply not_refused_bind
  · apply not_refused_lookup
    · exact not_refused_ofMismatch _
    · exact not_refused_fetch source word isOpen network
  · intro finding
    rw [reply]
    exact not_refused_bind (not_refused_ofMismatch _) fun text => not_refused_ok _

/-- The dictionary refuses the queries of which no word has anything left, and those whose first word
has nothing left though a later one has. In any other query it searches for what is left of the first
word that has something left. -/
theorem searches_first_word (source : Source) (query : String) :
    (∀ isOpen network, Refused ((respond source query).perform isOpen network).1 ↔
      (∀ w ∈ wordsLeft query, w = []) ∨ Strays query) ∧
    (∀ w, (wordsLeft query).find? (fun w => !w.isEmpty) = some w →
      (respond source query = search source (String.ofList w) ↔ ¬ Strays query)) := by
  have refusing : ∀ isOpen network, Refused ((respond source query).perform isOpen network).1 ↔
      (∀ w ∈ wordsLeft query, w = []) ∨ Strays query := by
    intro isOpen network
    rw [← wordIn_eq_nil_iff, respond]
    by_cases none : wordIn query = []
    · rw [word_eq_error none]
      exact iff_of_true ⟨_, _, rfl⟩ none
    · rw [word_of_given none]
      exact iff_of_false (not_refused_search source _ isOpen network) none
  refine ⟨refusing, fun w found => ⟨?_, ?_⟩⟩
  · intro searched strays
    have refused := (refusing true ⟨[], []⟩).2 (.inr strays)
    rw [searched] at refused
    exact not_refused_search source _ _ _ refused
  · intro straight
    have taken := wordIn_of_find? found straight
    have given : wordIn query ≠ [] := by
      rw [taken]
      simpa using List.find?_some found
    rw [respond, word_of_given given, taken]
    rfl

theorem searches_first_word_hello :
    ¬ Strays " \"Hello,\" he said" ∧ respond plain " \"Hello,\" he said" = search plain "hello" := by
  have straight : ¬ Strays " \"Hello,\" he said" := by
    rintro ⟨rest, parts, -⟩
    have first : (wordsLeft " \"Hello,\" he said").head? = some "hello".toList := by decide +kernel
    rw [parts] at first
    cases first
  obtain ⟨-, searched⟩ := searches_first_word plain " \"Hello,\" he said"
  exact ⟨straight, (searched "hello".toList (by decide +kernel)).2 straight⟩

/-- A colon that stands apart hides the word after it. -/
theorem respond_straySign :
    wordsLeft ": hello" = [[], "hello".toList] ∧
      ∀ isOpen network, Refused ((respond plain ": hello").perform isOpen network).1 := by
  constructor
  · decide +kernel
  · rw [respond, word_eq_error (by decide +kernel)]
    exact fun _ _ => ⟨_, _, rfl⟩

end Dictionary

end Switchboard
