import Mathlib.Data.List.Basic
import Switchboard.Text.Blank

/-!
# Rows and trimmed texts

A row of characters of one class ends where the next character is of another. A trimmed text neither
starts nor ends with a blank, and a text that is trimmed is left alone.
-/

namespace Switchboard.Text

/-- A row of a class ends where the next character is not in the class. -/
theorem span_append {p : Char → Bool} {row rest : List Char} (all : ∀ c ∈ row, p c = true)
    (stop : ∀ c ∈ rest.head?, p c = false) :
    (row ++ rest).takeWhile p = row ∧ (row ++ rest).dropWhile p = rest := by
  rw [List.takeWhile_append_of_pos all, List.dropWhile_append_of_pos all]
  cases rest with
  | nil => simp
  | cons c rest => simp [stop c rfl]

structure Trimmed (s : List Char) : Prop where
  head : ∀ c ∈ s.head?, isBlank c = false
  last : ∀ c ∈ s.getLast?, isBlank c = false

theorem dropEndWhile_isPrefix (p : Char → Bool) (s : List Char) : dropEndWhile p s <+: s := by
  have suffix := List.dropWhile_suffix p (l := s.reverse)
  have turned := List.reverse_prefix.2 suffix
  rwa [List.reverse_reverse] at turned

theorem eq_dropEndWhile_append (p : Char → Bool) (s : List Char) :
    ∃ dropped, (∀ c ∈ dropped, p c = true) ∧ s = dropEndWhile p s ++ dropped := by
  have parts := List.takeWhile_append_dropWhile (p := p) (l := s.reverse)
  refine ⟨(s.reverse.takeWhile p).reverse, ?_, ?_⟩
  · intro c member
    exact List.all_eq_true.1 List.all_takeWhile c (List.mem_reverse.1 member)
  · rw [dropEndWhile, ← List.reverse_append, parts, List.reverse_reverse]

theorem last_dropEndWhile (p : Char → Bool) (s : List Char) :
    ∀ c ∈ (dropEndWhile p s).getLast?, p c = false := by
  intro c hc
  rw [dropEndWhile, List.getLast?_reverse] at hc
  have first := List.head?_dropWhile_not p s.reverse
  rw [Option.mem_def.1 hc] at first
  exact first

theorem dropEndWhile_eq_self {p : Char → Bool} {s : List Char}
    (h : ∀ c ∈ s.getLast?, p c = false) : dropEndWhile p s = s := by
  have first : s.reverse.dropWhile p = s.reverse := by
    cases hs : s.reverse with
    | nil => rfl
    | cons c rest =>
      have hc : p c = false := h c (by rw [List.getLast?_eq_head?_reverse, hs]; rfl)
      simp [hc]
  rw [dropEndWhile, first, List.reverse_reverse]

theorem trimWhile_eq_self {p : Char → Bool} {s : List Char} (h : ∀ c ∈ s, p c = false) :
    trimWhile p s = s := by
  have first : s.dropWhile p = s := by
    cases s with
    | nil => rfl
    | cons c rest => simp [h c List.mem_cons_self]
  rw [trimWhile, first, dropEndWhile_eq_self fun c hc => h c (List.mem_of_getLast? hc)]

theorem dropEndWhile_append {p : Char → Bool} {s t : List Char} (left : dropEndWhile p t ≠ []) :
    dropEndWhile p (s ++ t) = s ++ dropEndWhile p t := by
  have kept : (t.reverse.dropWhile p).isEmpty = false :=
    List.isEmpty_eq_false_iff.2 fun none => left (by rw [dropEndWhile, none]; rfl)
  rw [dropEndWhile, List.reverse_append, List.dropWhile_append, kept, if_neg (by decide),
    List.reverse_append, List.reverse_reverse, dropEndWhile]

theorem dropEndWhile_append_of_all {p : Char → Bool} {s t : List Char} (all : ∀ c ∈ t, p c = true) :
    dropEndWhile p (s ++ t) = dropEndWhile p s := by
  rw [dropEndWhile, List.reverse_append, List.dropWhile_append_of_pos, dropEndWhile]
  exact fun c member => all c (List.mem_reverse.1 member)

theorem dropWhile_append_of_head {p : Char → Bool} {s t : List Char}
    (stop : ∀ c ∈ t.head?, p c = false) : (s ++ t).dropWhile p = s.dropWhile p ++ t := by
  have kept : t.dropWhile p = t := by
    cases t with
    | nil => rfl
    | cons c rest => simp [stop c rfl]
  rw [List.dropWhile_append, kept]
  split
  · rename_i none
    rw [List.isEmpty_iff.1 none, List.nil_append]
  · rfl

theorem takeWhile_append_of_head {p : Char → Bool} {s t : List Char}
    (stop : ∀ c ∈ t.head?, p c = false) : (s ++ t).takeWhile p = s.takeWhile p := by
  have none : t.takeWhile p = [] := by
    cases t with
    | nil => rfl
    | cons c rest => simp [stop c rfl]
  rw [List.takeWhile_append, none]
  split
  · rename_i all
    rw [List.append_nil, List.IsPrefix.eq_of_length (List.takeWhile_prefix p) all]
  · rfl

theorem dropEndWhile_append_of_last {p : Char → Bool} {s t : List Char}
    (stop : ∀ c ∈ s.getLast?, p c = false) : dropEndWhile p (s ++ t) = s ++ dropEndWhile p t := by
  have turned := dropWhile_append_of_head (s := t.reverse) (t := s.reverse)
    (by rwa [List.head?_reverse])
  rw [dropEndWhile, List.reverse_append, turned, List.reverse_append, List.reverse_reverse,
    dropEndWhile]

theorem trimmed_trim (s : List Char) : Trimmed (trim s) := by
  constructor
  · intro c hc
    have first := List.head?_dropWhile_not isBlank s
    obtain ⟨rest, same⟩ := dropEndWhile_isPrefix isBlank (s.dropWhile isBlank)
    have kept : (s.dropWhile isBlank).head? = some c := by
      rw [← same, List.head?_append]
      change (trim s).head?.or rest.head? = some c
      rw [Option.mem_def.1 hc]
      rfl
    rw [kept] at first
    exact first
  · exact last_dropEndWhile isBlank _

/-- A text is what is left of it when it is trimmed, between blanks. -/
theorem exists_eq_append_trim (s : List Char) :
    ∃ before after, (∀ c ∈ before, isBlank c = true) ∧ (∀ c ∈ after, isBlank c = true) ∧
      s = before ++ (trim s ++ after) := by
  obtain ⟨after, blank, ending⟩ := eq_dropEndWhile_append isBlank (s.dropWhile isBlank)
  refine ⟨s.takeWhile isBlank, after, List.all_eq_true.1 List.all_takeWhile, blank, ?_⟩
  rw [trim, trimWhile, ← ending, List.takeWhile_append_dropWhile]

theorem isBlank_or_mem_trim {c : Char} {s : List Char} (member : c ∈ s) :
    isBlank c = true ∨ c ∈ trim s := by
  obtain ⟨before, after, front, back, parts⟩ := exists_eq_append_trim s
  rw [parts, List.mem_append, List.mem_append] at member
  rcases member with early | inside | late
  · exact .inl (front c early)
  · exact .inr inside
  · exact .inl (back c late)

theorem Trimmed.trim_eq {s : List Char} (h : Trimmed s) : trim s = s := by
  have first : s.dropWhile isBlank = s := by
    cases s with
    | nil => rfl
    | cons c rest => simp [h.head c rfl]
  rw [trim, trimWhile, first, dropEndWhile_eq_self h.last]

theorem trim_isInfix (s : List Char) : trim s <:+: s := by
  have front := dropEndWhile_isPrefix isBlank (s.dropWhile isBlank)
  exact front.isInfix.trans (List.dropWhile_suffix isBlank).isInfix

/-- Trimming a text leaves every piece of it that has no blanks around it. -/
theorem Trimmed.infix_trim {piece s : List Char} (h : Trimmed piece) (inside : piece <:+: s) :
    piece <:+: trim s := by
  obtain ⟨before, after, rfl⟩ := inside
  by_cases given : piece = []
  · subst given
    exact List.nil_infix
  · obtain ⟨c, rest, rfl⟩ := List.exists_cons_of_ne_nil given
    have left : (before ++ c :: rest ++ after).dropWhile isBlank =
        before.dropWhile isBlank ++ c :: rest ++ after := by
      rw [List.append_assoc, dropWhile_append_of_head, List.append_assoc]
      exact h.head
    have right : ∀ d ∈ (before.dropWhile isBlank ++ c :: rest).getLast?, isBlank d = false := by
      intro d hd
      apply h.last d
      rwa [List.getLast?_append_cons] at hd
    rw [trim, trimWhile, left, dropEndWhile_append_of_last right]
    exact ⟨_, _, rfl⟩

theorem trim_trim (s : List Char) : trim (trim s) = trim s := (trimmed_trim s).trim_eq

/-- Between a text that starts with no blank and one that is not blank, the blanks are kept. -/
theorem trim_append {c : Char} {s t : List Char} (dark : isBlank c = false) (given : trim t ≠ []) :
    trim (c :: s ++ t) = c :: s ++ (t.takeWhile isBlank ++ trim t) := by
  have parts := List.takeWhile_append_dropWhile (p := isBlank) (l := t)
  have ending : dropEndWhile isBlank t = t.takeWhile isBlank ++ trim t := by
    have kept := dropEndWhile_append (s := t.takeWhile isBlank) given
    rwa [parts] at kept
  have left : dropEndWhile isBlank t ≠ [] := by
    rw [ending]
    exact List.append_ne_nil_of_right_ne_nil _ given
  rw [trim, trimWhile, List.cons_append, List.dropWhile_cons_of_neg (by simp [dark]),
    ← List.cons_append, dropEndWhile_append left, ending]

/-- Trimming a word and a text behind a space leaves the word, blanks, and the text trimmed. -/
theorem exists_trim_word_append {word t : List Char} (apart : word ≠ [])
    (dark : ∀ c ∈ word.head?, isBlank c = false) (given : trim t ≠ []) :
    ∃ blanks, blanks ≠ [] ∧ (∀ c ∈ blanks, isBlank c = true) ∧
      trim (word ++ ' ' :: t) = word ++ (blanks ++ trim t) := by
  refine ⟨' ' :: t.takeWhile isBlank, List.cons_ne_nil _ _, ?_, ?_⟩
  · exact List.forall_mem_cons.2 ⟨rfl, List.all_eq_true.1 List.all_takeWhile⟩
  · cases word with
    | nil => exact absurd rfl apart
    | cons c s =>
      have joined := trim_append (s := s ++ [' ']) (dark c rfl) given
      simpa using joined

theorem Trimmed.trim_append {blanks s : List Char} (h : Trimmed s)
    (blank : ∀ c ∈ blanks, isBlank c = true) : trim (blanks ++ s) = s := by
  rw [trim, trimWhile, (span_append blank h.head).2, dropEndWhile_eq_self h.last]

/-- A text that ends with no blank is blanks and what is left of it when it is trimmed. -/
theorem eq_append_trim {s : List Char} (h : ∀ c ∈ s.getLast?, isBlank c = false) :
    ∃ blanks, (∀ c ∈ blanks, isBlank c = true) ∧ s = blanks ++ trim s := by
  have parts := List.takeWhile_append_dropWhile (p := isBlank) (l := s)
  refine ⟨s.takeWhile isBlank, ?_, ?_⟩
  · intro c hc
    exact List.all_eq_true.1 List.all_takeWhile c hc
  · have last : ∀ c ∈ (s.dropWhile isBlank).getLast?, isBlank c = false := by
      intro c hc
      apply h c
      rw [← parts]
      exact List.mem_getLast?_append_of_mem_getLast? hc
    rw [trim, trimWhile, dropEndWhile_eq_self last, parts]

theorem words_blanks_append {blanks : List Char} (blank : ∀ c ∈ blanks, isBlank c = true)
    (s : List Char) : words (blanks ++ s) = words s := by
  induction blanks with
  | nil => rfl
  | cons c blanks ih =>
    obtain ⟨here, later⟩ := List.forall_mem_cons.1 blank
    rw [List.cons_append, words, if_pos here, ih later]

theorem words_append_blanks {blanks : List Char} (blank : ∀ c ∈ blanks, isBlank c = true)
    (s : List Char) : words (s ++ blanks) = words s := by
  have stop : ∀ c ∈ blanks.head?, (!isBlank c) = false := by
    intro c hc
    rw [blank c (List.mem_of_head? hc), Bool.not_true]
  induction s using words.induct with
  | case1 =>
    have none := words_blanks_append blank []
    rwa [List.append_nil] at none
  | case2 c rest here ih => rw [List.cons_append, words, if_pos here, words, if_pos here, ih]
  | case3 c rest dark ih =>
    rw [List.cons_append, words, if_neg dark, words, if_neg dark, takeWhile_append_of_head stop,
      dropWhile_append_of_head stop, ih]

end Switchboard.Text
