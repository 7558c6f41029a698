import Switchboard.Proofs.Expression.Balance
import Switchboard.Proofs.Expression.Cleaning

/-!
# Cleaned texts

Whatever a question holds, cleaning leaves digits, operators, parentheses, points and single spaces
between them, and a text of that form is left alone. So cleaning twice is cleaning once, and a cleaned
text that is not valid is empty or has parentheses that do not pair up.
-/

namespace Switchboard.Expression

open Text

theorem pair_infix_cons {a b c : Char} {s : List Char} :
    [a, b] <:+: c :: s ↔ (a = c ∧ s.head? = some b) ∨ [a, b] <:+: s := by
  have first : [b] <+: s ↔ s.head? = some b := by
    cases s with
    | nil => simp
    | cons d s => simp [List.cons_prefix_cons, eq_comm]
  rw [List.infix_cons_iff, List.cons_prefix_cons, first]

theorem collapse_of_dark {c : Char} {s : List Char} (dark : isBlank c = false) :
    collapse (c :: s) = c :: collapse s := by
  rw [collapse, if_neg (Bool.eq_false_iff.1 dark)]

theorem head_collapse_dropWhile (s : List Char) :
    (collapse (s.dropWhile isBlank)).head? ≠ some ' ' := by
  have first := List.head?_dropWhile_not isBlank s
  cases left : s.dropWhile isBlank with
  | nil =>
    rw [collapse]
    simp
  | cons c rest =>
    rw [left] at first
    have dark : isBlank c = false := first
    rw [collapse_of_dark dark, List.head?_cons, ne_eq, Option.some.injEq]
    rintro rfl
    cases dark

/-- What is collapsed holds spaces and the characters that are not blank. -/
theorem mem_collapse {c : Char} {s : List Char} (member : c ∈ collapse s) :
    c = ' ' ∨ (c ∈ s ∧ isBlank c = false) := by
  induction s using collapse.induct with
  | case1 =>
    rw [collapse] at member
    cases member
  | case2 d rest blank ih =>
    rw [collapse, if_pos blank] at member
    rcases List.mem_cons.1 member with here | later
    · exact .inl here
    · rcases ih later with space | ⟨within, dark⟩
      · exact .inl space
      · exact .inr ⟨List.mem_cons_of_mem _ ((List.dropWhile_suffix isBlank).subset within), dark⟩
  | case3 d rest dark ih =>
    rw [collapse, if_neg dark] at member
    rcases List.mem_cons.1 member with rfl | later
    · exact .inr ⟨List.mem_cons_self, Bool.eq_false_iff.2 dark⟩
    · rcases ih later with space | ⟨within, dark'⟩
      · exact .inl space
      · exact .inr ⟨List.mem_cons_of_mem _ within, dark'⟩

theorem single_collapse (s : List Char) : ¬ [' ', ' '] <:+: collapse s := by
  induction s using collapse.induct with
  | case1 =>
    rw [collapse]
    simp
  | case2 c rest blank ih =>
    rw [collapse, if_pos blank, pair_infix_cons]
    rintro (⟨-, doubled⟩ | later)
    · exact head_collapse_dropWhile rest doubled
    · exact ih later
  | case3 c rest dark ih =>
    rw [collapse, if_neg dark, pair_infix_cons]
    rintro (⟨rfl, -⟩ | later)
    · exact dark rfl
    · exact ih later

theorem collapse_eq_self {s : List Char} (spaces : ∀ c ∈ s, isBlank c = true → c = ' ')
    (single : ¬ [' ', ' '] <:+: s) : collapse s = s := by
  induction s with
  | nil => rw [collapse]
  | cons c s ih =>
    rw [List.forall_mem_cons] at spaces
    rw [pair_infix_cons, not_or] at single
    have rest := ih spaces.2 single.2
    cases here : isBlank c with
    | false => rw [collapse_of_dark here, rest]
    | true =>
      obtain rfl := spaces.1 here
      have alone : s.dropWhile isBlank = s := by
        cases s with
        | nil => rfl
        | cons d s =>
          refine List.dropWhile_cons_of_neg fun blank => single.1 ⟨rfl, ?_⟩
          rw [spaces.2 d List.mem_cons_self blank]
          rfl
      rw [collapse, if_pos here, alone, rest]

/-- A text of characters of expressions, with single spaces between them as its only blanks. -/
structure Tidy (s : List Char) : Prop where
  plain : ∀ c ∈ s, isDigit c = true ∨ c ∈ operatorChars ∨ c = ' '
  head : s.head? ≠ some ' '
  last : s.getLast? ≠ some ' '
  single : ¬ [' ', ' '] <:+: s

theorem isBlank_of_mem_operatorChars {c : Char} (sign : c ∈ operatorChars) : isBlank c = false := by
  have dark : operatorChars.all (fun c => !isBlank c) = true := by decide
  simpa using List.all_eq_true.1 dark c sign

namespace Tidy

variable {s : List Char}

theorem isArithmetic (h : Tidy s) : ∀ c ∈ s, isArithmetic c = true := by
  intro c member
  rcases h.plain c member with digit | sign | rfl
  · exact isArithmetic_iff.2 (.inl digit)
  · exact isArithmetic_iff.2 (.inr (.inl sign))
  · rfl

/-- A space is the one blank in a tidy text. -/
theorem eq_space (h : Tidy s) : ∀ c ∈ s, isBlank c = true → c = ' ' := by
  intro c member blank
  rcases h.plain c member with digit | sign | space
  · cases blank.symm.trans (isBlank_of_isDigit digit)
  · cases blank.symm.trans (isBlank_of_mem_operatorChars sign)
  · exact space

theorem trimmed (h : Tidy s) : Trimmed s := by
  constructor
  · intro c first
    rw [Bool.eq_false_iff]
    intro blank
    obtain rfl := h.eq_space c (List.mem_of_mem_head? first) blank
    exact h.head first
  · intro c last
    rw [Bool.eq_false_iff]
    intro blank
    obtain rfl := h.eq_space c (List.mem_of_getLast? last) blank
    exact h.last last

/-- Cleaning leaves a tidy text alone. -/
theorem clean_eq (h : Tidy s) : clean s = s := by
  rw [clean, dropAsking_eq_self h.isArithmetic, List.filter_eq_self.2 h.isArithmetic,
    collapse_eq_self h.eq_space h.single, h.trimmed.trim_eq]

end Tidy

theorem tidy_clean (raw : List Char) : Tidy (clean raw) := by
  have within := trim_isInfix (collapse ((dropAsking raw).filter isArithmetic))
  have trimmed := trimmed_trim (collapse ((dropAsking raw).filter isArithmetic))
  constructor
  · intro c member
    rcases mem_collapse (within.subset member) with space | ⟨kept, dark⟩
    · exact .inr (.inr space)
    · rcases isArithmetic_iff.1 (List.mem_filter.1 kept).2 with digit | sign | blank
      · exact .inl digit
      · exact .inr (.inl sign)
      · cases dark.symm.trans blank
  · intro space
    cases trimmed.head ' ' space
  · intro space
    cases trimmed.last ' ' space
  · exact fun doubled => single_collapse _ (doubled.trans within)

/-- What cleaning leaves is tidy, so that cleaning it again changes nothing, and it is valid unless it is
empty or its parentheses do not pair up. -/
theorem clean_normal (raw : List Char) :
    Tidy (clean raw) ∧ clean (clean raw) = clean raw ∧
      (validate (clean raw) = .ok () ↔ clean raw ≠ [] ∧ Balanced (clean raw)) := by
  have tidy := tidy_clean raw
  refine ⟨tidy, tidy.clean_eq, ?_⟩
  rw [validate_eq_ok_iff]
  constructor
  · rintro ⟨given, -, paired⟩
    exact ⟨given, paired⟩
  · rintro ⟨given, paired⟩
    exact ⟨given, tidy.isArithmetic, paired⟩

end Switchboard.Expression
