import Switchboard.Proofs.Expression.Validity

/-!
# Which texts are valid

Validation keeps the number of open parentheses while it goes along a text. That number never falls
below zero and ends at zero exactly if no prefix of the text closes more parentheses than it opens, and
the whole text closes as many as it opens. The checks are made in a fixed order, so a text that breaks
several rules has the fault of the first one.
-/

namespace Switchboard.Expression

open Text

/-- No prefix closes more parentheses than it opens, and the text closes as many as it opens. -/
structure Balanced (s : List Char) : Prop where
  prefix_le : ∀ p, p <+: s → p.count ')' ≤ p.count '('
  total : s.count '(' = s.count ')'

/-- What is left to read closes what is open and all that it opens. -/
def ClosesFrom (opened : Nat) (s : List Char) : Prop :=
  (∀ p, p <+: s → p.count ')' ≤ opened + p.count '(') ∧ s.count ')' = opened + s.count '('

theorem forall_prefix_cons {P : List Char → Prop} {c : Char} {s : List Char} :
    (∀ p, p <+: c :: s → P p) ↔ P [] ∧ ∀ p, p <+: s → P (c :: p) := by
  constructor
  · intro h
    exact ⟨h [] List.nil_prefix, fun p before => h _ (List.cons_prefix_cons.2 ⟨rfl, before⟩)⟩
  · rintro ⟨first, others⟩ p before
    rcases List.prefix_cons_iff.1 before with rfl | ⟨q, rfl, within⟩
    · exact first
    · exact others q within

section ClosesFrom

variable {opened : Nat} {s : List Char}

theorem closesFrom_nil : ClosesFrom opened [] ↔ opened = 0 := by
  constructor
  · rintro ⟨-, total⟩
    simpa using total.symm
  · rintro rfl
    exact ⟨fun p before => by simp [List.prefix_nil.1 before], rfl⟩

theorem closesFrom_opening : ClosesFrom opened ('(' :: s) ↔ ClosesFrom (opened + 1) s := by
  simp only [ClosesFrom, forall_prefix_cons, List.count_cons, List.count_nil]
  simp [Nat.add_right_comm, Nat.add_assoc]

theorem closesFrom_closing : ClosesFrom (opened + 1) (')' :: s) ↔ ClosesFrom opened s := by
  simp only [ClosesFrom, forall_prefix_cons, List.count_cons, List.count_nil]
  simp [Nat.add_right_comm]

/-- A parenthesis that closes none of the open ones spoils the text. -/
theorem not_closesFrom_closing : ¬ ClosesFrom 0 (')' :: s) := by
  rintro ⟨prefixes, -⟩
  have first := prefixes [')'] (List.cons_prefix_cons.2 ⟨rfl, List.nil_prefix⟩)
  simp at first

theorem closesFrom_cons_of_ne {c : Char} (opening : c ≠ '(') (closing : c ≠ ')') :
    ClosesFrom opened (c :: s) ↔ ClosesFrom opened s := by
  simp [ClosesFrom, forall_prefix_cons, List.count_cons_of_ne opening, List.count_cons_of_ne closing]

end ClosesFrom

/-- The count of open parentheses is kept along the text. -/
theorem closes_eq_true_iff (opened : Nat) (s : List Char) :
    closes opened s = true ↔ ClosesFrom opened s := by
  induction s generalizing opened with
  | nil => rw [closes, beq_iff_eq, closesFrom_nil]
  | cons c s ih =>
    by_cases opening : c = '('
    · subst opening
      rw [closesFrom_opening, ← ih]
      rfl
    · by_cases closing : c = ')'
      · subst closing
        cases opened with
        | zero => exact iff_of_false (by simp [closes]) not_closesFrom_closing
        | succ n =>
          rw [closesFrom_closing, ← ih]
          rfl
      · rw [closes_cons_of_ne opening closing, ih, closesFrom_cons_of_ne opening closing]

theorem balanced_iff {s : List Char} : balanced s = true ↔ Balanced s := by
  rw [balanced, closes_eq_true_iff, ClosesFrom]
  simp only [Nat.zero_add]
  exact ⟨fun ⟨prefixes, total⟩ => ⟨prefixes, total.symm⟩, fun h => ⟨h.prefix_le, h.total.symm⟩⟩

instance (s : List Char) : Decidable (Balanced s) := decidable_of_iff _ balanced_iff

theorem isNameChar_iff {c : Char} :
    isNameChar c = true ↔ c.isAlpha = true ∨ c = '_' ∨ c = '$' := by
  have small : ('a' ≤ c && c ≤ 'z') = c.isLower := rfl
  have large : ('A' ≤ c && c ≤ 'Z') = c.isUpper := (Bool.decide_and _ _).symm
  have letter : (c.isUpper || c.isLower) = c.isAlpha := rfl
  rw [isNameChar, small, large, Bool.or_comm c.isLower, letter, Bool.or_eq_true, Bool.or_eq_true,
    beq_iff_eq, beq_iff_eq, or_assoc]

/-- The first check refuses texts that hold a name. -/
theorem validate_of_isNameChar {s : List Char} (named : ∃ c ∈ s, isNameChar c = true) :
    validate s = .error .invalidCharacters := by
  rw [validate, if_pos (List.any_eq_true.2 named)]

section Unnamed

variable {s : List Char} (unnamed : ¬ ∃ c ∈ s, isNameChar c = true)
include unnamed

/-- The second check refuses parentheses that do not pair up. -/
theorem validate_of_not_balanced (unbalanced : ¬ Balanced s) :
    validate s = .error .unbalancedParentheses := by
  have refused : (!balanced s) = true := by
    rw [Bool.not_eq_true', Bool.eq_false_iff]
    exact fun h => unbalanced (balanced_iff.1 h)
  rw [validate, if_neg (fun named => unnamed (List.any_eq_true.1 named)), if_pos refused]

/-- The last check refuses whatever else no expression holds, and the empty text. -/
theorem validate_of_balanced (paired : Balanced s)
    (spoiled : ¬ (s ≠ [] ∧ ∀ c ∈ s, isArithmetic c = true)) :
    validate s = .error .invalidCharacters := by
  have passed : ¬ (!balanced s) = true := by simp [balanced_iff.2 paired]
  have refused : (s.isEmpty || !s.all isArithmetic) = true := by
    rw [Bool.or_eq_true, List.isEmpty_iff, Bool.not_eq_true', Bool.eq_false_iff, ne_eq,
      List.all_eq_true]
    exact (Decidable.not_and_iff_not_or_not.1 spoiled).imp_left Decidable.not_not.1
  rw [validate, if_neg (fun named => unnamed (List.any_eq_true.1 named)), if_neg passed,
    if_pos refused]

end Unnamed

theorem validate_eq_ok_iff {s : List Char} :
    validate s = .ok () ↔ s ≠ [] ∧ (∀ c ∈ s, isArithmetic c = true) ∧ Balanced s := by
  constructor
  · intro accepted
    have unnamed : ¬ ∃ c ∈ s, isNameChar c = true := fun named =>
      nomatch accepted.symm.trans (validate_of_isNameChar named)
    have paired : Balanced s := Decidable.of_not_not fun unbalanced =>
      nomatch accepted.symm.trans (validate_of_not_balanced unnamed unbalanced)
    have unspoiled : s ≠ [] ∧ ∀ c ∈ s, isArithmetic c = true := Decidable.of_not_not fun spoiled =>
      nomatch accepted.symm.trans (validate_of_balanced unnamed paired spoiled)
    exact ⟨unspoiled.1, unspoiled.2, paired⟩
  · rintro ⟨given, arithmetic, paired⟩
    have unnamed : ¬ s.any isNameChar = true := by
      rw [List.any_eq_true]
      rintro ⟨c, member, named⟩
      cases named.symm.trans (not_isNameChar_of_isArithmetic (arithmetic c member))
    rw [validate, if_neg unnamed, balanced_iff.2 paired, List.all_eq_true.2 arithmetic]
    simp [given]

/-- A text is valid if it is not empty, holds characters of expressions alone and its parentheses pair
up. Else it has the first of the faults that apply: a name, parentheses that do not pair up, and whatever
else no expression holds. -/
theorem validate_message (s : List Char) :
    (validate s = .ok () ↔
      s ≠ [] ∧ (∀ c ∈ s, isDigit c = true ∨ c ∈ operatorChars ∨ isBlank c = true) ∧ Balanced s) ∧
    (validate s ≠ .ok () →
      ((∃ c ∈ s, c.isAlpha = true ∨ c = '_' ∨ c = '$') →
        (validate s).mapError Fault.message = .error "Expression contains invalid characters") ∧
      ((¬ ∃ c ∈ s, c.isAlpha = true ∨ c = '_' ∨ c = '$') → ¬ Balanced s →
        (validate s).mapError Fault.message = .error "Unbalanced parentheses") ∧
      ((¬ ∃ c ∈ s, c.isAlpha = true ∨ c = '_' ∨ c = '$') → Balanced s →
        (validate s).mapError Fault.message = .error "Expression contains invalid characters")) := by
  simp only [← isArithmetic_iff, ← isNameChar_iff]
  refine ⟨validate_eq_ok_iff, fun refused => ⟨?named, ?unbalanced, ?spoiled⟩⟩
  case named =>
    intro named
    rw [validate_of_isNameChar named]
    rfl
  case unbalanced =>
    intro unnamed unbalanced
    rw [validate_of_not_balanced unnamed unbalanced]
    rfl
  case spoiled =>
    intro unnamed paired
    have spoiled : ¬ (s ≠ [] ∧ ∀ c ∈ s, isArithmetic c = true) := fun unspoiled =>
      refused (validate_eq_ok_iff.2 ⟨unspoiled.1, unspoiled.2, paired⟩)
    rw [validate_of_balanced unnamed paired spoiled]
    rfl

end Switchboard.Expression
