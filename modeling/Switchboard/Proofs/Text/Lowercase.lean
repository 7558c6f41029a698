import Mathlib.Data.List.Infix
import Switchboard.Proofs.Text.Letter
import Switchboard.Proofs.Text.Trim
import Switchboard.Text.Lowercase

/-!
# Small letters of a piece of a text

The small form of a piece is not that of the piece alone: a capital sigma looks at the letters around the
piece. It comes out the same if every capital sigma of the piece is final in the text exactly when it is
final in the piece, and in no other case.

A text in small letters is its own small form.
-/

namespace Switchboard.Text

variable {before after piece s t : List Char} {c : Char}

/-- The small form of a character, between what stands before it, last character first, and after it. -/
def smallFormIn (before : List Char) (c : Char) (after : List Char) : List Char :=
  if c == capitalSigma then [smallSigma before after]
  else if c == dottedCapitalI then ['i', '\u0307']
  else [smallForm c]

/-- The small form of a piece of a text, between what stands before it, last character first, and after
it. -/
def lowerWithin (before piece after : List Char) : List Char :=
  match piece with
  | [] => []
  | c :: rest => smallFormIn before c (rest ++ after) ++ lowerWithin (c :: before) rest after

theorem lowerAfter_append (before piece after : List Char) :
    lowerAfter before (piece ++ after) =
      lowerWithin before piece after ++ lowerAfter (piece.reverse ++ before) after := by
  induction piece generalizing before with
  | nil => rfl
  | cons c rest ih =>
    have step : lowerAfter before (c :: (rest ++ after)) =
        smallFormIn before c (rest ++ after) ++ lowerAfter (c :: before) (rest ++ after) := rfl
    rw [List.cons_append, step, ih, lowerWithin, List.append_assoc, List.reverse_cons,
      List.append_assoc, List.singleton_append]

theorem lower_eq_lowerWithin (s : List Char) : lower s = lowerWithin [] s [] := by
  have parts := lowerAfter_append [] s []
  rwa [List.append_nil, lowerAfter, List.append_nil] at parts

/-- The small form of a text is that of its pieces, one after the other. -/
theorem lower_append₃ (before piece after : List Char) :
    lower (before ++ (piece ++ after)) =
      lowerWithin [] before (piece ++ after) ++ (lowerWithin before.reverse piece after ++
        lowerWithin (piece.reverse ++ before.reverse) after []) := by
  have last := lowerAfter_append (piece.reverse ++ before.reverse) after []
  rw [List.append_nil, lowerAfter, List.append_nil] at last
  rw [lower, lowerAfter_append, lowerAfter_append, List.append_nil, last]

/-- Every capital sigma of a piece looks the same between what stands around the piece as it does in the
piece alone. -/
def Undisturbed (before piece after : List Char) : Prop :=
  ∀ front rest, piece = front ++ capitalSigma :: rest →
    smallSigma (front.reverse ++ before.reverse) (rest ++ after) = smallSigma front.reverse rest

theorem length_smallFormIn (before after before' after' : List Char) (c : Char) :
    (smallFormIn before c after).length = (smallFormIn before' c after').length := by
  unfold smallFormIn
  split
  · rfl
  · split <;> rfl

theorem smallFormIn_eq_iff {before' after' : List Char} :
    smallFormIn before c after = smallFormIn before' c after' ↔
      (c = capitalSigma → smallSigma before after = smallSigma before' after') := by
  by_cases sigma : c = capitalSigma
  · subst sigma
    simp [smallFormIn]
  · simp [smallFormIn, sigma]

/-- Two surroundings give a piece the same small form if they do so for each of its capital sigmas. -/
theorem lowerWithin_eq_iff {before' after' : List Char} :
    lowerWithin before piece after = lowerWithin before' piece after' ↔
      ∀ front rest, piece = front ++ capitalSigma :: rest →
        smallSigma (front.reverse ++ before) (rest ++ after) =
          smallSigma (front.reverse ++ before') (rest ++ after') := by
  induction piece generalizing before before' with
  | nil => simp [lowerWithin]
  | cons c piece ih =>
    have pieces : lowerWithin before (c :: piece) after = lowerWithin before' (c :: piece) after' ↔
        smallFormIn before c (piece ++ after) = smallFormIn before' c (piece ++ after') ∧
          lowerWithin (c :: before) piece after = lowerWithin (c :: before') piece after' := by
      constructor
      · intro same
        exact List.append_inj same (length_smallFormIn ..)
      · rintro ⟨first, later⟩
        exact congrArg₂ (· ++ ·) first later
    rw [pieces, smallFormIn_eq_iff, ih]
    constructor
    · rintro ⟨here, later⟩ front rest parts
      cases front with
      | nil =>
        obtain ⟨rfl, rfl⟩ := List.cons.inj parts
        exact here rfl
      | cons d front =>
        obtain ⟨rfl, rfl⟩ := List.cons.inj parts
        simpa using later front rest rfl
    · intro each
      constructor
      · rintro rfl
        exact each [] piece rfl
      · rintro front rest rfl
        simpa using each (c :: front) rest rfl

theorem lowerWithin_eq_lower_iff :
    lowerWithin before.reverse piece after = lower piece ↔ Undisturbed before piece after := by
  rw [lower_eq_lowerWithin, lowerWithin_eq_iff, Undisturbed]
  simp only [List.append_nil]

theorem Undisturbed.of_not_mem (none : capitalSigma ∉ piece) : Undisturbed before piece after := by
  rintro front rest rfl
  exact absurd (List.mem_append_right _ List.mem_cons_self) none

/-- What does not go on with a letter makes no difference to what stands before it. -/
theorem goesOnWithCased_append (apart : goesOnWithCased t = false) :
    goesOnWithCased (s ++ t) = goesOnWithCased s := by
  rw [goesOnWithCased, goesOnWithCased, List.find?_append]
  cases s.find? (!isCaseIgnorable ·) with
  | none => exact apart
  | some c => rfl

theorem Undisturbed.of_apart (left : goesOnWithCased before.reverse = false)
    (right : goesOnWithCased after = false) : Undisturbed before piece after := by
  rintro front rest -
  rw [smallSigma, smallSigma, goesOnWithCased_append left, goesOnWithCased_append right]

/-- The two characters with a small form of another kind are not small. -/
theorem ne_of_smallForm_eq (small : smallForm c = c) : c ≠ capitalSigma ∧ c ≠ dottedCapitalI := by
  constructor
  · rintro rfl
    exact absurd small (by decide)
  · rintro rfl
    exact absurd small (by decide)

theorem lowerWithin_of_small (small : ∀ c ∈ piece, smallForm c = c) :
    lowerWithin before piece after = piece := by
  induction piece generalizing before with
  | nil => rfl
  | cons c piece ih =>
    obtain ⟨here, later⟩ := List.forall_mem_cons.1 small
    obtain ⟨sigma, dotted⟩ := ne_of_smallForm_eq here
    rw [lowerWithin, ih later, smallFormIn, if_neg (by simpa using sigma),
      if_neg (by simpa using dotted), here, List.singleton_append]

theorem smallForm_of_mem_smallFormIn {d : Char} (member : d ∈ smallFormIn before c after) :
    smallForm d = d := by
  unfold smallFormIn at member
  split at member
  · obtain rfl := List.mem_singleton.1 member
    unfold smallSigma
    split <;> decide
  · split at member
    · simp only [List.mem_cons, List.not_mem_nil, or_false] at member
      rcases member with rfl | rfl
      · decide
      · decide
    · obtain rfl := List.mem_singleton.1 member
      exact smallForm_smallForm c

theorem smallForm_of_mem_lowerWithin : ∀ d ∈ lowerWithin before piece after, smallForm d = d := by
  induction piece generalizing before with
  | nil => exact nofun
  | cons c piece ih =>
    intro d member
    rcases List.mem_append.1 member with here | later
    · exact smallForm_of_mem_smallFormIn here
    · exact ih d later

theorem lower_lower (s : List Char) : lower (lower s) = lower s := by
  rw [lower_eq_lowerWithin (lower s), lowerWithin_of_small]
  rw [lower_eq_lowerWithin]
  exact smallForm_of_mem_lowerWithin

end Switchboard.Text
