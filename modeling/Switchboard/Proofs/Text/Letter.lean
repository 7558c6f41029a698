import Switchboard.Text.Letter

/-!
# Small forms of single characters

No other character counts as the same letter as a sign or a digit of ASCII: no capital has a small form
below the letters, and no letter is another form of a sign. A small form has no small form but itself.
-/

namespace Switchboard.Text

variable {c d : Char} {n : Nat}

theorem eq_of_ofNat_eq (h : Char.ofNat n = d) (given : 0 < d.toNat) : n = d.toNat := by
  subst h
  by_cases valid : n.isValidChar
  · rw [Char.ofNat, dif_pos valid]
    rfl
  · rw [Char.ofNat, dif_neg valid] at given
    cases given

/-- The small forms of a run are characters, none of them a sign or a digit of ASCII. -/
theorem CapitalRun.small_bounds : ∀ run ∈ capitalRuns, 0x60 < run.first + run.up - run.down ∧
    (run.last + run.up - run.down < 0xD800 ∨
      0xDFFF < run.first + run.up - run.down ∧ run.last + run.up - run.down < 0x110000) := by
  decide +kernel

theorem CapitalRun.lt_of_holds {run : CapitalRun} (known : run ∈ capitalRuns)
    (h : run.holds n = true) : 0x60 < n + run.up - run.down := by
  obtain ⟨here, -⟩ := small_bounds run known
  simp only [holds, Bool.and_eq_true, decide_eq_true_iff] at h
  omega

theorem eq_of_smallForm_eq (h : smallForm c = d) (given : 0 < d.toNat) (low : d.toNat < 0x41) :
    c = d := by
  unfold smallForm at h
  dsimp only at h
  split at h
  · split at h
    · rename_i capital
      simp only [Bool.and_eq_true, decide_eq_true_iff] at capital
      have same := eq_of_ofNat_eq h given
      omega
    · exact h
  · split at h
    · rename_i run found
      have within := List.find?_some found
      have above := CapitalRun.lt_of_holds (List.mem_of_find?_eq_some found) within
      have same := eq_of_ofNat_eq h given
      omega
    · exact h

/-- A sign of ASCII, or a digit, is no letter but its own. -/
theorem eq_of_letterKey_eq (h : letterKey c = d) (given : 0 < d.toNat) (low : d.toNat < 0x41) :
    c = d := by
  unfold letterKey at h
  dsimp only at h
  split at h
  · rename_i n found
    have letters : ∀ f ∈ letterForms, 0x60 < f.2 := by decide
    obtain ⟨before, after, parts, -⟩ := List.lookup_eq_some_iff.1 found
    have above : 0x60 < n := letters (_, n) (parts ▸ List.mem_append_right _ List.mem_cons_self)
    have same := eq_of_ofNat_eq h given
    omega
  · exact eq_of_smallForm_eq h given low

namespace CapitalRun

variable {run other : CapitalRun} {low high : Nat} {alternate : Bool}

/-- A run has none of the numbers from `low` to `high`, or none of every other one of them: they lie outside
the run or between its capitals. -/
def misses (low high : Nat) (alternate : Bool) (run : CapitalRun) : Bool :=
  high < run.first || run.last < low || alternate && run.step == 2 && low % 2 != run.first % 2

theorem not_holds_of_misses (h : run.misses low high alternate = true) (least : low ≤ n)
    (most : n ≤ high) (even : alternate = true → n % 2 = low % 2) : run.holds n = false := by
  rw [Bool.eq_false_iff]
  intro inside
  simp only [misses, Bool.or_eq_true, Bool.and_eq_true, decide_eq_true_iff, beq_iff_eq, bne_iff_ne]
    at h
  simp only [holds, Bool.and_eq_true, decide_eq_true_iff, beq_iff_eq] at inside
  obtain ⟨⟨above, below⟩, between⟩ := inside
  rcases h with (left | right) | ⟨⟨alternates, every⟩, odd⟩
  · omega
  · omega
  · rw [every] at between
    have same := even alternates
    omega

/-- No small form of a run is a capital of a run. -/
theorem all_misses : capitalRuns.all (fun run => capitalRuns.all
    (misses (run.first + run.up - run.down) (run.last + run.up - run.down)
      (run.step == 2 || run.first == run.last))) = true := by
  decide +kernel

/-- The small form of a capital of a run is a character, and no capital of any run. -/
theorem small_of_holds (known : run ∈ capitalRuns) (h : run.holds n = true) :
    (Char.ofNat (n + run.up - run.down)).toNat = n + run.up - run.down ∧
      ∀ other ∈ capitalRuns, other.holds (n + run.up - run.down) = false := by
  obtain ⟨low, bounds⟩ := small_bounds run known
  simp only [holds, Bool.and_eq_true, decide_eq_true_iff, beq_iff_eq] at h
  obtain ⟨⟨least, most⟩, aligned⟩ := h
  constructor
  · have valid : (n + run.up - run.down).isValidChar := by
      rw [Nat.isValidChar]
      omega
    rw [Char.ofNat, dif_pos valid]
    rfl
  · intro other member
    have apart := List.all_eq_true.1 (List.all_eq_true.1 all_misses run known) other member
    apply not_holds_of_misses apart (by omega) (by omega)
    intro alternate
    rcases Bool.or_eq_true_iff.1 alternate with two | one
    · rw [beq_iff_eq.1 two] at aligned
      omega
    · have single := beq_iff_eq.1 one
      omega

end CapitalRun

theorem smallForm_eq_self (sign : ¬ (0x41 ≤ c.toNat ∧ c.toNat ≤ 0x5A))
    (small : 0x80 ≤ c.toNat → ∀ run ∈ capitalRuns, run.holds c.toNat = false) : smallForm c = c := by
  unfold smallForm
  dsimp only
  split
  · rw [if_neg (by simpa using sign)]
  · rename_i long
    have none : capitalRuns.find? (·.holds c.toNat) = none := by
      rw [List.find?_eq_none]
      intro run known
      simp [small (Nat.le_of_not_lt long) run known]
    rw [none]

/-- A character is its own small form, or a capital of ASCII or of a run. -/
theorem smallForm_cases (c : Char) :
    smallForm c = c ∨ (∃ n < 26, smallForm c = Char.ofNat (0x61 + n)) ∨
      ∃ run ∈ capitalRuns, run.holds c.toNat = true ∧
        smallForm c = Char.ofNat (c.toNat + run.up - run.down) := by
  unfold smallForm
  dsimp only
  split
  · split
    · rename_i capital
      simp only [Bool.and_eq_true, decide_eq_true_iff] at capital
      refine .inr (.inl ⟨c.toNat - 0x41, by omega, ?_⟩)
      rw [show c.toNat + 0x20 = 0x61 + (c.toNat - 0x41) by omega]
    · exact .inl rfl
  · split
    · rename_i run found
      have within := List.find?_some found
      exact .inr (.inr ⟨run, List.mem_of_find?_eq_some found, within, rfl⟩)
    · exact .inl rfl

theorem smallForm_smallForm (c : Char) : smallForm (smallForm c) = smallForm c := by
  rcases smallForm_cases c with same | ⟨n, letter, small⟩ | ⟨run, known, within, small⟩
  · rw [same, same]
  · have letters : ∀ n < 26, smallForm (Char.ofNat (0x61 + n)) = Char.ofNat (0x61 + n) := by
      decide
    rw [small, letters n letter]
  · obtain ⟨code, apart⟩ := CapitalRun.small_of_holds known within
    have above := CapitalRun.lt_of_holds known within
    rw [small]
    apply smallForm_eq_self
    · omega
    · intro _
      rw [code]
      exact apart

end Switchboard.Text
