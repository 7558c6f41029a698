/-!
# Computations that may fail

A computation in steps succeeds when its steps succeed one after the other, and has the fault of the
first step that fails.
-/

namespace Switchboard

variable {ε ε' α β γ : Type}

theorem ok_bind (a : α) (f : α → Except ε β) : Except.ok a >>= f = f a := rfl

/-- The fault of a computation, which can be decided where the result cannot be compared. -/
def fault? : Except ε α → Option ε
  | .ok _ => none
  | .error e => some e

theorem eq_error_of_fault? {x : Except ε α} {e : ε} (h : fault? x = some e) : x = .error e := by
  cases x with
  | ok a => cases h
  | error e' =>
    cases h
    rfl

theorem eq_ok_of_toOption {x : Except ε α} {a : α} (h : x.toOption = some a) : x = .ok a := by
  cases x with
  | ok a' =>
    cases h
    rfl
  | error e => cases h

theorem bind_eq_ok_iff {x : Except ε α} {f : α → Except ε β} {b : β} :
    x >>= f = .ok b ↔ ∃ a, x = .ok a ∧ f a = .ok b := by
  cases x with
  | error e =>
    constructor
    · intro h
      cases h
    · rintro ⟨a, h, -⟩
      cases h
  | ok a =>
    constructor
    · exact fun h => ⟨a, rfl, h⟩
    · rintro ⟨a', same, h⟩
      cases same
      exact h

theorem bind_eq_error_iff {x : Except ε α} {f : α → Except ε β} {e : ε} :
    x >>= f = .error e ↔ x = .error e ∨ ∃ a, x = .ok a ∧ f a = .error e := by
  cases x with
  | error e' =>
    constructor
    · intro h
      cases h
      exact .inl rfl
    · rintro (h | ⟨a, h, -⟩)
      · cases h
        rfl
      · cases h
  | ok a =>
    constructor
    · exact fun h => .inr ⟨a, rfl, h⟩
    · rintro (h | ⟨a', same, h⟩)
      · cases h
      · cases same
        exact h

theorem map_eq_ok_iff {x : Except ε α} {f : α → β} {b : β} :
    x.map f = .ok b ↔ ∃ a, x = .ok a ∧ f a = b := by
  cases x with
  | error e => exact ⟨nofun, nofun⟩
  | ok a =>
    constructor
    · rintro ⟨⟩
      exact ⟨a, rfl, rfl⟩
    · rintro ⟨a', same, rfl⟩
      cases same
      rfl

theorem map_eq_error_iff {x : Except ε α} {f : α → β} {e : ε} : x.map f = .error e ↔ x = .error e := by
  cases x with
  | error e' =>
    constructor
    · rintro ⟨⟩
      rfl
    · rintro ⟨⟩
      rfl
  | ok a => exact ⟨nofun, nofun⟩

theorem map_bind (x : Except ε α) (f : α → Except ε β) (g : β → γ) :
    (x >>= f).map g = x >>= fun a => (f a).map g := by
  cases x <;> rfl

theorem mapError_bind (x : Except ε α) (f : α → Except ε β) (g : ε → ε') :
    (x >>= f).mapError g = x.mapError g >>= fun a => (f a).mapError g := by
  cases x <;> rfl

theorem bind_comp (x : Except ε α) (f : α → β) (g : β → Except ε γ) :
    (x >>= fun a => g (f a)) = x.map f >>= g := by
  cases x <;> rfl

theorem map_mapM (f : α → Except ε β) (g : β → γ) (items : List α) :
    (items.mapM f).map (List.map g) = items.mapM fun a => (f a).map g := by
  induction items with
  | nil => rfl
  | cons a items ih =>
    rw [List.mapM_cons, List.mapM_cons, ← ih]
    cases f a with
    | error e => rfl
    | ok b => cases items.mapM f <;> rfl

theorem mapM_eq_ok_map {f : α → Except ε β} {g : α → β} {items : List α}
    (each : ∀ a ∈ items, f a = .ok (g a)) : items.mapM f = .ok (items.map g) := by
  induction items with
  | nil => rfl
  | cons a items ih =>
    rw [List.forall_mem_cons] at each
    rw [List.mapM_cons, each.1, ok_bind, ih each.2]
    rfl

theorem exists_mapM_iff {f : α → Except ε β} {items : List α} :
    (∃ results, items.mapM f = .ok results) ↔ ∀ a ∈ items, ∃ b, f a = .ok b := by
  induction items with
  | nil => simp [pure, Except.pure]
  | cons a items ih =>
    rw [List.mapM_cons, List.forall_mem_cons, ← ih]
    constructor
    · rintro ⟨results, h⟩
      obtain ⟨b, first, h⟩ := bind_eq_ok_iff.1 h
      obtain ⟨rest, later, -⟩ := bind_eq_ok_iff.1 h
      exact ⟨⟨b, first⟩, rest, later⟩
    · rintro ⟨⟨b, first⟩, rest, later⟩
      rw [first, later]
      exact ⟨b :: rest, rfl⟩

theorem of_mem_mapM {f : α → Except ε β} {items : List α} {results : List β}
    (h : items.mapM f = .ok results) : ∀ b ∈ results, ∃ a ∈ items, f a = .ok b := by
  induction items generalizing results with
  | nil =>
    cases h
    simp
  | cons a items ih =>
    rw [List.mapM_cons] at h
    obtain ⟨b, first, h⟩ := bind_eq_ok_iff.1 h
    obtain ⟨rest, later, h⟩ := bind_eq_ok_iff.1 h
    cases h
    intro b' member
    rcases List.mem_cons.1 member with rfl | member
    · exact ⟨a, List.mem_cons_self, first⟩
    · obtain ⟨a', source, made⟩ := ih later b' member
      exact ⟨a', List.mem_cons_of_mem _ source, made⟩

theorem exists_of_mem_mapM {f : α → Except ε β} {items : List α} {results : List β}
    (h : items.mapM f = .ok results) : ∀ a ∈ items, ∃ b ∈ results, f a = .ok b := by
  induction items generalizing results with
  | nil => simp
  | cons a items ih =>
    rw [List.mapM_cons] at h
    obtain ⟨b, first, h⟩ := bind_eq_ok_iff.1 h
    obtain ⟨rest, later, h⟩ := bind_eq_ok_iff.1 h
    cases h
    intro a' member
    rcases List.mem_cons.1 member with rfl | member
    · exact ⟨b, List.mem_cons_self, first⟩
    · obtain ⟨b', made, same⟩ := ih later a' member
      exact ⟨b', List.mem_cons_of_mem _ made, same⟩

/-- A run that fails has gone well up to the item at which it fails. -/
theorem foldlM_breaks {f : β → α → Except ε β} {items : List α} {start : β} {e : ε}
    (h : items.foldlM f start = .error e) : ∃ before a after b, items = before ++ a :: after ∧
      before.foldlM f start = .ok b ∧ f b a = .error e := by
  induction items generalizing start with
  | nil => cases h
  | cons a items ih =>
    rw [List.foldlM_cons] at h
    rcases bind_eq_error_iff.1 h with here | ⟨b, first, later⟩
    · exact ⟨[], a, items, start, rfl, rfl, here⟩
    · obtain ⟨before, a', after, b', rfl, run, found⟩ := ih later
      refine ⟨a :: before, a', after, b', rfl, ?_, found⟩
      rw [List.foldlM_cons, first]
      exact run

theorem foldlM_eq_error {f : β → α → Except ε β} {items : List α} {start : β} {e : ε}
    (h : items.foldlM f start = .error e) : ∃ a ∈ items, ∃ b, f b a = .error e := by
  obtain ⟨before, a, after, b, rfl, -, found⟩ := foldlM_breaks h
  exact ⟨a, List.mem_append_right _ List.mem_cons_self, b, found⟩

/-- A run that goes well has gone well up to each item, and on from there. -/
theorem foldlM_passes {f : β → α → Except ε β} {before after : List α} {a : α} {start result : β}
    (h : (before ++ a :: after).foldlM f start = .ok result) :
    ∃ b b', before.foldlM f start = .ok b ∧ f b a = .ok b' := by
  rw [List.foldlM_append] at h
  obtain ⟨b, run, rest⟩ := bind_eq_ok_iff.1 h
  rw [List.foldlM_cons] at rest
  obtain ⟨b', step, -⟩ := bind_eq_ok_iff.1 rest
  exact ⟨b, b', run, step⟩

theorem foldlM_eq_ok {f : β → α → Except ε β} {items : List α} {start result : β}
    (h : items.foldlM f start = .ok result) : ∀ a ∈ items, ∃ b b', f b a = .ok b' := by
  intro a member
  obtain ⟨before, after, rfl⟩ := List.append_of_mem member
  obtain ⟨b, b', -, step⟩ := foldlM_passes h
  exact ⟨b, b', step⟩

theorem foldlM_mapError {f : β → α → Except ε β} {f' : β → α → Except ε' β} {g : ε → ε'}
    {items : List α} (step : ∀ a ∈ items, ∀ b, f' b a = (f b a).mapError g) (start : β) :
    items.foldlM f' start = (items.foldlM f start).mapError g := by
  induction items generalizing start with
  | nil => rfl
  | cons a items ih =>
    rw [List.forall_mem_cons] at step
    rw [List.foldlM_cons, List.foldlM_cons, mapError_bind, step.1]
    exact bind_congr fun b => ih step.2 b

/-- What each step keeps holds in the end. -/
theorem foldlM_invariant {P : β → Prop} {f : β → α → Except ε β} {items : List α}
    {start result : β} (initial : P start)
    (step : ∀ a ∈ items, ∀ b b', P b → f b a = .ok b' → P b')
    (h : items.foldlM f start = .ok result) : P result := by
  induction items generalizing start with
  | nil =>
    cases h
    exact initial
  | cons a items ih =>
    rw [List.foldlM_cons] at h
    obtain ⟨b, first, rest⟩ := bind_eq_ok_iff.1 h
    apply ih (step a List.mem_cons_self start b initial first) _ rest
    intro a' member
    exact step a' (List.mem_cons_of_mem _ member)

end Switchboard
