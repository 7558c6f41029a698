import Switchboard.Proofs.Expression.Scanning
import Switchboard.Proofs.Text.Trim

/-!
# Blanks between tokens

Two texts that differ only in how many blanks stand where there are some have the same tokens. So a text
keeps its tokens when its runs of blanks become single spaces and its ends are trimmed.
-/

namespace Switchboard.Expression

open Text

/-- Texts that differ only in the blanks at their ends and between other characters. -/
inductive Respaced : List Char → List Char → Prop where
  | ends {bs bs' : List Char} (blank : ∀ c ∈ bs, isBlank c = true)
      (blank' : ∀ c ∈ bs', isBlank c = true) : Respaced bs bs'
  | same (c : Char) {s s' : List Char} (rest : Respaced s s') : Respaced (c :: s) (c :: s')
  | gap {bs bs' s s' : List Char} (given : bs ≠ []) (given' : bs' ≠ [])
      (blank : ∀ c ∈ bs, isBlank c = true) (blank' : ∀ c ∈ bs', isBlank c = true)
      (rest : Respaced s s') : Respaced (bs ++ s) (bs' ++ s')

namespace Respaced

variable {s s' text : List Char} {c : Char}

theorem refl (s : List Char) : Respaced s s := by
  induction s with
  | nil => exact .ends nofun nofun
  | cons c s ih => exact .same c ih

theorem symm (h : Respaced s s') : Respaced s' s := by
  induction h with
  | ends blank blank' => exact .ends blank' blank
  | same c rest ih => exact .same c ih
  | gap given given' blank blank' rest ih => exact .gap given' given blank' blank ih

theorem of_dark (h : Respaced (c :: s) text) (dark : isBlank c = false) :
    ∃ s', text = c :: s' ∧ Respaced s s' := by
  generalize found : c :: s = whole at h
  cases h with
  | ends blank blank' =>
    have here := blank c (found ▸ List.mem_cons_self)
    cases dark.symm.trans here
  | same d rest =>
    obtain ⟨rfl, rfl⟩ := List.cons.inj found
    exact ⟨_, rfl, rest⟩
  | @gap bs bs' s s' given given' blank blank' rest =>
    obtain ⟨d, bs, rfl⟩ := List.exists_cons_of_ne_nil given
    obtain ⟨rfl, -⟩ := List.cons.inj found
    have here := blank c List.mem_cons_self
    cases dark.symm.trans here

theorem of_dark_append {row : List Char} (h : Respaced (row ++ s) text)
    (dark : ∀ c ∈ row, isBlank c = false) : ∃ s', text = row ++ s' ∧ Respaced s s' := by
  induction row generalizing text with
  | nil => exact ⟨text, rfl, h⟩
  | cons c row ih =>
    rw [List.forall_mem_cons] at dark
    obtain ⟨t, rfl, later⟩ := h.of_dark dark.1
    obtain ⟨s', rfl, related⟩ := ih later dark.2
    exact ⟨s', rfl, related⟩

/-- The texts start with the same character, or else each of them starts with a blank or is empty. -/
theorem head (h : Respaced s s') : ∀ c ∈ s'.head?, isBlank c = true ∨ c ∈ s.head? := by
  intro c first
  cases h with
  | ends blank blank' => exact .inl (blank' c (List.mem_of_mem_head? first))
  | same d rest => exact .inr first
  | gap given given' blank blank' rest =>
    obtain ⟨d, bs, rfl⟩ := List.exists_cons_of_ne_nil given'
    cases first
    exact .inl (blank' _ List.mem_cons_self)

end Respaced

theorem respaced_collapse (s : List Char) : Respaced s (collapse s) := by
  induction s using collapse.induct with
  | case1 =>
    rw [collapse]
    exact .refl []
  | case2 c rest blank ih =>
    rw [collapse, if_pos blank]
    have parts := List.takeWhile_append_dropWhile (p := isBlank) (l := rest)
    have all : ∀ d ∈ c :: rest.takeWhile isBlank, isBlank d = true :=
      List.forall_mem_cons.2 ⟨blank, List.all_eq_true.1 List.all_takeWhile⟩
    have whole := Respaced.gap (List.cons_ne_nil _ _) (List.cons_ne_nil ' ' []) all (by simp; rfl) ih
    rwa [List.cons_append, parts] at whole
  | case3 c rest dark ih =>
    rw [collapse, if_neg dark]
    exact .same c ih

theorem respaced_append {blanks : List Char} (blank : ∀ c ∈ blanks, isBlank c = true)
    (s : List Char) : Respaced s (s ++ blanks) := by
  induction s with
  | nil => exact .ends nofun blank
  | cons c s ih => exact .same c ih

theorem respaced_dropEndWhile (s : List Char) : Respaced (dropEndWhile isBlank s) s := by
  obtain ⟨blanks, blank, parts⟩ := eq_dropEndWhile_append isBlank s
  have whole := respaced_append blank (dropEndWhile isBlank s)
  rwa [← parts] at whole

/-- A blank ends every numeral. -/
theorem isDigit_of_isBlank {c : Char} (blank : isBlank c = true) : isDigit c = false ∧ c ≠ '.' := by
  constructor
  · cases digit : isDigit c with
    | false => rfl
    | true => cases blank.symm.trans (isBlank_of_isDigit digit)
  · rintro rfl
    cases blank

namespace Scans

variable {s s' text : List Char} {ts : List Token} {c : Char}

theorem append_blanks {blanks : List Char} (blank : ∀ c ∈ blanks, isBlank c = true)
    (h : Scans s ts) : Scans (blanks ++ s) ts := by
  induction blanks with
  | nil => exact h
  | cons c blanks ih =>
    rw [List.forall_mem_cons] at blank
    exact .blank blank.1 (ih blank.2)

/-- The tokens of a text do not hang on its blanks, except where there are none. -/
theorem respaced (h : Scans s ts) (related : Respaced s s') : Scans s' ts := by
  induction h generalizing s' with
  | nothing =>
    generalize found : ([] : List Char) = whole at related
    cases related with
    | @ends bs bs' blank blank' =>
      have scans := append_blanks blank' .nothing
      rwa [List.append_nil] at scans
    | same c rest => cases found
    | gap given given' blank blank' rest =>
      exact absurd (List.append_eq_nil_iff.1 found.symm).1 given
  | @blank c text ts dark rest ih =>
    generalize found : c :: text = whole at related
    cases related with
    | ends blank blank' =>
      subst found
      exact ih (.ends (fun d member => blank d (List.mem_cons_of_mem _ member)) blank')
    | same d rest =>
      cases found
      exact .blank dark (ih rest)
    | @gap bs bs' s s' given given' blank blank' later =>
      obtain ⟨d, bs, rfl⟩ := List.exists_cons_of_ne_nil given
      cases found
      rw [List.forall_mem_cons] at blank
      -- the blanks of a gap are used up one by one, and the last of them ends it
      by_cases last : bs = []
      · subst last
        exact append_blanks blank' (ih later)
      · exact ih (.gap last given' blank.2 blank' later)
  | @number n text ts wellFormed stops rest ih =>
    obtain ⟨text', rfl, later⟩ := related.of_dark_append (Numeral.isBlank_of_mem_text wellFormed)
    refine .number wellFormed ?_ (ih later)
    intro c first
    rcases later.head c first with blank | same
    · obtain ⟨digit, point⟩ := isDigit_of_isBlank blank
      exact ⟨digit, fun _ => point⟩
    · exact stops c same
  | mark known rest ih =>
    obtain ⟨text', rfl, later⟩ := related.of_dark (isBlank_of_ofChar? known)
    exact .mark known (ih later)

theorem of_isBlank (h : Scans (c :: s) ts) (blank : isBlank c = true) : Scans s ts := by
  generalize found : c :: s = whole at h
  cases h with
  | nothing => cases found
  | blank here rest =>
    cases found
    exact rest
  | number wellFormed stops rest =>
    obtain ⟨d, others, same⟩ := List.exists_cons_of_ne_nil (Numeral.text_ne_nil wellFormed)
    rw [same] at found
    cases found
    have dark := Numeral.isBlank_of_mem_text wellFormed c (same ▸ List.mem_cons_self)
    cases blank.symm.trans dark
  | mark known rest =>
    cases found
    cases blank.symm.trans (isBlank_of_ofChar? known)

theorem of_append_blanks {blanks : List Char} (blank : ∀ c ∈ blanks, isBlank c = true)
    (h : Scans (blanks ++ s) ts) : Scans s ts := by
  induction blanks with
  | nil => exact h
  | cons c blanks ih =>
    rw [List.forall_mem_cons] at blank
    exact ih blank.2 (h.of_isBlank blank.1)

end Scans

theorem scans_collapse_iff {s : List Char} {ts : List Token} : Scans (collapse s) ts ↔ Scans s ts :=
  ⟨fun h => h.respaced (respaced_collapse s).symm, fun h => h.respaced (respaced_collapse s)⟩

theorem scans_trim_iff {s : List Char} {ts : List Token} : Scans (trim s) ts ↔ Scans s ts := by
  have parts := List.takeWhile_append_dropWhile (p := isBlank) (l := s)
  have blank := List.all_eq_true.1 (List.all_takeWhile (p := isBlank) (l := s))
  have ending := respaced_dropEndWhile (s.dropWhile isBlank)
  constructor
  · intro h
    have whole := (h.respaced ending).append_blanks blank
    rwa [parts] at whole
  · intro h
    rw [← parts] at h
    exact (h.of_append_blanks blank).respaced ending.symm

end Switchboard.Expression
