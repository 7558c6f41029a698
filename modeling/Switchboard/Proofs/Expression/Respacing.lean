import Switchboard.Proofs.Expression.Cleaning
import Switchboard.Proofs.Expression.Misfit

/-!
# Expressions and their cleaned forms

Cleaning changes nothing but the blanks of a text that holds characters of expressions alone. So the text
and its cleaned form have the same tokens and the same value or fault. Where they have no tokens, both are
refused at the same point, and only its place may differ: it is counted in the text that is read.
-/

namespace Switchboard.Expression

open Text

/-- A scan of the text strands at a character, with certain others before it besides blanks. -/
def StrandsAfter (darks : List Char) (c : Char) (s : List Char) : Prop :=
  ∃ before after, s = before ++ c :: after ∧ before.filter (!isBlank ·) = darks ∧ Strands before c after

namespace StrandsAfter

variable {darks s : List Char} {b c : Char}

theorem cons_blank (blank : isBlank b = true) (h : StrandsAfter darks c s) :
    StrandsAfter darks c (b :: s) := by
  obtain ⟨before, after, rfl, rfl, strands⟩ := h
  exact ⟨b :: before, after, rfl, List.filter_cons_of_neg (by simp [blank]), .blank blank strands⟩

theorem append_blanks {blanks : List Char} (blank : ∀ b ∈ blanks, isBlank b = true)
    (h : StrandsAfter darks c s) : StrandsAfter darks c (blanks ++ s) := by
  induction blanks with
  | nil => exact h
  | cons b blanks ih =>
    rw [List.forall_mem_cons] at blank
    exact cons_blank blank.1 (ih blank.2)

theorem of_isBlank (blank : isBlank b = true) (h : StrandsAfter darks c (b :: s)) :
    StrandsAfter darks c s := by
  obtain ⟨before, after, parts, rfl, strands⟩ := h
  cases strands with
  | here dark leads unknown =>
    obtain ⟨rfl, -⟩ := List.cons.inj parts
    cases dark.symm.trans blank
  | @blank d _ before after blank' rest =>
    obtain ⟨rfl, rfl⟩ := List.cons.inj parts
    exact ⟨before, after, rfl, (List.filter_cons_of_neg (by simp [blank])).symm, rest⟩
  | @number n _ before after wellFormed stops rest =>
    obtain ⟨d, digits, spelled⟩ := List.exists_cons_of_ne_nil (Numeral.text_ne_nil wellFormed)
    rw [spelled] at parts
    obtain ⟨rfl, -⟩ := List.cons.inj parts
    have dark := Numeral.isBlank_of_mem_text wellFormed b (spelled ▸ List.mem_cons_self)
    cases dark.symm.trans blank
  | mark known rest =>
    obtain ⟨rfl, -⟩ := List.cons.inj parts
    cases (isBlank_of_ofChar? known).symm.trans blank

theorem of_append_blanks {blanks : List Char} (blank : ∀ b ∈ blanks, isBlank b = true)
    (h : StrandsAfter darks c (blanks ++ s)) : StrandsAfter darks c s := by
  induction blanks with
  | nil => exact h
  | cons b blanks ih =>
    rw [List.forall_mem_cons] at blank
    exact ih blank.2 (of_isBlank blank.1 h)

end StrandsAfter

/-- Where a scan strands does not hang on the blanks of a text, except where there are none. -/
theorem Strands.respaced {before after s : List Char} {c : Char} (h : Strands before c after)
    (related : Respaced (before ++ c :: after) s) :
    StrandsAfter (before.filter (!isBlank ·)) c s := by
  induction h generalizing s with
  | @here c after dark leads unknown =>
    obtain ⟨after', rfl, later⟩ := related.of_dark dark
    obtain ⟨other, point⟩ := Numeral.leading?_eq_none_iff.1 leads
    refine ⟨[], after', rfl, rfl, .here dark (Numeral.leading?_eq_none_iff.2 ⟨other, ?_⟩) unknown⟩
    intro same d first
    rcases later.head d first with blank | first'
    · exact (isDigit_of_isBlank blank).1
    · exact point same d first'
  | @blank b c before after blank rest ih =>
    rw [List.filter_cons_of_neg (by simp [blank])]
    generalize found : b :: before ++ c :: after = whole at related
    cases related with
    | ends blanks blanks' =>
      have blank' := blanks c (by simp [← found])
      cases rest.isBlank_eq_false.symm.trans blank'
    | same d later =>
      obtain ⟨rfl, rfl⟩ := List.cons.inj found
      exact .cons_blank blank (ih later)
    | @gap bs bs' t t' given given' blanks blanks' later =>
      obtain ⟨d, bs, rfl⟩ := List.exists_cons_of_ne_nil given
      obtain ⟨rfl, others⟩ := List.cons.inj found
      have parts : before ++ c :: after = bs ++ t := others
      rw [List.forall_mem_cons] at blanks
      -- the blanks of a gap are used up one by one, and the last of them ends it
      by_cases last : bs = []
      · subst last
        obtain rfl : t = before ++ c :: after := parts.symm
        exact .append_blanks blanks' (ih later)
      · apply ih
        rw [parts]
        exact .gap last given' blanks.2 blanks' later
  | @number n c before after wellFormed stops rest ih =>
    rw [List.append_assoc] at related
    have dark := Numeral.isBlank_of_mem_text wellFormed
    obtain ⟨t, rfl, later⟩ := related.of_dark_append dark
    obtain ⟨before', after', rfl, same, strands⟩ := ih later
    refine ⟨n.text ++ before', after', by simp, by simp [same], .number wellFormed ?_ strands⟩
    intro d first
    rcases later.head d first with blank | first'
    · obtain ⟨digit, point⟩ := isDigit_of_isBlank blank
      exact ⟨digit, fun _ => point⟩
    · exact stops d first'
  | @mark d c token before after known rest ih =>
    obtain ⟨t, rfl, later⟩ := related.of_dark (isBlank_of_ofChar? known)
    obtain ⟨before', after', rfl, same, strands⟩ := ih later
    exact ⟨d :: before', after', rfl, by simp [isBlank_of_ofChar? known, same], .mark known strands⟩

namespace StrandsAfter

variable {darks s : List Char} {c : Char}

theorem respaced {s' : List Char} (h : StrandsAfter darks c s) (related : Respaced s s') :
    StrandsAfter darks c s' := by
  obtain ⟨before, after, rfl, rfl, strands⟩ := h
  exact strands.respaced related

theorem trim (h : StrandsAfter darks c s) : StrandsAfter darks c (trim s) := by
  have parts := List.takeWhile_append_dropWhile (p := isBlank) (l := s)
  have blank := List.all_eq_true.1 (List.all_takeWhile (p := isBlank) (l := s))
  rw [← parts] at h
  exact (h.of_append_blanks blank).respaced (respaced_dropEndWhile _).symm

theorem clean (arithmetic : ∀ d ∈ s, isArithmetic d = true) (h : StrandsAfter darks c s) :
    StrandsAfter darks c (clean s) := by
  rw [Expression.clean, dropAsking_eq_self arithmetic, List.filter_eq_self.2 arithmetic]
  exact (h.respaced (respaced_collapse s)).trim

end StrandsAfter

theorem value_of_strands {before after : List Char} {c : Char} (h : Strands before c after) :
    value (before ++ c :: after) = .error (.unexpectedCharacter c before.length) := by
  have refused := tokens_eq_error_iff.2 ⟨before, c, after, rfl, rfl, h⟩
  rw [value, refused]
  rfl

theorem scans_clean_of_arithmetic {s : List Char} (arithmetic : ∀ c ∈ s, isArithmetic c = true)
    {ts : List Token} : Scans (clean s) ts ↔ Scans s ts := by
  rw [scans_clean_iff, dropAsking_eq_self arithmetic, List.filter_eq_self.2 arithmetic]

/-- A text of characters of expressions and its cleaned form have the same tokens, and then the same value
or the same fault. If they have none, each is refused at a point, and these are the same point: what
stands before it differs in blanks alone. -/
theorem value_clean {s : List Char} (arithmetic : ∀ c ∈ s, isArithmetic c = true) :
    (∀ ts, tokens (clean s) = .ok ts ↔ tokens s = .ok ts) ∧
    (∀ ts, tokens s = .ok ts → value (clean s) = value s) ∧
    ((∀ ts, tokens s ≠ .ok ts) → ∃ before after before' after',
      s = before ++ '.' :: after ∧ clean s = before' ++ '.' :: after' ∧
        before'.filter (!isBlank ·) = before.filter (!isBlank ·) ∧
        value s = .error (.unexpectedCharacter '.' before.length) ∧
        value (clean s) = .error (.unexpectedCharacter '.' before'.length)) := by
  have same (ts : List Token) : tokens (clean s) = .ok ts ↔ tokens s = .ok ts := by
    rw [tokens_eq_ok_iff, tokens_eq_ok_iff, scans_clean_of_arithmetic arithmetic]
  refine ⟨same, ?_, ?_⟩
  · intro ts scanned
    rw [value, value, scanned, (same ts).2 scanned]
  · intro failed
    cases scanned : tokens s with
    | ok ts => exact absurd scanned (failed ts)
    | error fault =>
      obtain ⟨before, c, after, rfl, -, strands⟩ := tokens_eq_error_iff.1 scanned
      obtain rfl := strands.eq_point (arithmetic c (by simp))
      obtain ⟨before', after', parts, darks, strands'⟩ :=
        StrandsAfter.clean arithmetic ⟨before, after, rfl, rfl, strands⟩
      refine ⟨before, after, before', after', rfl, parts, darks, value_of_strands strands, ?_⟩
      rw [parts]
      exact value_of_strands strands'

theorem value_clean_product :
    (∀ c ∈ " 2\t*\n(3 + .5) ".toList, isArithmetic c = true) ∧
      clean " 2\t*\n(3 + .5) ".toList = "2 * (3 + .5)".toList ∧
      value " 2\t*\n(3 + .5) ".toList = .ok (.ofInt 7) ∧
      value "2 * (3 + .5)".toList = .ok (.ofInt 7) := by
  have arithmetic : ∀ c ∈ " 2\t*\n(3 + .5) ".toList, isArithmetic c = true :=
    List.all_eq_true.1 (by decide +kernel)
  have cleaned : clean " 2\t*\n(3 + .5) ".toList = "2 * (3 + .5)".toList := by decide +kernel
  have valued : value " 2\t*\n(3 + .5) ".toList = .ok (.ofInt 7) :=
    eq_ok_of_toOption (by decide +kernel)
  obtain ⟨ts, scanned, -⟩ := bind_eq_ok_iff.1 valued
  have same := (value_clean arithmetic).2.1 ts scanned
  rw [cleaned, valued] at same
  exact ⟨arithmetic, cleaned, valued, same⟩

/-- The place of a point that is refused is counted with the blanks before it, and cleaning drops them. -/
theorem value_clean_ne :
    (∀ c ∈ " .".toList, isArithmetic c = true) ∧
      (value " .".toList).mapError Fault.message =
        .error "Unexpected character '.' at position 1" ∧
      (value (clean " .".toList)).mapError Fault.message =
        .error "Unexpected character '.' at position 0" ∧
      value (clean " .".toList) ≠ value " .".toList := by
  have before : value " .".toList = .error (.unexpectedCharacter '.' 1) :=
    eq_error_of_fault? (by decide +kernel)
  have after : value (clean " .".toList) = .error (.unexpectedCharacter '.' 0) :=
    eq_error_of_fault? (by decide +kernel)
  rw [before, after]
  refine ⟨List.all_eq_true.1 (by decide +kernel), ?_, ?_, by simp⟩
  · exact congrArg Except.error (by decide +kernel)
  · exact congrArg Except.error (by decide +kernel)

end Switchboard.Expression
