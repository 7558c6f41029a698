import Switchboard.Proofs.Expression.Spacing

/-!
# Where a text goes wrong

A scan that fails has cut all that stands before the character it reports, and that character starts no
token. Which characters fit can also be told without a scan, from the text around them: blanks, digits,
operators and parentheses fit anywhere, and a point fits if a digit follows it or a whole part stands
right before it. The character that is reported is the first one that does not fit.
-/

namespace Switchboard.Expression

open Text

/-- What starts no numeral: a character that is no digit, nor a point before one. -/
theorem Numeral.leading?_eq_none_iff {c : Char} {rest : List Char} :
    leading? (c :: rest) = none ↔
      isDigit c = false ∧ (c = '.' → ∀ d ∈ rest.head?, isDigit d = false) := by
  cases digit : isDigit c with
  | true =>
    refine iff_of_false (fun none => ?_) nofun
    have taken : (c :: rest).takeWhile isDigit = c :: rest.takeWhile isDigit := by simp [digit]
    simp only [leading?, taken] at none
    split at none <;> simp at none
  | false =>
    have taken : (c :: rest).takeWhile isDigit = [] := by simp [digit]
    have dropped : (c :: rest).dropWhile isDigit = c :: rest := by simp [digit]
    simp only [leading?, taken, dropped, true_and]
    split
    · rename_i same
      obtain ⟨rfl, rfl⟩ := List.cons.inj same
      cases rest with
      | nil => simp
      | cons d rest => cases here : isDigit d <;> simp [here]
    · rename_i other
      simp only [List.isEmpty_nil, if_true, true_iff]
      rintro rfl
      exact absurd rfl (other rest)

/-- How a scan comes to a character that starts no token, with the text before it and after it. -/
inductive Strands : List Char → Char → List Char → Prop where
  | here {c : Char} {after : List Char} (dark : isBlank c = false)
      (leads : Numeral.leading? (c :: after) = none) (unknown : Token.ofChar? c = none) :
      Strands [] c after
  | blank {b c : Char} {before after : List Char} (blank : isBlank b = true)
      (rest : Strands before c after) : Strands (b :: before) c after
  | number {n : Numeral} {c : Char} {before after : List Char} (wellFormed : n.WellFormed)
      (stops : n.StopsBefore (before ++ c :: after)) (rest : Strands before c after) :
      Strands (n.text ++ before) c after
  | mark {d c : Char} {token : Token} {before after : List Char}
      (known : Token.ofChar? d = some token) (rest : Strands before c after) :
      Strands (d :: before) c after

theorem strands_of_tokensFrom {position : Nat} {text : List Char} {fault : Fault}
    (h : tokensFrom position text = .error fault) : ∃ before c after, text = before ++ c :: after ∧
      fault = .unexpectedCharacter c (position + before.length) ∧ Strands before c after := by
  induction position, text using tokensFrom.induct with
  | case1 position =>
    rw [tokensFrom] at h
    cases h
  | case2 position b rest blank ih =>
    rw [tokensFrom_of_isBlank blank] at h
    obtain ⟨before, c, after, rfl, rfl, strands⟩ := ih h
    refine ⟨b :: before, c, after, rfl, ?_, .blank blank strands⟩
    rw [List.length_cons, Nat.add_right_comm, Nat.add_assoc]
  | case3 position b rest dark n behind leads shorter ih =>
    rw [tokensFrom_of_leading? leads, map_eq_error_iff] at h
    obtain ⟨before, c, after, rfl, rfl, strands⟩ := ih h
    obtain ⟨wellFormed, parts, stops⟩ := Numeral.leading?_eq_some_iff.1 leads
    refine ⟨n.text ++ before, c, after, ?_, ?_, .number wellFormed stops strands⟩
    · rw [parts, List.append_assoc]
    · rw [List.length_append, Nat.add_assoc]
  | case4 position b rest dark leads token known ih =>
    rw [tokensFrom_of_ofChar? known, map_eq_error_iff] at h
    obtain ⟨before, c, after, rfl, rfl, strands⟩ := ih h
    refine ⟨b :: before, c, after, rfl, ?_, .mark known strands⟩
    rw [List.length_cons, Nat.add_right_comm, Nat.add_assoc]
  | case5 position b rest dark leads unknown =>
    rw [tokensFrom_of_unknown (Bool.eq_false_iff.2 dark) leads unknown] at h
    cases h
    exact ⟨[], b, rest, rfl, rfl, .here (Bool.eq_false_iff.2 dark) leads unknown⟩

theorem tokensFrom_of_strands {before after : List Char} {c : Char} (h : Strands before c after)
    (position : Nat) : tokensFrom position (before ++ c :: after) =
      .error (.unexpectedCharacter c (position + before.length)) := by
  induction h generalizing position with
  | here dark leads unknown => exact tokensFrom_of_unknown dark leads unknown
  | blank blank rest ih =>
    rw [List.cons_append, tokensFrom_of_isBlank blank, ih, List.length_cons, Nat.add_right_comm,
      Nat.add_assoc]
  | number wellFormed stops rest ih =>
    rw [List.append_assoc,
      tokensFrom_of_leading? (Numeral.leading?_eq_some_iff.2 ⟨wellFormed, rfl, stops⟩), ih,
      List.length_append, Nat.add_assoc]
    rfl
  | mark known rest ih =>
    rw [List.cons_append, tokensFrom_of_ofChar? known, ih, List.length_cons, Nat.add_right_comm,
      Nat.add_assoc]
    rfl

/-- A text has no tokens if and only if a scan of it strands, and then the fault says where. -/
theorem tokens_eq_error_iff {text : List Char} {fault : Fault} :
    tokens text = .error fault ↔ ∃ before c after, text = before ++ c :: after ∧
      fault = .unexpectedCharacter c before.length ∧ Strands before c after := by
  constructor
  · intro h
    obtain ⟨before, c, after, parts, rfl, strands⟩ := strands_of_tokensFrom h
    exact ⟨before, c, after, parts, by rw [Nat.zero_add], strands⟩
  · rintro ⟨before, c, after, rfl, rfl, strands⟩
    rw [tokens, tokensFrom_of_strands strands 0, Nat.zero_add]

theorem Numeral.StopsBefore.of_append {n : Numeral} {before after : List Char}
    (stops : n.StopsBefore (before ++ after)) : n.StopsBefore before := by
  intro c first
  apply stops c
  rw [List.head?_append, Option.mem_def.1 first]
  rfl

namespace Strands

variable {before after : List Char} {c : Char}

/-- What stands before has tokens. -/
theorem scans (h : Strands before c after) : ∃ ts, Scans before ts := by
  induction h with
  | here dark leads unknown => exact ⟨[], .nothing⟩
  | blank blank rest ih =>
    obtain ⟨ts, scans⟩ := ih
    exact ⟨ts, .blank blank scans⟩
  | @number n c before after wellFormed stops rest ih =>
    obtain ⟨ts, scans⟩ := ih
    exact ⟨.number n :: ts, .number wellFormed stops.of_append scans⟩
  | @mark d c token before after known rest ih =>
    obtain ⟨ts, scans⟩ := ih
    exact ⟨token :: ts, .mark known scans⟩

theorem isBlank_eq_false (h : Strands before c after) : isBlank c = false := by
  induction h with
  | here dark leads unknown => exact dark
  | blank blank rest ih => exact ih
  | number wellFormed stops rest ih => exact ih
  | mark known rest ih => exact ih

/-- The one character of expressions at which a scan can strand is the point. -/
theorem eq_point (h : Strands before c after) (arithmetic : isArithmetic c = true) : c = '.' := by
  induction h with
  | @here c after dark leads unknown =>
    rcases isArithmetic_iff.1 arithmetic with digit | sign | blank
    · cases (Numeral.leading?_eq_none_iff.1 leads).1.symm.trans digit
    · have signs : operatorChars.all (fun d => d == '.' || (Token.ofChar? d).isSome) = true := by decide
      have here := List.all_eq_true.1 signs c sign
      rw [unknown, Option.isSome_none, Bool.or_false, beq_iff_eq] at here
      exact here
    · cases dark.symm.trans blank
  | blank blank rest ih => exact ih arithmetic
  | number wellFormed stops rest ih => exact ih arithmetic
  | mark known rest ih => exact ih arithmetic

end Strands

/-- A whole part stands at the end: a row of digits with neither a digit nor a point before it. -/
def EndsWhole (before : List Char) : Prop :=
  ∃ front row, before = front ++ row ∧ row ≠ [] ∧ (∀ d ∈ row, isDigit d = true) ∧
    ∀ c ∈ front.getLast?, isDigit c = false ∧ c ≠ '.'

inductive Fits (before after : List Char) : Char → Prop where
  | blank {c : Char} (blank : isBlank c = true) : Fits before after c
  | digit {c : Char} (digit : isDigit c = true) : Fits before after c
  | mark {c : Char} (sign : c ∈ ['+', '-', '*', '/', '%', '(', ')']) : Fits before after c
  /-- The point starts a numeral, or its fraction follows. -/
  | beforeDigit {d : Char} (next : d ∈ after.head?) (digit : isDigit d = true) : Fits before after '.'
  /-- The point stands in a numeral, after its whole part. -/
  | afterWhole (whole : EndsWhole before) : Fits before after '.'

def FitsAt (s : List Char) (i : Nat) : Prop := ∃ c ∈ s[i]?, Fits (s.take i) (s.drop (i + 1)) c

def AllFit (before piece after : List Char) : Prop :=
  ∀ left c right, piece = left ++ c :: right → Fits (before ++ left) (right ++ after) c

theorem mem_signs_iff {c : Char} :
    c ∈ ['+', '-', '*', '/', '%', '(', ')'] ↔ ∃ token, Token.ofChar? c = some token := by
  constructor
  · have all : ['+', '-', '*', '/', '%', '(', ')'].all (fun c => (Token.ofChar? c).isSome) = true := by
      decide
    exact fun sign => Option.isSome_iff_exists.1 (List.all_eq_true.1 all c sign)
  · rintro ⟨token, known⟩
    rcases Token.ofChar?_eq_some known with ⟨rfl, -⟩ | ⟨rfl, -⟩ | ⟨o, rfl, -⟩
    · decide
    · decide
    · cases o <;> decide

namespace AllFit

variable {before piece piece' after : List Char}

theorem nil : AllFit before [] after := by
  intro left c right parts
  simp at parts

theorem append (h : AllFit before piece (piece' ++ after))
    (h' : AllFit (before ++ piece) piece' after) : AllFit before (piece ++ piece') after := by
  intro left c right parts
  rcases List.append_eq_append_iff.1 parts with ⟨more, rfl, behind⟩ | ⟨more, within, behind⟩
  · have fits := h' more c right behind
    rwa [List.append_assoc] at fits
  · cases more with
    | nil =>
      have fits := h' [] c right (by simpa using behind.symm)
      rw [List.append_nil] at within fits
      rwa [within] at fits
    | cons d more =>
      obtain ⟨rfl, rfl⟩ := List.cons.inj behind
      have fits := h left c more within
      rwa [← List.append_assoc] at fits

theorem single {c : Char} (fits : Fits before after c) : AllFit before [c] after := by
  intro left d right parts
  cases left with
  | nil =>
    obtain ⟨rfl, rfl⟩ := List.cons.inj parts
    rwa [List.append_nil]
  | cons e left =>
    obtain ⟨-, none⟩ := List.cons.inj parts
    simp at none

end AllFit

/-- No numeral goes on across the place between two texts. -/
structure Boundary (before text : List Char) : Prop where
  digit : ∀ d ∈ text.head?, isDigit d = true → ∀ c ∈ before.getLast?, isDigit c = false ∧ c ≠ '.'
  point : text.head? = some '.' → ¬ EndsWhole before

namespace Boundary

variable {before text : List Char}

theorem start : Boundary [] text := by
  constructor
  · exact fun d _ _ => nofun
  · rintro - ⟨front, row, parts, given, -⟩
    exact given (List.append_eq_nil_iff.1 parts.symm).2

/-- A character that is no part of a numeral ends whatever stands before it. -/
theorem snoc {c : Char} (other : isDigit c = false) (point : c ≠ '.') : Boundary (before ++ [c]) text := by
  constructor
  · intro d _ _ e last
    rw [List.getLast?_concat] at last
    cases last
    exact ⟨other, point⟩
  · rintro - ⟨front, row, parts, given, digits, -⟩
    have last : (front ++ row).getLast? = some c := parts ▸ List.getLast?_concat
    rw [List.getLast?_append, List.getLast?_eq_some_getLast given, Option.some_or] at last
    have digit := digits _ (List.getLast_mem given)
    rw [Option.some.inj last] at digit
    cases other.symm.trans digit

/-- A numeral with a point in it does not end with a whole part. -/
theorem not_endsWhole_append {whole fraction : List Char} (digits : ∀ d ∈ fraction, isDigit d = true) :
    ¬ EndsWhole (before ++ (whole ++ '.' :: fraction)) := by
  rintro ⟨front, row, parts, given, digits', stop⟩
  rw [← List.append_assoc] at parts
  rcases List.append_eq_append_iff.1 parts with ⟨more, rfl, behind⟩ | ⟨more, -, rfl⟩
  · cases more with
    | nil =>
      have point := digits' '.' (by rw [List.nil_append] at behind; simp [← behind])
      cases point
    | cons c more =>
      obtain ⟨rfl, rfl⟩ := List.cons.inj behind
      -- what stands before the row is the point, or a digit of the fraction
      have given' := List.cons_ne_nil '.' more
      have last : (before ++ whole ++ '.' :: more).getLast? = some (('.' :: more).getLast given') := by
        rw [List.getLast?_append, List.getLast?_eq_some_getLast given', Option.some_or]
      obtain ⟨other, point⟩ := stop _ last
      rcases List.mem_cons.1 (List.getLast_mem given') with same | within
      · exact point same
      · cases other.symm.trans (digits _ (List.mem_append_left _ within))
  · have point := digits' '.' (by simp)
    cases point

theorem after_numeral {n : Numeral} (wellFormed : n.WellFormed) (stops : n.StopsBefore text) :
    Boundary (before ++ n.text) text := by
  constructor
  · intro d first digit
    cases (stops d first).1.symm.trans digit
  · intro first
    cases fraction : n.fraction with
    | none => exact absurd rfl ((stops '.' first).2 fraction)
    | some row =>
      have digits := wellFormed.2.1
      rw [fraction, Option.getD_some, List.all_eq_true] at digits
      rw [Numeral.text, fraction]
      exact not_endsWhole_append digits

end Boundary

/-- The characters of a numeral fit, each in its place. -/
theorem Numeral.allFit {n : Numeral} {before text : List Char} (wellFormed : n.WellFormed)
    (boundary : Boundary before (n.text ++ text)) : AllFit before n.text text := by
  intro left c right parts
  rcases isDigit_or_eq_point wellFormed c (by simp [parts]) with digit | rfl
  · exact .digit digit
  · obtain ⟨whole, fraction⟩ := n
    obtain ⟨all, allFraction, given⟩ := wellFormed
    rw [List.all_eq_true] at all allFraction
    cases fraction with
    | none =>
      have same : whole = left ++ '.' :: right := parts
      have point := all '.' (by simp [same])
      cases point
    | some fraction =>
      rw [Option.getD_some] at allFraction given
      change whole ++ '.' :: fraction = _ at parts
      -- the point is the only one, so it parts the whole part from the fraction
      obtain ⟨rfl, rfl⟩ : whole = left ∧ fraction = right := by
        rcases List.append_eq_append_iff.1 parts with ⟨more, rfl, behind⟩ | ⟨more, rfl, behind⟩
        · cases more with
          | nil => exact ⟨by simp, by simpa using behind⟩
          | cons d more =>
            have point := allFraction '.' (by simp [(List.cons.inj behind).2])
            cases point
        · cases more with
          | nil => exact ⟨by simp, by simpa using behind.symm⟩
          | cons d more =>
            obtain ⟨rfl, -⟩ := List.cons.inj behind
            have point := all '.' (by simp)
            cases point
      cases fraction with
      | cons d fraction => exact .beforeDigit rfl (allFraction d List.mem_cons_self)
      | nil =>
        obtain ⟨d, digits, rfl⟩ := List.exists_cons_of_ne_nil (given.resolve_right (· rfl))
        exact .afterWhole ⟨before, d :: digits, rfl, List.cons_ne_nil _ _, all,
          boundary.digit d rfl (all d List.mem_cons_self)⟩

theorem isDigit_of_ofChar? {c : Char} {token : Token} (known : Token.ofChar? c = some token) :
    isDigit c = false ∧ c ≠ '.' := by
  rcases Token.ofChar?_eq_some known with ⟨rfl, -⟩ | ⟨rfl, -⟩ | ⟨o, rfl, -⟩
  · decide
  · decide
  · cases o <;> decide

theorem AllFit.mark {before after : List Char} {c : Char} {token : Token}
    (known : Token.ofChar? c = some token) : AllFit before [c] after :=
  .single (.mark (mem_signs_iff.2 ⟨token, known⟩))

/-- A misfit behind a piece that fits is the first one of both. -/
theorem AllFit.append_misfit {done piece before after : List Char} {c : Char}
    (first : AllFit done piece (before ++ c :: after))
    (later : AllFit (done ++ piece) before (c :: after) ∧ ¬ Fits (done ++ piece ++ before) after c) :
    AllFit done (piece ++ before) (c :: after) ∧ ¬ Fits (done ++ (piece ++ before)) after c := by
  obtain ⟨fit, misfit⟩ := later
  rw [List.append_assoc] at misfit
  exact ⟨first.append fit, misfit⟩

/-- All characters of a text fit if it has tokens. -/
theorem Scans.allFit {before text : List Char} {ts : List Token} (h : Scans text ts)
    (boundary : Boundary before text) : AllFit before text [] := by
  induction h generalizing before with
  | nothing => exact .nil
  | @blank c text ts blank rest ih =>
    obtain ⟨other, point⟩ := isDigit_of_isBlank blank
    have first : AllFit before [c] (text ++ []) := .single (.blank blank)
    exact first.append (ih (.snoc other point))
  | @number n text ts wellFormed stops rest ih =>
    have first := Numeral.allFit wellFormed boundary
    rw [← List.append_nil text] at first
    exact first.append (ih (.after_numeral wellFormed stops))
  | @mark c token text ts known rest ih =>
    obtain ⟨other, point⟩ := isDigit_of_ofChar? known
    have first : AllFit before [c] (text ++ []) := .mark known
    exact first.append (ih (.snoc other point))

/-- Where a scan strands, all characters fit up to there, and that one does not. -/
theorem Strands.allFit {done before after : List Char} {c : Char} (h : Strands before c after)
    (boundary : Boundary done (before ++ c :: after)) :
    AllFit done before (c :: after) ∧ ¬ Fits (done ++ before) after c := by
  induction h generalizing done with
  | here dark leads unknown =>
    refine ⟨.nil, fun fits => ?_⟩
    obtain ⟨other, point⟩ := Numeral.leading?_eq_none_iff.1 leads
    rw [List.append_nil] at fits
    cases fits with
    | blank blank => cases dark.symm.trans blank
    | digit digit => cases other.symm.trans digit
    | mark sign =>
      obtain ⟨token, known⟩ := mem_signs_iff.1 sign
      cases unknown.symm.trans known
    | beforeDigit next digit => cases (point rfl _ next).symm.trans digit
    | afterWhole whole => exact boundary.point rfl whole
  | @blank b c before after blank rest ih =>
    obtain ⟨other, point⟩ := isDigit_of_isBlank blank
    have first : AllFit done [b] (before ++ c :: after) := .single (.blank blank)
    exact first.append_misfit (ih (.snoc other point))
  | @number n c before after wellFormed stops rest ih =>
    rw [List.append_assoc] at boundary
    have first := Numeral.allFit wellFormed boundary
    exact first.append_misfit (ih (.after_numeral wellFormed stops))
  | @mark d c token before after known rest ih =>
    obtain ⟨other, point⟩ := isDigit_of_ofChar? known
    have first : AllFit done [d] (before ++ c :: after) := .mark known
    exact first.append_misfit (ih (.snoc other point))

theorem fitsAt_length_iff {left right : List Char} {c : Char} :
    FitsAt (left ++ c :: right) left.length ↔ Fits left right c := by
  have taken : (left ++ c :: right).take left.length = left := List.take_left
  have dropped : (left ++ c :: right).drop (left.length + 1) = right := by simp
  have here : (left ++ c :: right)[left.length]? = some c := by simp
  rw [FitsAt, taken, dropped, here]
  simp

theorem AllFit.fitsAt {piece after : List Char} (h : AllFit [] piece after) {i : Nat}
    (bound : i < piece.length) : FitsAt (piece ++ after) i := by
  have parts : piece = piece.take i ++ piece[i] :: piece.drop (i + 1) := by simp
  have fits := h _ _ _ parts
  rw [List.nil_append, ← fitsAt_length_iff, ← List.cons_append, ← List.append_assoc, ← parts,
    List.length_take_of_le (Nat.le_of_lt bound)] at fits
  exact fits

/-- The character that is reported is the first one that does not fit, with its place in the text. -/
theorem tokens_eq_error_iff_misfit {s : List Char} {c : Char} {p : Nat} :
    tokens s = .error (.unexpectedCharacter c p) ↔
      s[p]? = some c ∧ ¬ FitsAt s p ∧ ∀ i < p, FitsAt s i := by
  have reported {c : Char} {p : Nat} (h : tokens s = .error (.unexpectedCharacter c p)) :
      s[p]? = some c ∧ ¬ FitsAt s p ∧ ∀ i < p, FitsAt s i := by
    obtain ⟨before, d, after, rfl, fault, strands⟩ := tokens_eq_error_iff.1 h
    obtain ⟨rfl, rfl⟩ := Fault.unexpectedCharacter.inj fault
    obtain ⟨fit, misfit⟩ := strands.allFit .start
    exact ⟨by simp, fun fits => misfit (fitsAt_length_iff.1 fits), fun i => fit.fitsAt⟩
  refine ⟨reported, ?_⟩
  rintro ⟨here, misfit, fit⟩
  cases scanned : tokens s with
  | ok ts =>
    obtain ⟨bound, -⟩ := List.getElem?_eq_some_iff.1 here
    have fits := ((tokens_eq_ok_iff.1 scanned).allFit .start).fitsAt bound
    rw [List.append_nil] at fits
    exact absurd fits misfit
  | error fault =>
    obtain ⟨before, d, after, -, rfl, -⟩ := tokens_eq_error_iff.1 scanned
    obtain ⟨there, misfit', fit'⟩ := reported scanned
    rcases Nat.lt_trichotomy p before.length with less | rfl | more
    · exact absurd (fit' p less) misfit
    · cases here.symm.trans there
      rfl
    · exact absurd (fit _ more) misfit'

end Switchboard.Expression
