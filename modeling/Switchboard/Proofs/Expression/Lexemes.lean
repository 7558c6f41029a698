import Switchboard.Proofs.Expression.Misfit

/-!
# Tokens and the texts they stand for

The tokens of a text spell it out, but for its blanks, and each numeral is as long as it can be. Tokens
that are written down with blanks between them are read back. So nothing is lost when a text is cut into
tokens, and a text that cannot be cut is refused at the first character that does not fit.
-/

namespace Switchboard.Expression

open Text

/-- Digits, digits with a point after them and perhaps more digits, or a point and digits. -/
inductive Numeric : List Char → Prop where
  | whole {row : List Char} (given : row ≠ []) (digits : ∀ c ∈ row, isDigit c = true) : Numeric row
  | point {row fraction : List Char} (given : row ≠ []) (digits : ∀ c ∈ row, isDigit c = true)
      (digits' : ∀ c ∈ fraction, isDigit c = true) : Numeric (row ++ '.' :: fraction)
  | fraction {row : List Char} (given : row ≠ []) (digits : ∀ c ∈ row, isDigit c = true) :
      Numeric ('.' :: row)

namespace Numeral

variable {n : Numeral} {text rest : List Char}

theorem numeric_iff : Numeric text ↔ ∃ n : Numeral, n.WellFormed ∧ n.text = text := by
  constructor
  · intro numeric
    cases numeric with
    | whole given digits => exact ⟨⟨text, none⟩, ⟨List.all_eq_true.2 digits, rfl, .inl given⟩, rfl⟩
    | @point row fraction given digits digits' =>
      exact ⟨⟨row, some fraction⟩, ⟨List.all_eq_true.2 digits, List.all_eq_true.2 digits', .inl given⟩, rfl⟩
    | @fraction row given digits =>
      exact ⟨⟨[], some row⟩, ⟨rfl, List.all_eq_true.2 digits, .inr given⟩, rfl⟩
  · rintro ⟨⟨whole, fraction⟩, ⟨all, allFraction, given⟩, rfl⟩
    rw [List.all_eq_true] at all allFraction
    cases fraction with
    | none =>
      have nonempty : whole ≠ [] := by simpa using given
      exact .whole nonempty all
    | some fraction =>
      by_cases started : whole = []
      · subst started
        exact .fraction (given.resolve_left (· rfl)) allFraction
      · exact .point started all allFraction

theorem count_point (h : n.WellFormed) : n.text.count '.' = if n.fraction = none then 0 else 1 := by
  have without {row : List Char} (digits : row.all isDigit = true) : row.count '.' = 0 := by
    rw [List.count_eq_zero]
    intro point
    cases List.all_eq_true.1 digits '.' point
  obtain ⟨whole, fraction⟩ := n
  obtain ⟨all, allFraction, -⟩ := h
  cases fraction with
  | none => exact without all
  | some fraction =>
    change (whole ++ '.' :: fraction).count '.' = 1
    rw [Option.getD_some] at allFraction
    rw [List.count_append, List.count_cons_self, without all, without allFraction]

/-- A numeral that stops before a character cannot be extended by it. -/
theorem not_numeric_snoc (h : n.WellFormed) (stops : n.StopsBefore rest) :
    ∀ c ∈ rest.head?, ¬ Numeric (n.text ++ [c]) := by
  intro c first longer
  obtain ⟨m, wellFormed, same⟩ := numeric_iff.1 longer
  obtain ⟨other, whole⟩ := stops c first
  rcases isDigit_or_eq_point wellFormed c (by simp [same]) with digit | rfl
  · cases other.symm.trans digit
  · -- the numeral has a point already, and no numeral has two
    have two : m.text.count '.' = 2 := by
      rw [same, List.count_append, count_point h, if_neg fun none => whole none rfl]
      rfl
    have most := count_point wellFormed
    split at most <;> omega

end Numeral

/-- The sort of a token; operators and parentheses are sorts of their own. -/
def Token.kind : Token → String
  | number _ => "number"
  | operator .plus => "+"
  | operator .minus => "-"
  | operator .times => "*"
  | operator .dividedBy => "/"
  | operator .modulo => "%"
  | opening => "("
  | closing => ")"

theorem Token.kind_eq_text {token : Token} (other : ∀ n, token ≠ .number n) :
    token.kind.toList = token.text := by
  cases token with
  | number n => exact absurd rfl (other n)
  | operator o => cases o <;> rfl
  | opening => rfl
  | closing => rfl

theorem Token.text_of_ofChar? {c : Char} {token : Token} (known : ofChar? c = some token) :
    token.text = [c] := by
  rcases ofChar?_eq_some known with ⟨rfl, rfl⟩ | ⟨rfl, rfl⟩ | ⟨o, rfl, rfl⟩ <;> rfl

namespace Scans

variable {s text : List Char} {ts : List Token}

theorem flatMap_text (h : Scans s ts) : ts.flatMap Token.text = s.filter (!isBlank ·) := by
  induction h with
  | nothing => rfl
  | blank blank rest ih => rw [ih, List.filter_cons_of_neg (by simp [blank])]
  | @number n text ts wellFormed stops rest ih =>
    have dark : n.text.filter (!isBlank ·) = n.text := by
      rw [List.filter_eq_self]
      intro c member
      rw [Numeral.isBlank_of_mem_text wellFormed c member]
      rfl
    rw [List.flatMap_cons, List.filter_append, dark, ih]
    rfl
  | @mark c token text ts known rest ih =>
    rw [List.flatMap_cons, Token.text_of_ofChar? known, ih,
      List.filter_cons_of_pos (by simp [isBlank_of_ofChar? known])]
    rfl

/-- A text parts at each of its numerals, which stops before what comes after it. -/
theorem parts (h : Scans s ts) {left right : List Token} {n : Numeral}
    (here : ts = left ++ .number n :: right) : ∃ before after, s = before ++ (n.text ++ after) ∧
      Scans before left ∧ n.StopsBefore after ∧ Scans after right := by
  induction h generalizing left with
  | nothing => simp at here
  | @blank c text ts blank rest ih =>
    obtain ⟨before, after, rfl, scans, stops, scans'⟩ := ih here
    exact ⟨c :: before, after, rfl, .blank blank scans, stops, scans'⟩
  | @number m text ts wellFormed stops' rest ih =>
    cases left with
    | nil =>
      obtain ⟨same, rfl⟩ := List.cons.inj here
      cases same
      exact ⟨[], text, rfl, .nothing, stops', rest⟩
    | cons token left =>
      obtain ⟨rfl, later⟩ := List.cons.inj here
      obtain ⟨before, after, rfl, scans, stops, scans'⟩ := ih later
      exact ⟨m.text ++ before, after, by simp, .number wellFormed stops'.of_append scans, stops, scans'⟩
  | @mark c token text ts known rest ih =>
    cases left with
    | nil =>
      obtain ⟨rfl, -⟩ := List.cons.inj here
      exact absurd known Token.ofChar?_ne_number
    | cons token' left =>
      obtain ⟨rfl, later⟩ := List.cons.inj here
      obtain ⟨before, after, rfl, scans, stops, scans'⟩ := ih later
      exact ⟨c :: before, after, rfl, .mark known scans, stops, scans'⟩

end Scans

def Token.Valid : Token → Prop
  | number n => n.WellFormed
  | _ => True

def joined (first : Token) (more : List (List Char × Token)) : List Char :=
  first.text ++ more.flatMap fun (gap, token) => gap ++ token.text

theorem joined_cons (first token : Token) (gap : List Char) (more : List (List Char × Token)) :
    joined first ((gap, token) :: more) = first.text ++ (gap ++ joined token more) := by
  simp [joined]

/-- A token can be put before a text that starts with a blank. -/
theorem Scans.cons {token : Token} {text : List Char} {ts : List Token} (valid : token.Valid)
    (apart : ∀ c ∈ text.head?, isBlank c = true) (h : Scans text ts) :
    Scans (token.text ++ text) (token :: ts) := by
  cases token with
  | number n =>
    refine .number valid (fun c first => ?_) h
    obtain ⟨other, point⟩ := isDigit_of_isBlank (apart c first)
    exact ⟨other, fun _ => point⟩
  | operator o => exact .mark (by cases o <;> rfl) h
  | opening => exact .mark rfl h
  | closing => exact .mark rfl h

theorem scans_joined {first : Token} {more : List (List Char × Token)} (valid : first.Valid)
    (apart : ∀ gap token, (gap, token) ∈ more →
      token.Valid ∧ gap ≠ [] ∧ ∀ c ∈ gap, isBlank c = true) :
    Scans (joined first more) (first :: more.map Prod.snd) := by
  induction more generalizing first with
  | nil => exact .cons valid nofun .nothing
  | cons next more ih =>
    obtain ⟨gap, token⟩ := next
    obtain ⟨valid', given, blank⟩ := apart gap token List.mem_cons_self
    have later := ih valid' fun gap token member => apart gap token (List.mem_cons_of_mem _ member)
    rw [joined_cons]
    refine .cons valid (fun c start => blank c ?_) (later.append_blanks blank)
    obtain ⟨b, bs, rfl⟩ := List.exists_cons_of_ne_nil given
    cases start
    exact List.mem_cons_self

/-- Cutting a text into tokens loses nothing but its blanks, and each numeral takes all the characters that
it can. Tokens with blanks between them are read back as they are. A text that has no tokens is refused
at the first character that is neither blank, nor an operator, a parenthesis or a digit, nor a point of a
numeral. -/
theorem tokens_lossless :
    (∀ s ts, tokens s = .ok ts →
      ts.flatMap Token.text = s.filter (!isBlank ·) ∧
      (∀ left n right, ts = left ++ .number n :: right →
        Numeric n.text ∧ ∃ before after, s = before ++ (n.text ++ after) ∧
          tokens before = .ok left ∧ tokens after = .ok right ∧
          ∀ c ∈ after.head?, ¬ Numeric (n.text ++ [c])) ∧
      ∀ token ∈ ts, (∀ n, token ≠ .number n) → token.kind.toList = token.text) ∧
    tokens [] = .ok [] ∧
    (∀ first more, first.Valid →
      (∀ gap token, (gap, token) ∈ more → token.Valid ∧ gap ≠ [] ∧ ∀ c ∈ gap, isBlank c = true) →
      tokens (joined first more) = .ok (first :: more.map Prod.snd)) ∧
    (∀ s fault, tokens s = .error fault →
      ∃ c p ts, fault = .unexpectedCharacter c p ∧ tokens (s.take p) = .ok ts) ∧
    ∀ s c p, tokens s = .error (.unexpectedCharacter c p) ↔
      s[p]? = some c ∧ ¬ FitsAt s p ∧ ∀ i < p, FitsAt s i := by
  refine ⟨?spelled, tokens_eq_ok_iff.2 .nothing, ?readBack, ?refused, ?_⟩
  case spelled =>
    intro s ts scanned
    have scans := tokens_eq_ok_iff.1 scanned
    refine ⟨scans.flatMap_text, ?_, fun token _ other => Token.kind_eq_text other⟩
    intro left n right here
    have wellFormed := scans.wellFormed n (by simp [here])
    obtain ⟨before, after, parts, scansLeft, stops, scansRight⟩ := scans.parts here
    exact ⟨Numeral.numeric_iff.2 ⟨n, wellFormed, rfl⟩, before, after, parts,
      tokens_eq_ok_iff.2 scansLeft, tokens_eq_ok_iff.2 scansRight,
      Numeral.not_numeric_snoc wellFormed stops⟩
  case readBack =>
    intro first more valid apart
    exact tokens_eq_ok_iff.2 (scans_joined valid apart)
  case refused =>
    intro s fault failed
    obtain ⟨before, c, after, rfl, rfl, strands⟩ := tokens_eq_error_iff.1 failed
    obtain ⟨ts, scans⟩ := strands.scans
    refine ⟨c, before.length, ts, rfl, ?_⟩
    rw [List.take_left]
    exact tokens_eq_ok_iff.2 scans
  exact fun s c p => tokens_eq_error_iff_misfit

example : tokens "1..2.3".toList =
    .ok [.number ⟨['1'], some []⟩, .number ⟨[], some ['2']⟩, .number ⟨[], some ['3']⟩] :=
  eq_ok_of_toOption (by decide +kernel)

example : tokens "1 .5.".toList = .error (.unexpectedCharacter '.' 4) :=
  eq_error_of_fault? (by decide +kernel)

end Switchboard.Expression
