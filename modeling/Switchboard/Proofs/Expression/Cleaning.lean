import Switchboard.Proofs.Expression.Spacing
import Switchboard.Proofs.Expression.Validity
import Switchboard.Proofs.Skill.Matching

/-!
# What cleaning keeps

Cleaning drops the phrases that ask and the characters that no expression holds. An expression is left
as it is, up to its blanks. Whatever is left of a question is left piece by piece: each piece comes from
a piece of the question, which may be longer by what is dropped inside it. So a numeral of the
expression stands in the question as it is only if nothing is dropped between its digits.
-/

namespace Switchboard.Expression

open Text

def askingWords : List String := ["what's", "calculate", "compute", "solve"]

inductive Asks : List Char → Prop where
  | question {what blanks is : List Char} (same : SameLetters "what".toList what)
      (apart : blanks ≠ []) (blank : ∀ c ∈ blanks, isBlank c = true)
      (same' : SameLetters "is".toList is) : Asks (what ++ (blanks ++ is))
  | word {word : String} {phrase : List Char} (known : word ∈ askingWords)
      (same : SameLetters word.toList phrase) : Asks phrase

def arithmeticCodes : List Nat :=
  List.range' 48 10 ++ operatorChars.map Char.toNat ++ List.range' 9 5 ++ List.range' 28 5 ++
    [0x85, 0xA0, 0x1680] ++ List.range' 0x2000 11 ++ [0x2028, 0x2029, 0x202F, 0x205F, 0x3000]

theorem mem_arithmeticCodes {c : Char} (h : isArithmetic c = true) : c.toNat ∈ arithmeticCodes := by
  simp only [isArithmetic, Bool.or_eq_true] at h
  rcases h with (digit | operator) | blank
  · obtain ⟨low, high⟩ := Bool.and_eq_true_iff.1 digit
    have low : 48 ≤ c.toNat := of_decide_eq_true low
    have high : c.toNat ≤ 57 := of_decide_eq_true high
    simp only [arithmeticCodes, List.mem_append, List.mem_range'_1]
    omega
  · have code := List.mem_map_of_mem (f := Char.toNat) (List.contains_iff_mem.1 operator)
    simp only [arithmeticCodes, List.mem_append, code, true_or, or_true]
  · simp only [isBlank, Bool.or_eq_true, Bool.and_eq_true, decide_eq_true_iff, beq_iff_eq] at blank
    simp only [arithmeticCodes, List.mem_append, List.mem_range'_1, List.mem_cons]
    omega

/-- What holds of all characters of expressions can be checked one by one. -/
theorem of_isArithmetic {P : Char → Prop} (all : ∀ n ∈ arithmeticCodes, P (Char.ofNat n)) {c : Char}
    (h : isArithmetic c = true) : P c := by
  have here := all c.toNat (mem_arithmeticCodes h)
  rwa [Char.ofNat_toNat] at here

/-- No letter of a phrase that asks is a character of expressions. -/
theorem isArithmetic_of_mem {word : String} {phrase : List Char}
    (known : word ∈ "what" :: "is" :: askingWords) (same : SameLetters word.toList phrase) :
    ∀ c ∈ phrase, isArithmetic c = false := by
  intro c member
  have key : letterKey c ∈ word.toList.map letterKey := by
    rw [same]
    exact List.mem_map_of_mem member
  cases arithmetic : isArithmetic c with
  | false => rfl
  | true =>
    have own : letterKey c = c :=
      of_isArithmetic (P := fun c => letterKey c = c) (by decide) arithmetic
    have letters : ("what" :: "is" :: askingWords).all (fun word =>
        (word.toList.map letterKey).all (!isArithmetic ·)) = true := by decide
    rw [own] at key
    have apart := List.all_eq_true.1 (List.all_eq_true.1 letters word known) c key
    rw [arithmetic] at apart
    cases apart

theorem head_of_mem (word : String) {phrase : List Char} (known : word ∈ "what" :: "is" :: askingWords)
    (same : SameLetters word.toList phrase) (rest : List Char) :
    ∃ c more, phrase ++ rest = c :: more ∧ isArithmetic c = false := by
  have given : ∀ word ∈ "what" :: "is" :: askingWords, word.toList.length ≠ 0 := by decide
  cases phrase with
  | nil => exact absurd same.length_eq.symm (given word known)
  | cons c phrase => exact ⟨c, phrase ++ rest, rfl, isArithmetic_of_mem known same c List.mem_cons_self⟩

theorem isBlank_of_isArithmetic {c : Char} (dark : isArithmetic c = false) : isBlank c = false := by
  cases blank : isBlank c with
  | false => rfl
  | true => cases dark.symm.trans (isArithmetic_of_isBlank blank)

theorem Asks.head {phrase : List Char} (asks : Asks phrase) (rest : List Char) :
    ∃ c more, phrase ++ rest = c :: more ∧ isArithmetic c = false := by
  cases asks with
  | question same apart blank same' =>
    rw [List.append_assoc]
    exact head_of_mem "what" (by decide) same _
  | word known same =>
    exact head_of_mem _ (List.mem_cons_of_mem _ (List.mem_cons_of_mem _ known)) same rest

theorem afterWords_eq_some_iff {text rest : List Char} :
    afterWords "what".toList "is".toList text = some rest ↔
      ∃ what blanks is, text = what ++ (blanks ++ (is ++ rest)) ∧ SameLetters "what".toList what ∧
        blanks ≠ [] ∧ (∀ c ∈ blanks, isBlank c = true) ∧ SameLetters "is".toList is := by
  constructor
  · intro h
    unfold afterWords at h
    split at h
    · rename_i c after first
      split at h
      · rename_i blank
        obtain ⟨what, rfl, same⟩ := afterWord_eq_some_iff.1 first
        obtain ⟨is, behind, same'⟩ := afterWord_eq_some_iff.1 h
        have parts := List.takeWhile_append_dropWhile (p := isBlank) (l := after)
        refine ⟨what, c :: after.takeWhile isBlank, is, ?_, same, List.cons_ne_nil _ _, ?_, same'⟩
        · rw [← behind, List.cons_append, parts]
        · exact List.forall_mem_cons.2 ⟨blank, List.all_eq_true.1 List.all_takeWhile⟩
      · cases h
    · cases h
  · rintro ⟨what, blanks, is, rfl, same, apart, blank, same'⟩
    obtain ⟨b, blanks, rfl⟩ := List.exists_cons_of_ne_nil apart
    rw [List.forall_mem_cons] at blank
    have first : afterWord "what".toList (what ++ (b :: blanks ++ (is ++ rest))) =
        some (b :: (blanks ++ (is ++ rest))) :=
      afterWord_eq_some_iff.2 ⟨what, rfl, same⟩
    have dark : ∀ c ∈ (is ++ rest).head?, isBlank c = false := by
      obtain ⟨i, more, parts, dark⟩ := head_of_mem "is" (by decide) same' rest
      rw [parts]
      rintro c ⟨⟩
      exact isBlank_of_isArithmetic dark
    have dropped : (blanks ++ (is ++ rest)).dropWhile isBlank = is ++ rest :=
      (span_append blank.2 dark).2
    rw [afterWords, first]
    dsimp only
    rw [if_pos blank.1, dropped]
    exact afterWord_eq_some_iff.2 ⟨is, rfl, same'⟩

theorem afterAsking_eq (text : List Char) :
    afterAsking text = (afterWords "what".toList "is".toList text).or
      (askingWords.findSome? fun word => afterWord word.toList text) := by
  have step (f : String → Option (List Char)) (word : String) (others : List String) :
      (word :: others).findSome? f = (f word).or (others.findSome? f) := by
    rw [List.findSome?_cons]
    cases f word <;> rfl
  rw [askingWords, step, step, step, step, List.findSome?_nil, Option.or_none]
  simp only [afterAsking, Option.orElse_eq_orElse, Option.orElse_eq_or]

theorem afterWords_eq_none {word : String} {phrase rest : List Char} (known : word ∈ askingWords)
    (same : SameLetters word.toList phrase) :
    afterWords "what".toList "is".toList (phrase ++ rest) = none := by
  rw [Option.eq_none_iff_forall_ne_some]
  intro rest' h
  obtain ⟨what, blanks, is, parts, same', apart, blank, -⟩ := afterWords_eq_some_iff.1 h
  have longer : ∀ word ∈ askingWords, "what".toList.length < word.toList.length := by decide
  have long := longer word known
  rw [← same.length_eq, ← same'.length_eq] at long
  -- the blank after `what` would be one of the letters of the word
  rcases List.append_eq_append_iff.1 parts with ⟨more, found, -⟩ | ⟨more, found, behind⟩
  · rw [found, List.length_append] at long
    omega
  · obtain ⟨b, blanks, rfl⟩ := List.exists_cons_of_ne_nil apart
    have member : b ∈ phrase := by
      cases more with
      | nil => simp [found] at long
      | cons c more =>
        obtain ⟨rfl, -⟩ := List.cons.inj behind
        simp [found]
    have dark := isArithmetic_of_mem (by simp [known]) same b member
    cases dark.symm.trans (isArithmetic_of_isBlank (blank b List.mem_cons_self))

theorem afterAsking_eq_some_iff {text rest : List Char} :
    afterAsking text = some rest ↔ ∃ phrase, text = phrase ++ rest ∧ Asks phrase := by
  rw [afterAsking_eq, Option.or_eq_some_iff]
  constructor
  · rintro (h | ⟨-, h⟩)
    · obtain ⟨what, blanks, is, rfl, same, apart, blank, same'⟩ := afterWords_eq_some_iff.1 h
      exact ⟨what ++ (blanks ++ is), by simp, .question same apart blank same'⟩
    · obtain ⟨word, known, found⟩ := List.exists_of_findSome?_eq_some h
      obtain ⟨phrase, rfl, same⟩ := afterWord_eq_some_iff.1 found
      exact ⟨phrase, rfl, .word known same⟩
  · rintro ⟨phrase, rfl, asks⟩
    cases asks with
    | @question what blanks is same apart blank same' =>
      exact .inl (afterWords_eq_some_iff.2 ⟨what, blanks, is, by simp, same, apart, blank, same'⟩)
    | @word word _ known same =>
      refine .inr ⟨afterWords_eq_none known same, ?_⟩
      have here : afterWord word.toList (phrase ++ rest) = some rest :=
        afterWord_eq_some_iff.2 ⟨phrase, rfl, same⟩
      have distinct : ∀ word ∈ askingWords, ∀ other ∈ askingWords,
          agree word.toList other.toList = true → word = other := by decide
      apply findSome?_eq_some_of_only known here
      intro other known' rest' there
      obtain ⟨phrase', parts, same'⟩ := afterWord_eq_some_iff.1 there
      exact (distinct word known other known' (agree_of_append same same' parts)).symm

theorem dropAsking_nil : dropAsking [] = [] := by rw [dropAsking]

theorem dropAsking_append {phrase : List Char} (asks : Asks phrase) (rest : List Char) :
    dropAsking (phrase ++ rest) = dropAsking rest := by
  have found : afterAsking (phrase ++ rest) = some rest :=
    afterAsking_eq_some_iff.2 ⟨phrase, rfl, asks⟩
  obtain ⟨c, more, parts, -⟩ := asks.head rest
  rw [parts] at found ⊢
  rw [dropAsking]
  split
  · rename_i after h
    obtain rfl := Option.some.inj (h.symm.trans found)
    rfl
  · rename_i h
    cases h.symm.trans found

theorem dropAsking_cons {c : Char} {rest : List Char} (missed : afterAsking (c :: rest) = none) :
    dropAsking (c :: rest) = c :: dropAsking rest := by
  rw [dropAsking]
  split
  · rename_i after h
    cases h.symm.trans missed
  · rfl

/-- A text of characters of expressions holds no phrase that asks. -/
theorem dropAsking_eq_self {text : List Char} (arithmetic : ∀ c ∈ text, isArithmetic c = true) :
    dropAsking text = text := by
  induction text with
  | nil => exact dropAsking_nil
  | cons c text ih =>
    rw [List.forall_mem_cons] at arithmetic
    have missed : afterAsking (c :: text) = none := by
      rw [Option.eq_none_iff_forall_ne_some]
      intro rest h
      obtain ⟨phrase, parts, asks⟩ := afterAsking_eq_some_iff.1 h
      obtain ⟨d, more, parts', dark⟩ := asks.head rest
      obtain ⟨rfl, -⟩ := List.cons.inj (parts.trans parts')
      cases dark.symm.trans arithmetic.1
    rw [dropAsking_cons missed, ih arithmetic.2]

/-- What is left of a text can be cut only where the text can. -/
theorem dropAsking_eq_append {text left right : List Char} (h : dropAsking text = left ++ right) :
    ∃ before after, text = before ++ after ∧ dropAsking before = left ∧ dropAsking after = right := by
  induction text using dropAsking.induct generalizing left with
  | case1 =>
    rw [dropAsking_nil] at h
    obtain ⟨rfl, rfl⟩ := List.append_eq_nil_iff.1 h.symm
    exact ⟨[], [], rfl, dropAsking_nil, dropAsking_nil⟩
  | case2 c rest after found _ ih =>
    obtain ⟨phrase, parts, asks⟩ := afterAsking_eq_some_iff.1 found
    rw [parts, dropAsking_append asks] at h
    obtain ⟨before, behind, rfl, same, same'⟩ := ih h
    exact ⟨phrase ++ before, behind, by rw [parts, List.append_assoc],
      (dropAsking_append asks before).trans same, same'⟩
  | case3 c rest missed ih =>
    cases left with
    | nil => exact ⟨[], c :: rest, rfl, dropAsking_nil, h⟩
    | cons d left =>
      rw [dropAsking_cons missed] at h
      obtain ⟨rfl, others⟩ := List.cons.inj h
      obtain ⟨before, behind, rfl, rfl, same'⟩ := ih others
      refine ⟨c :: before, behind, rfl, dropAsking_cons ?_, same'⟩
      -- a phrase at the start of the first part would start the whole text too
      rw [Option.eq_none_iff_forall_ne_some] at missed ⊢
      intro rest' h
      obtain ⟨phrase, parts, asks⟩ := afterAsking_eq_some_iff.1 h
      refine missed (rest' ++ behind) (afterAsking_eq_some_iff.2 ⟨phrase, ?_, asks⟩)
      rw [← List.append_assoc, ← parts, List.cons_append]

theorem filter_eq_self_of_scans {text : List Char} {ts : List Token} (h : Scans text ts) :
    (dropAsking text).filter isArithmetic = text := by
  have arithmetic := h.all_isArithmetic
  rw [dropAsking_eq_self arithmetic, List.filter_eq_self.2 arithmetic]

theorem scans_clean_iff {text : List Char} {ts : List Token} :
    Scans (clean text) ts ↔ Scans ((dropAsking text).filter isArithmetic) ts := by
  rw [clean, scans_trim_iff, scans_collapse_iff]

/-- An expression has the same tokens when it is cleaned. -/
theorem Scans.clean {text : List Char} {ts : List Token} (h : Scans text ts) :
    Scans (clean text) ts := by
  rw [scans_clean_iff, filter_eq_self_of_scans h]
  exact h

/-- A sentence of the grammar keeps its tokens when it is trimmed and cleaned, so its value is what is
calculated. -/
theorem calculate_of_derived {text : List Char} (e : Grammar.Sentence)
    (derived : tokens text = .ok e.tokens) (shallow : nesting e.tokens ≤ 100) :
    tokens (clean (trim text)) = .ok e.tokens ∧
      calculate (String.ofList (trim text)) = .ok ⟨String.ofList (clean (trim text)), report e.value⟩ := by
  have scans := (scans_trim_iff.2 (tokens_eq_ok_iff.1 derived)).clean
  have read := tokens_eq_ok_iff.2 scans
  have bound : 4 * nesting e.tokens ≤ depthLimit := by
    rw [depthLimit]
    omega
  have valued : value (clean (String.ofList (trim text)).toList) = .ok e.value := by
    rw [String.toList_ofList, value, read]
    exact valueOfTokens_tokens e bound
  have answered := calculate_of_value valued
  rw [String.toList_ofList] at answered
  exact ⟨read, answered⟩

/-- What is left of a text is left piece by piece. -/
theorem infix_of_filter_dropAsking {text row : List Char}
    (h : row <:+: (dropAsking text).filter isArithmetic) :
    ∃ piece, piece <:+: text ∧ (dropAsking piece).filter isArithmetic = row := by
  obtain ⟨left, right, parts⟩ := h
  rw [List.append_assoc] at parts
  obtain ⟨left', whole, cut, -, kept⟩ := List.filter_eq_append_iff.1 parts.symm
  obtain ⟨row', right', cut', same, -⟩ := List.filter_eq_append_iff.1 kept
  obtain ⟨before, behind, rfl, -, same'⟩ := dropAsking_eq_append cut
  obtain ⟨piece, after, rfl, left, -⟩ := dropAsking_eq_append (same'.trans cut')
  refine ⟨piece, ⟨before, after, List.append_assoc ..⟩, ?_⟩
  rw [left, same]

/-- Each numeral that is evaluated is what is left of a piece of the question: the phrases that ask and
the characters that no expression holds are dropped from it, and no other character stands between its
digits. Where the piece holds characters of expressions alone, it is the numeral. -/
theorem numeral_of_calculate {question : String} {c : Calculation}
    (h : calculate question = .ok c) :
    ∃ ts v, tokens c.expression.toList = .ok ts ∧ valueOfTokens ts = .ok v ∧ c.result = report v ∧
      ∀ n, .number n ∈ ts → ∃ piece, piece <:+: question.toList ∧
        (dropAsking piece).filter isArithmetic = n.text ∧
        (∀ d ∈ dropAsking piece, isArithmetic d = true → isDigit d = true ∨ d = '.') ∧
        ((∀ d ∈ piece, isArithmetic d = true) → piece = n.text) := by
  obtain ⟨v, found, rfl⟩ := value_of_calculate h
  obtain ⟨ts, read, valued⟩ := bind_eq_ok_iff.1 found
  have scans := tokens_eq_ok_iff.1 read
  refine ⟨ts, v, by rw [String.toList_ofList]; exact read, valued, rfl, ?_⟩
  intro n member
  obtain ⟨piece, within, left⟩ :=
    infix_of_filter_dropAsking ((scans_clean_iff.1 scans).isInfix n member)
  refine ⟨piece, within, left, ?_, ?_⟩
  · intro d kept arithmetic
    have here : d ∈ (dropAsking piece).filter isArithmetic := List.mem_filter.2 ⟨kept, arithmetic⟩
    rw [left] at here
    exact Numeral.isDigit_or_eq_point (scans.wellFormed n member) d here
  · intro arithmetic
    rw [← left, dropAsking_eq_self arithmetic, List.filter_eq_self.2 arithmetic]

theorem numeral_of_calculate_sum :
    calculate "What is 1,000 + 2?" = .ok ⟨"1000 + 2", "1002"⟩ ∧
      ∃ ts v, tokens "1000 + 2".toList = .ok ts ∧ valueOfTokens ts = .ok v ∧ "1002" = report v ∧
        ∀ n, .number n ∈ ts → ∃ piece, piece <:+: "What is 1,000 + 2?".toList ∧
          (dropAsking piece).filter isArithmetic = n.text ∧
          (∀ d ∈ dropAsking piece, isArithmetic d = true → isDigit d = true ∨ d = '.') ∧
          ((∀ d ∈ piece, isArithmetic d = true) → piece = n.text) := by
  have answered : calculate "What is 1,000 + 2?" = .ok ⟨"1000 + 2", "1002"⟩ :=
    eq_ok_of_toOption (by decide +kernel)
  exact ⟨answered, numeral_of_calculate answered⟩

/-- The comma between the digits of a thousand is dropped, so the number that is evaluated is not
written in the question. -/
theorem numeral_not_infix_thousand :
    calculate "1,000" = .ok ⟨"1000", "1000"⟩ ∧
      tokens "1000".toList = .ok [.number ⟨"1000".toList, none⟩] ∧
      ¬ Numeral.text ⟨"1000".toList, none⟩ <:+: "1,000".toList :=
  ⟨eq_ok_of_toOption (by decide +kernel), eq_ok_of_toOption (by decide +kernel), by decide⟩

end Switchboard.Expression
