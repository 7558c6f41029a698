import Mathlib.Logic.Function.Basic
import Mathlib.Tactic.SplitIfs
import Switchboard.Text.Hex
import Switchboard.Text.Percent

/-!
# Reading a segment of a path

A segment is read by putting a byte for each of its escapes, and by reading the bytes as UTF-8. This gives
back the text that was written as the segment, so no two texts are written alike.
-/

namespace Switchboard.Text

variable {c : Char} {s rest : List Char} {bytes : List Nat} {b n : Nat}

/-- A character has a code point that is no surrogate. -/
theorem toNat_scalar (c : Char) : c.toNat < 0xD800 ∨ 0xDFFF < c.toNat ∧ c.toNat < 0x110000 := c.valid

theorem charOfCode_toNat (c : Char) : charOfCode c.toNat = some c := by
  have scalar := toNat_scalar c
  rw [charOfCode, if_neg (by omega), if_pos (by omega), Char.ofNat_toNat]

theorem longForm?_of_code {least : Nat} (long : least ≤ c.toNat) (code : n = c.toNat) :
    longForm? least n = some c := by
  rw [longForm?, code, if_pos long, charOfCode_toNat]

theorem continuation?_add (small : n < 0x40) : continuation? (0x80 + n) = some n := by
  rw [continuation?, if_pos (by omega), Nat.add_sub_cancel_left]

theorem some_bind {α β : Type} (a : α) (f : α → Option β) : some a >>= f = f a := rfl

section Forms

variable {high mid low last : Nat}

theorem ofUtf8_twoBytes (first : high < 0x20) (second : low < 0x40) (long : 0x80 ≤ c.toNat)
    (code : high * 0x40 + low = c.toNat) :
    ofUtf8 ((0xC0 + high) :: (0x80 + low) :: bytes) = (ofUtf8 bytes).map (c :: ·) := by
  rw [ofUtf8.eq_def]
  simp only
  rw [if_neg (by omega), if_neg (by omega), if_pos (by omega), continuation?_add second, some_bind,
    Nat.add_sub_cancel_left, longForm?_of_code long code, some_bind]

theorem ofUtf8_threeBytes (first : high < 0x10) (second : mid < 0x40) (third : low < 0x40)
    (long : 0x800 ≤ c.toNat) (code : high * 0x1000 + mid * 0x40 + low = c.toNat) :
    ofUtf8 ((0xE0 + high) :: (0x80 + mid) :: (0x80 + low) :: bytes) =
      (ofUtf8 bytes).map (c :: ·) := by
  rw [ofUtf8.eq_def]
  simp only
  rw [if_neg (by omega), if_neg (by omega), if_neg (by omega), if_pos (by omega),
    continuation?_add second, some_bind, continuation?_add third, some_bind,
    Nat.add_sub_cancel_left, longForm?_of_code long code, some_bind]

theorem ofUtf8_fourBytes (first : high < 0x8) (second : mid < 0x40) (third : low < 0x40)
    (fourth : last < 0x40) (long : 0x10000 ≤ c.toNat)
    (code : high * 0x40000 + mid * 0x1000 + low * 0x40 + last = c.toNat) :
    ofUtf8 ((0xF0 + high) :: (0x80 + mid) :: (0x80 + low) :: (0x80 + last) :: bytes) =
      (ofUtf8 bytes).map (c :: ·) := by
  rw [ofUtf8.eq_def]
  simp only
  rw [if_neg (by omega), if_neg (by omega), if_neg (by omega), if_neg (by omega), if_pos (by omega),
    continuation?_add second, some_bind, continuation?_add third, some_bind,
    continuation?_add fourth, some_bind, Nat.add_sub_cancel_left, longForm?_of_code long code,
    some_bind]

end Forms

/-- The form of a character is read as that character, and reading goes on behind it. -/
theorem ofUtf8_encodeChar_append (c : Char) (bytes : List Nat) :
    ofUtf8 (encodeChar c ++ bytes) = (ofUtf8 bytes).map (c :: ·) := by
  have scalar := toNat_scalar c
  simp only [encodeChar]
  split
  · rename_i short
    rw [List.singleton_append, ofUtf8.eq_def]
    simp only [if_pos short, Char.ofNat_toNat]
  split
  · exact ofUtf8_twoBytes (by omega) (by omega) (by omega) (by omega)
  split
  · exact ofUtf8_threeBytes (by omega) (by omega) (by omega) (by omega) (by omega)
  · exact ofUtf8_fourBytes (by omega) (by omega) (by omega) (by omega) (by omega) (by omega)

theorem ofUtf8_utf8Bytes (s : List Char) : ofUtf8 (utf8Bytes s) = some s := by
  induction s with
  | nil => rfl
  | cons c s ih =>
    have later : ofUtf8 (s.flatMap encodeChar) = some s := ih
    rw [utf8Bytes, List.flatMap_cons, ofUtf8_encodeChar_append, later]
    rfl

theorem lt_of_mem_encodeChar (member : b ∈ encodeChar c) : b < 0x100 := by
  have scalar := toNat_scalar c
  simp only [encodeChar] at member
  split_ifs at member <;> simp only [List.mem_cons, List.not_mem_nil, or_false] at member <;> omega

/-- The bytes that a text in an address stands for: an escape for its byte, and any other character for
its UTF-8 form. There are none where a percent sign begins no escape. -/
def unescape? : List Char → Option (List Nat)
  | [] => some []
  | c :: rest =>
    if c = '%' then
      match rest with
      | high :: low :: rest => do
        let byte := 16 * (← hexValue? high) + (← hexValue? low)
        return byte :: (← unescape? rest)
      | _ => none
    else return encodeChar c ++ (← unescape? rest)

def ofSegment? (segment : List Char) : Option (List Char) := do ofUtf8 (← unescape? segment)

/-- Unreserved characters and escapes, and nothing else. -/
inductive IsSegment : List Char → Prop
  | nil : IsSegment []
  | plain {c : Char} {rest : List Char} (unreserved : isUnreserved c = true) (more : IsSegment rest) :
    IsSegment (c :: rest)
  | escape {high low : Char} {rest : List Char} (first : (hexValue? high).isSome = true)
      (second : (hexValue? low).isSome = true) (more : IsSegment rest) :
    IsSegment ('%' :: high :: low :: rest)

theorem hexValue?_upperHexDigit : ∀ n < 16, hexValue? (upperHexDigit n) = some n := by decide

theorem unescape?_percentByte_append (small : b < 0x100) (rest : List Char) :
    unescape? (percentByte b ++ rest) = (unescape? rest).map (b :: ·) := by
  have digits : 16 * (b / 16) + b % 16 = b := Nat.div_add_mod b 16
  simp only [percentByte, List.cons_append, List.nil_append]
  rw [unescape?, if_pos rfl]
  rw [hexValue?_upperHexDigit (b / 16) (by omega), some_bind,
    hexValue?_upperHexDigit (b % 16) (by omega), some_bind, digits]
  cases unescape? rest <;> rfl

theorem unescape?_flatMap_percentByte_append (small : ∀ b ∈ bytes, b < 0x100) (rest : List Char) :
    unescape? (bytes.flatMap percentByte ++ rest) = (unescape? rest).map (bytes ++ ·) := by
  induction bytes with
  | nil => simp
  | cons b bytes ih =>
    obtain ⟨here, later⟩ := List.forall_mem_cons.1 small
    rw [List.flatMap_cons, List.append_assoc, unescape?_percentByte_append here, ih later,
      Option.map_map]
    rfl

theorem ne_percent_of_isUnreserved (h : isUnreserved c = true) : c ≠ '%' := by
  rintro rfl
  cases h

theorem unescape?_segmentChar_append (c : Char) (rest : List Char) :
    unescape? (segmentChar c ++ rest) = (unescape? rest).map (encodeChar c ++ ·) := by
  rw [segmentChar]
  split
  · rename_i unreserved
    rw [List.singleton_append, unescape?.eq_def]
    simp only [if_neg (ne_percent_of_isUnreserved unreserved)]
    cases unescape? rest <;> rfl
  · exact unescape?_flatMap_percentByte_append (fun b => lt_of_mem_encodeChar) rest

theorem unescape?_segment (s : List Char) : unescape? (segment s) = some (utf8Bytes s) := by
  induction s with
  | nil => rfl
  | cons c s ih =>
    rw [segment] at ih
    rw [segment, List.flatMap_cons, unescape?_segmentChar_append, ih]
    rfl

/-- A segment is read as the text that was written as it. -/
theorem ofSegment?_segment (s : List Char) : ofSegment? (segment s) = some s := by
  rw [ofSegment?, unescape?_segment]
  exact ofUtf8_utf8Bytes s

theorem segment_injective : Function.Injective segment := by
  intro s t same
  have read := ofSegment?_segment s
  rw [same, ofSegment?_segment] at read
  exact (Option.some.inj read).symm

theorem isSegment_percentByte_append (small : b < 0x100) (more : IsSegment rest) :
    IsSegment (percentByte b ++ rest) := by
  apply IsSegment.escape _ _ more
  · rw [hexValue?_upperHexDigit _ (by omega)]
    rfl
  · rw [hexValue?_upperHexDigit _ (by omega)]
    rfl

theorem isSegment_flatMap_percentByte_append (small : ∀ b ∈ bytes, b < 0x100)
    (more : IsSegment rest) : IsSegment (bytes.flatMap percentByte ++ rest) := by
  induction bytes with
  | nil => exact more
  | cons b bytes ih =>
    obtain ⟨here, later⟩ := List.forall_mem_cons.1 small
    rw [List.flatMap_cons, List.append_assoc]
    exact isSegment_percentByte_append here (ih later)

theorem isSegment_segment (s : List Char) : IsSegment (segment s) := by
  induction s with
  | nil => exact .nil
  | cons c s ih =>
    rw [segment, List.flatMap_cons, segmentChar]
    split
    · rename_i unreserved
      exact .plain unreserved ih
    · exact isSegment_flatMap_percentByte_append (fun b => lt_of_mem_encodeChar) ih

theorem isUnreserved_of_hexValue? (digit : (hexValue? c).isSome = true) : isUnreserved c = true := by
  rw [hexValue?] at digit
  simp only [isUnreserved, isDigit, Bool.or_eq_true]
  split_ifs at digit with number small large
  · simp [number]
  · simp only [Bool.and_eq_true, decide_eq_true_iff] at small
    have below : c ≤ 'z' := Char.le_trans small.2 (by decide)
    simp [small.1, below]
  · simp only [Bool.and_eq_true, decide_eq_true_iff] at large
    have below : c ≤ 'Z' := Char.le_trans large.2 (by decide)
    simp [large.1, below]
  · cases digit

theorem IsSegment.unreserved_or_percent (h : IsSegment s) :
    ∀ c ∈ s, isUnreserved c = true ∨ c = '%' := by
  induction h with
  | nil => exact nofun
  | plain unreserved _ ih => exact List.forall_mem_cons.2 ⟨.inl unreserved, ih⟩
  | escape first second _ ih =>
    rw [List.forall_mem_cons, List.forall_mem_cons, List.forall_mem_cons]
    exact ⟨.inr rfl, .inl (isUnreserved_of_hexValue? first), .inl (isUnreserved_of_hexValue? second),
      ih⟩

/-- No sign that ends a segment stands in it. -/
theorem IsSegment.enclosed (h : IsSegment s) : '/' ∉ s ∧ '?' ∉ s ∧ '#' ∉ s := by
  refine ⟨?_, ?_, ?_⟩ <;> exact fun member => absurd (h.unreserved_or_percent _ member) (by decide)

end Switchboard.Text
