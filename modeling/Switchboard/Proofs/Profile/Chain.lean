import Switchboard.Proofs.Profile.Files
import Switchboard.Proofs.Profile.Visits

/-!
# Chains of profiles

Profiles that each inherit from the next one. The names are single letters, so that each name is that
of a file, and a profile is read as it was written. If the chain is too long, the first profile has
the fault of the one with too many names before it.
-/

namespace Switchboard

def chainLetter (i : Nat) : Char := Char.ofNat (0x4E00 + i)

def chainName (i : Nat) : String := String.singleton (chainLetter i)

theorem toNat_chainLetter {i : Nat} (h : i < 0x2000) : (chainLetter i).toNat = 0x4E00 + i := by
  have valid : (0x4E00 + i).isValidChar := by
    left
    omega
  rw [chainLetter, Char.ofNat, dif_pos valid]
  rfl

theorem chainName_inj {i j : Nat} (hi : i < 0x2000) (hj : j < 0x2000)
    (h : chainName i = chainName j) : i = j := by
  have letters : chainLetter i = chainLetter j := by
    simpa [chainName] using congrArg String.toList h
  have codes := congrArg Char.toNat letters
  rw [toNat_chainLetter hi, toNat_chainLetter hj] at codes
  omega

def chainText (parent : String) : String := "\x7b\"inherits\": \"" ++ parent ++ "\"\x7d"

def chainFile (i : Nat) : String := chainName i ++ ".json"

/-- Profiles that each inherit from the next one, and the last one, which has no parents. -/
def chain (n : Nat) : Folder where
  title := "profiles"
  length := 8
  home := []
  folders := []
  files := ([chainFile n], "\x7b\x7d") ::
    (List.range n).map fun i => ([chainFile i], chainText (chainName (i + 1)))

namespace Json

theorem tokensWithin_cons {bound : Nat} {c : Char} {text rest : List Char} {token : Token}
    (h : isJsonBlank c = false) (found : token? (c :: text) = some (token, rest)) :
    tokensWithin (bound + 1) (c :: text) = token :: tokensWithin bound rest := by
  rw [tokensWithin, List.dropWhile_cons_of_neg (by simp [h])]
  simp only [found]

theorem tokensWithin_blank {bound : Nat} {c : Char} {text : List Char}
    (h : isJsonBlank c = true) : tokensWithin bound (c :: text) = tokensWithin bound text := by
  rw [tokensWithin, List.dropWhile_cons_of_pos h, ← tokensWithin]

theorem token?_letter {i : Nat} (h : i < 0x2000) (rest : List Char) :
    token? ('"' :: chainLetter i :: '"' :: rest) = some (.scalar (.text (chainName i)), rest) := by
  have code := toNat_chainLetter h
  have quote : chainLetter i ≠ '"' := by
    intro same
    rw [same] at code
    change 34 = _ at code
    omega
  have backslash : chainLetter i ≠ '\\' := by
    intro same
    rw [same] at code
    change 92 = _ at code
    omega
  have codes : codesAfterQuote (chainLetter i :: '"' :: rest) = some ([0x4E00 + i], rest) := by
    have large : 0x20 ≤ 0x4E00 + i := by omega
    simp [codesAfterQuote, backslash, code, large]
  have char : (Text.joinPairs [0x4E00 + i]).mapM Text.charOfCode = some [chainLetter i] := by
    have plain : ¬ (0xD800 ≤ 0x4E00 + i ∧ 0x4E00 + i ≤ 0xDFFF) := by omega
    have small : 0x4E00 + i ≤ 0x10FFFF := by omega
    simp [Text.joinPairs, Text.charOfCode, plain, small, chainLetter]
  rw [token?, codes]
  change ((Text.joinPairs [0x4E00 + i]).mapM Text.charOfCode).bind _ = _
  rw [char]
  rfl

theorem tokens_chainText {i : Nat} (h : i < 0x2000) :
    tokens (chainText (chainName i)).toList =
      [.openRecord, .scalar (.text "inherits"), .colon, .scalar (.text (chainName i)),
        .closeRecord] := by
  have text : (chainText (chainName i)).toList = '\x7b' :: '"' :: 'i' :: 'n' :: 'h' :: 'e' :: 'r' ::
      'i' :: 't' :: 's' :: '"' :: ':' :: ' ' :: '"' :: chainLetter i :: '"' :: '\x7d' :: [] := by
    simp [chainText, chainName]
  rw [tokens, text]
  change tokensWithin 17 _ = _
  rw [tokensWithin_cons rfl rfl, tokensWithin_cons rfl rfl, tokensWithin_cons rfl rfl,
    tokensWithin_blank rfl, tokensWithin_cons rfl (token?_letter h _), tokensWithin_cons rfl rfl]
  rfl

theorem read_chainText {i : Nat} (h : i < 0x2000) :
    Json.read (Text.plainLines (chainText (chainName i)).toList) =
      .ok (.record [(.text "inherits", .text (chainName i))]) := by
  have plain : Text.plainLines (chainText (chainName i)).toList =
      (chainText (chainName i)).toList := by
    have other : chainLetter i ≠ '\r' := by
      intro same
      have code := toNat_chainLetter h
      rw [same] at code
      change 13 = _ at code
      omega
    simp [chainText, chainName, Text.plainLines, other]
  rw [plain, Json.read, tokens_chainText h]
  rfl

end Json

namespace Folder

open Relation

theorem isFileName_chain (i : Nat) (h : i < 0x2000) (ending : String)
    (known : ending ∈ Format.endings) : IsFileName (chainName i ++ ending) := by
  have code := toNat_chainLetter h
  have slash : '/' ≠ chainLetter i := by
    intro same
    rw [← same] at code
    change 47 = _ at code
    omega
  have zero : '\x00' ≠ chainLetter i := by
    intro same
    rw [← same] at code
    change 0 = _ at code
    omega
  apply isFileName_append (by simp [chainName, slash]) known
  simp only [Format.endings, List.mem_cons, List.not_mem_nil, or_false] at known
  rcases known with rfl | rfl | rfl <;> simp [chainName, zero]

theorem utf8ByteSize_chain (i : Nat) (ending : String) (known : ending ∈ Format.endings) :
    (chainName i ++ ending).utf8ByteSize ≤ 9 := by
  have letter := (chainLetter i).utf8Size_le_four
  have size : ∀ ending ∈ Format.endings, ending.utf8ByteSize ≤ 5 := by decide
  have suffix := size ending known
  rw [String.utf8ByteSize_append, chainName, String.utf8ByteSize_singleton]
  omega

theorem chainFile_inj {i j : Nat} (hi : i < 0x2000) (hj : j < 0x2000)
    (h : chainFile i = chainFile j) : i = j := by
  apply chainName_inj hi hj
  simpa [chainFile, ← String.toList_inj] using h

variable {n i : Nat}

theorem hasFolder_chain (name : String) : (chain n).hasFolder [name] = false := by
  simp [hasFolder, chain]

theorem file_chain (bound : n < 0x2000) (hi : i ≤ n) (ending : String)
    (known : ending ∈ Format.endings) :
    (chain n).file (chainName i ++ ending) =
      match (chain n).files.lookup [chainName i ++ ending] with
      | some text => .ok text
      | none => .error .missing := by
  have size := utf8ByteSize_chain i ending known
  have short : (chain n).length + 1 + (chainName i ++ ending).utf8ByteSize ≤ pathLimit := by
    change 8 + 1 + _ ≤ 4095
    omega
  have name : isLongName (chainName i ++ ending) = false := by
    rw [isLongName, decide_eq_false_iff_not]
    change ¬ 255 < _
    omega
  rw [file_of_isFileName (isFileName_chain i (by omega) ending known) short, fileAt,
    if_neg (by simp [name])]
  change (if (chain n).hasFolder [chainName i ++ ending] = true then _ else _) = _
  rw [hasFolder_chain]
  rfl

theorem mem_files_chain {names : List String} {text : String} :
    (names, text) ∈ (chain n).files ↔ names = [chainFile n] ∧ text = "\x7b\x7d" ∨
      ∃ i < n, names = [chainFile i] ∧ text = chainText (chainName (i + 1)) := by
  simp only [chain, List.mem_cons, Prod.mk.injEq, List.mem_map, List.mem_range]
  constructor
  · rintro (last | ⟨i, hi, rfl, rfl⟩)
    · exact .inl last
    · exact .inr ⟨i, hi, rfl, rfl⟩
  · rintro (last | ⟨i, hi, rfl, rfl⟩)
    · exact .inl last
    · exact .inr ⟨i, hi, rfl, rfl⟩

theorem file_chain_missing (bound : n < 0x2000) (hi : i ≤ n) (ending : String)
    (known : ending = ".yaml" ∨ ending = ".yml") :
    (chain n).file (chainName i ++ ending) = .error .missing := by
  have member : ending ∈ Format.endings := by rcases known with rfl | rfl <;> decide
  have none : (chain n).files.lookup [chainName i ++ ending] = none := by
    rw [List.lookup_eq_none_iff]
    rintro ⟨names, text⟩ hf
    rw [bne_iff_ne]
    rintro rfl
    have other (j : Nat) : [chainName i ++ ending] ≠ [chainFile j] := by
      rcases known with rfl | rfl <;> simp [chainFile, chainName, ← String.toList_inj]
    rcases mem_files_chain.1 hf with ⟨same, -⟩ | ⟨j, -, same, -⟩
    · exact other n same
    · exact other j same
  rw [file_chain bound hi ending member, none]

theorem profileFile_chain (bound : n < 0x2000) (hi : i ≤ n) {text : String}
    (h : (chain n).files.lookup [chainFile i] = some text) :
    (chain n).profileFile (chainName i) = .ok (chainFile i, text) := by
  apply profileFile_of_json (file_chain_missing bound hi ".yaml" (.inl rfl))
    (file_chain_missing bound hi ".yml" (.inr rfl))
  rw [file_chain bound hi ".json" (by decide)]
  change (match (chain n).files.lookup [chainFile i] with
    | some text => _
    | none => _) = _
  rw [h]

theorem ofPath_chainFile (hi : i < 0x2000) : Format.ofPath (chainFile i) = .json := by
  have name := pathNames_of_isFileName (isFileName_chain i hi ".json" (by decide))
  have ending : (chainFile i).endsWith ".json" = true := by
    rw [chainFile, ← String.endsWith_toSlice, String.Slice.endsWith_string_iff]
    simp
  have more : chainFile i ≠ ".json" := by simp [chainFile, chainName, ← String.toList_inj]
  have same : Format.fileName (chainFile i) = chainFile i := by
    rw [Format.fileName, chainFile, name]
    rfl
  simp [Format.ofPath, same, ending, more]

theorem ofFields_chain (profile : String) (i : Nat) :
    Sheet.ofFields profile [(.text "inherits", .text (chainName i))] =
      .ok ⟨[.text (chainName i)], []⟩ := by
  have given : (chainName i).isEmpty = false := by simp [chainName]
  have named : Sheet.named [(.text "inherits", .text (chainName i))] = .text (chainName i) := by
    change Value.orElse (.text (chainName i)) _ = _
    rw [Value.orElse, Value.truthy, Scalar.truthy, given]
    rfl
  rw [Sheet.ofFields, named]
  rfl

theorem sheet_chain (bound : n < 0x2000) (hi : i < n) :
    (chain n).sheet (chainName i) = .ok ⟨[.text (chainName (i + 1))], []⟩ := by
  have text : (chain n).files.lookup [chainFile i] = some (chainText (chainName (i + 1))) := by
    apply lookup_eq_some_of_mem (mem_files_chain.2 (.inr ⟨i, hi, rfl, rfl⟩))
    intro text h
    rcases mem_files_chain.1 h with ⟨same, -⟩ | ⟨j, hj, same, rfl⟩
    · have last := chainFile_inj (by omega) bound (List.cons.inj same).1
      omega
    · obtain rfl := chainFile_inj (by omega) (by omega) (List.cons.inj same).1
      rfl
  have fields : (chain n).fieldsOf (chainFile i) (chainText (chainName (i + 1))) =
      .ok [(.text "inherits", .text (chainName (i + 1)))] := by
    rw [fieldsOf, ofPath_chainFile (by omega), read_json, Json.read_chainText (by omega)]
  rw [sheet_of_profileFile (profileFile_chain bound (by omega) text) fields, ofFields_chain]

theorem sheet_chain_last (bound : n < 0x2000) :
    (chain n).sheet (chainName n) = .ok ⟨[], []⟩ := by
  have text : (chain n).files.lookup [chainFile n] = some "\x7b\x7d" := by
    apply lookup_eq_some_of_mem (mem_files_chain.2 (.inl ⟨rfl, rfl⟩))
    intro text h
    rcases mem_files_chain.1 h with ⟨-, same⟩ | ⟨j, hj, same, -⟩
    · exact same
    · have last := chainFile_inj bound (by omega) (List.cons.inj same).1
      omega
  have fields : (chain n).fieldsOf (chainFile n) "\x7b\x7d" = .ok [] := by
    rw [fieldsOf, ofPath_chainFile bound]
    rfl
  rw [sheet_of_profileFile (profileFile_chain bound (Nat.le_refl n) text) fields]
  rfl

theorem inherits_chain (bound : n < 0x2000) (hi : i ≤ n) {q : String}
    (h : (chain n).Inherits (chainName i) q) : i < n ∧ q = chainName (i + 1) := by
  obtain ⟨sheet, read, v, member, rfl⟩ := h
  by_cases last : i = n
  · subst last
    rw [sheet_chain_last bound] at read
    cases read
    cases member
  · have inner : i < n := by omega
    rw [sheet_chain bound inner] at read
    cases read
    obtain rfl := List.mem_singleton.1 member
    exact ⟨inner, rfl⟩

theorem transGen_chain (bound : n < 0x2000) (hi : i ≤ n) {q : String}
    (h : TransGen (chain n).Inherits (chainName i) q) : ∃ j, i < j ∧ j ≤ n ∧ q = chainName j := by
  induction h with
  | single inherits =>
    obtain ⟨inner, rfl⟩ := inherits_chain bound hi inherits
    exact ⟨i + 1, by omega, by omega, rfl⟩
  | tail _ inherits ih =>
    obtain ⟨j, later, hj, rfl⟩ := ih
    obtain ⟨inner, rfl⟩ := inherits_chain bound hj inherits
    exact ⟨j + 1, by omega, by omega, rfl⟩

theorem reflTransGen_chain (bound : n < 0x2000) {q : String}
    (h : ReflTransGen (chain n).Inherits (chainName 0) q) : ∃ j, j ≤ n ∧ q = chainName j := by
  rcases reflTransGen_iff_eq_or_transGen.1 h with rfl | further
  · exact ⟨0, by omega, rfl⟩
  · obtain ⟨j, -, hj, rfl⟩ := transGen_chain bound (by omega) further
    exact ⟨j, hj, rfl⟩

def chainWay (i : Nat) : List String := (List.range i).map chainName

@[simp] theorem length_chainWay (i : Nat) : (chainWay i).length = i := by
  simp [chainWay]

theorem chainWay_succ (i : Nat) : chainWay i ++ [chainName i] = chainWay (i + 1) := by
  simp [chainWay, List.range_succ]

theorem not_mem_chainWay (hi : i < 0x2000) : chainName i ∉ chainWay i := by
  intro again
  obtain ⟨j, hj, same⟩ := List.mem_map.1 again
  have earlier := List.mem_range.1 hj
  have equal := chainName_inj (by omega) hi same
  omega

/-- Every profile of the chain inherits the fault of the one with too many names before it. -/
theorem inherited_chain (bound : n < 0x2000) (long : wayLimit < n) (left : Nat)
    (hi : i + left = wayLimit + 1) :
    (chain n).inherited (chainWay i) (chainName i) = .error .tooDeep := by
  induction left generalizing i with
  | zero =>
    apply inherited_of_long
    rw [length_chainWay]
    omega
  | succ left ih =>
    have short : (chainWay i).length ≤ wayLimit := by
      rw [length_chainWay]
      omega
    have below := ih (i := i + 1) (by omega)
    rw [inherited_of_sheet short (not_mem_chainWay (by omega)) (sheet_chain bound (by omega)),
      chainWay_succ]
    have failed : (chain n).layParent (chainWay (i + 1)) [] (.text (chainName (i + 1))) =
        .error .tooDeep := by
      rw [layParent_text, below]
      rfl
    rw [List.foldlM_cons, failed]
    rfl

end Folder

end Switchboard
