import Switchboard.Expression.Token
import Switchboard.Text.Search

/-!
# From a question to an expression

A question such as "what is 2 + 2?" is cut down to its expression: the phrases that ask are dropped,
then every character that no expression holds, and blanks are reduced to single spaces.
-/

namespace Switchboard.Expression

open Text

def operatorChars : List Char := ['+', '-', '*', '/', '%', '(', ')', '.']

def isArithmetic (c : Char) : Bool := isDigit c || operatorChars.contains c || isBlank c

/-- The text after two words with blanks between them. -/
def afterWords (first second text : List Char) : Option (List Char) :=
  match afterWord first text with
  | some (c :: rest) => if isBlank c then afterWord second (rest.dropWhile isBlank) else none
  | _ => none

def afterAsking (text : List Char) : Option (List Char) :=
  afterWords "what".toList "is".toList text <|> afterWord "what's".toList text <|>
    afterWord "calculate".toList text <|> afterWord "compute".toList text <|>
      afterWord "solve".toList text

theorem length_of_afterWord {word text rest : List Char} (h : afterWord word text = some rest) :
    word.length + rest.length = text.length := by
  induction word generalizing text with
  | nil => simp_all [afterWord]
  | cons w word ih =>
    cases text with
    | nil => simp [afterWord] at h
    | cons c text =>
      simp only [afterWord] at h
      split at h
      · have := ih h
        simp only [List.length_cons]
        omega
      · simp at h

theorem length_of_afterWords {first second text rest : List Char}
    (h : afterWords first second text = some rest) : rest.length < text.length := by
  unfold afterWords at h
  split at h
  · rename_i c after heq
    split at h
    · have before := length_of_afterWord heq
      have behind := length_of_afterWord h
      have blanks := dropWhile_length_le isBlank after
      simp only [List.length_cons] at before
      omega
    · simp at h
  · simp at h

theorem length_of_afterAsking {text rest : List Char} (h : afterAsking text = some rest) :
    rest.length < text.length := by
  simp only [afterAsking, Option.orElse_eq_orElse, Option.orElse_eq_or, Option.or_eq_some_iff] at h
  obtain h | ⟨-, h | ⟨-, h | ⟨-, h | ⟨-, h⟩⟩⟩⟩ := h
  · exact length_of_afterWords h
  all_goals
    have := length_of_afterWord h
    simp at this
    omega

def dropAsking : List Char → List Char
  | [] => []
  | c :: rest =>
    match h : afterAsking (c :: rest) with
    | some after =>
      have := length_of_afterAsking h
      dropAsking after
    | none => c :: dropAsking rest
termination_by text => text.length
decreasing_by
  · assumption
  · simp

def clean (text : List Char) : List Char := trim (collapse ((dropAsking text).filter isArithmetic))

end Switchboard.Expression
