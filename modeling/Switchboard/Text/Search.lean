import Switchboard.Text.Letter

/-!
# Looking for words in a text
-/

namespace Switchboard.Text

/-- The text after a leading word, whatever the case of its letters. -/
def afterWord : List Char → List Char → Option (List Char)
  | [], text => some text
  | _ :: _, [] => none
  | w :: word, c :: text => if sameLetter w c then afterWord word text else none

/-- The text after the first place where a phrase stands, whatever the case of its letters. -/
def afterPhrase (phrase : List Char) : List Char → Option (List Char)
  | [] => afterWord phrase []
  | c :: text =>
    match afterWord phrase (c :: text) with
    | some rest => some rest
    | none => afterPhrase phrase text

def contains (text piece : List Char) : Bool :=
  match text with
  | [] => piece.isEmpty
  | c :: rest => piece.isPrefixOf (c :: rest) || contains rest piece

end Switchboard.Text
