import Switchboard.Number.Decimal
import Switchboard.Text.Quoted

/-!
# Why an expression has no value
-/

namespace Switchboard.Expression

inductive Fault where
  /-- The text holds characters that no expression holds, or no character at all. -/
  | invalidCharacters
  | unbalancedParentheses
  /-- A character that starts no token, with the number of characters before it. -/
  | unexpectedCharacter (c : Char) (position : Nat)
  | empty
  | endReached
  /-- A token that stands where none of its kind may stand. -/
  | unexpected (token : List Char)
  | closingExpected
  | tooDeep
  | unknownOperator (text : String)
deriving DecidableEq, Repr

def Fault.message : Fault → String
  | invalidCharacters => "Expression contains invalid characters"
  | unbalancedParentheses => "Unbalanced parentheses"
  | unexpectedCharacter c position =>
    "Unexpected character " ++ String.ofList (Text.quoted [c]) ++ " at position " ++
      String.ofList (digitsOf position)
  | empty => "Expression is empty"
  | endReached => "Unexpected end of expression"
  | unexpected token => "Unexpected " ++ String.ofList (Text.quoted token)
  | closingExpected => "Expected ')'"
  | tooDeep => "Expression is nested too deeply"
  | unknownOperator text => "Unknown operator " ++ Text.quotedText text

end Switchboard.Expression
