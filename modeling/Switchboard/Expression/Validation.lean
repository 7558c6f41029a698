import Switchboard.Expression.Cleaning

/-!
# Which texts are let through to evaluation

Names are refused first, then parentheses that do not pair up, then whatever else no expression
holds.
-/

namespace Switchboard.Expression

/-- Characters that may start a name. -/
def isNameChar (c : Char) : Bool :=
  ('a' ≤ c && c ≤ 'z') || ('A' ≤ c && c ≤ 'Z') || c == '_' || c == '$'

/-- Whether the parentheses of a text pair up, with some of them open before it. -/
def closes : Nat → List Char → Bool
  | opened, [] => opened == 0
  | opened, c :: rest =>
    if c == '(' then closes (opened + 1) rest
    else if c == ')' then
      match opened with
      | 0 => false
      | n + 1 => closes n rest
    else closes opened rest

def balanced (text : List Char) : Bool := closes 0 text

def validate (text : List Char) : Except Fault Unit :=
  if text.any isNameChar then .error .invalidCharacters
  else if !balanced text then .error .unbalancedParentheses
  else if text.isEmpty || !text.all isArithmetic then .error .invalidCharacters
  else .ok ()

end Switchboard.Expression
