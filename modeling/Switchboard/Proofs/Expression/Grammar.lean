import Switchboard.Expression.Evaluation

/-!
# The grammar of expressions

    sentence := term (("+" | "-") term)*
    term     := unary (("*" | "/" | "%") unary)*
    unary    := ("+" | "-") unary | primary
    primary  := number | "(" sentence ")"

A derivation is a tree with a type of nodes for each symbol. It has the tokens that it derives and a
value, where the operators of one level are applied from left to right. How deep tokens nest is
counted without regard to the grammar, for any list of tokens.
-/

namespace Switchboard.Expression

/-- Whether an operator joins terms. The others join the parts of a term. -/
def Operator.isAdditive : Operator → Bool
  | plus => true
  | minus => true
  | _ => false

def signToken (negative : Bool) : Token := .operator (if negative then .minus else .plus)

def signed (negative : Bool) (v : Double) : Double := if negative then v.neg else v

namespace Grammar

mutual

inductive Sentence where
  | of (first : Term) (more : Terms)

/-- The terms after the first one, each with the operator before it. -/
inductive Terms where
  | none
  | next (o : Operator) (additive : o.isAdditive = true) (term : Term) (more : Terms)

inductive Term where
  | of (first : Unary) (more : Unaries)

/-- The parts of a term after the first one, each with the operator before it. -/
inductive Unaries where
  | none
  | next (o : Operator) (other : o.isAdditive = false) (unary : Unary) (more : Unaries)

inductive Unary where
  | sign (negative : Bool) (unary : Unary)
  | primary (p : Primary)

inductive Primary where
  | number (n : Numeral)
  | group (e : Sentence)

end

mutual

def Sentence.tokens : Sentence → List Token
  | .of first more => first.tokens ++ more.tokens

def Terms.tokens : Terms → List Token
  | .none => []
  | .next o _ term more => .operator o :: (term.tokens ++ more.tokens)

def Term.tokens : Term → List Token
  | .of first more => first.tokens ++ more.tokens

def Unaries.tokens : Unaries → List Token
  | .none => []
  | .next o _ unary more => .operator o :: (unary.tokens ++ more.tokens)

def Unary.tokens : Unary → List Token
  | .sign negative unary => signToken negative :: unary.tokens
  | .primary p => p.tokens

def Primary.tokens : Primary → List Token
  | .number n => [.number n]
  | .group e => .opening :: (e.tokens ++ [.closing])

end

mutual

def Sentence.value : Sentence → Double
  | .of first more => more.appliedTo first.value

def Terms.appliedTo : Terms → Double → Double
  | .none, left => left
  | .next o _ term more, left => more.appliedTo (o.apply left term.value)

def Term.value : Term → Double
  | .of first more => more.appliedTo first.value

def Unaries.appliedTo : Unaries → Double → Double
  | .none, left => left
  | .next o _ unary more, left => more.appliedTo (o.apply left unary.value)

def Unary.value : Unary → Double
  | .sign negative unary => signed negative unary.value
  | .primary p => p.value

def Primary.value : Primary → Double
  | .number n => n.value
  | .group e => e.value

end

def Unary.term (u : Unary) : Term := .of u .none

@[simp] theorem Unary.tokens_term (u : Unary) : u.term.tokens = u.tokens := by
  simp [Unary.term, Term.tokens, Unaries.tokens]

@[simp] theorem Unary.value_term (u : Unary) : u.term.value = u.value := by
  simp [Unary.term, Term.value, Unaries.appliedTo]

def Term.sentence (t : Term) : Sentence := .of t .none

@[simp] theorem Term.tokens_sentence (t : Term) : t.sentence.tokens = t.tokens := by
  simp [Term.sentence, Sentence.tokens, Terms.tokens]

@[simp] theorem Term.value_sentence (t : Term) : t.sentence.value = t.value := by
  simp [Term.sentence, Sentence.value, Terms.appliedTo]

def Terms.append (o : Operator) (additive : o.isAdditive = true) (term : Term) : Terms → Terms
  | .none => .next o additive term .none
  | .next o' additive' term' more => .next o' additive' term' (more.append o additive term)

def Sentence.append (o : Operator) (additive : o.isAdditive = true) (term : Term) :
    Sentence → Sentence
  | .of first more => .of first (more.append o additive term)

def Unaries.append (o : Operator) (other : o.isAdditive = false) (unary : Unary) :
    Unaries → Unaries
  | .none => .next o other unary .none
  | .next o' other' unary' more => .next o' other' unary' (more.append o other unary)

def Term.append (o : Operator) (other : o.isAdditive = false) (unary : Unary) : Term → Term
  | .of first more => .of first (more.append o other unary)

section Append

variable {o : Operator}

@[simp] theorem Terms.tokens_append {additive : o.isAdditive = true} (term : Term) :
    ∀ more : Terms, (more.append o additive term).tokens =
      more.tokens ++ .operator o :: term.tokens
  | .none => by simp [Terms.append, Terms.tokens]
  | .next _ _ _ more => by
    simp [Terms.append, Terms.tokens, tokens_append term more]

@[simp] theorem Terms.appliedTo_append {additive : o.isAdditive = true} (term : Term) :
    ∀ (more : Terms) (left : Double), (more.append o additive term).appliedTo left =
      o.apply (more.appliedTo left) term.value
  | .none, left => by simp [Terms.append, Terms.appliedTo]
  | .next _ _ _ more, left => by
    simp [Terms.append, Terms.appliedTo, appliedTo_append term more]

@[simp] theorem Sentence.tokens_append {additive : o.isAdditive = true} (term : Term) (e : Sentence) :
    (e.append o additive term).tokens = e.tokens ++ .operator o :: term.tokens := by
  cases e with
  | of first more => simp [Sentence.append, Sentence.tokens, Terms.tokens_append]

@[simp] theorem Sentence.value_append {additive : o.isAdditive = true} (term : Term) (e : Sentence) :
    (e.append o additive term).value = o.apply e.value term.value := by
  cases e with
  | of first more => simp [Sentence.append, Sentence.value, Terms.appliedTo_append]

@[simp] theorem Unaries.tokens_append {other : o.isAdditive = false} (unary : Unary) :
    ∀ more : Unaries, (more.append o other unary).tokens =
      more.tokens ++ .operator o :: unary.tokens
  | .none => by simp [Unaries.append, Unaries.tokens]
  | .next _ _ _ more => by
    simp [Unaries.append, Unaries.tokens, tokens_append unary more]

@[simp] theorem Unaries.appliedTo_append {other : o.isAdditive = false} (unary : Unary) :
    ∀ (more : Unaries) (left : Double), (more.append o other unary).appliedTo left =
      o.apply (more.appliedTo left) unary.value
  | .none, left => by simp [Unaries.append, Unaries.appliedTo]
  | .next _ _ _ more, left => by
    simp [Unaries.append, Unaries.appliedTo, appliedTo_append unary more]

@[simp] theorem Term.tokens_append {other : o.isAdditive = false} (unary : Unary) (t : Term) :
    (t.append o other unary).tokens = t.tokens ++ .operator o :: unary.tokens := by
  cases t with
  | of first more => simp [Term.append, Term.tokens, Unaries.tokens_append]

@[simp] theorem Term.value_append {other : o.isAdditive = false} (unary : Unary) (t : Term) :
    (t.append o other unary).value = o.apply t.value unary.value := by
  cases t with
  | of first more => simp [Term.append, Term.value, Unaries.appliedTo_append]

end Append

end Grammar

/-- What may be open between two tokens. -/
inductive Opening where
  /-- A sign whose operand has not ended. -/
  | sign
  | parenthesis
deriving DecidableEq, Repr

/-- What is open after some tokens, the latest first, and whether an operand has just ended. -/
structure Nest where
  openings : List Opening
  afterOperand : Bool
deriving DecidableEq, Repr

namespace Nest

def start : Nest := ⟨[], false⟩

/-- What stays open when an operand ends. -/
def endSigns (openings : List Opening) : List Opening := openings.dropWhile (· == .sign)

def next (nest : Nest) : Token → Nest
  | .number _ => ⟨endSigns nest.openings, true⟩
  | .opening => ⟨.parenthesis :: nest.openings, false⟩
  | .closing => ⟨endSigns (endSigns nest.openings).tail, true⟩
  | .operator _ =>
    if nest.afterOperand then ⟨nest.openings, false⟩ else ⟨.sign :: nest.openings, false⟩

/-- The largest number of signs and parentheses that are open at once. -/
def deepest (nest : Nest) : List Token → Nat
  | [] => nest.openings.length
  | token :: rest => max nest.openings.length ((nest.next token).deepest rest)

theorem length_le_deepest (nest : Nest) (tokens : List Token) :
    nest.openings.length ≤ nest.deepest tokens := by
  cases tokens with
  | nil => exact Nat.le_refl _
  | cons token rest => exact Nat.le_max_left _ _

end Nest

def nesting (tokens : List Token) : Nat := Nest.start.deepest tokens

end Switchboard.Expression
