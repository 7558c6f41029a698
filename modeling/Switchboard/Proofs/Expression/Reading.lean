import Switchboard.Proofs.Data.Attempt
import Switchboard.Proofs.Expression.Grammar

/-!
# Reading accepts the grammar

An expression has a value exactly when its tokens derive from the grammar, and the value is the one
of the derivation. In one direction a derivation is read node by node; in the other the pending
parts, the latest first, spell the tokens that have been read. Pending parts count against the limit
of nesting, which nesting that is not deep never reaches.
-/

namespace Switchboard.Expression

open Grammar

def startsExpression : List Pending → Bool
  | [] => true
  | .group :: _ => true
  | _ => false

def startsTerm : List Pending → Bool
  | .term _ _ :: _ => true
  | pending => startsExpression pending

theorem startsTerm_of_startsExpression {pending : List Pending}
    (h : startsExpression pending = true) : startsTerm pending = true := by
  cases pending with
  | nil => rfl
  | cons part rest => cases part <;> simp_all [startsTerm, startsExpression]

theorem settleFactor_of_startsTerm {pending : List Pending} (h : startsTerm pending = true)
    (v : Double) : settleFactor v pending = ⟨pending, some v⟩ := by
  cases pending with
  | nil => rfl
  | cons part rest => cases part <;> simp_all [startsTerm, startsExpression, settleFactor]

theorem settleTerm_of_startsExpression {pending : List Pending}
    (h : startsExpression pending = true) (v : Double) : settleTerm v pending = (v, pending) := by
  cases pending with
  | nil => rfl
  | cons part rest => cases part <;> simp_all [startsExpression, settleTerm]

/-- Tokens lead from one reading to another, unless they nest too deep. -/
def Reads (tokens : List Token) (r s : Reading) : Prop :=
  tokens.foldlM Reading.next r = .ok s ∨ tokens.foldlM Reading.next r = .error .tooDeep

theorem Reads.nil (r : Reading) : Reads [] r r := .inl rfl

theorem Reads.append {ts us : List Token} {r s t : Reading} (h : Reads ts r s)
    (h' : Reads us s t) : Reads (ts ++ us) r t := by
  unfold Reads at h h' ⊢
  rw [List.foldlM_append]
  rcases h with h | h
  · rw [h]
    exact h'
  · rw [h]
    exact .inr rfl

theorem Reads.cons {token : Token} {ts : List Token} {r s t : Reading}
    (h : r.next token = .ok s ∨ r.next token = .error .tooDeep) (h' : Reads ts s t) :
    Reads (token :: ts) r t := by
  have first : Reads [token] r s := by
    rcases h with h | h
    · exact .inl (by simp [h])
    · exact .inr (by simp [h, bind, Except.bind])
  exact first.append h'

theorem push_cases (part : Pending) (pending : List Pending) :
    push part pending = .ok ⟨part :: pending, none⟩ ∨ push part pending = .error .tooDeep := by
  unfold push
  split
  · exact .inl rfl
  · exact .inr rfl

/-- An operator after an operand that ends a term. -/
theorem next_additive {o : Operator} (additive : o.isAdditive = true) {pending rest : List Pending}
    {v sum : Double} (h : settleTerm v pending = (sum, rest)) :
    Reading.next ⟨pending, some v⟩ (.operator o) = .ok ⟨.term sum o :: rest, none⟩ := by
  cases o <;> simp_all [Operator.isAdditive, Reading.next, readAfterOperand]

theorem next_other {o : Operator} (other : o.isAdditive = false) (pending : List Pending)
    (v : Double) :
    Reading.next ⟨pending, some v⟩ (.operator o) = .ok ⟨.factor v o :: pending, none⟩ := by
  cases o <;> simp_all [Operator.isAdditive, Reading.next, readAfterOperand]

theorem next_sign (negative : Bool) (pending : List Pending) :
    Reading.next ⟨pending, none⟩ (signToken negative) = push (.sign negative) pending := by
  cases negative <;> rfl

theorem next_closing {pending rest : List Pending} {v sum : Double}
    (h : settleTerm v pending = (sum, .group :: rest)) :
    Reading.next ⟨pending, some v⟩ .closing = .ok (settleFactor sum rest) := by
  simp [Reading.next, readAfterOperand, h]

mutual

theorem Grammar.Primary.reads (pending : List Pending) :
    ∀ p : Primary, Reads p.tokens ⟨pending, none⟩ (settleFactor p.value pending)
  | .number n => by
    rw [Primary.tokens, Primary.value]
    exact .cons (.inl rfl) (.nil _)
  | .group e => by
    rw [Primary.tokens, Primary.value]
    obtain ⟨inner, v, he, settled⟩ := e.reads (.group :: pending) rfl
    have closing : Reads [.closing] ⟨inner, some v⟩ (settleFactor e.value pending) :=
      .cons (.inl (next_closing settled)) (.nil _)
    exact .cons (push_cases .group pending) (he.append closing)

theorem Grammar.Unary.reads (pending : List Pending) :
    ∀ u : Unary, Reads u.tokens ⟨pending, none⟩ (settleFactor u.value pending)
  | .sign negative u => by
    rw [Unary.tokens, Unary.value]
    have operand := u.reads (.sign negative :: pending)
    rw [settleFactor] at operand
    exact .cons (next_sign negative pending ▸ push_cases _ _) operand
  | .primary p => by
    rw [Unary.tokens, Unary.value]
    exact p.reads pending

theorem Grammar.Unaries.reads (pending : List Pending) (place : startsTerm pending = true) :
    ∀ (more : Unaries) (left : Double),
      Reads more.tokens ⟨pending, some left⟩ ⟨pending, some (more.appliedTo left)⟩
  | .none, left => by
    rw [Unaries.tokens, Unaries.appliedTo]
    exact .nil _
  | .next o other u more, left => by
    rw [Unaries.tokens, Unaries.appliedTo]
    have operand := u.reads (.factor left o :: pending)
    rw [settleFactor] at operand
    exact .cons (.inl (next_other other pending left))
      (operand.append (more.reads pending place (o.apply left u.value)))

theorem Grammar.Term.reads (pending : List Pending) (place : startsTerm pending = true) :
    ∀ t : Term, Reads t.tokens ⟨pending, none⟩ ⟨pending, some t.value⟩
  | .of first more => by
    rw [Term.tokens, Term.value]
    have operand := first.reads pending
    rw [settleFactor_of_startsTerm place] at operand
    exact operand.append (more.reads pending place first.value)

theorem Grammar.Terms.reads (start : List Pending) (place : startsExpression start = true) :
    ∀ (more : Terms) {pending : List Pending} {v sum : Double},
      settleTerm v pending = (sum, start) →
        ∃ after w, Reads more.tokens ⟨pending, some v⟩ ⟨after, some w⟩ ∧
          settleTerm w after = (more.appliedTo sum, start)
  | .none, pending, v, sum, h => by
    rw [Terms.tokens, Terms.appliedTo]
    exact ⟨pending, v, .nil _, h⟩
  | .next o additive t more, pending, v, sum, h => by
    rw [Terms.tokens, Terms.appliedTo]
    have term := t.reads (.term sum o :: start) rfl
    have joined : settleTerm t.value (.term sum o :: start) = (o.apply sum t.value, start) := rfl
    obtain ⟨after, w, rest, settled⟩ := more.reads start place joined
    exact ⟨after, w, .cons (.inl (next_additive additive h)) (term.append rest), settled⟩

/-- After a sentence its last term is left to be added. -/
theorem Grammar.Sentence.reads (pending : List Pending)
    (place : startsExpression pending = true) :
    ∀ e : Grammar.Sentence, ∃ after w, Reads e.tokens ⟨pending, none⟩ ⟨after, some w⟩ ∧
      settleTerm w after = (e.value, pending)
  | .of first more => by
    rw [Sentence.tokens, Sentence.value]
    have term := first.reads pending (startsTerm_of_startsExpression place)
    obtain ⟨after, w, rest, settled⟩ :=
      more.reads pending place (settleTerm_of_startsExpression place first.value)
    exact ⟨after, w, term.append rest, settled⟩

end

/-- What one token does where it is accepted. -/
inductive Step : Reading → Token → Reading → Prop where
  | number (pending : List Pending) (n : Numeral) :
      Step ⟨pending, none⟩ (.number n) (settleFactor n.value pending)
  | sign (pending : List Pending) (negative : Bool) :
      Step ⟨pending, none⟩ (signToken negative) ⟨.sign negative :: pending, none⟩
  | opening (pending : List Pending) : Step ⟨pending, none⟩ .opening ⟨.group :: pending, none⟩
  | additive {pending rest : List Pending} {v sum : Double} {o : Operator}
      (additive : o.isAdditive = true) (settled : settleTerm v pending = (sum, rest)) :
      Step ⟨pending, some v⟩ (.operator o) ⟨.term sum o :: rest, none⟩
  | other {o : Operator} (other : o.isAdditive = false) (pending : List Pending) (v : Double) :
      Step ⟨pending, some v⟩ (.operator o) ⟨.factor v o :: pending, none⟩
  | closing {pending rest : List Pending} {v sum : Double}
      (settled : settleTerm v pending = (sum, .group :: rest)) :
      Step ⟨pending, some v⟩ .closing (settleFactor sum rest)

theorem eq_of_push {part : Pending} {pending : List Pending} {s : Reading}
    (h : push part pending = .ok s) : s = ⟨part :: pending, none⟩ := by
  rcases push_cases part pending with ok | deep
  · rw [ok] at h
    exact (Except.ok.inj h).symm
  · rw [deep] at h
    cases h

theorem step_of_next {r s : Reading} {token : Token} (h : r.next token = .ok s) :
    Step r token s := by
  obtain ⟨pending, operand⟩ := r
  cases operand with
  | none =>
    cases token with
    | number n =>
      obtain rfl := Except.ok.inj h
      exact .number pending n
    | opening =>
      obtain rfl := eq_of_push h
      exact .opening pending
    | closing => cases h
    | operator o =>
      cases o with
      | plus =>
        obtain rfl := eq_of_push h
        exact .sign pending false
      | minus =>
        obtain rfl := eq_of_push h
        exact .sign pending true
      | times => cases h
      | dividedBy => cases h
      | modulo => cases h
  | some v =>
    cases token with
    | number n =>
      simp only [Reading.next, readAfterOperand] at h
      split at h <;> cases h
    | opening =>
      simp only [Reading.next, readAfterOperand] at h
      split at h <;> cases h
    | closing =>
      simp only [Reading.next, readAfterOperand] at h
      split at h
      · rename_i settled
        obtain rfl := Except.ok.inj h
        exact .closing settled
      · cases h
    | operator o =>
      cases additive : o.isAdditive with
      | true =>
        rw [next_additive additive rfl] at h
        obtain rfl := Except.ok.inj h
        exact .additive additive rfl
      | false =>
        rw [next_other additive] at h
        obtain rfl := Except.ok.inj h
        exact .other additive pending v

/-- Tokens of which pending parts are left, where each operator has its left side. -/
inductive Spells : List Pending → List Token → Prop where
  | nothing : Spells [] []
  | sign (negative : Bool) {pending : List Pending} {ts : List Token} (rest : Spells pending ts) :
      Spells (.sign negative :: pending) (ts ++ [signToken negative])
  | group {pending : List Pending} {ts : List Token} (rest : Spells pending ts) :
      Spells (.group :: pending) (ts ++ [.opening])
  | factor (t : Term) {o : Operator} (other : o.isAdditive = false) {pending : List Pending}
      {ts : List Token} (place : startsTerm pending = true) (rest : Spells pending ts) :
      Spells (.factor t.value o :: pending) (ts ++ (t.tokens ++ [.operator o]))
  | term (e : Grammar.Sentence) {o : Operator} (additive : o.isAdditive = true)
      {pending : List Pending} {ts : List Token} (place : startsExpression pending = true)
      (rest : Spells pending ts) :
      Spells (.term e.value o :: pending) (ts ++ (e.tokens ++ [.operator o]))

/-- Signs and one operator join a unary part to a term. -/
theorem Spells.to_term {pending : List Pending} {ts : List Token} (h : Spells pending ts)
    (u : Unary) : ∃ (after : List Pending) (us : List Token) (t : Term),
      settleFactor u.value pending = ⟨after, some t.value⟩ ∧ Spells after us ∧
        startsTerm after = true ∧ ts ++ u.tokens = us ++ t.tokens := by
  induction h generalizing u with
  | nothing => exact ⟨[], [], u.term, by simp [settleFactor], .nothing, rfl, by simp⟩
  | sign negative rest ih =>
    obtain ⟨after, us, t, settled, spelled, place, same⟩ := ih (.sign negative u)
    rw [Unary.tokens] at same
    exact ⟨after, us, t, settled, spelled, place, by simpa using same⟩
  | group rest ih =>
    exact ⟨_, _, u.term, by simp [settleFactor], .group rest, rfl, by simp⟩
  | factor t other place rest ih =>
    exact ⟨_, _, t.append _ other u, by simp [settleFactor], rest, place, by simp⟩
  | term e additive place rest ih =>
    exact ⟨_, _, u.term, by simp [settleFactor], .term e additive place rest, rfl, by simp⟩

/-- An operator between terms joins a term to a sentence. -/
theorem Spells.to_expression {pending : List Pending} {ts : List Token} (h : Spells pending ts)
    (place : startsTerm pending = true) (t : Term) :
    ∃ (after : List Pending) (us : List Token) (e : Grammar.Sentence),
      settleTerm t.value pending = (e.value, after) ∧ Spells after us ∧
        startsExpression after = true ∧ ts ++ t.tokens = us ++ e.tokens := by
  cases h with
  | nothing => exact ⟨[], [], t.sentence, by simp [settleTerm], .nothing, rfl, by simp⟩
  | sign negative rest => simp [startsTerm, startsExpression] at place
  | group rest =>
    exact ⟨_, _, t.sentence, by simp [settleTerm], .group rest, rfl, by simp⟩
  | factor t' other place' rest => simp [startsTerm, startsExpression] at place
  | term e additive place' rest =>
    exact ⟨_, _, e.append _ additive t, by simp [settleTerm], rest, place', by simp⟩

/-- Tokens that have been read: those of the pending parts, and a term if an operand is complete. -/
def Reading.Spelled : Reading → List Token → Prop
  | ⟨pending, none⟩, ts => Spells pending ts
  | ⟨pending, some v⟩, ts => ∃ (us : List Token) (t : Term), Spells pending us ∧
      startsTerm pending = true ∧ t.value = v ∧ ts = us ++ t.tokens

theorem spelled_start : Reading.start.Spelled [] := .nothing

theorem spelled_of_settleFactor {pending : List Pending} {ts : List Token} (h : Spells pending ts)
    (u : Unary) : (settleFactor u.value pending).Spelled (ts ++ u.tokens) := by
  obtain ⟨after, us, t, settled, spelled, place, same⟩ := h.to_term u
  rw [settled]
  exact ⟨us, t, spelled, place, rfl, same⟩

theorem spelled_step {r s : Reading} {token : Token} {ts : List Token} (h : r.Spelled ts)
    (step : Step r token s) : s.Spelled (ts ++ [token]) := by
  cases step with
  | number pending n => exact spelled_of_settleFactor h (.primary (.number n))
  | sign pending negative => exact Spells.sign negative h
  | opening pending => exact Spells.group h
  | additive additive settled =>
    obtain ⟨us, t, spelled, place, rfl, rfl⟩ := h
    obtain ⟨after, vs, e, joined, spelled', place', same⟩ := spelled.to_expression place t
    obtain ⟨rfl, rfl⟩ := Prod.mk.inj (settled.symm.trans joined)
    have whole := Spells.term e additive place' spelled'
    rw [← List.append_assoc, ← same] at whole
    exact whole
  | other other pending v =>
    obtain ⟨us, t, spelled, place, rfl, rfl⟩ := h
    have whole := Spells.factor t other place spelled
    rw [← List.append_assoc] at whole
    exact whole
  | closing settled =>
    obtain ⟨us, t, spelled, place, rfl, rfl⟩ := h
    obtain ⟨after, vs, e, joined, spelled', place', same⟩ := spelled.to_expression place t
    obtain ⟨rfl, rfl⟩ := Prod.mk.inj (settled.symm.trans joined)
    rw [same]
    cases spelled' with
    | group rest =>
      have whole := spelled_of_settleFactor rest (.primary (.group e))
      simpa [Unary.tokens, Primary.tokens, Unary.value, Primary.value] using whole

theorem spelled_run {r s : Reading} {ts us : List Token} (h : r.Spelled ts)
    (run : us.foldlM Reading.next r = .ok s) : s.Spelled (ts ++ us) := by
  induction us generalizing r ts with
  | nil =>
    obtain rfl := Except.ok.inj run
    simpa using h
  | cons token us ih =>
    rw [List.foldlM_cons] at run
    obtain ⟨middle, hnext, rest⟩ := bind_eq_ok_iff.1 run
    have whole := ih (spelled_step h (step_of_next hnext)) rest
    simpa using whole

theorem derived_of_finish {r : Reading} {ts : List Token} {v : Double} (h : r.Spelled ts)
    (finished : r.finish = .ok v) : ∃ e : Grammar.Sentence, e.tokens = ts ∧ e.value = v := by
  obtain ⟨pending, operand⟩ := r
  cases operand with
  | none => cases finished
  | some w =>
    obtain ⟨us, t, spelled, place, rfl, rfl⟩ := h
    obtain ⟨after, vs, e, joined, spelled', place', same⟩ := spelled.to_expression place t
    simp only [Reading.finish, joined] at finished
    cases spelled' with
    | nothing =>
      obtain rfl := Except.ok.inj finished
      exact ⟨e, by simpa using same.symm, rfl⟩
    | sign negative rest => cases finished
    | group rest => cases finished
    | factor t' other place'' rest => cases finished
    | term e' additive place'' rest => cases finished

def Pending.opening? : Pending → Option Opening
  | sign _ => some .sign
  | group => some .parenthesis
  | _ => none

def openings (pending : List Pending) : List Opening := pending.filterMap Pending.opening?

def Reading.nest (r : Reading) : Nest := ⟨openings r.pending, r.operand.isSome⟩

theorem endSigns_openings {pending : List Pending} {ts : List Token} (h : Spells pending ts)
    (place : startsTerm pending = true) :
    Nest.endSigns (openings pending) = openings pending := by
  cases h with
  | nothing => rfl
  | sign negative rest => simp [startsTerm, startsExpression] at place
  | group rest => rfl
  | factor t other place' rest => simp [startsTerm, startsExpression] at place
  | term e additive place' rest =>
    -- Below a sum there is nothing or a parenthesis.
    cases rest with
    | nothing => rfl
    | group rest => rfl
    | sign negative rest => simp [startsExpression] at place'
    | factor t other place'' rest => simp [startsExpression] at place'
    | term e' additive' place'' rest => simp [startsExpression] at place'

theorem nest_settleFactor {pending : List Pending} {ts : List Token} (h : Spells pending ts)
    (v : Double) : (settleFactor v pending).nest = ⟨Nest.endSigns (openings pending), true⟩ := by
  induction h generalizing v with
  | nothing => rfl
  | sign negative rest ih => exact ih _
  | group rest ih => rfl
  | factor t other place rest ih =>
    have same := endSigns_openings rest place
    exact congrArg (fun parts => Nest.mk parts true) same.symm
  | term e additive place rest ih =>
    have same := endSigns_openings (.term e additive place rest) rfl
    exact congrArg (fun parts => Nest.mk parts true) same.symm

theorem openings_settleTerm (v : Double) (pending : List Pending) :
    openings (settleTerm v pending).2 = openings pending := by
  cases pending with
  | nil => rfl
  | cons part rest => cases part <;> rfl

/-- Reading keeps count of what is open. -/
theorem nest_step {r s : Reading} {token : Token} {ts : List Token} (h : r.Spelled ts)
    (step : Step r token s) : s.nest = r.nest.next token := by
  cases step with
  | number pending n => exact nest_settleFactor h n.value
  | sign pending negative => rfl
  | opening pending => rfl
  | @additive pending rest v sum o additive settled =>
    have same := openings_settleTerm v pending
    rw [settled] at same
    exact congrArg (fun parts => Nest.mk parts false) same
  | other other pending v => rfl
  | @closing pending rest v sum settled =>
    obtain ⟨us, t, spelled, place, rfl, rfl⟩ := h
    obtain ⟨after, vs, e, joined, spelled', place', same⟩ := spelled.to_expression place t
    obtain ⟨rfl, rfl⟩ := Prod.mk.inj (settled.symm.trans joined)
    have outer : openings pending = .parenthesis :: openings rest := by
      rw [← openings_settleTerm t.value pending, settled]
      rfl
    cases spelled' with
    | group inner =>
      rw [nest_settleFactor inner]
      simp [Reading.nest, Nest.next, outer, Nest.endSigns]

theorem depth_le (pending : List Pending) : depth pending ≤ 4 * (openings pending).length := by
  induction pending with
  | nil => exact Nat.le_refl _
  | cons part rest ih =>
    cases part with
    | sign negative =>
      change 1 + depth rest ≤ 4 * ((openings rest).length + 1)
      omega
    | group =>
      change 4 + depth rest ≤ 4 * ((openings rest).length + 1)
      omega
    | factor left o =>
      change 0 + depth rest ≤ 4 * (openings rest).length
      omega
    | term left o =>
      change 0 + depth rest ≤ 4 * (openings rest).length
      omega

theorem lt_of_push_tooDeep {part : Pending} {pending : List Pending}
    (h : push part pending = .error .tooDeep) : depthLimit < depth (part :: pending) := by
  unfold push at h
  split at h
  · cases h
  · omega

theorem readAfterOperand_ne_tooDeep (pending : List Pending) (v : Double) (token : Token) :
    readAfterOperand pending v token ≠ .error .tooDeep := by
  intro h
  cases token with
  | number n =>
    simp only [readAfterOperand] at h
    split at h <;> cases h
  | opening =>
    simp only [readAfterOperand] at h
    split at h <;> cases h
  | closing =>
    simp only [readAfterOperand] at h
    split at h <;> cases h
  | operator o => cases o <;> cases h

/-- Only what opens a part can be too deep. -/
theorem lt_of_next_tooDeep {r : Reading} {token : Token} (h : r.next token = .error .tooDeep) :
    depthLimit < 4 * (r.nest.next token).openings.length := by
  obtain ⟨pending, operand⟩ := r
  have opened (part : Pending) (opening : Opening) (same : part.opening? = some opening)
      (deep : push part pending = .error .tooDeep) :
      depthLimit < 4 * (opening :: openings pending).length := by
    have bound := depth_le (part :: pending)
    rw [openings, List.filterMap_cons_some same] at bound
    exact Nat.lt_of_lt_of_le (lt_of_push_tooDeep deep) bound
  cases operand with
  | none =>
    cases token with
    | number n => cases h
    | opening => exact opened .group .parenthesis rfl h
    | closing => cases h
    | operator o =>
      cases o with
      | plus => exact opened (.sign false) .sign rfl h
      | minus => exact opened (.sign true) .sign rfl h
      | times => cases h
      | dividedBy => cases h
      | modulo => cases h
  | some v => exact absurd h (readAfterOperand_ne_tooDeep pending v token)

/-- A reading that is given up as too deep has met nesting of that depth. -/
theorem lt_of_run_tooDeep {r : Reading} {ts us : List Token} (h : r.Spelled ts)
    (run : us.foldlM Reading.next r = .error .tooDeep) : depthLimit < 4 * r.nest.deepest us := by
  induction us generalizing r ts with
  | nil => cases run
  | cons token us ih =>
    rw [List.foldlM_cons] at run
    rw [Nest.deepest]
    rcases bind_eq_error_iff.1 run with hnext | ⟨middle, hnext, rest⟩
    · have here := lt_of_next_tooDeep hnext
      have deepest := (r.nest.next token).length_le_deepest us
      omega
    · have step := step_of_next hnext
      have later := ih (spelled_step h step) rest
      rw [nest_step h step] at later
      omega

theorem Grammar.Sentence.run (e : Grammar.Sentence)
    (shallow : 4 * nesting e.tokens ≤ depthLimit) :
    ∃ r, e.tokens.foldlM Reading.next .start = .ok r ∧ r.finish = .ok e.value ∧
      r.operand.isSome = true := by
  obtain ⟨after, w, run, settled⟩ := e.reads [] rfl
  rcases run with run | deep
  · refine ⟨_, run, ?_, rfl⟩
    simp [Reading.finish, settled]
  · have bound := lt_of_run_tooDeep spelled_start deep
    unfold nesting at shallow
    exact absurd shallow (Nat.not_le.2 bound)

theorem valueOfTokens_tokens (e : Grammar.Sentence)
    (shallow : 4 * nesting e.tokens ≤ depthLimit) : valueOfTokens e.tokens = .ok e.value := by
  obtain ⟨r, run, finished, complete⟩ := e.run shallow
  have nonempty : e.tokens.isEmpty = false := by
    cases hts : e.tokens with
    | nil =>
      rw [hts] at run
      obtain rfl := Except.ok.inj run
      cases complete
    | cons token rest => rfl
  rw [valueOfTokens, nonempty, run]
  exact finished

theorem derived_of_valueOfTokens {ts : List Token} {v : Double} (h : valueOfTokens ts = .ok v) :
    ∃ e : Grammar.Sentence, e.tokens = ts ∧ e.value = v := by
  rw [valueOfTokens] at h
  split at h
  · cases h
  · obtain ⟨r, run, finished⟩ := bind_eq_ok_iff.1 h
    have spelled := spelled_run spelled_start run
    exact derived_of_finish spelled finished

def negatedSum : Grammar.Sentence :=
  let digit (c : Char) : Unary := .primary (.number ⟨[c], none⟩)
  let sum : Grammar.Sentence :=
    (digit '1').term.sentence.append .plus rfl (digit '2').term
  ((Unary.sign true (.primary (.group sum))).term.append .times rfl (digit '3')).sentence

end Switchboard.Expression
