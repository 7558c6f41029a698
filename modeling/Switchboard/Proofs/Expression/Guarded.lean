import Switchboard.Proofs.Expression.Validity
import Switchboard.Proofs.Number.Partial
import Switchboard.Proofs.Text.Trim

/-!
# Calculations meet no undefined operation

A calculation is repeated with operations that may have no result: the conversions of texts to numbers and
of numbers to integers, division, remainders, and the writing of integers. Each is called behind the cases
that are looked at first. The repeated calculation stops only where the calculation has a fault, and else
it has the same result, whatever infinities and zeros come up on the way.
-/

namespace Switchboard.Expression

open Text

theorem dropLowLines_eq_some {s : List Char} (without : '_' ∉ s) (afterDigit : Bool) :
    dropLowLines afterDigit s = some s := by
  induction s generalizing afterDigit with
  | nil => rfl
  | cons c s ih =>
    rw [List.mem_cons, not_or] at without
    rw [dropLowLines, if_neg (by simpa using Ne.symm without.1), ih without.2]
    rfl

theorem splitSign_eq_self {s : List Char} (minus : '-' ∉ s) (plus : '+' ∉ s) :
    splitSign s = (false, s) := by
  unfold splitSign
  split
  · exact absurd List.mem_cons_self minus
  · exact absurd List.mem_cons_self plus
  · rfl

namespace Numeral

variable {n : Numeral}

/-- What holds up to the last digit holds of the characters of a numeral. -/
theorem forall_mem_text (h : n.WellFormed) {P : Char → Prop} (all : ∀ m < 58, P (Char.ofNat m)) :
    ∀ c ∈ n.text, P c := by
  intro c hc
  apply of_toNat_lt all
  rcases isDigit_or_eq_point h c hc with digit | rfl
  · have high : c.toNat ≤ 57 := of_decide_eq_true (Bool.and_eq_true_iff.1 digit).2
    exact Nat.lt_succ_of_le high
  · decide

theorem not_mem_text (h : n.WellFormed) {c : Char} (other : isDigit c = false) (point : c ≠ '.') :
    c ∉ n.text := by
  intro hc
  rcases isDigit_or_eq_point h c hc with digit | same
  · cases other.symm.trans digit
  · exact point same

theorem numberText_text (h : n.WellFormed) : numberText n.text = n.text := by
  have plain : ∀ c ∈ n.text, plainForm c = c := forall_mem_text h (by decide)
  have blank : ∀ c ∈ n.text, isPlainBlank c = true → isBlank c = true :=
    forall_mem_text h (by decide)
  rw [numberText, List.map_congr_left (g := id) plain, List.map_id]
  apply trimWhile_eq_self
  intro c hc
  cases here : isPlainBlank c with
  | false => rfl
  | true => cases (blank c hc here).symm.trans (isBlank_of_mem_text h c hc)

theorem lowered_ne (h : n.WellFormed) (word : String) (letter : 'n' ∈ word.toList) :
    (String.ofList (n.text.map Char.toLower) == word) = false := by
  rw [beq_eq_false_iff_ne]
  rintro rfl
  rw [String.toList_ofList] at letter
  obtain ⟨c, hc, lowered⟩ := List.mem_map.1 letter
  exact forall_mem_text h (P := fun c => c.toLower ≠ 'n') (by decide) c hc lowered

theorem readDecimal_text (h : n.WellFormed) : readDecimal false n.text = some n.value := by
  obtain ⟨whole, fraction⟩ := n
  obtain ⟨all, allFraction, given⟩ := h
  have digits := List.all_eq_true.1 all
  have ended : ∀ c ∈ ([] : List Char).head?, isDigit c = false := nofun
  cases fraction with
  | none =>
    have nonempty : whole ≠ [] := by simpa using given
    obtain ⟨taken, dropped⟩ := span_append digits ended
    rw [List.append_nil] at taken dropped
    simp [readDecimal, text, value, taken, dropped, nonempty, readExponent]
  | some fraction =>
    rw [Option.getD_some] at given
    have point : ∀ c ∈ ('.' :: fraction).head?, isDigit c = false := by
      rintro c ⟨⟩
      rfl
    obtain ⟨taken, dropped⟩ := span_append digits point
    obtain ⟨takenFraction, droppedFraction⟩ :=
      span_append (List.all_eq_true.1 allFraction) ended
    rw [Option.getD_some, List.append_nil] at takenFraction droppedFraction
    simp only [readDecimal, text, value, taken, dropped, takenFraction, droppedFraction]
    rcases given with given | given <;> simp [given, readExponent]

/-- A numeral is a text that is read as its value. -/
theorem toDouble_text (h : n.WellFormed) :
    (Value.text (String.ofList n.text)).toDouble = .ok n.value := by
  have read : readDouble n.text = some n.value := by
    rw [readDouble, numberText_text h]
    simp only [dropLowLines_eq_some (not_mem_text h rfl (by decide)),
      splitSign_eq_self (not_mem_text h rfl (by decide)) (not_mem_text h rfl (by decide)),
      lowered_ne h "inf" (by decide), lowered_ne h "infinity" (by decide),
      lowered_ne h "nan" (by decide), readDecimal_text h, Option.bind_eq_bind,
      Option.bind_some]
    rfl
  rw [Value.toDouble, String.toList_ofList, read]

end Numeral

/-- Performs an operation on two numbers, with a look at the cases that have no result. -/
def Operator.perform : Operator → Double → Double → Except Undefined Double
  | plus, x, y => .ok (x.add y)
  | minus, x, y => .ok (x.sub y)
  | times, x, y => .ok (x.mul y)
  | dividedBy, x, y => x.guardedQuotient y
  | modulo, x, y => x.guardedRemainder y

theorem Operator.perform_eq (o : Operator) (x y : Double) : o.perform x y = .ok (o.apply x y) := by
  cases o with
  | plus => rfl
  | minus => rfl
  | times => rfl
  | dividedBy => exact Double.guardedQuotient_eq x y
  | modulo => exact Double.guardedRemainder_eq x y

/-- Whether the magnitude is too large to be written out. -/
def isHuge : Double → Bool
  | .nan => false
  | .infinite _ => true
  | .finite _ units => hugeUnits ≤ units

def isWhole : Double → Bool
  | .finite _ units => units % Double.one == 0
  | _ => false

def sixPlaces : Double → String
  | .finite negative units => String.ofList (Double.atMostSixPlaces negative units)
  | v => v.text

def guardedReport (v : Double) : Except Undefined String :=
  if v.isNan then .ok "Not a number"
  else if v.isInfinite then .ok (if v.hasMinus then "-Infinity" else "Infinity")
  else if isHuge v then .ok v.text
  else if isWhole v then do
    let n ← Undefined.ofConversion (Value.wholePart v)
    writtenInt n
  else .ok (sixPlaces v)

/-- Numbers that are written out have few digits. -/
theorem natAbs_truncate_lt (negative : Bool) {units : Nat} (small : units < hugeUnits) :
    (Double.truncate negative units).natAbs < Nat.pow 10 21 := by
  rw [Double.truncate, Double.natAbs_signed]
  exact (Nat.div_lt_iff_lt_mul Double.one_pos).2 small

theorem guardedReport_eq (v : Double) : guardedReport v = .ok (report v) := by
  cases v with
  | nan => rfl
  | infinite negative => cases negative <;> rfl
  | finite negative units =>
    rw [report, reportFinite]
    by_cases huge : hugeUnits ≤ units
    · simp [guardedReport, Double.isNan, Double.isInfinite, isHuge, huge, Double.text]
    · by_cases whole : units % Double.one = 0
      · have written := writtenInt_eq (natAbs_truncate_lt negative (Nat.lt_of_not_le huge))
        have converted : guardedReport (.finite negative units) =
            writtenInt (Double.truncate negative units) := by
          simp [guardedReport, Double.isNan, Double.isInfinite, isHuge, huge, isWhole, whole,
            Value.wholePart, Undefined.ofConversion_ok, ok_bind]
        rw [converted, written, if_neg huge, if_pos whole]
        rfl
      · simp [guardedReport, Double.isNan, Double.isInfinite, isHuge, huge, isWhole, whole, sixPlaces]

inductive Stop where
  | fault (f : Fault)
  | undefined (u : Undefined)
deriving DecidableEq, Repr

namespace Stop

def ofFault {α : Type} : Except Fault α → Except Stop α := Except.mapError fault

def ofUndefined {α : Type} : Except Undefined α → Except Stop α := Except.mapError undefined

theorem ofFault_bind {α β : Type} (x : Except Fault α) (f : α → Except Fault β) :
    ofFault (x >>= f) = ofFault x >>= fun a => ofFault (f a) :=
  mapError_bind x f fault

end Stop

namespace Guarded

def settleFactor (value : Double) : List Pending → Except Undefined Reading
  | .sign negative :: rest => settleFactor (if negative then value.neg else value) rest
  | .factor left o :: rest => (o.perform left value).map fun v => ⟨rest, some v⟩
  | rest => .ok ⟨rest, some value⟩

def settleTerm (value : Double) : List Pending → Except Undefined (Double × List Pending)
  | .term left o :: rest => (o.perform left value).map fun v => (v, rest)
  | rest => .ok (value, rest)

/-- Reads a numeral from its text. The other tokens take no operation here. -/
def readOperand (pending : List Pending) : Token → Except Stop Reading
  | .number n => Stop.ofUndefined do
    let v ← Undefined.ofConversion (Value.text (String.ofList n.text)).toDouble
    settleFactor v pending
  | token => Stop.ofFault (Expression.readOperand pending token)

def readAfterOperand (pending : List Pending) (value : Double) : Token → Except Stop Reading
  | .operator .plus => do
    let (sum, rest) ← Stop.ofUndefined (settleTerm value pending)
    return ⟨.term sum .plus :: rest, none⟩
  | .operator .minus => do
    let (sum, rest) ← Stop.ofUndefined (settleTerm value pending)
    return ⟨.term sum .minus :: rest, none⟩
  | .closing => do
    match ← Stop.ofUndefined (settleTerm value pending) with
    | (sum, .group :: rest) => Stop.ofUndefined (settleFactor sum rest)
    | _ => .error (.fault (.unexpected Token.closing.text))
  | token => Stop.ofFault (Expression.readAfterOperand pending value token)

def next (reading : Reading) (token : Token) : Except Stop Reading :=
  match reading.operand with
  | none => readOperand reading.pending token
  | some value => readAfterOperand reading.pending value token

def finish (reading : Reading) : Except Stop Double :=
  match reading.operand with
  | none => .error (.fault .endReached)
  | some value => do
    match ← Stop.ofUndefined (settleTerm value reading.pending) with
    | (sum, []) => return sum
    | _ => .error (.fault .endReached)

def valueOfTokens (tokens : List Token) : Except Stop Double :=
  if tokens.isEmpty then .error (.fault .empty)
  else do
    let reading ← tokens.foldlM next .start
    finish reading

def value (text : List Char) : Except Stop Double := do
  let tokens ← Stop.ofFault (tokens text)
  valueOfTokens tokens

/-- A calculation in which every operation that may have no result is one of its own. -/
def calculate (question : String) : Except Stop Calculation := do
  let expression := clean question.toList
  Stop.ofFault (validate expression)
  let v ← value expression
  let result ← Stop.ofUndefined (guardedReport v)
  return ⟨String.ofList expression, result⟩

theorem settleFactor_eq (v : Double) (pending : List Pending) :
    settleFactor v pending = .ok (Expression.settleFactor v pending) := by
  induction pending generalizing v with
  | nil => rfl
  | cons part rest ih =>
    cases part with
    | sign negative => exact ih _
    | factor left o =>
      rw [settleFactor, Operator.perform_eq]
      rfl
    | term left o => rfl
    | group => rfl

theorem settleTerm_eq (v : Double) (pending : List Pending) :
    settleTerm v pending = .ok (Expression.settleTerm v pending) := by
  cases pending with
  | nil => rfl
  | cons part rest =>
    cases part with
    | term left o =>
      rw [settleTerm, Operator.perform_eq]
      rfl
    | sign negative => rfl
    | factor left o => rfl
    | group => rfl

theorem readOperand_eq {token : Token} (wellFormed : ∀ n, token = .number n → n.WellFormed)
    (pending : List Pending) :
    readOperand pending token = Stop.ofFault (Expression.readOperand pending token) := by
  cases token with
  | number n =>
    rw [readOperand, Numeral.toDouble_text (wellFormed n rfl), Undefined.ofConversion_ok, ok_bind,
      settleFactor_eq]
    rfl
  | operator o => rfl
  | opening => rfl
  | closing => rfl

theorem readAfterOperand_eq (pending : List Pending) (v : Double) (token : Token) :
    readAfterOperand pending v token =
      Stop.ofFault (Expression.readAfterOperand pending v token) := by
  have settled := settleTerm_eq v pending
  cases token with
  | number n => rfl
  | opening => rfl
  | closing =>
    rw [readAfterOperand, settled, Expression.readAfterOperand]
    obtain ⟨sum, rest⟩ := Expression.settleTerm v pending
    -- a value goes on from an open parenthesis alone, and so does the arithmetic
    cases rest with
    | nil => rfl
    | cons part rest =>
      cases part with
      | group =>
        change Stop.ofUndefined (settleFactor sum rest) = _
        rw [settleFactor_eq]
        rfl
      | sign negative => rfl
      | factor left o => rfl
      | term left o => rfl
  | operator o =>
    cases o with
    | plus =>
      rw [readAfterOperand, settled]
      rfl
    | minus =>
      rw [readAfterOperand, settled]
      rfl
    | times => rfl
    | dividedBy => rfl
    | modulo => rfl

theorem next_eq {token : Token} (wellFormed : ∀ n, token = .number n → n.WellFormed)
    (reading : Reading) : next reading token = Stop.ofFault (reading.next token) := by
  obtain ⟨pending, operand⟩ := reading
  cases operand with
  | none => exact readOperand_eq wellFormed pending
  | some v => exact readAfterOperand_eq pending v token

theorem finish_eq (reading : Reading) : finish reading = Stop.ofFault reading.finish := by
  obtain ⟨pending, operand⟩ := reading
  cases operand with
  | none => rfl
  | some v =>
    have settled := settleTerm_eq v pending
    simp only [finish, settled, Reading.finish]
    obtain ⟨sum, rest⟩ := Expression.settleTerm v pending
    cases rest <;> rfl

theorem valueOfTokens_eq {ts : List Token} (wellFormed : ∀ n, .number n ∈ ts → n.WellFormed) :
    valueOfTokens ts = Stop.ofFault (Expression.valueOfTokens ts) := by
  -- the two runs go side by side, also where the tokens come to a fault halfway
  have run : ts.foldlM next .start = Stop.ofFault (ts.foldlM Reading.next .start) :=
    foldlM_mapError (fun token member reading =>
      next_eq (fun n same => wellFormed n (same ▸ member)) reading) _
  rw [valueOfTokens, Expression.valueOfTokens, run]
  split
  · rfl
  · rw [Stop.ofFault_bind]
    exact bind_congr finish_eq

theorem value_eq (text : List Char) : value text = Stop.ofFault (Expression.value text) := by
  rw [value, Expression.value]
  cases read : tokens text with
  | error fault => rfl
  | ok ts => exact valueOfTokens_eq (tokens_eq_ok_iff.1 read).wellFormed

theorem calculate_eq (question : String) :
    calculate question = Stop.ofFault (Expression.calculate question) := by
  rw [calculate, Expression.calculate, Stop.ofFault_bind]
  refine bind_congr fun _ => ?_
  rw [Stop.ofFault_bind, value_eq]
  refine bind_congr fun v => ?_
  rw [guardedReport_eq]
  rfl

end Guarded

/-- Every operation has a result for all numbers, infinities, zeros and what is no number included, and so
has the report of every value. So a question is either answered or has a fault, and never comes to an
operation without a result. -/
theorem calculate_defined :
    (∀ (o : Operator) (x y : Double), o.perform x y = .ok (o.apply x y)) ∧
    (∀ v : Double, guardedReport v = .ok (report v)) ∧
    ∀ question : String,
      (∃ c, Guarded.calculate question = .ok c ∧ calculate question = .ok c) ∨
        ∃ fault, Guarded.calculate question = .error (.fault fault) ∧
          calculate question = .error fault := by
  refine ⟨Operator.perform_eq, guardedReport_eq, fun question => ?_⟩
  have same := Guarded.calculate_eq question
  cases answer : calculate question with
  | ok c => exact .inl ⟨c, by rw [same, answer]; rfl, rfl⟩
  | error fault => exact .inr ⟨fault, by rw [same, answer]; rfl, rfl⟩

end Switchboard.Expression
