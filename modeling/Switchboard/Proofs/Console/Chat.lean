import Switchboard.Console.Dialogue
import Switchboard.Proofs.Conversation.Run
import Switchboard.Proofs.Text.Trim

/-!
# What a chat does with its lines

A chat routes its lines one after the other, up to the line that ends it. It breaks off before that
where a line has no answer, or where the answer cannot be written.
-/

namespace Switchboard

open Text

namespace Assistant

variable (assistant : Assistant)

/-- Blanks around a text make no difference to where it goes. -/
theorem matchText_trim (text : String) :
    assistant.matchText (String.ofList (trim text.toList)) = assistant.matchText text := by
  rw [matchText, matchText, String.toList_ofList, trim_trim]

theorem route_trim (text : String) (network : Network) :
    assistant.route (String.ofList (trim text.toList)) network = assistant.route text network := by
  rw [route, route, matchText_trim, String.toList_ofList, trim_trim]

end Assistant

namespace Console

def trimmed (typed : String) : String := String.ofList (trim typed.toList)

def leaves (typed : String) : Bool := (trimmed typed).isEmpty || trimmed typed == exitWord

def heard (lines : List String) : List String := lines.takeWhile (!leaves ·)

variable (echo : Option Colour → String → String)

/-- What is printed of the result of routing a line. The chat goes on only where that is complete. -/
def resultReport (assistant : Assistant) (debug : Bool) (typed : String) :
    Except Failure Outcome → Report
  | .ok o => report echo assistant (trimmed typed) o debug
  | .error _ => ⟨"", false⟩

/-- All lines have answers, and the answers can be printed. -/
def Answered (assistant : Assistant) (debug : Bool) :
    List String → List (Except Failure Outcome) → Prop :=
  List.Forall₂ fun typed result => (resultReport echo assistant debug typed result).complete = true

/-- What is printed of lines and of the results of routing them, each after a prompt. -/
def resultTexts (assistant : Assistant) (debug : Bool) :
    List String → List (Except Failure Outcome) → String
  | typed :: lines, result :: results =>
    prompt ++ (resultReport echo assistant debug typed result).output ++
      resultTexts assistant debug lines results
  | _, _ => ""

def lastWords (lines : List String) : String :=
  if lines.any leaves then farewell echo else echo none ""

variable {echo} {c : Conversation} {debug : Bool} {network : Network} {typed before : String}
  {lines said : List String}

theorem complete_resultReport_iff {assistant : Assistant} {result : Except Failure Outcome} :
    (resultReport echo assistant debug typed result).complete = true ↔
      ∃ o, result = .ok o ∧ o.response.isWritable = true ∧
        (debug = true → o.matched = true → (Outcome.reported o.data).isWritable = true) := by
  cases result with
  | error failure => simp [resultReport]
  | ok o =>
    rw [resultReport, report]
    cases written : o.response.isWritable with
    | false => simp [written]
    | true =>
      cases debug with
      | false => simp [written]
      | true =>
        cases matched : o.matched with
        | false => simp [written, matched]
        | true =>
          cases data : (Outcome.reported o.data).isWritable <;>
            simp [written, matched, data, dataReport, Json.indented?]

/-- Without more being asked for, the answer itself is printed. -/
theorem resultReport_ok {assistant : Assistant} {o : Outcome} (written : o.response.isWritable = true) :
    resultReport echo assistant false typed (.ok o) = ⟨answerText echo o, true⟩ := by
  simp [resultReport, report, written]

theorem turn_of_leaves (ends : leaves typed = true) :
    turn echo c debug network typed = .ended 0 (farewell echo) network := by
  rw [turn]
  exact if_pos ends

theorem turn_of_stays (stays : leaves typed = false) :
    turn echo c debug network typed =
      let result := (c.assistant.route typed network).1
      let after := (c.assistant.route typed network).2
      let printed := resultReport echo c.assistant debug typed result
      if printed.complete then
        .answered printed.output (c.record (Message.exchange (trimmed typed) result)) after
      else .ended failureCode printed.output after := by
  have same : c.assistant.route (trimmed typed) network = c.assistant.route typed network :=
    c.assistant.route_trim typed network
  rw [turn, if_neg (by rw [← trimmed]; simpa [leaves] using stays), ← trimmed,
    Conversation.say_eq, same]
  cases (c.assistant.route typed network).1 <;> rfl

theorem chatLines_of_leaves (ends : leaves typed = true) :
    chatLines echo c debug network before (typed :: lines) =
      ⟨0, before ++ prompt ++ farewell echo, network⟩ := by
  rw [chatLines, turn_of_leaves ends]

theorem chatLines_of_complete (stays : leaves typed = false)
    (complete : (resultReport echo c.assistant debug typed
      (c.assistant.route typed network).1).complete = true) :
    chatLines echo c debug network before (typed :: lines) =
      chatLines echo
        (c.record (Message.exchange (trimmed typed) (c.assistant.route typed network).1)) debug
        (c.assistant.route typed network).2
        (before ++ prompt ++ (resultReport echo c.assistant debug typed
          (c.assistant.route typed network).1).output) lines := by
  rw [chatLines, turn_of_stays stays]
  simp only [complete, if_true]

/-- The chat breaks off. -/
theorem chatLines_of_incomplete (stays : leaves typed = false)
    (incomplete : (resultReport echo c.assistant debug typed
      (c.assistant.route typed network).1).complete = false) :
    chatLines echo c debug network before (typed :: lines) =
      ⟨failureCode, before ++ prompt ++ (resultReport echo c.assistant debug typed
        (c.assistant.route typed network).1).output, (c.assistant.route typed network).2⟩ := by
  rw [chatLines, turn_of_stays stays]
  simp [incomplete]

theorem chatLines_of_error {failure : Failure} (stays : leaves typed = false)
    (failed : (c.assistant.route typed network).1 = .error failure) :
    chatLines echo c debug network before (typed :: lines) =
      ⟨failureCode, before ++ prompt, (c.assistant.route typed network).2⟩ := by
  have incomplete : (resultReport echo c.assistant debug typed
      (c.assistant.route typed network).1).complete = false := by
    rw [failed]
    rfl
  rw [chatLines_of_incomplete stays incomplete, failed]
  simp [resultReport]

/-- Lines that are answered are routed and logged one after the other, and the chat goes on. -/
theorem chatLines_append (stay : ∀ typed ∈ said, leaves typed = false)
    (answered : Answered echo c.assistant debug said (c.assistant.routeAll said network).1) :
    chatLines echo c debug network before (said ++ lines) =
      let results := (c.assistant.routeAll said network).1
      chatLines echo (c.record (Conversation.transcript (said.map trimmed) results)) debug
        (c.assistant.routeAll said network).2
        (before ++ resultTexts echo c.assistant debug said results) lines := by
  induction said generalizing c network before with
  | nil =>
    simp [Assistant.routeAll, resultTexts, Conversation.transcript, Conversation.record,
      Log.addAll]
  | cons typed said ih =>
    obtain ⟨stays, stay⟩ := List.forall_mem_cons.1 stay
    rw [Assistant.routeAll_cons] at answered ⊢
    obtain ⟨complete, answered⟩ := List.forall₂_cons.1 answered
    -- The rest of the lines is met by the conversation that holds the first exchange.
    let next := c.record (Message.exchange (trimmed typed) (c.assistant.route typed network).1)
    have rest (before : String) := @ih next (c.assistant.route typed network).2 before stay answered
    rw [List.cons_append, chatLines_of_complete stays complete, rest]
    dsimp only
    rw [Conversation.record_record, resultTexts]
    simp only [String.append_assoc]
    rfl

theorem leaves_of_mem_heard (member : typed ∈ heard lines) : leaves typed = false := by
  simpa using List.mem_takeWhile_imp member

theorem heard_append (lines : List String) :
    heard lines ++ lines.dropWhile (!leaves ·) = lines := List.takeWhile_append_dropWhile

/-- The lines from the one that ends the chat on. -/
theorem dropWhile_eq_nil_or_cons (lines : List String) :
    (lines.dropWhile (!leaves ·) = [] ∧ lines.any leaves = false) ∨
      ∃ typed later, lines.dropWhile (!leaves ·) = typed :: later ∧ leaves typed = true ∧
        lines.any leaves = true := by
  induction lines with
  | nil => exact .inl ⟨rfl, rfl⟩
  | cons typed lines ih =>
    cases ends : leaves typed with
    | true => exact .inr ⟨typed, lines, by simp [ends], ends, by simp [ends]⟩
    | false => simpa [ends] using ih

/-- A chat whose lines are answered routes all of them up to the one that ends it. -/
theorem chatLines_of_answered
    (answered : Answered echo c.assistant debug (heard lines)
      (c.assistant.routeAll (heard lines) network).1) :
    chatLines echo c debug network before lines =
      ⟨0, before ++ resultTexts echo c.assistant debug (heard lines)
          (c.assistant.routeAll (heard lines) network).1 ++ prompt ++ lastWords echo lines,
        (c.assistant.routeAll (heard lines) network).2⟩ := by
  have run : chatLines echo c debug network before (heard lines ++ lines.dropWhile (!leaves ·)) = _ :=
    chatLines_append (fun _ => leaves_of_mem_heard) answered
  rw [heard_append] at run
  rw [run]
  rcases dropWhile_eq_nil_or_cons lines with ⟨none, never⟩ | ⟨typed, later, rest, ends, once⟩
  · rw [none, lastWords, never]
    rfl
  · rw [rest, lastWords, once]
    exact chatLines_of_leaves ends

/-- Where not all lines are answered, there is a first one that is not, or whose answer cannot be
printed. -/
theorem answered_or_exists_unanswered (echo : Option Colour → String → String)
    (assistant : Assistant) (debug : Bool) (said : List String) (network : Network) :
    Answered echo assistant debug said (assistant.routeAll said network).1 ∨
      ∃ done typed later, said = done ++ typed :: later ∧
        Answered echo assistant debug done (assistant.routeAll done network).1 ∧
        (resultReport echo assistant debug typed
          (assistant.route typed (assistant.routeAll done network).2).1).complete = false := by
  induction said generalizing network with
  | nil => exact .inl .nil
  | cons first said ih =>
    cases complete : (resultReport echo assistant debug first
        (assistant.route first network).1).complete with
    | false => exact .inr ⟨[], first, said, rfl, .nil, complete⟩
    | true =>
      rcases ih (assistant.route first network).2 with all | ⟨done, typed, later, rfl, most, stuck⟩
      · exact .inl (.cons complete all)
      · exact .inr ⟨first :: done, typed, later, rfl, .cons complete most, stuck⟩

/-- A chat breaks off at the first line that is not answered, or whose answer cannot be printed. -/
theorem chatLines_of_unanswered {done later : List String}
    (parts : heard lines = done ++ typed :: later)
    (answered : Answered echo c.assistant debug done (c.assistant.routeAll done network).1)
    (incomplete : (resultReport echo c.assistant debug typed
      (c.assistant.route typed (c.assistant.routeAll done network).2).1).complete = false) :
    chatLines echo c debug network before lines =
      ⟨failureCode, before ++ resultTexts echo c.assistant debug done
          (c.assistant.routeAll done network).1 ++ prompt ++
          (resultReport echo c.assistant debug typed
            (c.assistant.route typed (c.assistant.routeAll done network).2).1).output,
        (c.assistant.route typed (c.assistant.routeAll done network).2).2⟩ := by
  have split : lines = done ++ typed :: (later ++ lines.dropWhile (!leaves ·)) := by
    have whole := heard_append lines
    rw [parts, List.append_assoc] at whole
    exact whole.symm
  have stay : ∀ text ∈ done ++ typed :: later, leaves text = false := fun text member =>
    leaves_of_mem_heard (parts ▸ member)
  obtain ⟨earlier, stays, -⟩ := List.forall_mem_append.1 stay |>.imp_right List.forall_mem_cons.1
  rw [split, chatLines_append earlier answered]
  exact chatLines_of_incomplete stays incomplete

end Console

end Switchboard
