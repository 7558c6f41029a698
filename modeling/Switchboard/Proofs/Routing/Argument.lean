import Switchboard.Proofs.Routing.FirstHit
import Switchboard.Proofs.Text.Letter

/-!
# The argument of a command

In a text without blanks around it there is one way to find a command: a slash, as many characters as
the name has, all blanks that follow, and a line that starts with no blank. So the argument of a command
is never empty.
-/

namespace Switchboard

open Text

/-- A text is a slash, the name of a command with letters in any case, blanks, and the argument: one
line that starts with no blank. -/
def CommandLine (name : String) (text argument : List Char) : Prop :=
  ∃ word blanks, text = '/' :: (word ++ (blanks ++ argument)) ∧ word.length = name.length ∧
    SameLetters name.toList word ∧ blanks ≠ [] ∧ (∀ c ∈ blanks, isBlank c = true) ∧ argument ≠ [] ∧
    (∀ c ∈ argument.head?, isBlank c = false) ∧ '\n' ∉ argument

theorem isCommand_iff {name : String} {word : List Char} :
    IsCommand name word ↔ ∃ spelled, word = '/' :: spelled ∧ SameLetters name.toList spelled := by
  constructor
  · intro h
    cases word with
    | nil => cases SameLetters.length_eq h
    | cons c spelled =>
      obtain ⟨first, others⟩ := List.cons.inj h
      obtain rfl : c = '/' := eq_of_letterKey_eq first.symm (by decide) (by decide)
      exact ⟨spelled, rfl, others⟩
  · rintro ⟨spelled, rfl, same⟩
    exact congrArg (letterKey '/' :: ·) same

theorem Text.Trimmed.last_of_append {after : List Char} (before : List Char)
    (h : Trimmed (before ++ after)) : ∀ c ∈ after.getLast?, isBlank c = false :=
  fun c hc => h.last c (List.mem_getLast?_append_of_mem_getLast? hc)

namespace Trigger

/-- What stands behind a line of blanks and an argument, where the text ends with no blank. -/
theorem lineAfterBlanks?_eq_some_iff {text argument : List Char}
    (last : ∀ c ∈ text.getLast?, isBlank c = false) :
    lineAfterBlanks? text = some argument ↔
      ∃ blanks, text = blanks ++ argument ∧ blanks ≠ [] ∧ (∀ c ∈ blanks, isBlank c = true) ∧
        argument ≠ [] ∧ (∀ c ∈ argument.head?, isBlank c = false) ∧ '\n' ∉ argument := by
  constructor
  · intro h
    obtain ⟨blanks, blank, parts⟩ := eq_append_trim last
    have clean : '\n' ∉ trim text := by
      intro feed
      rw [parts, lineAfterBlanks?_eq_none_of_mem feed (trimmed_trim text)] at h
      cases h
    have apart : blanks ≠ [] := by
      rintro rfl
      rw [parts, List.nil_append, lineAfterBlanks?_of_head (trimmed_trim text).head] at h
      cases h
    have given : trim text ≠ [] := by
      intro none
      have same : text = blanks := by rw [parts, none, List.append_nil]
      have dark := last (blanks.getLast apart) (same ▸ List.getLast?_eq_some_getLast apart)
      cases dark.symm.trans (blank _ (List.getLast_mem apart))
    rw [parts, lineAfterBlanks?_eq_some apart blank given (trimmed_trim text) clean] at h
    cases h
    exact ⟨blanks, parts, apart, blank, given, (trimmed_trim text).head, clean⟩
  · rintro ⟨blanks, rfl, apart, blank, given, head, clean⟩
    have ending : ∀ c ∈ argument.getLast?, isBlank c = false :=
      fun c hc => last c (List.mem_getLast?_append_of_mem_getLast? hc)
    exact lineAfterBlanks?_eq_some apart blank given ⟨head, ending⟩ clean

variable {name : String} {text argument : List Char}

theorem argument?_command_iff (trimmed : Trimmed text) :
    (command name).argument? text = some argument ↔ CommandLine name text argument := by
  rw [argument?_eq_bind, Option.bind_eq_some_iff]
  constructor
  · rintro ⟨rest, starts, h⟩
    obtain ⟨word, rfl, named⟩ := afterWord_eq_some_iff.1 starts
    obtain ⟨spelled, rfl, same⟩ := isCommand_iff.1 named
    obtain ⟨blanks, rfl, ending⟩ := (lineAfterBlanks?_eq_some_iff (trimmed.last_of_append _)).1 h
    exact ⟨spelled, blanks, rfl, same.length_eq, same, ending⟩
  · rintro ⟨spelled, blanks, rfl, -, same, ending⟩
    have named : IsCommand name ('/' :: spelled) := isCommand_iff.2 ⟨spelled, rfl, same⟩
    have starts : afterName name ('/' :: spelled ++ (blanks ++ argument)) = some (blanks ++ argument) :=
      afterWord_eq_some_iff.2 ⟨_, rfl, named⟩
    refine ⟨blanks ++ argument, starts, ?_⟩
    have last := Text.Trimmed.last_of_append ('/' :: spelled) trimmed
    exact (lineAfterBlanks?_eq_some_iff last).2 ⟨blanks, rfl, ending⟩

end Trigger

theorem CommandLine.trimmed {name : String} {text argument : List Char}
    (h : CommandLine name text argument) (trimmed : Trimmed text) : Trimmed argument := by
  obtain ⟨word, blanks, rfl, -, -, -, -, -, head, -⟩ := h
  have last := Trimmed.last_of_append ('/' :: (word ++ blanks))
    (by rwa [List.cons_append, List.append_assoc])
  exact ⟨head, last⟩

/-- In a text that is not empty and has no blanks around it, a command has an argument if and only if the
text is a slash, as many characters as the name has, each the same letter as there, at least one blank,
and a line that is not empty and starts with no blank. The argument is that line. So where all triggers
are commands, what a trigger decides on has an argument that is not empty, and it is that line of the
text. -/
theorem Trigger.command_argument (name : String) {text : List Char} (given : text ≠ [])
    (trimmed : Trimmed text) :
    (∀ argument, (command name).argument? text = some argument ↔ CommandLine name text argument) ∧
      ((command name).Matches text ↔ ∃ argument, CommandLine name text argument) ∧
      ∀ assistant : Assistant,
        (∀ skill ∈ assistant.skills, ∀ t ∈ skill.triggers, ∃ name, t = command name) →
        ∀ decision, assistant.matchText (String.ofList text) = some decision →
          decision.strategy = .explicit →
          ∃ name, command name ∈ decision.skill.triggers ∧
            decision.trigger = (command name).pattern ∧
            CommandLine name text decision.argument.toList ∧ decision.argument ≠ "" := by
  refine ⟨fun argument => argument?_command_iff trimmed, ?_, ?_⟩
  · rw [← argument?_isSome_iff, Option.isSome_iff_exists]
    exact exists_congr fun argument => argument?_command_iff trimmed
  · intro assistant commands decision h explicit
    have same : trim (String.ofList text).toList = text := by
      rw [String.toList_ofList, trimmed.trim_eq]
    rw [matchText_of_trim_ne_nil (by rwa [same]), same] at h
    obtain ⟨cue, rest, known, belongs, found, strategy, named, argument⟩ := exists_call_of_decide? h
    cases cue with
    | phrase p => cases explicit.symm.trans strategy
    | trigger t =>
      obtain ⟨name, rfl⟩ := commands _ known t belongs
      have line := (argument?_command_iff trimmed).1 found
      rw [(line.trimmed trimmed).trim_eq] at argument
      have read : decision.argument.toList = rest := by rw [argument, String.toList_ofList]
      obtain ⟨-, -, -, -, -, -, -, nonempty, -⟩ := id line
      refine ⟨name, belongs, named, read ▸ line, ?_⟩
      intro none
      rw [none] at read
      exact nonempty read.symm

theorem Trigger.command_argument_signs :
    Trimmed "/C (*\t\u2003New  York.".toList ∧
      (command "c (*").argument? "/C (*\t\u2003New  York.".toList = some "New  York.".toList ∧
      CommandLine "c (*" "/C (*\t\u2003New  York.".toList "New  York.".toList := by
  have trimmed : Trimmed "/C (*\t\u2003New  York.".toList := by
    constructor <;> rintro _ ⟨⟩ <;> rfl
  have found : (command "c (*").argument? "/C (*\t\u2003New  York.".toList =
      some "New  York.".toList := by decide
  exact ⟨trimmed, found, ((command_argument "c (*" (by decide) trimmed).1 _).1 found⟩

end Switchboard
