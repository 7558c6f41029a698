import Switchboard.Proofs.Routing.FirstHit

/-!
# Commands reach their skill

No text starts with the commands of two of the skills that come with the program. So the command of
one of them decides, whatever the other skills and the argument are, as long as the argument is one
line. Several lines are no argument: then phrases are looked for in the whole text, command and all.
-/

namespace Switchboard

open Text

namespace Service

def kind : Service → BuiltIn
  | weather _ => .weather
  | calculator _ => .calculator
  | dictionary _ => .dictionary

@[simp] theorem triggers_skill (service : Service) :
    service.skill.triggers = [.command service.kind.name] := by
  cases service <;> rfl

def commanded (service : Service) (argument : List Char) : Decision :=
  ⟨service.skill, String.ofList (trim argument), .explicit,
    (Trigger.command service.kind.name).pattern⟩

end Service

theorem BuiltIn.eq_of_agree {kind other : BuiltIn}
    (h : agree ('/' :: kind.name.toList) ('/' :: other.name.toList) = true) : kind = other := by
  cases kind <;> cases other <;> first | rfl | exact absurd h (by decide)

namespace Service

variable {service : Service} {kind : BuiltIn} {command : List Char}

theorem explicit?_skill (service : Service) (text : List Char) :
    service.skill.explicit? text =
      ((Trigger.command service.kind.name).argument? text).map service.commanded := by
  rw [Skill.explicit?, triggers_skill, List.findSome?_cons, List.findSome?_nil]
  cases (Trigger.command service.kind.name).argument? text <;> rfl

theorem explicit?_of_command (named : IsCommand service.kind.name command) (rest : List Char) :
    service.skill.explicit? (command ++ rest) =
      (Trigger.lineAfterBlanks? rest).map service.commanded := by
  have found : Trigger.afterName service.kind.name (command ++ rest) = some rest :=
    afterWord_eq_some_iff.2 ⟨command, rfl, named⟩
  rw [explicit?_skill, Trigger.argument?, found, Option.bind_some]

theorem explicit?_of_other (named : IsCommand kind.name command) (other : service.kind ≠ kind)
    (rest : List Char) : service.skill.explicit? (command ++ rest) = none := by
  have missed : Trigger.afterName service.kind.name (command ++ rest) = none := by
    cases found : Trigger.afterName service.kind.name (command ++ rest) with
    | none => rfl
    | some rest' =>
      obtain ⟨command', parts, named'⟩ := afterWord_eq_some_iff.1 found
      exact absurd (BuiltIn.eq_of_agree (agree_of_append named' named parts.symm)) other
  rw [explicit?_skill, Trigger.argument?, missed]
  rfl

end Service

section Services

variable {services : List Service} {service : Service} {kind : BuiltIn} {command rest : List Char}

/-- The first service of its kind decides on its command. -/
theorem findSome?_explicit?_eq_some {line : List Char}
    (chosen : services.find? (·.kind == kind) = some service)
    (named : IsCommand kind.name command) (h : Trigger.lineAfterBlanks? rest = some line) :
    (services.map Service.skill).findSome? (·.explicit? (command ++ rest)) =
      some (service.commanded line) := by
  obtain ⟨same, before, after, rfl, others⟩ := List.find?_eq_some_iff_append.1 chosen
  obtain rfl := eq_of_beq same
  rw [List.findSome?_map, List.findSome?_eq_some_iff]
  refine ⟨before, service, after, rfl, ?_, ?_⟩
  · rw [Function.comp_apply, Service.explicit?_of_command named, h, Option.map_some]
  · intro other member
    apply Service.explicit?_of_other named
    simpa using others other member

theorem findSome?_explicit?_eq_none (named : IsCommand kind.name command)
    (h : Trigger.lineAfterBlanks? rest = none) :
    (services.map Service.skill).findSome? (·.explicit? (command ++ rest)) = none := by
  rw [List.findSome?_map, List.findSome?_eq_none_iff]
  intro other _
  by_cases same : other.kind = kind
  · obtain rfl := same
    rw [Function.comp_apply, Service.explicit?_of_command named, h, Option.map_none]
  · exact Service.explicit?_of_other named same rest

end Services

/-- A command with blanks and one line after it reaches its skill, with that line as the argument.
With several lines after it, no command is found in the text, and phrases decide. -/
theorem matchText_command {assistant : Assistant} {services : List Service} {service : Service}
    {kind : BuiltIn} {text : String} {command blanks argument : List Char}
    (built : assistant.skills = services.map Service.skill)
    (chosen : services.find? (·.kind == kind) = some service)
    (parts : trim text.toList = command ++ (blanks ++ argument))
    (named : IsCommand kind.name command)
    (apart : blanks ≠ []) (blank : ∀ c ∈ blanks, isBlank c = true) (given : trim argument ≠ []) :
    assistant.matchText text =
      if '\n' ∈ trim argument then
        assistant.skills.findSome? (·.spoken? (trim text.toList))
      else
        some ⟨service.skill, String.ofList (trim argument), .explicit,
          (Trigger.command kind.name).pattern⟩ := by
  have nonblank : trim text.toList ≠ [] := by
    rw [parts]
    simp [apart]
  have last : ∀ c ∈ argument.getLast?, isBlank c = false := by
    intro c hc
    apply (trimmed_trim text.toList).last c
    rw [parts, List.getLast?_append, List.getLast?_append, Option.mem_def.1 hc]
    rfl
  obtain ⟨more, moreBlank, split⟩ := eq_append_trim last
  -- All blanks before the argument count as one run of them.
  have joined : blanks ++ argument = (blanks ++ more) ++ trim argument := by
    rw [List.append_assoc, ← split]
  have allBlank : ∀ c ∈ blanks ++ more, isBlank c = true := by
    intro c hc
    rcases List.mem_append.1 hc with here | there
    · exact blank c here
    · exact moreBlank c there
  have apart' : blanks ++ more ≠ [] := by simp [apart]
  rw [matchText_of_trim_ne_nil nonblank, decide?, parts, built]
  split
  · rename_i feed
    have missed : Trigger.lineAfterBlanks? (blanks ++ argument) = none := by
      rw [joined]
      exact Trigger.lineAfterBlanks?_eq_none_of_mem feed (trimmed_trim argument)
    rw [findSome?_explicit?_eq_none named missed]
    rfl
  · rename_i clean
    have found : Trigger.lineAfterBlanks? (blanks ++ argument) = some (trim argument) := by
      rw [joined]
      exact Trigger.lineAfterBlanks?_eq_some apart' allBlank given (trimmed_trim argument) clean
    rw [findSome?_explicit?_eq_some chosen named found, Service.commanded,
      (trimmed_trim argument).trim_eq]
    have same := List.find?_some chosen
    obtain rfl : service.kind = kind := eq_of_beq same
    rfl

def standardServices : List Service :=
  BuiltIn.all.map fun kind => kind.service [] ⟨false, 0⟩ .null

def standardAssistant : Assistant where
  skills := standardServices.map Service.skill
  fallback := .default
  isOpen := true

theorem matchText_calculatorCommand :
    standardAssistant.matchText " /CALC  /weather what is 5\n" =
      some ⟨Calculator.skill, "/weather what is 5", .explicit, "^/calc\\s+(.+)$"⟩ := by
  have chosen : standardServices.find? (·.kind == .calculator) = some (.calculator []) := rfl
  have parts : trim " /CALC  /weather what is 5\n".toList =
      "/CALC".toList ++ ([' ', ' '] ++ "/weather what is 5".toList) := rfl
  have named : IsCommand BuiltIn.calculator.name "/CALC".toList :=
    sameLetters_of_toLower (by decide)
  have built : standardAssistant.skills = standardServices.map Service.skill := rfl
  have blank : ∀ c ∈ [' ', ' '], isBlank c = true := by
    intro c hc
    obtain rfl : c = ' ' := by simpa using hc
    rfl
  have given : trim "/weather what is 5".toList ≠ [] := List.cons_ne_nil _ _
  exact matchText_command built chosen parts named (List.cons_ne_nil _ _) blank given

/-- An argument of two lines goes to another skill, with only a part of it. -/
theorem matchText_twoLines :
    trim "/weather Paris\nsolve 1".toList = "/weather".toList ++ ([' '] ++ "Paris\nsolve 1".toList) ∧
    (standardAssistant.matchText "/weather Paris\nsolve 1").map
      (fun decision => (decision.skill.name, decision.argument, decision.strategy)) =
        some ("calc", "1", .naturalLanguage) := by
  constructor
  · rfl
  · rfl

end Switchboard
