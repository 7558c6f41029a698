import Mathlib.Data.List.Induction
import Switchboard.Proofs.Routing.Argument
import Switchboard.Proofs.Routing.Calculation
import Switchboard.Proofs.Routing.Phrase
import Switchboard.Proofs.Routing.Services

/-!
# Questions for the calculator

A phrase of the calculator with an expression after it is answered as the command with that expression.
No character of an expression counts as a letter of ASCII, and each phrase of a skill that comes with the
program ends with one. So a phrase that stands in the question stands in the phrase it is asked with, and
the only one that stands in a phrase of the calculator is that phrase.
-/

namespace Switchboard

open Text

def BuiltIn.phrases (kind : BuiltIn) : List String :=
  (kind.service [] ⟨false, 0⟩ .null).skill.phrases

@[simp] theorem Service.phrases_skill (service : Service) :
    service.skill.phrases = service.kind.phrases := by
  cases service <;> rfl

namespace BuiltIn

variable {kind : BuiltIn} {phrase other : String}

theorem mem_all (kind : BuiltIn) : kind ∈ all := by cases kind <;> decide

/-- A phrase is its own small form, and both its ends are letters. -/
theorem letters_of_mem_phrases (known : phrase ∈ kind.phrases) :
    phrase.toList.map letterKey = phrase.toList ∧
      (∃ c, phrase.toList.head? = some c ∧ c.isLower = true) ∧
      ∃ c, phrase.toList.getLast? = some c ∧ c.isLower = true := by
  have each : ∀ kind ∈ all, ∀ phrase ∈ kind.phrases, phrase.toList.map letterKey = phrase.toList ∧
      phrase.toList.head?.any Char.isLower = true ∧ phrase.toList.getLast?.any Char.isLower = true := by
    decide +kernel
  obtain ⟨small, first, last⟩ := each kind kind.mem_all phrase known
  exact ⟨small, (Option.any_eq_true _ _).1 first, (Option.any_eq_true _ _).1 last⟩

theorem eq_of_infix (known : phrase ∈ calculator.phrases) (known' : other ∈ kind.phrases)
    (h : other.toList <:+: phrase.toList) : kind = calculator ∧ other = phrase := by
  have each : ∀ phrase ∈ calculator.phrases, ∀ kind ∈ all, ∀ other ∈ kind.phrases,
      other.toList <:+: phrase.toList → kind = calculator ∧ other = phrase := by decide +kernel
  exact each phrase known kind kind.mem_all other known' h

end BuiltIn

theorem isLower_letterKey {c : Char} (h : Expression.isArithmetic c = true) :
    (letterKey c).isLower = false :=
  Expression.of_isArithmetic (P := fun c => (letterKey c).isLower = false) (by decide +kernel) h

theorem infix_of_infix_append {α : Type} {piece word rest : List α} {a : α}
    (last : a ∈ piece.getLast?) (missed : a ∉ rest) (h : piece <:+: word ++ rest) :
    piece <:+: word := by
  induction rest using List.reverseRecOn with
  | nil => rwa [List.append_nil] at h
  | append_singleton rest b ih =>
    rw [← List.append_assoc, List.infix_concat_iff] at h
    rcases h with ⟨before, ending⟩ | inside
    · have here : a ∈ (before ++ piece).getLast? := List.mem_getLast?_append_of_mem_getLast? last
      rw [ending, List.getLast?_concat] at here
      cases here
      exact absurd (List.mem_append_right _ List.mem_cons_self) missed
    · exact ih (fun member => missed (List.mem_append_left _ member)) inside

theorem Says.infix_letters {phrase : String} {text : List Char} (h : Says phrase text) :
    phrase.toList.map letterKey <:+: text.map letterKey := by
  obtain ⟨before, found, after, rfl, same⟩ := h
  rw [same, List.map_append, List.map_append]
  exact List.infix_append' ..

section Question

variable {phrase : String} {spoken rest : List Char}

/-- The first character of a phrase is none of those of expressions, in whichever case it is. -/
theorem exists_cons_of_sameLetters (known : phrase ∈ BuiltIn.calculator.phrases)
    (same : SameLetters phrase.toList spoken) :
    ∃ c more, spoken = c :: more ∧ Expression.isArithmetic c = false := by
  obtain ⟨small, ⟨c, first, lower⟩, -⟩ := BuiltIn.letters_of_mem_phrases known
  rw [← small, same, List.head?_map] at first
  obtain ⟨d, head, rfl⟩ := Option.map_eq_some_iff.1 first
  obtain ⟨more, rfl⟩ := List.head?_eq_some_iff.1 head
  refine ⟨d, more, rfl, ?_⟩
  cases arithmetic : Expression.isArithmetic d with
  | false => rfl
  | true => cases (isLower_letterKey arithmetic).symm.trans lower

variable {services : List Service}

/-- A question for the calculator hits no call but that of its own phrase. -/
theorem eq_of_hits_question (known : phrase ∈ BuiltIn.calculator.phrases)
    (same : SameLetters phrase.toList spoken)
    (arithmetic : ∀ c ∈ rest, Expression.isArithmetic c = true) {call : Call}
    (member : call ∈ calls (services.map Service.skill)) (hit : call.cue.Hits (spoken ++ rest)) :
    call = ⟨Calculator.skill, .phrase phrase⟩ := by
  obtain ⟨skill, cue⟩ := call
  obtain ⟨made, belongs⟩ := mem_calls_iff.1 member
  obtain ⟨service, -, rfl⟩ := List.mem_map.1 made
  cases cue with
  | trigger t =>
    obtain ⟨c, more, rfl, dark⟩ := exists_cons_of_sameLetters known same
    obtain ⟨word, behind, parts, named, -⟩ := hit
    obtain ⟨spelled, rfl, -⟩ := isCommand_iff.1 named
    obtain ⟨rfl, -⟩ := List.cons.inj parts
    cases dark
  | phrase other =>
    have known' : other ∈ service.kind.phrases := service.phrases_skill ▸ belongs
    obtain ⟨small, -⟩ := BuiltIn.letters_of_mem_phrases known
    obtain ⟨small', -, c, last, lower⟩ := BuiltIn.letters_of_mem_phrases known'
    have missed : c ∉ rest.map letterKey := by
      intro here
      obtain ⟨d, there, rfl⟩ := List.mem_map.1 here
      cases (isLower_letterKey (arithmetic d there)).symm.trans lower
    have within := Says.infix_letters hit
    rw [small', List.map_append, ← same, small] at within
    obtain ⟨kind, rfl⟩ :=
      BuiltIn.eq_of_infix known known' (infix_of_infix_append last missed within)
    rw [Service.skill_of_calculator kind]

theorem decide?_question {service : Service}
    (chosen : services.find? (·.kind == .calculator) = some service)
    (known : phrase ∈ BuiltIn.calculator.phrases) (same : SameLetters phrase.toList spoken)
    (arithmetic : ∀ c ∈ rest, Expression.isArithmetic c = true) :
    decide? (services.map Service.skill) (spoken ++ rest) =
      some ⟨Calculator.skill, String.ofList (trim rest), .naturalLanguage, phrase⟩ := by
  have kind := List.find?_some chosen
  have skill := Service.skill_of_calculator (eq_of_beq kind)
  have member : ⟨Calculator.skill, .phrase phrase⟩ ∈ calls (services.map Service.skill) :=
    mem_calls_iff.2 ⟨List.mem_map.2 ⟨service, List.mem_of_find?_eq_some chosen, skill⟩, known⟩
  have word : afterWord phrase.toList (spoken ++ rest) = some rest :=
    afterWord_eq_some_iff.2 ⟨spoken, rfl, same⟩
  have found : afterPhrase phrase.toList (spoken ++ rest) = some rest := afterPhrase_of_afterWord word
  apply decide?_of_only_hit member
  · rw [Call.decision?, Cue.argument?, found]
    rfl
  · exact fun call => eq_of_hits_question known same arithmetic

end Question

theorem Assistant.matchText_question {assistant : Assistant} {services : List Service}
    {service : Service} {phrase spoken argument : String}
    (same : assistant.skills = services.map Service.skill)
    (chosen : services.find? (·.kind == .calculator) = some service)
    (known : phrase ∈ BuiltIn.calculator.phrases) (spelled : SameLetters phrase.toList spoken.toList)
    (arithmetic : ∀ c ∈ argument.toList, Expression.isArithmetic c = true)
    (given : trim argument.toList ≠ []) :
    assistant.matchText (spoken ++ " " ++ argument) =
      some ⟨Calculator.skill, String.ofList (trim argument.toList), .naturalLanguage, phrase⟩ := by
  have text : (spoken ++ " " ++ argument).toList = spoken.toList ++ ' ' :: argument.toList := by
    simp [String.toList_append]
  obtain ⟨c, more, first, dark⟩ := exists_cons_of_sameLetters known spelled
  have apart : spoken.toList ≠ [] := first ▸ List.cons_ne_nil c more
  have head : ∀ c ∈ spoken.toList.head?, isBlank c = false := by
    rw [first]
    rintro _ ⟨⟩
    exact Expression.isBlank_of_isArithmetic dark
  obtain ⟨blanks, -, blank, parts⟩ := exists_trim_word_append apart head given
  have left : ∀ c ∈ blanks ++ trim argument.toList, Expression.isArithmetic c = true := by
    intro c member
    rcases List.mem_append.1 member with before | behind
    · exact Expression.isArithmetic_of_isBlank (blank c before)
    · exact arithmetic c ((trim_isInfix argument.toList).subset behind)
  have asked : trim (spoken ++ " " ++ argument).toList ≠ [] := by
    rw [text, parts]
    exact List.append_ne_nil_of_left_ne_nil apart _
  rw [matchText_of_trim_ne_nil asked, text, parts, same,
    decide?_question chosen known spelled left, (trimmed_trim _).trim_append blank]

theorem Calculator.exists_settle (query : String) :
    ∃ o, Assistant.settle Calculator.skill (answer query) = .ok o := by
  cases made : answer query with
  | error failure => exact ⟨_, rfl⟩
  | ok reply =>
    obtain ⟨v, ready⟩ := ready_of_answer made
    rw [Assistant.settle_ok, ready]
    exact ⟨_, rfl⟩

/-- With the skills of a configuration that enables the calculator, whichever others it enables, a phrase
of the calculator with letters in any case and, after a space, characters of expressions on one line that
are not all blank is answered as the command with these characters. Nothing is sent for either. -/
theorem route_question {config : Value} {clock : Int} {initial assistant : Assistant}
    {phrase spoken argument : String} (built : Assistant.build config clock = .ok initial)
    (same : assistant.skills = initial.skills) (enables : Blueprint.Enables config .calculator)
    (known : phrase ∈ Calculator.skill.phrases)
    (letters : spoken.toList.map Char.toLower = phrase.toList)
    (arithmetic : ∀ c ∈ argument.toList, Expression.isArithmetic c = true)
    (given : trim argument.toList ≠ []) (line : '\n' ∉ argument.toList) (network : Network) :
    ∃ o, assistant.route (spoken ++ " " ++ argument) network = (.ok o, network) ∧
      assistant.route ("/calc " ++ argument) network = (.ok o, network) := by
  obtain ⟨services, service, made, chosen⟩ := Assistant.exists_service_of_enables built enables
  have skills := same.trans made
  have spelled : SameLetters phrase.toList spoken.toList := by
    rw [SameLetters, ← letters, List.map_map]
    exact List.map_congr_left fun c _ => letterKey_toLower c
  have decided := Assistant.matchText_question skills chosen known spelled arithmetic given
  obtain ⟨o, settled⟩ := Calculator.exists_settle (String.ofList (trim argument.toList))
  refine ⟨o, ?_, ?_⟩
  · rw [Assistant.route_of_decision decided rfl, settled]
  · rw [Assistant.route_commandLine skills chosen given line, settled]

def namedSkills : Value :=
  .record [("skills", .record [("enabled", .texts ["weather", "calc", "define"])])]

theorem route_question_product :
    ∃ assistant, Assistant.build namedSkills 0 = .ok assistant ∧
      Blueprint.Enables namedSkills .calculator ∧
      ∃ o, assistant.route ("WhAt'S" ++ " " ++ " 2 * (3 +\t4) ") ⟨[], []⟩ = (.ok o, ⟨[], []⟩) ∧
        assistant.route ("/calc " ++ " 2 * (3 +\t4) ") ⟨[], []⟩ = (.ok o, ⟨[], []⟩) := by
  obtain ⟨assistant, built⟩ : ∃ assistant, Assistant.build namedSkills 0 = .ok assistant := ⟨_, rfl⟩
  have enables : Blueprint.Enables namedSkills .calculator :=
    ⟨_, _, _, rfl, rfl, rfl, .tail _ (.head _)⟩
  have known : "what's" ∈ Calculator.skill.phrases := by decide
  have arithmetic : ∀ c ∈ " 2 * (3 +\t4) ".toList, Expression.isArithmetic c = true :=
    List.all_eq_true.1 (by decide +kernel)
  have given : trim " 2 * (3 +\t4) ".toList ≠ [] := by decide +kernel
  exact ⟨assistant, built, enables, route_question built rfl enables known (by decide) arithmetic given
    (by decide) ⟨[], []⟩⟩

end Switchboard
