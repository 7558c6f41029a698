import Switchboard.Proofs.Expression.Cleaning
import Switchboard.Proofs.Routing.Boundary
import Switchboard.Proofs.Routing.Command
import Switchboard.Proofs.Skill.Registry

/-!
# The command of the calculator

A configuration that enables a skill leads to an assistant with that skill, and a command with one line
after it reaches it. For the calculator the line is an expression. Nothing on its way changes its tokens:
the line is trimmed twice, cleaned, validated, and read. So a sentence of the grammar is answered with its
value, and whatever has no value is answered with the apology.
-/

namespace Switchboard

open Text

/-- A configuration whose skills include one that comes with the program. -/
def Blueprint.Enables (config : Value) (kind : BuiltIn) : Prop :=
  ∃ chosen enabled names, partOf config "skills" = .ok chosen ∧
    chosen.fieldOr "enabled" .null = .ok enabled ∧
    namesEnabled BuiltIn.all enabled = .ok names ∧ .text kind.name ∈ names

theorem kind_of_serviceNamed {kind : BuiltIn} {settings : Value} {setting : BuiltIn.Setting}
    {service : Service}
    (h : serviceNamed BuiltIn.all settings setting (.text kind.name) = .ok service) :
    service.kind = kind := by
  have known : enabledSkill BuiltIn.all (.text kind.name) = .ok kind := by cases kind <;> rfl
  rw [serviceNamed, known, ok_bind] at h
  obtain ⟨config, -, h⟩ := bind_eq_ok_iff.1 h
  cases h
  cases kind <;> rfl

theorem Assistant.exists_service_of_enables {config : Value} {clock : Int} {assistant : Assistant}
    {kind : BuiltIn} (built : build config clock = .ok assistant)
    (enables : Blueprint.Enables config kind) :
    ∃ (services : List Service) (service : Service), assistant.skills = services.map Service.skill ∧
      services.find? (·.kind == kind) = some service := by
  obtain ⟨chosen, enabled, names, section', entry, listed, member⟩ := enables
  obtain ⟨blueprint, made, same⟩ := bind_eq_ok_iff.1 built
  rw [Blueprint.ofConfig_eq] at made
  obtain ⟨timeout, -, made⟩ := bind_eq_ok_iff.1 made
  obtain ⟨services, served, made⟩ := bind_eq_ok_iff.1 made
  obtain ⟨talk, -, made⟩ := bind_eq_ok_iff.1 made
  obtain ⟨fallback, -, made⟩ := bind_eq_ok_iff.1 made
  cases made
  cases same
  rw [Blueprint.servicesOf, section', SetupFault.ofMismatch, ok_bind, entry, SetupFault.ofMismatch,
    ok_bind, buildServices_record, listed, ok_bind] at served
  obtain ⟨service, given, named⟩ := exists_of_mem_mapM served _ member
  have here : (services.find? (·.kind == kind)).isSome = true := by
    rw [List.find?_isSome]
    exact ⟨service, given, beq_iff_eq.2 (kind_of_serviceNamed named)⟩
  obtain ⟨first, found⟩ := Option.isSome_iff_exists.1 here
  exact ⟨services, first, rfl, found⟩

theorem Service.skill_of_calculator {service : Service} (known : service.kind = .calculator) :
    service.skill = Calculator.skill := by
  cases service with
  | calculator config => rfl
  | weather weather => cases known
  | dictionary source => cases known

namespace Assistant

variable {assistant : Assistant} {services : List Service} {service : Service} {kind : BuiltIn}
  {argument : String}

theorem matchText_commandLine (same : assistant.skills = services.map Service.skill)
    (chosen : services.find? (·.kind == kind) = some service)
    (given : trim argument.toList ≠ []) (line : '\n' ∉ argument.toList) :
    assistant.matchText ("/" ++ kind.name ++ " " ++ argument) =
      some (service.commanded (trim argument.toList)) := by
  have text : ("/" ++ kind.name ++ " " ++ argument).toList =
      ('/' :: kind.name.toList) ++ ' ' :: argument.toList := by
    simp [String.toList_append]
  have dark : ∀ c ∈ ('/' :: kind.name.toList).head?, isBlank c = false := by
    rintro c ⟨⟩
    rfl
  obtain ⟨blanks, apart, blank, parts⟩ := exists_trim_word_append (List.cons_ne_nil _ _) dark given
  have clean : '\n' ∉ trim argument.toList :=
    fun feed => line ((trim_isInfix argument.toList).subset feed)
  have found := Trigger.lineAfterBlanks?_eq_some apart blank given
    (trimmed_trim argument.toList) clean
  rw [matchText, text, parts, if_neg (by simp), decide?, same,
    findSome?_explicit?_eq_some chosen rfl found]
  rfl

theorem route_of_decision {text : String} {decision : Decision}
    (decided : assistant.matchText text = some decision) (skill : decision.skill = Calculator.skill)
    (network : Network) :
    assistant.route text network =
      (settle Calculator.skill (Calculator.answer decision.argument), network) := by
  rw [route_of_matchText decided, invoke, skill]
  rfl

theorem route_commandLine (same : assistant.skills = services.map Service.skill)
    (chosen : services.find? (·.kind == .calculator) = some service)
    (given : trim argument.toList ≠ []) (line : '\n' ∉ argument.toList) (network : Network) :
    assistant.route ("/calc " ++ argument) network =
      (settle Calculator.skill (Calculator.answer (String.ofList (trim argument.toList))), network) := by
  have command : "/calc " = "/" ++ BuiltIn.calculator.name ++ " " := by decide
  have decided := matchText_commandLine same chosen given line
  rw [← command] at decided
  have known := List.find?_some chosen
  have kind : service.kind = .calculator := eq_of_beq known
  rw [route_of_decision decided (Service.skill_of_calculator kind), Service.commanded, trim_trim]

end Assistant

namespace Calculator

variable {query : String}

theorem answer_eq (given : trim query.toList ≠ []) :
    answer (String.ofList (trim query.toList)) =
      match Expression.calculate (String.ofList (trim query.toList)) with
      | .ok c => .ok (reply c)
      | .error fault => .error (.rejected ("Calculation error: " ++ fault.message) (some name)) := by
  have argument : requireArgument name "Expression" (String.ofList (trim query.toList)) =
      .ok (trim query.toList) := by
    rw [requireArgument, String.toList_ofList, trim_trim]
    exact if_neg (by simp [given])
  rw [answer, argument]
  rfl

def outcome (c : Expression.Calculation) : Outcome where
  matched := true
  response := .text (c.expression ++ " = " ++ c.result)
  skill := some (.text name)
  data := some (.record [("expression", .text c.expression), ("result", .text c.result)])

end Calculator

/-- With the skills of a configuration that enables the calculator, whether or not the client is still
open, its command on one line is answered with what is calculated for the trimmed line, and with the
apology where nothing can be calculated. The line may be any sentence of the grammar that does not nest
too deep: cleaning keeps its tokens, and it is answered with its value. -/
theorem route_calculator {config : Value} {clock : Int} {initial assistant : Assistant}
    {argument : String} (built : Assistant.build config clock = .ok initial)
    (same : assistant.skills = initial.skills) (enables : Blueprint.Enables config .calculator)
    (given : trim argument.toList ≠ []) (line : '\n' ∉ argument.toList) (network : Network) :
    (∀ c, Expression.calculate (String.ofList (trim argument.toList)) = .ok c →
      assistant.route ("/calc " ++ argument) network = (.ok (Calculator.outcome c), network)) ∧
    (∀ fault, Expression.calculate (String.ofList (trim argument.toList)) = .error fault →
      assistant.route ("/calc " ++ argument) network =
        (.ok (.unmatched (.text (Assistant.apology Calculator.name))), network)) ∧
    ∀ e : Expression.Grammar.Sentence, Expression.tokens argument.toList = .ok e.tokens →
      Expression.nesting e.tokens ≤ 100 →
      Expression.tokens (Expression.clean (trim argument.toList)) = .ok e.tokens ∧
        assistant.route ("/calc " ++ argument) network =
          (.ok (Calculator.outcome ⟨String.ofList (Expression.clean (trim argument.toList)),
            Expression.report e.value⟩), network) := by
  obtain ⟨services, service, made, chosen⟩ := Assistant.exists_service_of_enables built enables
  have routed := Assistant.route_commandLine (same.trans made) chosen given line network
  rw [Calculator.answer_eq given] at routed
  have answered (c : Expression.Calculation)
      (h : Expression.calculate (String.ofList (trim argument.toList)) = .ok c) :
      assistant.route ("/calc " ++ argument) network = (.ok (Calculator.outcome c), network) := by
    rw [routed, h]
    rfl
  refine ⟨answered, fun fault h => ?_, fun e derived shallow => ?_⟩
  · rw [routed, h]
    rfl
  · obtain ⟨read, calculated⟩ := Expression.calculate_of_derived e derived shallow
    exact ⟨read, answered _ calculated⟩

theorem route_calculator_product :
    ∃ assistant, Assistant.build (.record []) 0 = .ok assistant ∧
      Blueprint.Enables (.record []) .calculator ∧
      assistant.route ("/calc " ++ " 2 * (3 +\t4) ") ⟨[], []⟩ =
        (.ok (Calculator.outcome ⟨"2 * (3 + 4)", "14"⟩), ⟨[], []⟩) := by
  obtain ⟨assistant, built⟩ : ∃ assistant, Assistant.build (.record []) 0 = .ok assistant :=
    ⟨_, rfl⟩
  have enables : Blueprint.Enables (.record []) .calculator :=
    ⟨_, _, _, rfl, rfl, rfl, .tail _ (.head _)⟩
  have calculated : Expression.calculate (String.ofList (trim " 2 * (3 +\t4) ".toList)) =
      .ok ⟨"2 * (3 + 4)", "14"⟩ :=
    eq_ok_of_toOption (by decide +kernel)
  have given : trim " 2 * (3 +\t4) ".toList ≠ [] := by decide +kernel
  exact ⟨assistant, built, enables,
    (route_calculator built rfl enables given (by decide) ⟨[], []⟩).1 _ calculated⟩

end Switchboard
