import Switchboard.Proofs.Data.Naming
import Switchboard.Proofs.Routing.Question

/-!
# The order of skills

A configuration that names skills registers one for each name, in the order of the names. No text is the
command of two of them, so a command is decided in the same way whatever the order is. A phrase belongs to
the first skill that has a phrase in the text.
-/

namespace Switchboard

open Text

/-- The settings that are given for a skill. -/
def BuiltIn.settingsIn (settings : Fields) (kind : BuiltIn) : Fields :=
  match Fields.get? settings kind.name with
  | some (.record fields) => fields
  | _ => []

/-- The service that is made for a name. -/
def BuiltIn.registered (settings : Fields) (clock : Int) (kind : BuiltIn) : Service :=
  kind.service (kind.settingsIn settings) ⟨true, clock⟩ .null

@[simp] theorem BuiltIn.kind_registered (settings : Fields) (clock : Int) (kind : BuiltIn) :
    (kind.registered settings clock).kind = kind := by
  cases kind <;> rfl

@[simp] theorem Service.name_skill (service : Service) : service.skill.name = service.kind.name := by
  cases service <;> rfl

namespace Blueprint

/-- A configuration enables the skills of some names in their order, and gives settings for them. -/
def Names (config : Value) (kinds : List BuiltIn) (settings : Fields) : Prop :=
  ∃ chosen enabled, partOf config "skills" = .ok chosen ∧ settingsIn chosen = settings ∧
    chosen.fieldOr "enabled" .null = .ok enabled ∧
    namesEnabled BuiltIn.all enabled = .ok (kinds.map fun kind => .text kind.name)

def talkOf (config : Value) : Except Mismatch Fallback := do
  let _ ← timeoutOf config
  let talk ← config.fieldOr "fallback" .null
  Fallback.ofConfig talk

theorem settingsOf_settingsIn (chosen : Value) (kind : BuiltIn) :
    settingsOf (.record (settingsIn chosen)) kind.name =
      .ok (kind.settingsIn (settingsIn chosen)) := by
  rw [settingsOf_record, BuiltIn.settingsIn]
  cases found : Fields.get? (settingsIn chosen) kind.name with
  | none => rfl
  | some v =>
    obtain ⟨name, member⟩ := Fields.mem_of_get? found
    have isRecord : v.isRecord = true := by
      unfold settingsIn at member
      split at member
      · exact (Bool.and_eq_true_iff.1 (List.mem_filter.1 member).2).2
      · cases member
    cases v with
    | record fields => rfl
    | scalar s => cases isRecord
    | list items => cases isRecord

theorem serviceNamed_settingsIn (chosen : Value) (clock : Int) (kind : BuiltIn) :
    serviceNamed BuiltIn.all (.record (settingsIn chosen)) ⟨true, clock⟩ (.text kind.name) =
      .ok (kind.registered (settingsIn chosen) clock) := by
  have known : enabledSkill BuiltIn.all (.text kind.name) = .ok kind := by cases kind <;> rfl
  rw [serviceNamed, known, ok_bind, settingsOf_settingsIn]
  rfl

variable {config : Value} {kinds : List BuiltIn} {settings : Fields}

theorem servicesOf_of_names (named : Names config kinds settings) (clock : Int) :
    servicesOf config clock = .ok (kinds.map (BuiltIn.registered settings clock)) := by
  obtain ⟨chosen, enabled, section', rfl, entry, listed⟩ := named
  rw [servicesOf, section', SetupFault.ofMismatch, ok_bind, entry, SetupFault.ofMismatch, ok_bind,
    buildServices_record, listed, ok_bind, List.mapM_map]
  exact mapM_eq_ok_map fun kind _ => serviceNamed_settingsIn chosen clock kind

end Blueprint

def registeredSkills (settings : Fields) (clock : Int) (kinds : List BuiltIn) : List Skill :=
  kinds.map fun kind => (kind.registered settings clock).skill

namespace Assistant

variable {config : Value} {kinds : List BuiltIn} {settings : Fields} {clock : Int}

/-- The names alone decide on the skills. Only the time limit and the small talk can stand in the way. -/
theorem build_of_names (named : Blueprint.Names config kinds settings) (clock : Int) :
    build config clock = (SetupFault.ofMismatch (Blueprint.talkOf config)).map
      (⟨registeredSkills settings clock kinds, ·, true⟩) := by
  rw [build, Blueprint.ofConfig_eq, Blueprint.servicesOf_of_names named, Blueprint.talkOf]
  cases Blueprint.timeoutOf config with
  | error m => rfl
  | ok timeout =>
    cases config.fieldOr "fallback" .null with
    | error m => rfl
    | ok talk =>
      simp only [SetupFault.ofMismatch, ok_bind]
      cases Fallback.ofConfig talk with
      | error m => rfl
      | ok fallback =>
        exact congrArg (fun skills => Except.ok (⟨skills, fallback, true⟩ : Assistant)) List.map_map

theorem skills_of_build {assistant : Assistant} (named : Blueprint.Names config kinds settings)
    (built : build config clock = .ok assistant) :
    assistant.skills = registeredSkills settings clock kinds := by
  rw [build_of_names named] at built
  obtain ⟨fallback, -, rfl⟩ := map_eq_ok_iff.1 built
  rfl

end Assistant

section Deciding

variable {skills : List Skill} {skill : Skill} {text : List Char} {decision : Decision}

theorem Skill.explicit_of_explicit? (h : skill.explicit? text = some decision) :
    decision.skill = skill ∧ decision.strategy = .explicit := by
  obtain ⟨trigger, -, found⟩ := List.exists_of_findSome?_eq_some h
  obtain ⟨argument, -, rfl⟩ := Option.map_eq_some_iff.1 found
  exact ⟨rfl, rfl⟩

theorem Skill.spoken_of_spoken? (h : skill.spoken? text = some decision) :
    decision.skill = skill ∧ decision.strategy = .naturalLanguage := by
  obtain ⟨phrase, -, found⟩ := List.exists_of_findSome?_eq_some h
  obtain ⟨rest, -, rfl⟩ := Option.map_eq_some_iff.1 found
  exact ⟨rfl, rfl⟩

theorem Skill.spoken?_eq_none_iff :
    skill.spoken? text = none ↔ ∀ phrase ∈ skill.phrases, ¬ Says phrase text := by
  rw [spoken?, List.findSome?_eq_none_iff]
  refine forall₂_congr fun phrase _ => ?_
  rw [Option.map_eq_none_iff, ← afterPhrase_isSome_iff, Option.not_isSome_iff_eq_none]

theorem decide?_eq_some_of_explicit (explicit : decision.strategy = .explicit) :
    decide? skills text = some decision ↔ skills.findSome? (·.explicit? text) = some decision := by
  rw [decide?, Option.orElse_eq_orElse, Option.orElse_eq_or, Option.or_eq_some_iff]
  constructor
  · rintro (found | ⟨-, found⟩)
    · exact found
    · obtain ⟨skill, -, spoken⟩ := List.exists_of_findSome?_eq_some found
      cases explicit.symm.trans (Skill.spoken_of_spoken? spoken).2
  · exact .inl

theorem decide?_eq_some_of_spoken (spoken : decision.strategy = .naturalLanguage) :
    decide? skills text = some decision ↔
      skills.findSome? (·.explicit? text) = none ∧
        skills.findSome? (·.spoken? text) = some decision := by
  rw [decide?, Option.orElse_eq_orElse, Option.orElse_eq_or, Option.or_eq_some_iff]
  constructor
  · rintro (found | found)
    · obtain ⟨skill, -, explicit⟩ := List.exists_of_findSome?_eq_some found
      cases spoken.symm.trans (Skill.explicit_of_explicit? explicit).2
    · exact found
  · exact .inr

end Deciding

namespace BuiltIn

variable {kind other : BuiltIn} {text : List Char}

def SaidIn (kind : BuiltIn) (text : List Char) : Prop := ∃ phrase ∈ kind.phrases, Says phrase text

def FirstSaid (kinds : List BuiltIn) (text : List Char) (kind : BuiltIn) : Prop :=
  ∃ before after, kinds = before ++ kind :: after ∧ kind.SaidIn text ∧
    ∀ other ∈ before, ¬ other.SaidIn text

/-- No text is the command of two skills. -/
theorem eq_of_matches (h : (Trigger.command kind.name).Matches text)
    (h' : (Trigger.command other.name).Matches text) : kind = other := by
  obtain ⟨word, rest, parts, named, -⟩ := h
  obtain ⟨word', rest', parts', named', -⟩ := h'
  exact eq_of_agree (agree_of_append named named' (parts.symm.trans parts'))

theorem says_iff {phrase : String} :
    Says phrase text ↔ ∃ word, word <:+: text ∧ SameLetters phrase.toList word := by
  constructor
  · rintro ⟨before, word, after, rfl, same⟩
    exact ⟨word, List.infix_append' .., same⟩
  · rintro ⟨word, ⟨before, after, rfl⟩, same⟩
    exact ⟨before, word, after, List.append_assoc .., same⟩

/-- What is said starts and ends with a letter, so blanks around the text make no difference. -/
theorem trimmed_of_sameLetters {phrase : String} {word : List Char} (known : phrase ∈ kind.phrases)
    (same : SameLetters phrase.toList word) : Trimmed word := by
  obtain ⟨small, ⟨first, head, lower⟩, last, ending, lower'⟩ := letters_of_mem_phrases known
  have letters : word.map letterKey = phrase.toList := same.symm.trans small
  have dark {c : Char} (letter : (letterKey c).isLower = true) : isBlank c = false := by
    cases blank : isBlank c with
    | false => rfl
    | true => cases (isLower_letterKey (Expression.isArithmetic_of_isBlank blank)).symm.trans letter
  constructor
  · intro c hc
    apply dark
    have here := congrArg List.head? letters
    rw [List.head?_map, Option.mem_def.1 hc, head] at here
    exact Option.some.inj here ▸ lower
  · intro c hc
    apply dark
    have here := congrArg List.getLast? letters
    rw [List.getLast?_map, Option.mem_def.1 hc, ending] at here
    exact Option.some.inj here ▸ lower'

theorem saidIn_trim_iff : kind.SaidIn (trim text) ↔ kind.SaidIn text := by
  refine exists_congr fun phrase => and_congr_right fun known => ?_
  rw [says_iff, says_iff]
  refine exists_congr fun word => and_congr_left fun same => ?_
  constructor
  · intro inside
    exact inside.trans (trim_isInfix text)
  · exact (trimmed_of_sameLetters known same).infix_trim

theorem SaidIn.trim_ne_nil (h : kind.SaidIn text) : trim text ≠ [] := by
  obtain ⟨phrase, known, before, word, after, parts, same⟩ := saidIn_trim_iff.2 h
  obtain ⟨-, ⟨c, head, -⟩, -⟩ := letters_of_mem_phrases known
  intro blank
  rw [blank] at parts
  have none := (List.append_eq_nil_iff.1 (List.append_eq_nil_iff.1 parts.symm).2).1
  have long := same.length_eq
  rw [none, List.length_nil] at long
  rw [List.length_eq_zero_iff.1 long.symm] at head
  cases head

end BuiltIn

section Registered

variable {settings : Fields} {clock : Int} {kinds kinds' : List BuiltIn} {kind : BuiltIn}
  {text : List Char} {decision : Decision}

theorem explicit?_registered_eq_none_iff :
    (kind.registered settings clock).skill.explicit? text = none ↔
      ¬ (Trigger.command kind.name).Matches text := by
  rw [Service.explicit?_skill, BuiltIn.kind_registered, Option.map_eq_none_iff,
    ← Trigger.argument?_isSome_iff, Option.not_isSome_iff_eq_none]

theorem spoken?_registered_eq_none_iff :
    (kind.registered settings clock).skill.spoken? text = none ↔ ¬ kind.SaidIn text := by
  rw [Skill.spoken?_eq_none_iff, Service.phrases_skill, BuiltIn.kind_registered, BuiltIn.SaidIn]
  simp only [not_exists, not_and]

theorem findSome?_explicit?_registered_eq_none_iff :
    (registeredSkills settings clock kinds).findSome? (·.explicit? text) = none ↔
      ∀ kind ∈ kinds, ¬ (Trigger.command kind.name).Matches text := by
  rw [registeredSkills, List.findSome?_map, List.findSome?_eq_none_iff]
  exact forall₂_congr fun kind _ => explicit?_registered_eq_none_iff

/-- Whichever registered skill takes a command is the one that decides on it. -/
theorem findSome?_explicit?_registered_eq_some_iff :
    (registeredSkills settings clock kinds).findSome? (·.explicit? text) = some decision ↔
      ∃ kind ∈ kinds, (kind.registered settings clock).skill.explicit? text = some decision := by
  have taken {kind : BuiltIn} {decision : Decision}
      (h : (kind.registered settings clock).skill.explicit? text = some decision) :
      (Trigger.command kind.name).Matches text := by
    by_contra missed
    cases (explicit?_registered_eq_none_iff.2 missed).symm.trans h
  rw [registeredSkills, List.findSome?_map]
  constructor
  · exact List.exists_of_findSome?_eq_some
  · rintro ⟨kind, member, found⟩
    apply findSome?_eq_some_of_only member found
    intro other _ decision' found'
    exact BuiltIn.eq_of_matches (taken found') (taken found)

theorem decide?_registered_of_perm (same : kinds'.Perm kinds)
    (explicit : decision.strategy = .explicit) :
    decide? (registeredSkills settings clock kinds') text = some decision ↔
      decide? (registeredSkills settings clock kinds) text = some decision := by
  rw [decide?_eq_some_of_explicit explicit, decide?_eq_some_of_explicit explicit,
    findSome?_explicit?_registered_eq_some_iff, findSome?_explicit?_registered_eq_some_iff]
  exact exists_congr fun kind => and_congr_left fun _ => same.mem_iff

theorem findSome?_spoken?_registered_eq_some_iff :
    (registeredSkills settings clock kinds).findSome? (·.spoken? text) = some decision ↔
      ∃ kind, BuiltIn.FirstSaid kinds text kind ∧
        (kind.registered settings clock).skill.spoken? text = some decision := by
  rw [registeredSkills, List.findSome?_map, List.findSome?_eq_some_iff]
  constructor
  · rintro ⟨before, kind, after, parts, found, missed⟩
    have said : kind.SaidIn text := by
      by_contra silent
      cases (spoken?_registered_eq_none_iff.2 silent).symm.trans found
    refine ⟨kind, ⟨before, after, parts, said, ?_⟩, found⟩
    intro other member
    exact spoken?_registered_eq_none_iff.1 (missed other member)
  · rintro ⟨kind, ⟨before, after, parts, -, missed⟩, found⟩
    refine ⟨before, kind, after, parts, found, ?_⟩
    intro other member
    exact spoken?_registered_eq_none_iff.2 (missed other member)

end Registered

/-- Where a configuration enables skills by their names, one skill is registered for each name, in the order
of the names, and only the time limit and the small talk can keep the assistant from being set up. No text
is the command of two skills, so another order of the same names leads to the same decisions on commands.
A decision by a phrase is made where the text is no command of an enabled skill, and then it belongs to the
first name with a phrase in the text. -/
theorem Assistant.decided_by_order {config : Value} {kinds : List BuiltIn} {settings : Fields}
    (named : Blueprint.Names config kinds settings) (clock : Int) :
    build config clock = (SetupFault.ofMismatch (Blueprint.talkOf config)).map
      (⟨registeredSkills settings clock kinds, ·, true⟩) ∧
    ((registeredSkills settings clock kinds).map fun skill => (skill.name, skill.triggers)) =
      (kinds.map fun kind => (kind.name, [.command kind.name])) ∧
    (∀ (text : List Char) (kind other : BuiltIn), (Trigger.command kind.name).Matches text →
      (Trigger.command other.name).Matches text → kind = other) ∧
    ∀ assistant, build config clock = .ok assistant →
      (∀ config' kinds' assistant', Blueprint.Names config' kinds' settings → kinds'.Perm kinds →
        build config' clock = .ok assistant' →
        ∀ (text : String) (decision : Decision), decision.strategy = .explicit →
          (assistant'.matchText text = some decision ↔ assistant.matchText text = some decision)) ∧
      (∀ (text : String) (decision : Decision), assistant.matchText text = some decision →
        decision.strategy = .naturalLanguage →
        (∀ kind ∈ kinds, ¬ (Trigger.command kind.name).Matches (trim text.toList)) ∧
          ∃ kind, BuiltIn.FirstSaid kinds text.toList kind ∧
            decision.skill = (kind.registered settings clock).skill) ∧
      ∀ (text : String) (kind : BuiltIn),
        (∀ kind ∈ kinds, ¬ (Trigger.command kind.name).Matches (trim text.toList)) →
        BuiltIn.FirstSaid kinds text.toList kind →
        ∃ decision, assistant.matchText text = some decision ∧
          decision.strategy = .naturalLanguage ∧
          decision.skill = (kind.registered settings clock).skill := by
  have first {text : List Char} {kind : BuiltIn} :
      BuiltIn.FirstSaid kinds (trim text) kind ↔ BuiltIn.FirstSaid kinds text kind := by
    simp only [BuiltIn.FirstSaid, BuiltIn.saidIn_trim_iff]
  refine ⟨build_of_names named clock, ?_, fun text kind other => BuiltIn.eq_of_matches, ?_⟩
  · simp [registeredSkills]
  · intro assistant built
    have skills := skills_of_build named built
    refine ⟨?_, ?_, ?_⟩
    · intro config' kinds' assistant' named' same built' text decision explicit
      have skills' := skills_of_build named' built'
      by_cases given : trim text.toList = []
      · rw [matchText_of_trim_eq_nil given, matchText_of_trim_eq_nil given]
      · rw [matchText_of_trim_ne_nil given, matchText_of_trim_ne_nil given, skills, skills']
        exact decide?_registered_of_perm same explicit
    · intro text decision decided spoken
      by_cases given : trim text.toList = []
      · cases (matchText_of_trim_eq_nil given).symm.trans decided
      · rw [matchText_of_trim_ne_nil given, skills, decide?_eq_some_of_spoken spoken,
          findSome?_explicit?_registered_eq_none_iff,
          findSome?_spoken?_registered_eq_some_iff] at decided
        obtain ⟨missed, kind, said, found⟩ := decided
        exact ⟨missed, kind, first.1 said, (Skill.spoken_of_spoken? found).1⟩
    · intro text kind missed said
      have given : trim text.toList ≠ [] := by
        obtain ⟨-, -, -, here, -⟩ := said
        exact here.trim_ne_nil
      have said' := first.2 said
      obtain ⟨decision, found⟩ :
          ∃ decision, (kind.registered settings clock).skill.spoken? (trim text.toList) =
            some decision := by
        obtain ⟨-, -, -, here, -⟩ := said'
        rw [← Option.isSome_iff_exists, ← Option.ne_none_iff_isSome]
        exact fun none => spoken?_registered_eq_none_iff.1 none here
      obtain ⟨skill, spoken⟩ := Skill.spoken_of_spoken? found
      refine ⟨decision, ?_, spoken, skill⟩
      rw [matchText_of_trim_ne_nil given, skills, decide?_eq_some_of_spoken spoken,
        findSome?_explicit?_registered_eq_none_iff, findSome?_spoken?_registered_eq_some_iff]
      exact ⟨missed, kind, said', found⟩

def enabling (kinds : List BuiltIn) : Value :=
  .record [("skills", .record [("enabled", .texts (kinds.map BuiltIn.name))])]

theorem Blueprint.names_enabling (kinds : List BuiltIn) : Names (enabling kinds) kinds [] := by
  refine ⟨_, _, rfl, rfl, rfl, ?_⟩
  exact congrArg Except.ok List.map_map

/-- Two orders of four names: they share the command of the calculator, but not a question with a phrase of
the calculator and one of the dictionary. -/
theorem Assistant.decided_by_order_shuffled :
    ∃ assistant assistant',
      build (enabling [.dictionary, .calculator, .weather, .calculator]) 0 = .ok assistant ∧
      build (enabling [.calculator, .weather, .calculator, .dictionary]) 0 = .ok assistant' ∧
      (∀ decision : Decision, decision.strategy = .explicit →
        (assistant'.matchText "/CALC what is 5" = some decision ↔
          assistant.matchText "/CALC what is 5" = some decision)) ∧
      (∃ decision, assistant.matchText "What is the meaning of life" = some decision ∧
        decision.skill.name = "define") ∧
      ∃ decision, assistant'.matchText "What is the meaning of life" = some decision ∧
        decision.skill.name = "calc" := by
  obtain ⟨assistant, built⟩ : ∃ assistant,
    build (enabling [.dictionary, .calculator, .weather, .calculator]) 0 = .ok assistant := ⟨_, rfl⟩
  obtain ⟨assistant', built'⟩ : ∃ assistant,
    build (enabling [.calculator, .weather, .calculator, .dictionary]) 0 = .ok assistant := ⟨_, rfl⟩
  have named := Blueprint.names_enabling [.dictionary, .calculator, .weather, .calculator]
  have named' := Blueprint.names_enabling [.calculator, .weather, .calculator, .dictionary]
  obtain ⟨-, -, -, decided⟩ := decided_by_order named 0
  obtain ⟨-, -, -, decided'⟩ := decided_by_order named' 0
  obtain ⟨command, -, spoken⟩ := decided assistant built
  obtain ⟨-, -, spoken'⟩ := decided' assistant' built'
  have none (kind : BuiltIn) :
      ¬ (Trigger.command kind.name).Matches (trim "What is the meaning of life".toList) := by
    rw [← Trigger.argument?_isSome_iff]
    cases kind <;> decide
  have meaning : BuiltIn.dictionary.SaidIn "What is the meaning of life".toList :=
    ⟨"meaning of", by decide, (afterPhrase_isSome_iff _ _).1 (by decide)⟩
  have question : BuiltIn.calculator.SaidIn "What is the meaning of life".toList :=
    ⟨"what is", by decide, (afterPhrase_isSome_iff _ _).1 (by decide)⟩
  obtain ⟨decision, found, -, skill⟩ :=
    spoken "What is the meaning of life" .dictionary (fun kind _ => none kind)
      ⟨[], _, rfl, meaning, nofun⟩
  obtain ⟨decision', found', -, skill'⟩ :=
    spoken' "What is the meaning of life" .calculator (fun kind _ => none kind)
      ⟨[], _, rfl, question, nofun⟩
  have same : [BuiltIn.calculator, .weather, .calculator, .dictionary].Perm
      [.dictionary, .calculator, .weather, .calculator] := by decide
  refine ⟨assistant, assistant', built, built', ?_, ⟨decision, found, ?_⟩, decision', found', ?_⟩
  · exact command _ _ _ named' same built' "/CALC what is 5"
  · rw [skill, Service.name_skill]
    rfl
  · rw [skill', Service.name_skill]
    rfl

end Switchboard
