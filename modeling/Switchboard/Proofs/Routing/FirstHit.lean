import Switchboard.Proofs.Skill.Matching
import Switchboard.Routing

/-!
# The first hit decides

All triggers of all skills, then all phrases of all skills, make one sequence of calls. The decision
on a text is that of the first call in the sequence which the trimmed text hits.
-/

namespace Switchboard

open Text

inductive Cue where
  | trigger (t : Trigger)
  | phrase (p : String)

namespace Cue

def Hits : Cue → List Char → Prop
  | trigger t, text => t.Matches text
  | phrase p, text => Says p text

def strategy : Cue → Strategy
  | trigger _ => .explicit
  | phrase _ => .naturalLanguage

def name : Cue → String
  | trigger t => t.pattern
  | phrase p => p

def BelongsTo : Cue → Skill → Prop
  | trigger t, skill => t ∈ skill.triggers
  | phrase p, skill => p ∈ skill.phrases

/-- The text that a cue leaves for the argument, if the cue hits. -/
def argument? : Cue → List Char → Option (List Char)
  | trigger t, text => t.argument? text
  | phrase p, text => afterPhrase p.toList text

theorem argument?_isSome_iff (cue : Cue) (text : List Char) :
    (cue.argument? text).isSome = true ↔ cue.Hits text := by
  cases cue with
  | trigger t => exact t.argument?_isSome_iff text
  | phrase p => exact afterPhrase_isSome_iff p text

end Cue

structure Call where
  skill : Skill
  cue : Cue

/-- The cues of skills in the order in which they count: skill by skill, first all triggers and then
all phrases. -/
def calls (skills : List Skill) : List Call :=
  skills.flatMap (fun skill => skill.triggers.map fun t => ⟨skill, .trigger t⟩) ++
    skills.flatMap fun skill => skill.phrases.map fun p => ⟨skill, .phrase p⟩

namespace Call

def decision? (text : List Char) (call : Call) : Option Decision :=
  (call.cue.argument? text).map fun rest =>
    ⟨call.skill, String.ofList (trim rest), call.cue.strategy, call.cue.name⟩

/-- A call is the first one in a sequence that a text hits. -/
def IsFirstHit (sequence : List Call) (text : List Char) (call : Call) : Prop :=
  ∃ before after, sequence = before ++ call :: after ∧ call.cue.Hits text ∧
    ∀ other ∈ before, ¬ other.cue.Hits text

/-- A decision reports the skill of a call, the strategy and the cue. -/
def ReportedBy (call : Call) (decision : Decision) : Prop :=
  decision.skill = call.skill ∧ decision.strategy = call.cue.strategy ∧
    decision.trigger = call.cue.name

theorem decision?_eq_none_iff {text : List Char} {call : Call} :
    call.decision? text = none ↔ ¬ call.cue.Hits text := by
  rw [← Cue.argument?_isSome_iff, decision?, Option.map_eq_none_iff, Option.not_isSome_iff_eq_none]

theorem hits_of_decision? {text : List Char} {call : Call} {decision : Decision}
    (h : call.decision? text = some decision) : call.cue.Hits text := by
  obtain ⟨rest, found, -⟩ := Option.map_eq_some_iff.1 h
  exact (call.cue.argument?_isSome_iff text).1 (found ▸ rfl)

theorem reportedBy_of_decision? {text : List Char} {call : Call} {decision : Decision}
    (h : call.decision? text = some decision) : call.ReportedBy decision := by
  obtain ⟨rest, -, rfl⟩ := Option.map_eq_some_iff.1 h
  exact ⟨rfl, rfl, rfl⟩

theorem exists_decision? {text : List Char} {call : Call} (h : call.cue.Hits text) :
    ∃ decision, call.decision? text = some decision := by
  obtain ⟨rest, found⟩ := Option.isSome_iff_exists.1 ((call.cue.argument?_isSome_iff text).2 h)
  rw [decision?, found]
  exact ⟨_, rfl⟩

end Call

theorem findSome?_flatMap {α β γ : Type} (f : β → Option γ) (g : α → List β) (items : List α) :
    (items.flatMap g).findSome? f = items.findSome? fun a => (g a).findSome? f := by
  induction items with
  | nil => rfl
  | cons a rest ih =>
    rw [List.flatMap_cons, List.findSome?_append, List.findSome?_cons, ih]
    cases (g a).findSome? f <;> rfl

theorem decide?_eq_findSome? (skills : List Skill) (text : List Char) :
    decide? skills text = (calls skills).findSome? (Call.decision? text) := by
  rw [calls, List.findSome?_append, findSome?_flatMap, findSome?_flatMap, decide?]
  simp only [List.findSome?_map, Option.orElse_eq_orElse, Option.orElse_eq_or]
  rfl

theorem decide?_eq_some_iff {skills : List Skill} {text : List Char} {decision : Decision} :
    decide? skills text = some decision ↔
      ∃ call, Call.IsFirstHit (calls skills) text call ∧ call.decision? text = some decision := by
  rw [decide?_eq_findSome?, List.findSome?_eq_some_iff]
  constructor
  · rintro ⟨before, call, after, parts, found, missed⟩
    refine ⟨call, ⟨before, after, parts, Call.hits_of_decision? found, ?_⟩, found⟩
    intro other member
    exact Call.decision?_eq_none_iff.1 (missed other member)
  · rintro ⟨call, ⟨before, after, parts, -, missed⟩, found⟩
    refine ⟨before, call, after, parts, found, ?_⟩
    intro other member
    exact Call.decision?_eq_none_iff.2 (missed other member)

theorem decide?_eq_none_iff {skills : List Skill} {text : List Char} :
    decide? skills text = none ↔ ∀ call ∈ calls skills, ¬ call.cue.Hits text := by
  rw [decide?_eq_findSome?, List.findSome?_eq_none_iff]
  simp only [Call.decision?_eq_none_iff]

/-- Where a text hits one call alone, that call decides. -/
theorem decide?_of_only_hit {skills : List Skill} {text : List Char} {call : Call}
    {decision : Decision} (member : call ∈ calls skills) (made : call.decision? text = some decision)
    (only : ∀ other ∈ calls skills, other.cue.Hits text → other = call) :
    decide? skills text = some decision := by
  rw [decide?_eq_findSome?]
  exact findSome?_eq_some_of_only member made fun other known _ found =>
    only other known (Call.hits_of_decision? found)

theorem mem_calls_iff {skills : List Skill} {call : Call} :
    call ∈ calls skills ↔ call.skill ∈ skills ∧ call.cue.BelongsTo call.skill := by
  obtain ⟨skill, cue⟩ := call
  rw [calls, List.mem_append, List.mem_flatMap, List.mem_flatMap]
  cases cue <;> simp [Cue.BelongsTo]

/-- A decision is that of a cue of one of the skills. -/
theorem exists_call_of_decide? {skills : List Skill} {text : List Char} {decision : Decision}
    (h : decide? skills text = some decision) :
    ∃ (cue : Cue) (rest : List Char), decision.skill ∈ skills ∧ cue.BelongsTo decision.skill ∧
      cue.argument? text = some rest ∧ decision.strategy = cue.strategy ∧
      decision.trigger = cue.name ∧ decision.argument = String.ofList (trim rest) := by
  obtain ⟨call, ⟨before, after, parts, -, -⟩, found⟩ := decide?_eq_some_iff.1 h
  have member : call ∈ calls skills := parts ▸ List.mem_append_right _ List.mem_cons_self
  obtain ⟨known, belongs⟩ := mem_calls_iff.1 member
  obtain ⟨rest, given, rfl⟩ := Option.map_eq_some_iff.1 found
  exact ⟨call.cue, rest, known, belongs, given, rfl, rfl, rfl⟩

theorem skill_mem_of_decide? {skills : List Skill} {text : List Char} {decision : Decision}
    (h : decide? skills text = some decision) : decision.skill ∈ skills := by
  obtain ⟨cue, rest, known, -⟩ := exists_call_of_decide? h
  exact known

theorem matchText_of_trim_eq_nil {assistant : Assistant} {text : String}
    (h : trim text.toList = []) : assistant.matchText text = none := by
  simp [Assistant.matchText, h]

theorem matchText_of_trim_ne_nil {assistant : Assistant} {text : String}
    (h : trim text.toList ≠ []) :
    assistant.matchText text = decide? assistant.skills (trim text.toList) := by
  simp [Assistant.matchText, h]

theorem trigger_mem_calls {skills : List Skill} {skill : Skill} {t : Trigger}
    (member : skill ∈ skills) (ht : t ∈ skill.triggers) :
    (⟨skill, .trigger t⟩ : Call) ∈
      skills.flatMap fun skill => skill.triggers.map fun t => ⟨skill, .trigger t⟩ :=
  List.mem_flatMap.2 ⟨skill, member, List.mem_map.2 ⟨t, ht, rfl⟩⟩

/-- A first hit is a trigger if any trigger is hit. -/
theorem strategy_of_isFirstHit {skills : List Skill} {text : List Char} {call : Call}
    (first : Call.IsFirstHit (calls skills) text call) {skill : Skill} {t : Trigger}
    (member : skill ∈ skills) (ht : t ∈ skill.triggers) (hit : t.Matches text) :
    call.cue.strategy = .explicit := by
  obtain ⟨before, after, parts, -, missed⟩ := first
  have mine := trigger_mem_calls member ht
  -- The call stands among the triggers, or after all of them.
  rcases List.append_eq_append_iff.1 parts with ⟨more, early, -⟩ | ⟨more, late, rest⟩
  · have earlier : (⟨skill, .trigger t⟩ : Call) ∈ before := early ▸ List.mem_append_left _ mine
    exact absurd hit (missed _ earlier)
  · cases more with
    | nil =>
      rw [List.append_nil] at late
      have earlier : (⟨skill, .trigger t⟩ : Call) ∈ before := late ▸ mine
      exact absurd hit (missed _ earlier)
    | cons other more =>
      obtain ⟨rfl, -⟩ := List.cons.inj rest
      have early : call ∈ skills.flatMap fun skill =>
          skill.triggers.map fun t => (⟨skill, .trigger t⟩ : Call) := by
        rw [late]
        exact List.mem_append_right _ List.mem_cons_self
      obtain ⟨owner, -, made⟩ := List.mem_flatMap.1 early
      obtain ⟨t', -, rfl⟩ := List.mem_map.1 made
      rfl

/-- A blank text has no decision. Any other text has that of the first call it hits, and none exactly
when it hits no call. A trigger that is hit, of whichever skill, keeps phrases out. -/
theorem matchText_first_hit (assistant : Assistant) (text : String) :
    (trim text.toList = [] → assistant.matchText text = none) ∧
    (trim text.toList ≠ [] →
      (∀ decision, assistant.matchText text = some decision →
        ∃ call, Call.IsFirstHit (calls assistant.skills) (trim text.toList) call ∧
          call.ReportedBy decision) ∧
      (∀ call, Call.IsFirstHit (calls assistant.skills) (trim text.toList) call →
        ∃ decision, assistant.matchText text = some decision ∧ call.ReportedBy decision) ∧
      (assistant.matchText text = none ↔
        ∀ call ∈ calls assistant.skills, ¬ call.cue.Hits (trim text.toList))) ∧
    (∀ skill ∈ assistant.skills, ∀ t ∈ skill.triggers, t.Matches (trim text.toList) →
      ∃ decision, assistant.matchText text = some decision ∧ decision.strategy = .explicit) := by
  have found {call : Call}
      (first : Call.IsFirstHit (calls assistant.skills) (trim text.toList) call) :
      trim text.toList ≠ [] → ∃ decision, assistant.matchText text = some decision ∧
        call.ReportedBy decision := by
    intro given
    obtain ⟨-, -, -, hit, -⟩ := id first
    obtain ⟨decision, made⟩ := Call.exists_decision? hit
    refine ⟨decision, ?_, Call.reportedBy_of_decision? made⟩
    rw [matchText_of_trim_ne_nil given]
    exact decide?_eq_some_iff.2 ⟨call, first, made⟩
  refine ⟨matchText_of_trim_eq_nil, ?_, ?_⟩
  · intro given
    refine ⟨?_, fun call first => found first given, ?_⟩
    · intro decision h
      rw [matchText_of_trim_ne_nil given] at h
      obtain ⟨call, first, made⟩ := decide?_eq_some_iff.1 h
      exact ⟨call, first, Call.reportedBy_of_decision? made⟩
    · rw [matchText_of_trim_ne_nil given]
      exact decide?_eq_none_iff
  · intro skill member t ht hit
    have given : trim text.toList ≠ [] := by
      obtain ⟨word, rest, parts, same, -⟩ := hit
      intro blank
      rw [blank] at parts
      obtain rfl := (List.append_eq_nil_iff.1 parts.symm).1
      cases same.length_eq
    cases made : assistant.matchText text with
    | none =>
      rw [matchText_of_trim_ne_nil given] at made
      have missed := decide?_eq_none_iff.1 made
      exact absurd hit (missed ⟨skill, .trigger t⟩
        (List.mem_append_left _ (trigger_mem_calls member ht)))
    | some decision =>
      rw [matchText_of_trim_ne_nil given] at made
      obtain ⟨call, first, here⟩ := decide?_eq_some_iff.1 made
      obtain ⟨-, strategy, -⟩ := Call.reportedBy_of_decision? here
      exact ⟨decision, rfl, strategy.trans (strategy_of_isFirstHit first member ht hit)⟩

end Switchboard
