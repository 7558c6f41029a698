import Switchboard.Console.Dialogue
import Switchboard.Proofs.Profile.Expansion
import Switchboard.Proofs.Skill.Registry

/-!
# Sections that hold nothing

Four sections of a configuration are read when a conversation is opened. Three of them may hold nothing
instead of being left out: the client, the skills and the small talk come out the same. The fourth one
may be left out, but where it holds nothing no conversation is opened.
-/

namespace Switchboard

inductive Section where
  | app | http | skills | fallback
deriving DecidableEq

namespace Section

def name : Section → String
  | app => "app"
  | http => "http"
  | skills => "skills"
  | fallback => "fallback"

variable {s t : Section} {sections : List Section} {config other : Fields}

theorem eq_of_key_eq (h : (Scalar.text s.name).key = (Scalar.text t.name).key) : s = t := by
  cases s <;> cases t <;> first | rfl | exact absurd h (by decide)

/-- Lets sections of a configuration hold nothing. -/
def blank (sections : List Section) (config : Fields) : Fields :=
  sections.foldr (fun s config => Fields.put s.name .null config) config

def leaveOut (sections : List Section) (config : Fields) : Fields :=
  sections.foldr (fun s config => Fields.erase s.name config) config

theorem get?_blank :
    Fields.get? (blank sections config) s.name =
      if s ∈ sections then some .null else Fields.get? config s.name := by
  induction sections with
  | nil => rfl
  | cons t sections ih =>
    rw [blank, List.foldr_cons, ← blank, Fields.get?_put, ih]
    by_cases same : s = t
    · simp [same]
    · rw [if_neg fun key => same (eq_of_key_eq key).symm]
      simp [same]

theorem get?_leaveOut :
    Fields.get? (leaveOut sections config) s.name =
      if s ∈ sections then none else Fields.get? config s.name := by
  induction sections with
  | nil => rfl
  | cons t sections ih =>
    rw [leaveOut, List.foldr_cons, ← leaveOut, Fields.get?_erase, ih]
    by_cases same : s = t
    · simp [same]
    · rw [if_neg fun key => same (eq_of_key_eq key).symm]
      simp [same]

/-- What a section holds, which is nothing where it is left out. -/
def content (config : Fields) (s : Section) : Value := (Fields.get? config s.name).getD .null

theorem content_blank : content (blank sections config) s = content (leaveOut sections config) s := by
  rw [content, content, get?_blank, get?_leaveOut]
  split <;> rfl

theorem partOf_record (config : Fields) (s : Section) :
    Blueprint.partOf (.record config) s.name = .ok ((content config s).orElse .emptyRecord) := by
  change Except.ok (((Fields.get? config s.name).getD .emptyRecord).orElse .emptyRecord) = _
  rw [content]
  cases Fields.get? config s.name <;> rfl

/-- What is set up hangs on what three sections hold. -/
theorem ofConfig_congr (http : content config .http = content other .http)
    (skills : content config .skills = content other .skills)
    (fallback : content config .fallback = content other .fallback) (clock : Int) :
    Blueprint.ofConfig (.record config) clock = Blueprint.ofConfig (.record other) clock := by
  have client (config : Fields) : Blueprint.partOf (.record config) "http" =
      .ok ((content config .http).orElse .emptyRecord) := partOf_record config .http
  have chosen (config : Fields) : Blueprint.partOf (.record config) "skills" =
      .ok ((content config .skills).orElse .emptyRecord) := partOf_record config .skills
  have timeout : Blueprint.timeoutOf (.record config) = Blueprint.timeoutOf (.record other) := by
    rw [Blueprint.timeoutOf, Blueprint.timeoutOf, client, client, http]
  have services : Blueprint.servicesOf (.record config) clock =
      Blueprint.servicesOf (.record other) clock := by
    rw [Blueprint.servicesOf, Blueprint.servicesOf, chosen, chosen, skills]
  have talk : (Value.record config).fieldOr "fallback" .null =
      (Value.record other).fieldOr "fallback" .null := congrArg Except.ok fallback
  rw [Blueprint.ofConfig_eq, Blueprint.ofConfig_eq, timeout, services, talk]

theorem ofConfig_blank (clock : Int) :
    Blueprint.ofConfig (.record (blank sections config)) clock =
      Blueprint.ofConfig (.record (leaveOut sections config)) clock :=
  ofConfig_congr content_blank content_blank content_blank clock

theorem build_blank (clock : Int) :
    Assistant.build (.record (blank sections config)) clock =
      Assistant.build (.record (leaveOut sections config)) clock := by
  rw [Assistant.build, Assistant.build, ofConfig_blank]

/-- The length of a log is looked for in the section itself, even where that holds nothing. -/
theorem limitOf_record (config : Fields) :
    Conversation.limitOf (.record config) =
      (((Fields.get? config Section.app.name).getD .emptyRecord).fieldOr "history_limit"
        (.int Conversation.defaultLimit) >>= Value.toInt) := rfl

theorem limitOf_blank :
    Conversation.limitOf (.record (blank sections config)) =
      if .app ∈ sections then .error .noFields
      else Conversation.limitOf (.record (leaveOut sections config)) := by
  rw [limitOf_record, limitOf_record, get?_blank, get?_leaveOut]
  split <;> rfl

theorem limitOf_leaveOut (out : .app ∈ sections) :
    Conversation.limitOf (.record (leaveOut sections config)) = .ok Conversation.defaultLimit := by
  rw [limitOf_record, get?_leaveOut, if_pos out]
  rfl

section Opening

variable {site : Site} {profile : String} {fields : Fields}

theorem start_of_load (loaded : site.folder.load site.env profile = .ok fields) :
    site.start profile = do
      let limit ← OpeningFault.ofSetup (SetupFault.ofMismatch (Conversation.limitOf (.record fields)))
      let assistant ← OpeningFault.ofSetup (Assistant.build (.record fields) site.clock)
      return ⟨assistant, .empty limit⟩ := by
  rw [Site.start, loaded]
  rfl

theorem begin?_of_load (loaded : site.folder.load site.env profile = .ok fields)
    (echo : Option Console.Colour → String → String) (network : Network) :
    Console.begin? echo site profile network =
      match Assistant.build (.record fields) site.clock, Conversation.limitOf (.record fields) with
      | .ok assistant, .ok limit => .ok ⟨assistant, .empty limit⟩
      | _, _ => .error ⟨Console.failureCode, "", network⟩ := by
  rw [Console.begin?, Console.enter, loaded]
  cases built : Assistant.build (.record fields) site.clock with
  | error fault => simp only [built, bind, Except.bind]
  | ok assistant =>
    cases bounded : Conversation.limitOf (.record fields) <;>
      simp only [built, bounded, bind, Except.bind, pure, Except.pure]

end Opening

/-- Where sections of a configuration hold nothing, the same is set up as where they are left out, or
setting up fails in the same way: skills, small talk and timeout are the same. As long as the section of
the application is not among them, the log has the same limit, and the server and the chat of the console
open the same conversation, or fail in the same way. That section may be left out, which gives the default
limit, but where it holds nothing neither of the two opens a conversation. -/
theorem start_blank {site other : Site} {profile profile' : String}
    (sameTime : other.clock = site.clock)
    (loaded : site.folder.load site.env profile = .ok (blank sections config))
    (loaded' : other.folder.load other.env profile' = .ok (leaveOut sections config)) :
    Blueprint.ofConfig (.record (blank sections config)) site.clock =
        Blueprint.ofConfig (.record (leaveOut sections config)) site.clock ∧
      (.app ∉ sections →
        Conversation.limitOf (.record (blank sections config)) =
            Conversation.limitOf (.record (leaveOut sections config)) ∧
          site.start profile = other.start profile' ∧
          ∀ echo debug input network, Console.chat echo site profile debug input network =
            Console.chat echo other profile' debug input network) ∧
      (.app ∈ sections →
        Conversation.limitOf (.record (leaveOut sections config)) = .ok Conversation.defaultLimit ∧
          site.start profile = .error (.setup (.mismatch .noFields)) ∧
          ∀ echo debug input network, Console.chat echo site profile debug input network =
            ⟨Console.failureCode, "", network⟩) := by
  have built : Assistant.build (.record (blank sections config)) site.clock =
      Assistant.build (.record (leaveOut sections config)) other.clock := by
    rw [sameTime, build_blank]
  refine ⟨ofConfig_blank _, fun kept => ?_, fun out => ?_⟩
  · have limit : Conversation.limitOf (.record (blank sections config)) =
        Conversation.limitOf (.record (leaveOut sections config)) := by
      rw [limitOf_blank, if_neg kept]
    refine ⟨limit, ?_, fun echo debug input network => ?_⟩
    · rw [start_of_load loaded, start_of_load loaded', limit, built]
    · rw [Console.chat, Console.chat, begin?_of_load loaded, begin?_of_load loaded', limit, built]
  · have limit : Conversation.limitOf (.record (blank sections config)) = .error .noFields := by
      rw [limitOf_blank, if_pos out]
    refine ⟨limitOf_leaveOut out, ?_, fun echo debug input network => ?_⟩
    · rw [start_of_load loaded, limit]
      rfl
    · rw [Console.chat, begin?_of_load loaded, limit]
      cases Assistant.build (.record (blank sections config)) site.clock <;> rfl

def lone (text : String) : Site where
  folder := { title := "profiles", length := 8, home := [], folders := [], files := [(["p.yaml"], text)] }
  env := []
  clock := 0

theorem load_lone {text : String} {fields : Fields}
    (found : (lone text).folder.profileFile "p" = .ok ("p.yaml", text))
    (read : (lone text).folder.fieldsOf "p.yaml" text = .ok fields)
    (own : Sheet.ofFields "p" fields = .ok ⟨[], fields⟩) (merged : Value.mergeFields [] fields = fields)
    (named : Folder.withDefault "profile" (.text "p") fields = fields)
    (shallow : (Value.record fields).depth ≤ Value.depthLimit)
    (plain : ∀ s ∈ Value.textsOfFields fields, '$' ∉ s.toList) :
    (lone text).folder.load (lone text).env "p" = .ok fields := by
  have sheet : (lone text).folder.sheet "p" = .ok ⟨[], fields⟩ := by
    rw [Folder.sheet_of_profileFile found read, own]
  have inherited : (lone text).folder.inherited [] "p" = .ok fields := by
    rw [Folder.inherited_of_sheet (by decide) (by simp) sheet]
    exact congrArg Except.ok merged
  rw [Folder.load_of_inherited _ inherited, if_neg (Nat.not_lt_of_le shallow), named,
    Value.expandFields_of_plain _ fields plain]

theorem load_lone_bare :
    (lone "profile: p\n").folder.load (lone "profile: p\n").env "p" = .ok [("profile", .text "p")] :=
  load_lone (eq_ok_of_toOption (by decide +kernel)) (eq_ok_of_toOption (by decide +kernel)) rfl
    (by decide +kernel) rfl (by decide +kernel) (by decide)

theorem start_blank_three :
    let site := lone "profile: p\nhttp:\nskills: ~\nfallback: null\n"
    let other := lone "profile: p\n"
    site.folder.load site.env "p" =
        .ok (blank [.fallback, .skills, .http] [("profile", .text "p")]) ∧
      site.start "p" = other.start "p" ∧
      ∀ input network, Console.chat Console.line site "p" false input network =
        Console.chat Console.line other "p" false input network := by
  intro site other
  have loaded : site.folder.load site.env "p" =
      .ok (blank [.fallback, .skills, .http] [("profile", .text "p")]) :=
    load_lone (eq_ok_of_toOption (by decide +kernel)) (eq_ok_of_toOption (by decide +kernel)) rfl
      (by decide +kernel) rfl (by decide +kernel) (by decide)
  have bare : other.folder.load other.env "p" =
      .ok (leaveOut [.fallback, .skills, .http] [("profile", .text "p")]) := load_lone_bare
  have sameTime : other.clock = site.clock := rfl
  obtain ⟨-, same, -⟩ := start_blank sameTime loaded bare
  obtain ⟨-, opened, chats⟩ := same (by decide)
  exact ⟨loaded, opened, chats Console.line false⟩

/-- Without the section of the application a conversation is opened. Where that section holds nothing,
none is. -/
theorem start_blank_app :
    let site := lone "profile: p\napp:\n"
    let other := lone "profile: p\n"
    site.folder.load site.env "p" = .ok (blank [.app] [("profile", .text "p")]) ∧
      other.folder.load other.env "p" = .ok (leaveOut [.app] [("profile", .text "p")]) ∧
      site.start "p" = .error (.setup (.mismatch .noFields)) ∧
      ∃ c, other.start "p" = .ok c ∧ c.log.limit = Conversation.defaultLimit := by
  intro site other
  have loaded : site.folder.load site.env "p" = .ok (blank [.app] [("profile", .text "p")]) :=
    load_lone (eq_ok_of_toOption (by decide +kernel)) (eq_ok_of_toOption (by decide +kernel)) rfl
      (by decide +kernel) rfl (by decide +kernel) (by decide)
  refine ⟨loaded, load_lone_bare, ?_, ?_⟩
  · rw [start_of_load loaded]
    rfl
  · rw [start_of_load load_lone_bare]
    exact ⟨_, rfl, rfl⟩

end Section

end Switchboard
