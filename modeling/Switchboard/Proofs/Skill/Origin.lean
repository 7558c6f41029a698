import Mathlib.Logic.Basic
import Switchboard.Proofs.Skill.Dictionary
import Switchboard.Proofs.Skill.Weather

/-!
# Where the data of an answer come from

A skill that looks something up answers with data of its source or with simulated ones. The data say which
of the two they are, and the answer has a note where they are simulated and nowhere else. Data of a source
come from the response to the one request that has been made, and simulated data are given only if no
request was to be made, or if it has failed or has brought nothing usable.
-/

namespace Switchboard

variable {α : Type}

/-- What a skill looks up for an argument, and how it shows what it finds. -/
structure Inquiry (α : Type) where
  /-- Whether a source is to be asked. -/
  live : Bool
  request : Request
  /-- The data that a payload gives, if it is usable. -/
  reading : Value → Option α
  simulation : Except Failure α
  /-- Whether data say of themselves that they are simulated. -/
  marked : α → Bool
  render : α → Except Mismatch String
  note : String

namespace Inquiry

variable {inquiry : Inquiry α} {network after : Network} {data : α} {text : String} {isOpen : Bool}
  {fetch : Plan (Option α)} {read : Value → Except Failure (Option α)} {finding : Finding α}

/-- A source has been asked once, and its response has brought the data. -/
def Brings (inquiry : Inquiry α) (network after : Network) (data : α) : Prop :=
  inquiry.live = true ∧ ∃ status body rest payload,
    network.responses = .received status body :: rest ∧ (200 ≤ status ∧ status < 300) ∧
      Json.readBytes body = .ok payload ∧ inquiry.reading payload = some data ∧
      after = ⟨rest, network.requests ++ [inquiry.request]⟩

/-- No source has been asked, or one has been asked in vain. -/
def Misses (inquiry : Inquiry α) (network after : Network) : Prop :=
  inquiry.live = false ∧ after = network ∨
    inquiry.live = true ∧ after.requests = network.requests ++ [inquiry.request] ∧
      ((∃ failure, network.reception inquiry.request = .error failure ∧ failure.IsUnavailable) ∨
        ∃ payload, network.reception inquiry.request = .ok payload ∧ inquiry.reading payload = none)

/-- An answer with data of a source: they are marked as such, and the text is no more than what is shown
of them. -/
structure FromSource (inquiry : Inquiry α) (network after : Network) (data : α) (text : String) :
    Prop where
  brought : inquiry.Brings network after data
  marked : inquiry.marked data = false
  shown : inquiry.render data = .ok text

/-- An answer with simulated data: they are marked as such, and the note stands below what is shown of
them. -/
structure FromSimulation (inquiry : Inquiry α) (network after : Network) (data : α) (text : String) :
    Prop where
  missed : inquiry.Misses network after
  made : inquiry.simulation = .ok data
  marked : inquiry.marked data = true
  shown : ∃ plain, inquiry.render data = .ok plain ∧ text = plain ++ "\n" ++ inquiry.note

/-- The source is asked when the inquiry is live, and its payloads are read as the inquiry says. -/
structure Asks (inquiry : Inquiry α) (fetch : Plan (Option α))
    (read : Value → Except Failure (Option α)) : Prop where
  fetch : inquiry.live = true → fetch = .ask inquiry.request (· >>= read)
  read : ∀ payload data, read payload = .ok (some data) ↔ inquiry.reading payload = some data

/-- Data say of themselves where they come from. -/
structure Marks (inquiry : Inquiry α) : Prop where
  source : ∀ payload data, inquiry.reading payload = some data → inquiry.marked data = false
  simulation : ∀ data, inquiry.simulation = .ok data → inquiry.marked data = true

theorem Asks.reading_of_lacks {payload : Value} (asks : inquiry.Asks fetch read)
    (lacks : Lacks (read payload)) : inquiry.reading payload = none := by
  rw [Option.eq_none_iff_forall_ne_some]
  intro data given
  rw [(asks.read payload data).2 given] at lacks
  rcases lacks with lacks | ⟨failure, lacks, -⟩ <;> cases lacks

theorem Misses.usable_eq_none (missed : inquiry.Misses network after) (live : inquiry.live = true) :
    (network.reception inquiry.request).toOption.bind inquiry.reading = none := by
  rcases missed with ⟨off, -⟩ | ⟨-, -, ⟨failure, received, -⟩ | ⟨payload, received, unusable⟩⟩
  · cases live.symm.trans off
  · rw [received]
    rfl
  · rw [received]
    exact unusable

theorem finding_of_lookup (asks : inquiry.Asks fetch read)
    (found : (lookup inquiry.live fetch inquiry.simulation).perform isOpen network =
      (.ok finding, after)) :
    inquiry.Brings network after finding.data ∧ finding.simulated = false ∨
      inquiry.Misses network after ∧ inquiry.simulation = .ok finding.data ∧
        finding.simulated = true := by
  cases live : inquiry.live with
  | false =>
    rw [live] at found
    obtain ⟨settled, rfl⟩ := Prod.mk.inj found
    have simulated : settleLookup inquiry.simulation (.ok none) = .ok finding := settled
    rcases settleLookup_eq_ok_iff.1 simulated with ⟨given, -⟩ | ⟨-, made⟩
    · cases given
    · exact .inr ⟨.inl ⟨live, rfl⟩, made⟩
  | true =>
    rw [live, perform_lookup, asks.fetch live] at found
    obtain ⟨settled, rfl⟩ := Prod.mk.inj found
    rcases settleLookup_eq_ok_iff.1 settled with ⟨given, mark⟩ | ⟨lacks, made⟩
    · obtain ⟨payload, received, readable⟩ := bind_eq_ok_iff.1 given
      cases isOpen with
      | false => cases received
      | true =>
        obtain ⟨status, body, rest, head, success, json, left⟩ := Network.get_of_reception received
        exact .inl ⟨⟨live, status, body, rest, payload, head, success, json,
          (asks.read _ _).1 readable, left⟩, mark⟩
    · refine .inr ⟨.inr ⟨live, network.requests_get isOpen _, ?_⟩, made⟩
      cases isOpen with
      -- The failure of a closed client is none that simulated data stand in for.
      | false => rcases lacks with lacks | ⟨_, lacks, _, _, _, rfl⟩ <;> cases lacks
      | true =>
        change Lacks (network.reception inquiry.request >>= read) at lacks
        cases received : network.reception inquiry.request with
        | error failure =>
          rw [received] at lacks
          rcases lacks with lacks | ⟨_, same, unavailable⟩
          · cases lacks
          · cases same
            exact .inl ⟨failure, rfl, unavailable⟩
        | ok payload =>
          rw [received, ok_bind] at lacks
          exact .inr ⟨payload, rfl, asks.reading_of_lacks lacks⟩

/-- The mark that data bear decides which of the two it is, so it is never both. -/
theorem xor_of_finding (asks : inquiry.Asks fetch read) (marks : inquiry.Marks)
    (found : (lookup inquiry.live fetch inquiry.simulation).perform isOpen network =
      (.ok finding, after))
    (shown : ∃ plain, inquiry.render finding.data = .ok plain ∧
      text = withNote inquiry.note finding.simulated plain) :
    Xor (inquiry.FromSource network after finding.data text)
      (inquiry.FromSimulation network after finding.data text) := by
  obtain ⟨plain, rendered, rfl⟩ := shown
  rcases finding_of_lookup asks found with ⟨brought, mark⟩ | ⟨missed, made, mark⟩
  · have marked : inquiry.marked finding.data = false := by
      obtain ⟨-, _, _, _, payload, -, -, -, reading, -⟩ := brought
      exact marks.source payload _ reading
    rw [mark]
    refine .inl ⟨⟨brought, marked, rendered⟩, fun simulated => ?_⟩
    cases marked.symm.trans simulated.marked
  · have marked := marks.simulation _ made
    rw [mark]
    refine .inr ⟨⟨missed, made, marked, plain, rendered, rfl⟩, fun live => ?_⟩
    cases marked.symm.trans live.marked

end Inquiry

section Weather

open Conditions

variable {weather : Weather} {query place : String} {isOpen : Bool} {network after : Network}
  {r : Reply}

def Weather.inquiry (weather : Weather) (place : String) : Inquiry Conditions where
  live := weather.live
  request := weather.request place
  reading report := (ofReport report false).toOption
  simulation := weather.simulate place
  marked := Conditions.simulated
  render c := .ok c.render
  note := Weather.note

theorem Weather.readReport_eq_ok_some_iff {report : Value} {c : Conditions} :
    readReport report = .ok (some c) ↔ (ofReport report false).toOption = some c := by
  rw [readReport]
  cases ofReport report false <;> simp [Except.toOption]

theorem Weather.asks_inquiry (weather : Weather) (place : String) :
    (weather.inquiry place).Asks (weather.fetch place) readReport where
  fetch live := by
    rw [Weather.fetch, if_pos (connected_of_live live)]
    rfl
  read _ _ := readReport_eq_ok_some_iff

theorem Weather.marks_inquiry (weather : Weather) (place : String) :
    (weather.inquiry place).Marks where
  source _ _ read := (reported_of_ofReport (eq_ok_of_toOption read)).2
  simulation _ made := (reported_of_ofReport (Failure.ofMismatch_eq_ok made)).2

theorem Weather.finding_of_respond
    (answered : (weather.respond query).perform isOpen network = (.ok r, after)) :
    ∃ place finding, city query = .ok place ∧
      (lookup weather.live (weather.fetch place) (weather.simulate place)).perform isOpen network =
        (.ok finding, after) ∧
      r = reply finding := by
  rw [respond] at answered
  split at answered
  · cases answered
  · rename_i place named
    rw [Plan.perform_map] at answered
    obtain ⟨replied, left⟩ := Prod.mk.inj answered
    obtain ⟨finding, found, same⟩ := map_eq_ok_iff.1 replied
    exact ⟨place, finding, named, Prod.ext found left, same.symm⟩

end Weather

section Dictionary

variable {source : Source} {query word : String} {isOpen : Bool} {network after : Network}
  {r : Reply}

def Dictionary.headEntry (word : String) : Value → Option Entry
  | .list (first :: _) => (Entry.ofValue first word false).toOption
  | _ => none

def Dictionary.inquiry (source : Source) (word : String) : Inquiry Entry where
  live := source.live
  request := request source word
  reading := headEntry word
  simulation := simulate word
  marked := Entry.simulated
  render := Entry.render
  note := Dictionary.note

theorem Dictionary.readPayload_eq_ok_some_iff {payload : Value} {e : Entry} :
    readPayload word payload = .ok (some e) ↔ headEntry word payload = some e := by
  cases payload with
  | list items =>
    cases items with
    | nil => simp [readPayload, headEntry]
    | cons first rest =>
      rw [readPayload, headEntry]
      cases Entry.ofValue first word false <;> simp [Except.toOption]
  | _ => simp [readPayload, headEntry]

theorem Dictionary.asks_inquiry (source : Source) (word : String) :
    (inquiry source word).Asks (fetch source word) (readPayload word) where
  fetch live := by
    rw [Dictionary.fetch, if_pos (Source.connected_of_live live)]
    rfl
  read _ _ := readPayload_eq_ok_some_iff

theorem Dictionary.marks_inquiry (source : Source) (word : String) :
    (inquiry source word).Marks where
  source payload e read := by
    change headEntry word payload = some e at read
    unfold headEntry at read
    split at read
    · exact Entry.simulated_of_ofValue (eq_ok_of_toOption read)
    · cases read
  simulation _ made := Entry.simulated_of_ofValue (Failure.ofMismatch_eq_ok made)

theorem Dictionary.finding_of_respond
    (answered : (respond source query).perform isOpen network = (.ok r, after)) :
    ∃ word finding, Dictionary.word query = .ok word ∧
      (lookup source.live (fetch source word) (simulate word)).perform isOpen network =
        (.ok finding, after) ∧
      reply finding = .ok r := by
  rw [respond] at answered
  split at answered
  · cases answered
  · rename_i word named
    rw [Plan.perform_andThen] at answered
    obtain ⟨replied, left⟩ := Prod.mk.inj answered
    obtain ⟨finding, found, shown⟩ := bind_eq_ok_iff.1 replied
    exact ⟨word, finding, named, Prod.ext found left, shown⟩

theorem Dictionary.shown_of_reply {finding : Finding Entry} (h : reply finding = .ok r) :
    r.payload = .layered finding.data.data ∧ ∃ plain, finding.data.render = .ok plain ∧
      r.response = withNote note finding.simulated plain := by
  obtain ⟨plain, rendered, made⟩ := bind_eq_ok_iff.1 h
  cases made
  exact ⟨rfl, plain, Failure.ofMismatch_eq_ok rendered, rfl⟩

end Dictionary

/-- A skill with a source answers either with data of the source, which are not marked as simulated and
are shown as they are, or with the simulated data of the place or the word that the query names, which
are marked and shown above the note. It is never both. -/
theorem labelled_by_origin (weather : Weather) (source : Source) (query : String) (isOpen : Bool)
    (network after : Network) (r : Reply) :
    ((weather.respond query).perform isOpen network = (.ok r, after) →
      ∃ place c, Weather.city query = .ok place ∧ r.payload = .ready c.data ∧
        Xor ((weather.inquiry place).FromSource network after c r.response)
          ((weather.inquiry place).FromSimulation network after c r.response)) ∧
    ((Dictionary.respond source query).perform isOpen network = (.ok r, after) →
      ∃ word e, Dictionary.word query = .ok word ∧ r.payload = .layered e.data ∧
        Xor ((Dictionary.inquiry source word).FromSource network after e r.response)
          ((Dictionary.inquiry source word).FromSimulation network after e r.response)) := by
  constructor
  · intro answered
    obtain ⟨place, finding, named, found, rfl⟩ := Weather.finding_of_respond answered
    exact ⟨place, finding.data, named, rfl, Inquiry.xor_of_finding (weather.asks_inquiry place)
      (weather.marks_inquiry place) found ⟨_, rfl, rfl⟩⟩
  · intro answered
    obtain ⟨word, finding, named, found, replied⟩ := Dictionary.finding_of_respond answered
    obtain ⟨data, shown⟩ := Dictionary.shown_of_reply replied
    exact ⟨word, finding.data, named, data, Inquiry.xor_of_finding
      (Dictionary.asks_inquiry source word) (Dictionary.marks_inquiry source word) found shown⟩

def bareEntry : Network := ⟨[.received 200 ("[\x7b\x7d]".toList.map Char.toNat)], []⟩

def noRoute : Network := ⟨[.failed "no route"], []⟩

theorem labelled_by_origin_run :
    (∃ r after e, (Dictionary.respond Dictionary.plain "Run!").perform true bareEntry =
        (.ok r, after) ∧
      (Dictionary.inquiry Dictionary.plain "run").FromSource bareEntry after e r.response) ∧
    ∃ r after c, (Weather.keyed.respond "Oslo?").perform true noRoute = (.ok r, after) ∧
      (Weather.keyed.inquiry "Oslo").FromSimulation noRoute after c r.response := by
  constructor
  · let inquiry := Dictionary.inquiry Dictionary.plain "run"
    have answers : ((Dictionary.respond Dictionary.plain "Run!").perform true
        bareEntry).1.toOption.isSome := by decide +kernel
    have named : Dictionary.word "Run!" = .ok "run" := eq_ok_of_toOption (by decide +kernel)
    have usable : ((bareEntry.reception inquiry.request).toOption.bind inquiry.reading).isSome := by
      decide +kernel
    obtain ⟨r, answered⟩ := Plan.exists_ok answers
    obtain ⟨word, e, named', -, origin⟩ :=
      (labelled_by_origin Weather.keyed Dictionary.plain "Run!" true _ _ r).2 answered
    cases named.symm.trans named'
    refine ⟨r, _, e, answered, ?_⟩
    rcases origin with ⟨live, -⟩ | ⟨simulated, -⟩
    · exact live
    · rw [simulated.missed.usable_eq_none rfl] at usable
      cases usable
  · have answers : ((Weather.keyed.respond "Oslo?").perform true noRoute).1.toOption.isSome := by
      decide +kernel
    have named : Weather.city "Oslo?" = .ok "Oslo" := eq_ok_of_toOption (by decide +kernel)
    obtain ⟨r, answered⟩ := Plan.exists_ok answers
    obtain ⟨place, c, named', -, origin⟩ :=
      (labelled_by_origin Weather.keyed Dictionary.plain "Oslo?" true _ _ r).1 answered
    cases named.symm.trans named'
    refine ⟨r, _, c, answered, ?_⟩
    rcases origin with ⟨live, -⟩ | ⟨simulated, -⟩
    · obtain ⟨-, _, _, _, _, received, -⟩ := live.brought
      cases received
    · exact simulated

end Switchboard
