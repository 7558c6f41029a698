import Switchboard.Proofs.Skill.Lookup
import Switchboard.Proofs.Skill.Simulation

/-!
# How the weather skill degrades

A live skill asks the source for the city of a query. A usable report is answered with the conditions
in it, and nearly every other outcome with the simulated conditions of the city, under a note.
-/

namespace Switchboard.Weather

open Conditions Text

variable {weather : Weather} {query place : String} {network : Network} {report : Value}
  {c : Conditions} {m : Mismatch}

/-- What is left of a query without the blanks around it and the signs at its end. -/
def placeIn (query : String) : List Char := dropEndWhile isClosingSign (trim query.toList)

theorem city_of_given (given : placeIn query ≠ []) :
    city query = .ok (String.ofList (placeIn query)) := by
  have argument : trim query.toList ≠ [] := by
    intro blank
    rw [placeIn, blank] at given
    exact given rfl
  rw [city, requireArgument, if_neg (by simpa using argument), ok_bind, ← placeIn,
    if_neg (by simpa using given)]
  rfl

theorem city_eq_error (none : placeIn query = []) :
    city query = .error (.invalidArgument "City name is required" (some name)) := by
  rw [city, requireArgument]
  split
  · rfl
  · rw [ok_bind, ← placeIn, if_pos (by simp [none])]

theorem connected_of_live (live : weather.live = true) : weather.source.connected = true := by
  rw [Weather.live, Bool.and_eq_true] at live
  exact Source.connected_of_live live.2

theorem readReport_of_reported (h : Reported report c) (fresh : c.simulated = false) :
    readReport report = .ok (some c) := by
  rw [readReport, ofReport_of_reported h fresh]

/-- A report that is not usable is forgiven, unless its fault is a number that is too large. -/
theorem readReport_of_error (h : ofReport report false = .error m) :
    m = .outOfRange ∧ readReport report = .error (.mismatch .outOfRange) ∨
      m ≠ .outOfRange ∧ Lacks (readReport report) := by
  have possible := (blames_of_ofReport h).1
  rw [readReport, h]
  cases m with
  | noFields => exact absurd rfl possible
  | outOfRange => exact .inl ⟨rfl, rfl⟩
  | _ => exact .inr ⟨nofun, .inr ⟨_, rfl, _, _, _, rfl⟩⟩

inductive Answered (weather : Weather) (place : String) :
    Except Failure Value → Except Failure Reply → Prop
  | live {report : Value} {c : Conditions} (usable : Reported report c)
      (fresh : c.simulated = false) :
    Answered weather place (.ok report) (.ok ⟨c.render, .ready c.data⟩)
  | simulated {received : Except Failure Value} {c : Conditions}
      (readable : received ≠ .error .tooDeep)
      (useless : ∀ report, received = .ok report →
        (∀ c, ¬ Reported report c) ∧ ofReport report false ≠ .error .outOfRange)
      (made : weather.simulate place = .ok c) (located : c.location = place ++ ", XX")
      (marked : c.simulated = true) :
    Answered weather place received (.ok ⟨c.render ++ "\n" ++ note, .ready c.data⟩)
  /-- A number of the report is too large. -/
  | overflow {report : Value} (large : ofReport report false = .error .outOfRange) :
    Answered weather place (.ok report) (.error (.mismatch .outOfRange))
  | tooDeep : Answered weather place (.error .tooDeep) (.error .tooDeep)

/-- What a live skill makes of what it receives for a city. -/
def settle (weather : Weather) (place : String) (received : Except Failure Value) :
    Except Failure Reply :=
  (settleLookup (weather.simulate place) (received >>= readReport)).map reply

theorem settle_of_lacks {received : Except Failure Value} (made : weather.simulate place = .ok c)
    (h : Lacks (received >>= readReport)) :
    settle weather place received = .ok ⟨c.render ++ "\n" ++ note, .ready c.data⟩ := by
  rw [settle, made, settleLookup_of_lacks h]
  rfl

theorem answered_settle (weather : Weather) (place : String) {received : Except Failure Value}
    (h : Reception received) :
    Answered weather place received (settle weather place received) := by
  have made := simulate_eq weather place
  cases h with
  | value report =>
    cases read : ofReport report false with
    | ok live =>
      obtain ⟨usable, fresh⟩ := reported_of_ofReport read
      rw [settle, made, ok_bind, readReport_of_reported usable fresh]
      exact .live usable fresh
    | error m =>
      rcases readReport_of_error read with ⟨rfl, unforgiven⟩ | ⟨small, lacks⟩
      · rw [settle, made, ok_bind, unforgiven]
        exact .overflow read
      · rw [settle_of_lacks made lacks]
        refine .simulated nofun ?_ made rfl rfl
        rintro _ ⟨⟩
        refine ⟨fun c => not_reported_of_error read, ?_⟩
        intro large
        cases read.symm.trans large
        exact small rfl
  | unavailable message skill status =>
    rw [settle_of_lacks made (.inr ⟨_, rfl, _, _, _, rfl⟩)]
    exact .simulated nofun nofun made rfl rfl
  | tooDeep =>
    rw [settle, made]
    exact .tooDeep

theorem perform_respond (live : weather.live = true) (given : placeIn query ≠ []) :
    ((weather.respond query).perform true network).1 =
      let place := String.ofList (placeIn query)
      settle weather place (network.reception (weather.request place)) := by
  have connected := connected_of_live live
  simp only [respond, city_of_given given, Plan.perform_map, live, perform_lookup, fetch, connected]
  rfl

/-- A live skill that is given a city and an open client, and whose request can be sent, fails exactly
where the source sends a value that is nested too deep, or a report whose reading ends at a number that
is too large: then the report holds such a number. A usable report is otherwise answered with live
conditions, and any other response, or none, with the simulated conditions of the city and the note. -/
theorem degrades_to_simulation (network : Network) (live : weather.live = true)
    (given : placeIn query ≠ []) :
    let place := String.ofList (placeIn query)
    let received := network.reception (weather.request place)
    let result := ((weather.respond query).perform true network).1
    (∀ failure, result = .error failure ↔
      failure = .tooDeep ∧ received = .error .tooDeep ∨
        failure = .mismatch .outOfRange ∧
          ∃ report, received = .ok report ∧ ofReport report false = .error .outOfRange) ∧
    (∀ report, ofReport report false = .error .outOfRange → Overflows report) ∧
    (∀ report c, received = .ok report → Reported report c → c.simulated = false →
      result = .ok ⟨c.render, .ready c.data⟩) ∧
    ((∀ report c, received = .ok report → ¬ Reported report c) →
      (∃ failure, result = .error failure) ∨
        ∃ c, weather.simulate place = .ok c ∧ c.location = place ++ ", XX" ∧
          c.simulated = true ∧
          result = .ok ⟨c.render ++ "\n" ++ note, .ready c.data⟩) := by
  intro place received result
  have answered : Answered weather place received result := by
    rw [show result = settle weather place received from perform_respond live given]
    exact answered_settle weather place (network.reception_get _)
  clear_value result received
  refine ⟨fun failure => ⟨?_, ?_⟩, fun report large => (blames_of_ofReport large).2 rfl, ?_, ?_⟩
  · rintro rfl
    cases answered with
    | overflow large => exact .inr ⟨rfl, _, rfl, large⟩
    | tooDeep => exact .inl ⟨rfl, rfl⟩
  · rintro (⟨rfl, rfl⟩ | ⟨rfl, report, rfl, large⟩)
    · cases answered with
      | simulated readable => exact absurd rfl readable
      | tooDeep => rfl
    · cases answered with
      | live usable => exact absurd usable (not_reported_of_error large)
      | simulated _ useless => exact absurd large (useless report rfl).2
      | overflow => rfl
  · rintro report c rfl usable fresh
    cases answered with
    | live usable' fresh' => rw [usable'.unique usable (fresh'.trans fresh.symm)]
    | simulated _ useless => exact absurd usable ((useless report rfl).1 c)
    | overflow large => exact absurd usable (not_reported_of_error large)
  · intro useless
    cases answered with
    | live usable => exact absurd usable (useless _ _ rfl)
    | simulated _ _ made located marked => exact .inr ⟨_, made, located, marked, rfl⟩
    | overflow => exact .inl ⟨_, rfl⟩
    | tooDeep => exact .inl ⟨_, rfl⟩

def keyed : Weather := .ofConfig [] true (.text "k") 0

theorem degrades_to_simulation_oslo :
    keyed.live = true ∧ placeIn " Oslo?! " ≠ [] ∧
    ∃ c, keyed.simulate "Oslo" = .ok c ∧ c.location = "Oslo, XX" ∧ c.simulated = true ∧
      ((keyed.respond " Oslo?! ").perform true ⟨[.failed "no route"], []⟩).1 =
        .ok ⟨c.render ++ "\n" ++ note, .ready c.data⟩ := by
  have live : keyed.live = true := by decide +kernel
  have given : placeIn " Oslo?! " ≠ [] := by decide +kernel
  have place : String.ofList (placeIn " Oslo?! ") = "Oslo" := by decide +kernel
  obtain ⟨failing, -, -, standIn⟩ :=
    degrades_to_simulation ⟨[.failed "no route"], []⟩ live given
  refine ⟨live, given, ?_⟩
  rw [place] at standIn
  rcases standIn nofun with ⟨failure, failed⟩ | answered
  · rcases (failing failure).1 failed with ⟨-, h⟩ | ⟨-, _, h, -⟩
    · cases h
    · cases h
  · exact answered

def endlessHeat : String :=
  "\x7b\"name\":\"Rome\",\"sys\":\x7b\"country\":\"IT\"\x7d," ++
    "\"main\":\x7b\"temp\":1e999,\"feels_like\":20,\"humidity\":40\x7d," ++
    "\"weather\":[\x7b\"description\":\"clear sky\"\x7d],\"wind\":\x7b\"speed\":2\x7d," ++
    "\"clouds\":\x7b\"all\":0\x7d,\"dt\":0\x7d"

/-- The source has answered in vain, but the simulation does not stand in for it. -/
theorem respond_endlessHeat :
    ((keyed.respond "Rome").perform true
      ⟨[.received 200 (endlessHeat.toList.map Char.toNat)], []⟩).1 =
      .error (.mismatch .outOfRange) :=
  eq_error_of_fault? (by decide +kernel)

end Switchboard.Weather
