import Switchboard.Proofs.Data.Attempt
import Switchboard.Skill.Weather

/-!
# What a weather report must hold

A report is usable when it has a value at the end of each of some paths, and the values can be read.
A report that is not usable is short of a field, or has a value of another kind or content there, or
a number that is too large to be read.
-/

namespace Switchboard

namespace Value

/-- There is a value at the end of a path of fields, and it has a property. -/
def At (P : Value → Prop) : List String → Value → Prop
  | [], v => P v
  | name :: path, v => ∃ inner, v.field name = .ok inner ∧ At P path inner

theorem At.exists {P : Value → Prop} {path : List String} {v : Value} (h : At P path v) :
    ∃ w, P w := by
  induction path generalizing v with
  | nil => exact ⟨v, h⟩
  | cons name path ih =>
    obtain ⟨inner, -, h⟩ := h
    exact ih h

theorem field_eq_error {v : Value} {name : String} {m : Mismatch}
    (h : v.field name = .error m) : m = .missingField ∨ m = .wrongKind := by
  cases v with
  | record fields =>
    rw [field] at h
    split at h <;> cases h
    exact .inl rfl
  | scalar s =>
    cases h
    exact .inr rfl
  | list items =>
    cases h
    exact .inr rfl

theorem toDouble_int (n : Int) : (int n).toDouble = withinRange (.ofInt n) := rfl

theorem toDouble_ne_noFields (v : Value) : v.toDouble ≠ .error .noFields := by
  intro h
  cases v with
  | scalar s =>
    cases s with
    | int n =>
      rw [toDouble_int] at h
      generalize Double.ofInt n = x at h
      cases x <;> cases h
    | text s =>
      rw [toDouble] at h
      generalize readDouble s.toList = x at h
      cases x <;> cases h
    | _ => cases h
  | _ => cases h

theorem wholePart_ne_noFields (x : Double) : wholePart x ≠ .error .noFields := by
  cases x <;> exact fun h => by cases h

theorem toInt_ne_noFields (v : Value) : v.toInt ≠ .error .noFields := by
  intro h
  cases v with
  | scalar s =>
    cases s with
    | float x => exact wholePart_ne_noFields x h
    | text s =>
      rw [toInt] at h
      generalize readInt s.toList = x at h
      cases x <;> cases h
    | _ => cases h
  | _ => cases h

end Value

namespace Conditions

open Value

def degrees (v : Value) : Except Mismatch Int := v.toDouble >>= nearest

def pace (v : Value) : Except Mismatch Int :=
  v.toDouble >>= fun speed => nearest (speed.mul kilometresPerHour)

/-- A report gives everything that is asked of it, and these are the conditions that it gives. -/
structure Reported (report : Value) (c : Conditions) : Prop where
  location : At (fun place => At (fun country => c.location = place.display ++ ", " ++ country.display)
    ["sys", "country"] report) ["name"] report
  temperature : At (degrees · = .ok c.temperature) ["main", "temp"] report
  feelsLike : At (degrees · = .ok c.feelsLike) ["main", "feels_like"] report
  description : At (fun skies => ∃ sky, first skies = .ok sky ∧
    At (c.description = ·.display) ["description"] sky) ["weather"] report
  humidity : At (toInt · = .ok c.humidity) ["main", "humidity"] report
  windSpeed : At (pace · = .ok c.windSpeed) ["wind", "speed"] report
  clouds : At (toInt · = .ok c.clouds) ["clouds", "all"] report
  timestamp : At (fun v => ∃ seconds, v.toInt = .ok seconds ∧ c.timestamp = seconds * 1000)
    ["dt"] report

def numbers : List (List String × (Value → Except Mismatch Int)) := [
  (["main", "temp"], degrees), (["main", "feels_like"], degrees), (["main", "humidity"], toInt),
  (["wind", "speed"], pace), (["clouds", "all"], toInt), (["dt"], toInt)]

def Overflows (report : Value) : Prop :=
  ∃ number ∈ numbers, At (number.2 · = .error .outOfRange) number.1 report

section Reading

variable {report : Value} {simulated : Bool} {c : Conditions}

theorem reported_of_ofReport (h : ofReport report simulated = .ok c) :
    Reported report c ∧ c.simulated = simulated := by
  rw [ofReport] at h
  simp only [bind_eq_ok_iff] at h
  obtain ⟨main, hmain, place, hplace, system, hsystem, country, hcountry, h⟩ := h
  obtain ⟨temp, htemp, x, hx, temperature, htemperature, h⟩ := h
  obtain ⟨felt, hfelt, y, hy, feelsLike, hfeelsLike, h⟩ := h
  obtain ⟨skies, hskies, sky, hsky, description, hdescription, h⟩ := h
  obtain ⟨damp, hdamp, humidity, hhumidity, h⟩ := h
  obtain ⟨wind, hwind, gust, hgust, speed, hspeed, windSpeed, hwindSpeed, h⟩ := h
  obtain ⟨cover, hcover, share, hshare, clouds, hclouds, h⟩ := h
  obtain ⟨time, htime, seconds, hseconds, h⟩ := h
  cases h
  refine ⟨⟨?_, ?_, ?_, ?_, ?_, ?_, ?_, ?_⟩, rfl⟩
  · exact ⟨place, hplace, system, hsystem, country, hcountry, rfl⟩
  · exact ⟨main, hmain, temp, htemp, bind_eq_ok_iff.2 ⟨x, hx, htemperature⟩⟩
  · exact ⟨main, hmain, felt, hfelt, bind_eq_ok_iff.2 ⟨y, hy, hfeelsLike⟩⟩
  · exact ⟨skies, hskies, sky, hsky, description, hdescription, rfl⟩
  · exact ⟨main, hmain, damp, hdamp, hhumidity⟩
  · exact ⟨wind, hwind, gust, hgust, bind_eq_ok_iff.2 ⟨speed, hspeed, hwindSpeed⟩⟩
  · exact ⟨cover, hcover, share, hshare, hclouds⟩
  · exact ⟨time, htime, seconds, hseconds, rfl⟩

theorem ofReport_of_reported (h : Reported report c) (same : c.simulated = simulated) :
    ofReport report simulated = .ok c := by
  obtain ⟨place, hplace, system, hsystem, country, hcountry, hlocation⟩ := h.location
  obtain ⟨main, hmain, temp, htemp, htemperature⟩ := h.temperature
  obtain ⟨main', hmain', felt, hfelt, hfeelsLike⟩ := h.feelsLike
  obtain ⟨skies, hskies, sky, hsky, description, hdescription, hshown⟩ := h.description
  obtain ⟨main'', hmain'', damp, hdamp, hhumidity⟩ := h.humidity
  obtain ⟨wind, hwind, gust, hgust, hwindSpeed⟩ := h.windSpeed
  obtain ⟨cover, hcover, share, hshare, hclouds⟩ := h.clouds
  obtain ⟨time, htime, seconds, hseconds, htimestamp⟩ := h.timestamp
  obtain ⟨x, hx, htemperature⟩ := bind_eq_ok_iff.1 htemperature
  obtain ⟨y, hy, hfeelsLike⟩ := bind_eq_ok_iff.1 hfeelsLike
  obtain ⟨speed, hspeed, hwindSpeed⟩ := bind_eq_ok_iff.1 hwindSpeed
  -- The three numbers of one record are found in the same record.
  obtain rfl : main = main' := Except.ok.inj (hmain.symm.trans hmain')
  obtain rfl : main = main'' := Except.ok.inj (hmain.symm.trans hmain'')
  rw [ofReport]
  simp only [bind_eq_ok_iff]
  refine ⟨main, hmain, place, hplace, system, hsystem, country, hcountry, temp, htemp, x, hx, _,
    htemperature, felt, hfelt, y, hy, _, hfeelsLike, skies, hskies, sky, hsky, description,
    hdescription, damp, hdamp, _, hhumidity, wind, hwind, gust, hgust, speed, hspeed, _, hwindSpeed,
    cover, hcover, share, hshare, _, hclouds, time, htime, seconds, hseconds, ?_⟩
  rw [← hlocation, ← hshown, ← htimestamp, ← same]
  rfl

theorem Reported.unique {c' : Conditions} (h : Reported report c) (h' : Reported report c')
    (same : c.simulated = c'.simulated) : c = c' :=
  Except.ok.inj ((ofReport_of_reported h same).symm.trans (ofReport_of_reported h' rfl))

/-- Whether conditions are simulated does not show in a report. -/
theorem Reported.relabel (h : Reported report c) (simulated : Bool) :
    Reported report { c with simulated } :=
  ⟨h.location, h.temperature, h.feelsLike, h.description, h.humidity, h.windSpeed, h.clouds,
    h.timestamp⟩

theorem not_reported_of_error {m : Mismatch} (h : ofReport report simulated = .error m) :
    ¬ Reported report c := by
  intro reported
  rw [ofReport_of_reported (reported.relabel simulated) rfl] at h
  cases h

theorem nearest_ne_noFields (x : Double) : nearest x ≠ .error .noFields := by
  rw [nearest]
  generalize x.add half = y
  cases y <;> exact fun h => by cases h

theorem degrees_ne_noFields (v : Value) : degrees v ≠ .error .noFields := by
  intro h
  rcases bind_eq_error_iff.1 h with h | ⟨x, -, h⟩
  · exact toDouble_ne_noFields v h
  · exact nearest_ne_noFields x h

theorem pace_ne_noFields (v : Value) : pace v ≠ .error .noFields := by
  intro h
  rcases bind_eq_error_iff.1 h with h | ⟨x, -, h⟩
  · exact toDouble_ne_noFields v h
  · exact nearest_ne_noFields _ h

theorem numbers_ne_noFields {number : List String × (Value → Except Mismatch Int)}
    (member : number ∈ numbers) (v : Value) : number.2 v ≠ .error .noFields := by
  simp only [numbers, List.mem_cons, List.not_mem_nil, or_false] at member
  rcases member with rfl | rfl | rfl | rfl | rfl | rfl
  · exact degrees_ne_noFields v
  · exact degrees_ne_noFields v
  · exact toInt_ne_noFields v
  · exact pace_ne_noFields v
  · exact toInt_ne_noFields v
  · exact toInt_ne_noFields v

/-- What a fault of a report says about it. -/
def Blames (report : Value) (m : Mismatch) : Prop :=
  m ≠ .noFields ∧ (m = .outOfRange → Overflows report)

theorem blames_of_field {v : Value} {name : String} {m : Mismatch}
    (h : v.field name = .error m) : Blames report m := by
  rcases field_eq_error h with rfl | rfl <;> exact ⟨nofun, nofun⟩

theorem blames_of_number {number : List String × (Value → Except Mismatch Int)} {m : Mismatch}
    (member : number ∈ numbers) (h : At (number.2 · = .error m) number.1 report) :
    Blames report m := by
  constructor
  · rintro rfl
    obtain ⟨v, hv⟩ := h.exists
    exact numbers_ne_noFields member v hv
  · rintro rfl
    exact ⟨number, member, h⟩

theorem blames_of_first {v : Value} {m : Mismatch} (h : first v = .error m) : Blames report m := by
  unfold first at h
  split at h <;> cases h <;> exact ⟨nofun, nofun⟩

theorem blames_of_ofReport {m : Mismatch} (h : ofReport report simulated = .error m) :
    Blames report m := by
  have temp : (["main", "temp"], degrees) ∈ numbers := by simp [numbers]
  have felt : (["main", "feels_like"], degrees) ∈ numbers := by simp [numbers]
  have damp : (["main", "humidity"], toInt) ∈ numbers := by simp [numbers]
  have wind : (["wind", "speed"], pace) ∈ numbers := by simp [numbers]
  have cover : (["clouds", "all"], toInt) ∈ numbers := by simp [numbers]
  have time : (["dt"], toInt) ∈ numbers := by simp [numbers]
  rw [ofReport] at h
  simp only [bind_eq_error_iff] at h
  -- One case for each step of the reading, the fields and numbers in their order.
  rcases h with h | ⟨main, hmain, h | ⟨_, -, h | ⟨_, -, h | ⟨_, -, h⟩⟩⟩⟩
  · exact blames_of_field h
  · exact blames_of_field h
  · exact blames_of_field h
  · exact blames_of_field h
  rcases h with h | ⟨v, hv, h | ⟨x, hx, h | ⟨_, -, h⟩⟩⟩
  · exact blames_of_field h
  · exact blames_of_number temp ⟨main, hmain, v, hv, bind_eq_error_iff.2 (.inl h)⟩
  · exact blames_of_number temp ⟨main, hmain, v, hv, bind_eq_error_iff.2 (.inr ⟨x, hx, h⟩)⟩
  rcases h with h | ⟨v, hv, h | ⟨x, hx, h | ⟨_, -, h⟩⟩⟩
  · exact blames_of_field h
  · exact blames_of_number felt ⟨main, hmain, v, hv, bind_eq_error_iff.2 (.inl h)⟩
  · exact blames_of_number felt ⟨main, hmain, v, hv, bind_eq_error_iff.2 (.inr ⟨x, hx, h⟩)⟩
  rcases h with h | ⟨skies, -, h | ⟨sky, -, h | ⟨_, -, h⟩⟩⟩
  · exact blames_of_field h
  · exact blames_of_first h
  · exact blames_of_field h
  rcases h with h | ⟨v, hv, h | ⟨_, -, h⟩⟩
  · exact blames_of_field h
  · exact blames_of_number damp ⟨main, hmain, v, hv, h⟩
  rcases h with h | ⟨air, hair, h | ⟨v, hv, h | ⟨x, hx, h | ⟨_, -, h⟩⟩⟩⟩
  · exact blames_of_field h
  · exact blames_of_field h
  · exact blames_of_number wind ⟨air, hair, v, hv, bind_eq_error_iff.2 (.inl h)⟩
  · exact blames_of_number wind ⟨air, hair, v, hv, bind_eq_error_iff.2 (.inr ⟨x, hx, h⟩)⟩
  rcases h with h | ⟨sky, hsky, h | ⟨v, hv, h | ⟨_, -, h⟩⟩⟩
  · exact blames_of_field h
  · exact blames_of_field h
  · exact blames_of_number cover ⟨sky, hsky, v, hv, h⟩
  rcases h with h | ⟨v, hv, h | ⟨_, -, h⟩⟩
  · exact blames_of_field h
  · exact blames_of_number time ⟨v, hv, h⟩
  · cases h

end Reading

end Conditions

end Switchboard
