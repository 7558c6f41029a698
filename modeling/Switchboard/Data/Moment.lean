import Switchboard.Number.Decimal

/-!
# Days and moments

A moment is a day of the calendar, with a time of that day if one is known. A time may say how far
its clock is ahead of world time, and then the moment is an instant of world time.
-/

namespace Switchboard

structure Day where
  year : Nat
  month : Nat
  day : Nat
deriving DecidableEq, Repr

structure Time where
  hour : Nat
  minute : Nat
  second : Nat
  microsecond : Nat
  /-- How many minutes the clock is ahead of world time. -/
  offset : Option Int
deriving DecidableEq, Repr

structure Moment where
  day : Day
  time : Option Time
deriving DecidableEq, Repr

def isLeapYear (year : Nat) : Bool :=
  year % 4 == 0 && (year % 100 != 0 || year % 400 == 0)

def daysInMonth (year month : Nat) : Nat :=
  if month = 2 then (if isLeapYear year then 29 else 28)
  else if month = 4 ∨ month = 6 ∨ month = 9 ∨ month = 11 then 30
  else 31

def paddedNumber (width n : Nat) : List Char := Double.padded width (digitsOf n)

namespace Day

/-- Whether the calendar has such a day; its years have one to four digits. -/
def isValid (d : Day) : Bool :=
  1 ≤ d.year && d.year ≤ 9999 && 1 ≤ d.month && d.month ≤ 12 && 1 ≤ d.day &&
    d.day ≤ daysInMonth d.year d.month

def text (d : Day) : List Char :=
  paddedNumber 4 d.year ++ '-' :: paddedNumber 2 d.month ++ '-' :: paddedNumber 2 d.day

def numbers (d : Day) : List Nat := [d.year, d.month, d.day]

/-- How many days of a year come before one of its months. -/
def daysBeforeMonth (year month : Nat) : Nat :=
  (List.range (month - 1)).foldl (fun n i => n + daysInMonth year (i + 1)) 0

/-- The number of a day, counted from the first day of the calendar. -/
def ordinal (d : Day) : Nat :=
  let past := d.year - 1
  365 * past + past / 4 - past / 100 + past / 400 + daysBeforeMonth d.year d.month + d.day

end Day

namespace Time

/-- Whether a clock can show such a time, less than a day away from world time. -/
def isValid (t : Time) : Bool :=
  t.hour < 24 && t.minute < 60 && t.second < 60 && t.microsecond < 1000000 &&
    t.offset.all fun minutes => minutes.natAbs < 1440

def offsetText (minutes : Int) : List Char :=
  (if minutes < 0 then '-' else '+') ::
    paddedNumber 2 (minutes.natAbs / 60) ++ ':' :: paddedNumber 2 (minutes.natAbs % 60)

/-- The microseconds of its day that have passed on the clock. -/
def microseconds (t : Time) : Nat :=
  ((t.hour * 60 + t.minute) * 60 + t.second) * 1000000 + t.microsecond

def text (t : Time) : List Char :=
  paddedNumber 2 t.hour ++ ':' :: paddedNumber 2 t.minute ++ ':' :: paddedNumber 2 t.second ++
    (if t.microsecond = 0 then [] else '.' :: paddedNumber 6 t.microsecond) ++
    t.offset.elim [] offsetText

/-- The parts of a time, without zero seconds at the end. -/
def numbers (t : Time) : List Nat :=
  [t.hour, t.minute] ++
    if t.microsecond ≠ 0 then [t.second, t.microsecond]
    else if t.second ≠ 0 then [t.second] else []

/-- The distance from world time, in whole days and the seconds of a day. -/
def offsetForm (minutes : Int) : String :=
  if minutes = 0 then "datetime.timezone.utc"
  else
    let days := if minutes < 0 then "days=-1, " else ""
    "datetime.timezone(datetime.timedelta(" ++ days ++ "seconds=" ++
      intText (minutes * 60 % 86400) ++ "))"

end Time

namespace Moment

def isValid (m : Moment) : Bool := m.day.isValid && m.time.all Time.isValid

def kindName (m : Moment) : String := if m.time.isSome then "datetime" else "date"

/-- The instant of world time in microseconds, where the clock says how far it is ahead. -/
def instant? (m : Moment) : Option Int := do
  let time ← m.time
  let ahead ← time.offset
  return m.day.ordinal * 86400000000 + time.microseconds - ahead * 60000000

/-- The text of a moment: the day, and the time after a space. -/
def text (m : Moment) : String :=
  String.ofList (m.day.text ++ m.time.elim [] fun t => ' ' :: t.text)

/-- The text of a moment inside another value, where its kind is named. -/
def form (m : Moment) : String :=
  let numbers := m.day.numbers ++ m.time.elim [] Time.numbers
  let zone := match m.time.bind Time.offset with
    | some minutes => ", tzinfo=" ++ Time.offsetForm minutes
    | none => ""
  "datetime." ++ m.kindName ++ "(" ++
    ", ".intercalate (numbers.map fun n => String.ofList (digitsOf n)) ++ zone ++ ")"

end Moment

end Switchboard
