import Switchboard.Data.Moment

/-!
# Timestamps of YAML

A day is a year of four digits, a month and a day of two. With a time after it, month and day may
have one digit. The time of a day has hours, minutes and seconds, a fraction of a second if need be,
and at the end `Z` for world time or the distance from it.
-/

namespace Switchboard.Yaml

def fixedNumber? (count : Nat) (text : List Char) : Option (Nat × List Char) :=
  let digits := text.take count
  if digits.length = count ∧ digits.all isDigit then some (natOfDigits digits, text.drop count)
  else none

def shortNumber? (text : List Char) : Option (Nat × List Char) :=
  fixedNumber? 2 text <|> fixedNumber? 1 text

def afterSign? (sign : Char) : List Char → Option (List Char)
  | c :: rest => if c == sign then some rest else none
  | [] => none

def dayForm? (text : List Char) : Option (Day × List Char) := do
  let (year, rest) ← fixedNumber? 4 text
  let (month, rest) ← shortNumber? (← afterSign? '-' rest)
  let (day, rest) ← shortNumber? (← afterSign? '-' rest)
  return (⟨year, month, day⟩, rest)

/-- The microseconds that a fraction of a second gives; further digits are dropped. -/
def fractionForm : List Char → Nat × List Char
  | '.' :: rest =>
    let digits := (rest.takeWhile isDigit).take 6
    (natOfDigits (digits ++ List.replicate (6 - digits.length) '0'), rest.dropWhile isDigit)
  | rest => (0, rest)

/-- The minutes that a clock is ahead of world time, where they are given. -/
def offsetForm? (text : List Char) : Option (Option Int) :=
  match text.dropWhile (· == ' ') with
  | [] => some none
  | ['Z'] => some (some 0)
  | sign :: rest => do
    if sign != '+' && sign != '-' then none
    else
      let (hours, rest) ← shortNumber? rest
      let minutes ← match rest with
        | [] => some 0
        | ':' :: rest =>
          match fixedNumber? 2 rest with
          | some (minutes, []) => some minutes
          | _ => none
        | _ => none
      let ahead : Int := 60 * hours + minutes
      return some (if sign == '-' then -ahead else ahead)

/-- The text of a time, which a letter or spaces part from the day. -/
def afterDay? : List Char → Option (List Char)
  | 'T' :: rest => some rest
  | 't' :: rest => some rest
  | ' ' :: rest => some (rest.dropWhile (· == ' '))
  | _ => none

def timeForm? (text : List Char) : Option Time := do
  let (hour, rest) ← shortNumber? (← afterDay? text)
  let (minute, rest) ← fixedNumber? 2 (← afterSign? ':' rest)
  let (second, rest) ← fixedNumber? 2 (← afterSign? ':' rest)
  let (microsecond, rest) := fractionForm rest
  let offset ← offsetForm? rest
  return ⟨hour, minute, second, microsecond, offset⟩

/-- The moment that a text has the form of. The calendar need not have it. -/
def momentForm? (text : List Char) : Option Moment := do
  let (day, rest) ← dayForm? text
  if rest.isEmpty then
    if text.length = "YYYY-MM-DD".length then some ⟨day, none⟩ else none
  else return ⟨day, some (← timeForm? rest)⟩

end Switchboard.Yaml
