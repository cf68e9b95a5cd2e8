import Covenant.Number.Layout

/-!
# Points in time

A point in time is a number of seconds since the beginning of 1970, with a
fraction. `Moment.ofSeconds` rounds the fraction to microseconds;
`Moment.date` and `Moment.clock` read a moment in universal time by the
calendar that has 146097 days in every four hundred years.
-/

namespace Covenant

/-- **A moment**: whole seconds since the beginning of 1970, and
microseconds. -/
structure Moment where
  /-- The whole seconds. -/
  seconds : Int
  /-- The microseconds, fewer than a million. -/
  micros : Nat
deriving DecidableEq

namespace Moment

/-- A whole number of seconds. -/
def ofInt (seconds : Int) : Moment := ⟨seconds, 0⟩

/-- A fraction of a second in microseconds: the nearest double first, then the
nearest whole number. -/
def microsOf (num den : Nat) : Nat :=
  match Double.ofRatio false (num * 1000000) den with
  | .finite _ m e => let (n, d) := Double.scaleBy m 1 (-e); Double.roundHalfEven n d
  | _ => 0

/-- The moment so many seconds and microseconds after the beginning, or before
it. A million microseconds are a second more. -/
def ofParts (negative : Bool) (whole micros : Nat) : Moment :=
  let seconds := if micros = 1000000 then whole + 1 else whole
  let micros := if micros = 1000000 then 0 else micros
  if !negative then ⟨seconds, micros⟩
  else if micros = 0 then ⟨-(seconds : Int), 0⟩
  else ⟨-(seconds : Int) - 1, 1000000 - micros⟩

/-- A number of seconds, its fraction rounded to the nearest microsecond. -/
def ofDouble? : Double → Option Moment
  | .finite negative m e =>
    let (num, den) := Double.scaleBy m 1 (-e)
    some (ofParts negative (num / den) (microsOf (num % den) den))
  | _ => none

/-- Year, month and day of a number of days since the beginning of 1970. The
count starts over on the first of March of a year divisible by four hundred,
so that the day that is sometimes there comes last. -/
def civil (days : Int) : Int × Nat × Nat :=
  let z := days + 719468
  let era := z.fdiv 146097
  let ofEra := (z.fmod 146097).toNat
  let yearOfEra := (ofEra - ofEra / 1460 + ofEra / 36524 - ofEra / 146096) / 365
  let ofYear := ofEra - (365 * yearOfEra + yearOfEra / 4 - yearOfEra / 100)
  let shifted := (5 * ofYear + 2) / 153
  let day := ofYear - (153 * shifted + 2) / 5 + 1
  let month := if shifted < 10 then shifted + 3 else shifted - 9
  let year := (yearOfEra : Int) + era * 400 + (if month ≤ 2 then 1 else 0)
  (year, month, day)

/-- A number with leading zeros. -/
def padded (width n : Nat) : List Char := NumberLayout.padZeros width (natDigits n)

/-- The second of the day. -/
def secondOfDay (t : Moment) : Nat := (t.seconds.fmod 86400).toNat

/-- **The time of day**: hours, minutes, seconds. -/
def clock (t : Moment) : List Char :=
  let s := t.secondOfDay
  padded 2 (s / 3600) ++ ':' :: padded 2 (s / 60 % 60) ++ ':' :: padded 2 (s % 60)

/-- The year. -/
def year (t : Moment) : Int := (civil (t.seconds.fdiv 86400)).1

/-- The time of day of a moment that the calendar of its place has: the day
before it has to lie in the years from 1 to 9999 as well. -/
def clock? (t : Moment) : Option (List Char) :=
  if 1 ≤ year ⟨t.seconds - 86400, t.micros⟩ ∧ t.year ≤ 9999 then some t.clock else none

/-- **Date and time in universal time**, with microseconds if there are any;
only the years from 1 to 9999 have one. -/
def stamp? (t : Moment) : Option (List Char) :=
  let (year, month, day) := civil (t.seconds.fdiv 86400)
  if 1 ≤ year ∧ year ≤ 9999 then
    some (padded 4 year.toNat ++ '-' :: padded 2 month ++ '-' :: padded 2 day ++ 'T' :: t.clock
      ++ (if t.micros = 0 then [] else '.' :: padded 6 t.micros) ++ "+00:00".toList)
  else none

/-- The last day of February in a leap year. -/
example : (stamp? (ofInt 1582934400)) = some "2020-02-29T00:00:00+00:00".toList := by decide +kernel

end Moment

end Covenant
