import DocQuery.Number.Numeral

/-!
# Calendar fields of an instant

An instant is a number of milliseconds since 1970-01-01T00:00:00Z.  Days are counted in the proleptic
Gregorian calendar: years of 365 days, and a leap day every fourth year but three times in four centuries.

    millis = dayNumber date * 86400000 + time of day
    dayNumber (ofDayNumber n) = n
-/

namespace DocQuery.Calendar

/-! ## Algorithm -/

structure Date where
  year : Int
  month : Nat
  day : Nat
  deriving DecidableEq, Repr

def millisPerDay : Int := 86400000

/-- Days from 1970-01-01 to a date, the years counted from March so that a leap day ends its year. -/
def dayNumber (d : Date) : Int :=
  let year := if d.month ≤ 2 then d.year - 1 else d.year
  let era := year.fdiv 400
  let yearOfEra := year - era * 400
  let monthFromMarch : Int := ((d.month + 9) % 12 : Nat)
  let dayOfYear := (153 * monthFromMarch + 2) / 5 + d.day - 1
  let dayOfEra := yearOfEra * 365 + yearOfEra / 4 - yearOfEra / 100 + dayOfYear
  era * 146097 + dayOfEra - 719468

/-- The date of a day number. -/
def ofDayNumber (n : Int) : Date :=
  let shifted := n + 719468
  let era := shifted.fdiv 146097
  let dayOfEra := shifted - era * 146097
  let yearOfEra := (dayOfEra - dayOfEra / 1460 + dayOfEra / 36524 - dayOfEra / 146096) / 365
  let dayOfYear := dayOfEra - (365 * yearOfEra + yearOfEra / 4 - yearOfEra / 100)
  let monthFromMarch := (5 * dayOfYear + 2) / 153
  let day := dayOfYear - (153 * monthFromMarch + 2) / 5 + 1
  let month := if monthFromMarch < 10 then monthFromMarch + 3 else monthFromMarch - 9
  let year := yearOfEra + era * 400
  ⟨if month ≤ 2 then year + 1 else year, month.toNat, day.toNat⟩

/-- The day an instant falls on. -/
def dayOf (millis : Int) : Int := millis.fdiv millisPerDay

/-- Milliseconds since the midnight before an instant. -/
def timeOfDay (millis : Int) : Nat := (millis.fmod millisPerDay).toNat

def dateOf (millis : Int) : Date := ofDayNumber (dayOf millis)

def hour (millis : Int) : Nat := timeOfDay millis / 3600000

def minute (millis : Int) : Nat := timeOfDay millis / 60000 % 60

def second (millis : Int) : Nat := timeOfDay millis / 1000 % 60

def millisecond (millis : Int) : Nat := timeOfDay millis % 1000

/-- Weekdays from Sunday as 1. -/
def weekdayFromSunday (millis : Int) : Nat := ((dayOf millis + 4).fmod 7).toNat + 1

/-- Weekdays from Monday as 1. -/
def weekdayFromMonday (millis : Int) : Nat := ((dayOf millis + 3).fmod 7).toNat + 1

/-- The day of the year, from 1. -/
def dayOfYear (millis : Int) : Nat :=
  (dayOf millis - dayNumber ⟨(dateOf millis).year, 1, 1⟩).toNat + 1

/-- An instant moved into a range of years, each end to its last millisecond inside. -/
def clampYears (first last : Int) (millis : Int) : Int :=
  max (dayNumber ⟨first, 1, 1⟩ * millisPerDay)
    (min (dayNumber ⟨last + 1, 1, 1⟩ * millisPerDay - 1) millis)

/-- An integer in at least `width` places, the sign among them. -/
def padInt (width : Nat) (n : Int) : String :=
  if n < 0 then String.ofList ('-' :: Numeral.padded (width - 1) n.natAbs)
  else String.ofList (Numeral.padded width n.natAbs)

def pad (width n : Nat) : String := String.ofList (Numeral.padded width n)

end DocQuery.Calendar
