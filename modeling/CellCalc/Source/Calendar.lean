import CellCalc.Number.Numeral

/-!
# Calendar — dates, times of day and durations, and their texts

Dates run from the year 1 to the year 9999, with leap years as they are today. A duration is at
most 999999999 whole days either way, and less than a day more.

* `Date`, `Clock`, `Duration`, each with `ofParts`, which refuses parts out of bounds.
* `Date.text` — year, month and day, with leading zeros.
* `Clock.text` — a time of day; microseconds are written only if there are any.
* `Duration.text` — whole days, then what is left as a time; a negative duration counts back whole
  days, so that what is left is never negative.
-/

namespace CellCalc

/-- The digits of a number, with zeros before them up to a width. -/
def paddedDigits (width n : Nat) : Text :=
  let digits := Nat.toDigits 10 n
  List.replicate (width - digits.length) '0' ++ digits

/-- A number that lies between two bounds, both included. -/
def boundedPart (part : Text) (first last : Nat) (n : Int) : Except Failure Nat :=
  if (first : Int) ≤ n ∧ n ≤ last then .ok n.toNat else .error (.partOutOfBounds part first last)

/-! ## Dates -/

/-- A day of the calendar. -/
structure Date where
  year : Nat
  month : Nat
  day : Nat
  deriving DecidableEq, Repr

namespace Date

/-- The last year of the calendar. -/
def lastYear : Nat := 9999

/-- Every fourth year is a leap year, but of the full centuries only every fourth. -/
def isLeapYear (year : Nat) : Bool :=
  year % 4 == 0 && (year % 100 != 0 || year % 400 == 0)

/-- The number of days of a month. -/
def daysInMonth (year month : Nat) : Nat :=
  if month = 2 then if isLeapYear year then 29 else 28
  else if month = 4 ∨ month = 6 ∨ month = 9 ∨ month = 11 then 30
  else 31

/-- The day of a year, a month and a day of the month. -/
def ofParts (year month day : Int) : Except Failure Date := do
  if year < 1 ∨ lastYear < year then throw (.noSuchYear (Numeral.integerText year))
  let m ← boundedPart "month" 1 12 month
  if day < 1 ∨ daysInMonth year.toNat m < day then throw .noSuchDay
  return ⟨year.toNat, m, day.toNat⟩

/-- The text of a day. -/
def text (d : Date) : Text :=
  paddedDigits 4 d.year ++ '-' :: paddedDigits 2 d.month ++ '-' :: paddedDigits 2 d.day

end Date

/-! ## Times of day -/

/-- A fraction of a second, if there is any. -/
def microsecondText (micros : Nat) : Text :=
  if micros = 0 then [] else '.' :: paddedDigits 6 micros

/-- A time of day. -/
structure Clock where
  hour : Nat
  minute : Nat
  second : Nat
  microsecond : Nat
  deriving DecidableEq, Repr

namespace Clock

/-- The time of an hour, a minute, a second and a microsecond. -/
def ofParts (hour minute second microsecond : Int) : Except Failure Clock := do
  let h ← boundedPart "hour" 0 23 hour
  let m ← boundedPart "minute" 0 59 minute
  let s ← boundedPart "second" 0 59 second
  let u ← boundedPart "microsecond" 0 999999 microsecond
  return ⟨h, m, s, u⟩

/-- The text of a time of day. -/
def text (c : Clock) : Text :=
  paddedDigits 2 c.hour ++ ':' :: paddedDigits 2 c.minute ++ ':' :: paddedDigits 2 c.second
    ++ microsecondText c.microsecond

end Clock

/-! ## Durations -/

/-- A length of time, in microseconds. -/
structure Duration where
  micros : Int
  deriving DecidableEq, Repr

namespace Duration

/-- The microseconds of a day. -/
def microsPerDay : Int := 86400000000

/-- The most whole days of a duration, in either direction. -/
def lastDay : Nat := 999999999

/-- The number of whole days, counted back for a negative duration. -/
def days (d : Duration) : Int :=
  d.micros.fdiv microsPerDay

/-- The length of so many days, seconds and microseconds together. -/
def ofParts (days seconds micros : Int) : Except Failure Duration :=
  let d : Duration := ⟨(days * 86400 + seconds) * 1000000 + micros⟩
  if lastDay < d.days.natAbs then .error (.tooManyDays (Numeral.integerText d.days)) else .ok d

/-- The number of days, with the word for them. -/
def dayText (days : Int) : Text :=
  Numeral.integerText days ++ (if days.natAbs = 1 then " day, ".toList else " days, ".toList)

/-- The text of a length of time. -/
def text (d : Duration) : Text :=
  let micros := (d.micros.fmod microsPerDay).toNat
  let seconds := micros / 1000000
  (if d.days = 0 then [] else dayText d.days)
    ++ Nat.toDigits 10 (seconds / 3600) ++ ':' :: paddedDigits 2 (seconds / 60 % 60)
    ++ ':' :: paddedDigits 2 (seconds % 60) ++ microsecondText (micros % 1000000)

end Duration

end CellCalc
