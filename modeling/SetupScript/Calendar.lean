/-!
# Calendar

Dates and times of day in the Gregorian calendar, with or without an offset from universal time.
`Moment.instant?` counts the microseconds that a moment with an offset is away from the year 0, so
that one instant told in two places compares equal.
-/

namespace SetupScript

namespace Calendar

def isLeap (year : Nat) : Bool :=
  year % 4 == 0 && (year % 100 != 0 || year % 400 == 0)

def daysIn (year month : Nat) : Nat :=
  if month == 2 then if isLeap year then 29 else 28
  else if month == 4 || month == 6 || month == 9 || month == 11 then 30
  else 31

/-- The days before a date since the first of January of the year 0. -/
def dayNumber (year month day : Nat) : Nat :=
  let months := (List.range (month - 1)).map fun m => daysIn year (m + 1)
  let leaps := (year + 3) / 4 - (year + 99) / 100 + (year + 399) / 400
  365 * year + leaps + months.foldl (· + ·) 0 + (day - 1)

end Calendar

structure Date where
  year : Nat
  month : Nat
  day : Nat
deriving DecidableEq

/-- Years have at most four digits and begin at 1. -/
def Date.valid (d : Date) : Bool :=
  1 ≤ d.year && d.year ≤ 9999 && 1 ≤ d.month && d.month ≤ 12 && 1 ≤ d.day &&
    d.day ≤ Calendar.daysIn d.year d.month

/-- A moment of a day; the offset is in seconds east of universal time. -/
structure Moment where
  date : Date
  hour : Nat
  minute : Nat
  second : Nat
  microsecond : Nat
  offset : Option Int
deriving DecidableEq

namespace Moment

/-- Offsets stay below one day in either direction. -/
def valid (m : Moment) : Bool :=
  m.date.valid && m.hour < 24 && m.minute < 60 && m.second < 60 && m.microsecond < 1000000 &&
    match m.offset with
    | none => true
    | some o => -86400 < o && o < 86400

def wallClock (m : Moment) : Int :=
  let day := Calendar.dayNumber m.date.year m.date.month m.date.day
  ((((day * 24 + m.hour) * 60 + m.minute) * 60 + m.second) * 1000000 + m.microsecond : Nat)

def instant? (m : Moment) : Option Int :=
  m.offset.map fun o => m.wallClock - o * 1000000

/-- Moments are the same when they tell one instant, or one time of day where neither is tied to
universal time. -/
def same (m n : Moment) : Bool :=
  match m.instant?, n.instant? with
  | some i, some j => i == j
  | none, none => m.wallClock == n.wallClock
  | _, _ => false

end Moment

end SetupScript
