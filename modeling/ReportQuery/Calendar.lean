import ReportQuery.Number.Shortest

/-!
# Dates, times of day and timestamps

Values of the proleptic Gregorian calendar, to the microsecond, and their written forms with
the year first. A timestamp may have an offset from universal time, in minutes.
-/

namespace ReportQuery

/-- A day of the calendar. -/
structure Date where
  year : Nat
  month : Nat
  day : Nat
deriving Repr, DecidableEq

/-- A time of day. -/
structure TimeOfDay where
  hour : Nat
  minute : Nat
  second : Nat := 0
  microsecond : Nat := 0
deriving Repr, DecidableEq

/-- A day with a time, and the offset from universal time in minutes when it is known. -/
structure Timestamp where
  date : Date
  time : TimeOfDay
  offset : Option Int := none
deriving Repr, DecidableEq

open NumeralLayout (padded)

/-- Year, month and day, with hyphens between them. -/
def Date.iso (d : Date) : String :=
  padded 4 d.year ++ "-" ++ padded 2 d.month ++ "-" ++ padded 2 d.day

/-- Hour, minute and second, with the microseconds unless they are zero. -/
def TimeOfDay.iso (t : TimeOfDay) : String :=
  padded 2 t.hour ++ ":" ++ padded 2 t.minute ++ ":" ++ padded 2 t.second ++
    (if t.microsecond = 0 then "" else "." ++ padded 6 t.microsecond)

namespace Timestamp

/-- The offset as a sign, hours and minutes. -/
def offsetText (minutes : Int) : String :=
  (if minutes < 0 then "-" else "+") ++ padded 2 (minutes.natAbs / 60) ++ ":" ++
    padded 2 (minutes.natAbs % 60)

/-- Date, time and offset, with the given mark between date and time. -/
def textWith (mark : String) (t : Timestamp) : String :=
  t.date.iso ++ mark ++ t.time.iso ++ (t.offset.map offsetText).getD ""

/-- The written form of interchange, with the letter T between date and time. -/
def iso (t : Timestamp) : String :=
  t.textWith "T"

end Timestamp

end ReportQuery
