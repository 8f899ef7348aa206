/-!
# Dates and times

Calendar dates, times of day and the two together, as a document may give
them. A moment may carry its distance from universal time.
-/

namespace ParseKit

/-- A number in decimal with at least `width` digits. -/
def zeroPadded (width n : Nat) : String :=
  let ds := Nat.toDigits 10 n
  String.ofList (List.replicate (width - ds.length) '0' ++ ds)

/-- Values with a comma and a space between. -/
def commaSeparated (items : List String) : String := ", ".intercalate items

/-- **A calendar date.** -/
structure Date where
  /-- The year. -/
  year : Nat
  /-- The month, from one. -/
  month : Nat
  /-- The day of the month, from one. -/
  day : Nat
  deriving DecidableEq, Repr, Inhabited

namespace Date

/-- Whether a year has a day more than others. -/
def isLeap (year : Nat) : Bool :=
  year % 4 == 0 && (year % 100 != 0 || year % 400 == 0)

/-- The number of days in a month. -/
def daysIn (year month : Nat) : Nat :=
  if month == 2 then (if isLeap year then 29 else 28)
  else if month == 4 || month == 6 || month == 9 || month == 11 then 30
  else 31

/-- Whether the calendar has the date. -/
def isValid (d : Date) : Bool :=
  1 ≤ d.year && d.year ≤ 9999 && 1 ≤ d.month && d.month ≤ 12 && 1 ≤ d.day
    && d.day ≤ daysIn d.year d.month

/-- The number of days before the first of January of a year. -/
def daysBeforeYear (year : Nat) : Nat :=
  let y := year - 1
  y * 365 + y / 4 - y / 100 + y / 400

/-- The number of a date, counted in days. -/
def ordinal (d : Date) : Nat :=
  ((List.range d.month).drop 1).foldl (fun n month => n + daysIn d.year month)
    (daysBeforeYear d.year) + d.day

/-- The date as year, month and day. -/
def text (d : Date) : String :=
  zeroPadded 4 d.year ++ "-" ++ zeroPadded 2 d.month ++ "-" ++ zeroPadded 2 d.day

/-- The three numbers of a date. -/
def fields (d : Date) : List Nat := [d.year, d.month, d.day]

end Date

/-- **A time of day.** -/
structure Clock where
  /-- The hour. -/
  hour : Nat
  /-- The minute. -/
  minute : Nat
  /-- The second. -/
  second : Nat
  /-- The millionths of a second. -/
  micro : Nat
  deriving DecidableEq, Repr, Inhabited

namespace Clock

/-- The time as hour, minute and second, with millionths if there are any. -/
def text (t : Clock) : String :=
  zeroPadded 2 t.hour ++ ":" ++ zeroPadded 2 t.minute ++ ":" ++ zeroPadded 2 t.second
    ++ (if t.micro == 0 then "" else "." ++ zeroPadded 6 t.micro)

/-- The numbers of a time, without the last ones if those are zero; hour
and minute always stay. -/
def fields (t : Clock) : List Nat :=
  if t.micro != 0 then [t.hour, t.minute, t.second, t.micro]
  else if t.second != 0 then [t.hour, t.minute, t.second]
  else [t.hour, t.minute]

/-- The millionths of a second since midnight. -/
def micros (t : Clock) : Nat :=
  ((t.hour * 60 + t.minute) * 60 + t.second) * 1000000 + t.micro

end Clock

/-- **A moment**: a date and a time, with the minutes by which the place is
ahead of universal time if that is known. -/
structure Moment where
  /-- The date. -/
  date : Date
  /-- The time. -/
  clock : Clock
  /-- The minutes ahead of universal time. -/
  ahead : Option Int
  deriving DecidableEq, Repr, Inhabited

namespace Moment

/-- A distance from universal time as hours and minutes with a sign. -/
def aheadText (minutes : Int) : String :=
  (if minutes < 0 then "-" else "+") ++ zeroPadded 2 (minutes.natAbs / 60) ++ ":"
    ++ zeroPadded 2 (minutes.natAbs % 60)

/-- The moment as date and time with a space between. -/
def text (m : Moment) : String :=
  m.date.text ++ " " ++ m.clock.text ++ (match m.ahead with
    | some minutes => aheadText minutes
    | none => "")

/-- The millionths of a second since the first day, in universal time if
the place is known. -/
def micros (m : Moment) : Int :=
  (m.date.ordinal : Int) * 86400000000 + m.clock.micros
    - (m.ahead.getD 0) * 60000000

end Moment

end ParseKit
