import SchemaScribe.Text.Digit

/-!
# Dates and times

Calendar dates of the years 1 to 9999, and points in time that may carry an offset from universal
time.  Building one checks its parts from the largest to the smallest (`Date.of`, `Moment.of`).
-/

namespace SchemaScribe.Yaml

/-! ### Faults -/

/-- **Why numbers are not a date or a time.**  Offsets count minutes. -/
inductive CalendarFault where
  | year (number : Nat)
  | month
  | day
  | hour
  | minute
  | second
  | offset (minutes : Int)
  deriving DecidableEq, Repr

/-- A number of minutes as whole days and the seconds that remain, which are never negative. -/
def spanText (minutes : Int) : String :=
  let days := minutes / 1440
  let seconds := minutes % 1440 * 60
  let secondsPart := if seconds = 0 then "" else s!", seconds={seconds}"
  s!"datetime.timedelta(days={days}{secondsPart})"

/-- The wording of a fault. -/
def CalendarFault.message : CalendarFault → String
  | .year number => s!"year {number} is out of range"
  | .month => "month must be in 1..12"
  | .day => "day is out of range for month"
  | .hour => "hour must be in 0..23"
  | .minute => "minute must be in 0..59"
  | .second => "second must be in 0..59"
  | .offset minutes =>
    "offset must be a timedelta strictly between -timedelta(hours=24) and timedelta(hours=24), " ++
      s!"not {spanText minutes}."

/-! ### Dates -/

/-- **A calendar date.** -/
structure Date where
  year : Nat
  month : Nat
  day : Nat
  deriving DecidableEq, Repr

/-- Leap years are every fourth, except centuries that are not a fourth one themselves. -/
def isLeap (year : Nat) : Bool := year % 4 == 0 && (year % 100 != 0 || year % 400 == 0)

/-- The length of a month. -/
def daysIn (year month : Nat) : Nat :=
  if month = 2 then (if isLeap year then 29 else 28)
  else if [4, 6, 9, 11].contains month then 30
  else 31

/-- The date with the given numbers. -/
def Date.of (year month day : Nat) : Except CalendarFault Date :=
  if year = 0 then .error (.year year)
  else if month < 1 ∨ 12 < month then .error .month
  else if day < 1 ∨ daysIn year month < day then .error .day
  else .ok ⟨year, month, day⟩

/-- The number of days of the years before `year`. -/
def daysBeforeYear (year : Nat) : Nat :=
  let past := year - 1
  365 * past + past / 4 - past / 100 + past / 400

/-- The number of days up to a date. -/
def Date.ordinal (date : Date) : Nat :=
  daysBeforeYear date.year +
    (List.range' 1 (date.month - 1)).foldl (fun days month => days + daysIn date.year month) 0 +
      date.day

/-- A number in decimal with leading zeros up to the given width. -/
def padded (width n : Nat) : String :=
  let digits := toString n
  String.ofList (List.replicate (width - digits.length) '0') ++ digits

/-- The text of a date. -/
def Date.text (date : Date) : String :=
  s!"{padded 4 date.year}-{padded 2 date.month}-{padded 2 date.day}"

/-! ### Points in time -/

/-- **A point in time**: a date, a time of day, and perhaps an offset from universal time in
minutes. -/
structure Moment where
  date : Date
  hour : Nat
  minute : Nat
  second : Nat
  micro : Nat
  offset : Option Int
  deriving DecidableEq, Repr

/-- Offsets stay within a day. -/
def checkOffset (offset : Option Int) : Except CalendarFault Unit :=
  match offset with
  | none => .ok ()
  | some minutes => if minutes.natAbs < 1440 then .ok () else .error (.offset minutes)

/-- The point in time with the given numbers.  The offset is checked before all others. -/
def Moment.of (year month day hour minute second micro : Nat) (offset : Option Int) :
    Except CalendarFault Moment := do
  checkOffset offset
  let date ← Date.of year month day
  if 23 < hour then throw .hour
  if 59 < minute then throw .minute
  if 59 < second then throw .second
  pure ⟨date, hour, minute, second, micro, offset⟩

/-- The microseconds from the start of the calendar, in local time. -/
def Moment.localMicros (m : Moment) : Int :=
  (((m.date.ordinal * 24 + m.hour) * 60 + m.minute) * 60 + m.second) * 1000000 + m.micro

/-- Two points in time are the same if both have an offset and agree in universal time, or neither
has one and they agree in all parts. -/
def Moment.same (a b : Moment) : Bool :=
  match a.offset, b.offset with
  | some x, some y => a.localMicros - x * 60000000 == b.localMicros - y * 60000000
  | none, none => a.localMicros == b.localMicros
  | _, _ => false

/-- The text of an offset. -/
def offsetText (minutes : Int) : String :=
  let size := minutes.natAbs
  (if minutes < 0 then "-" else "+") ++ padded 2 (size / 60) ++ ":" ++ padded 2 (size % 60)

/-- The text of a point in time. -/
def Moment.text (m : Moment) : String :=
  let fraction := if m.micro = 0 then "" else "." ++ padded 6 m.micro
  s!"{m.date.text} {padded 2 m.hour}:{padded 2 m.minute}:{padded 2 m.second}" ++ fraction ++
    (m.offset.map offsetText).getD ""

end SchemaScribe.Yaml
