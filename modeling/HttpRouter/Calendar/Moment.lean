import HttpRouter.Calendar.Date

/-!
# Moments

A moment is a date and a time of day on some clock, to the microsecond, and how far that clock is ahead of universal
time if that is known. A moment without an offset is taken to be in universal time.
-/

namespace HttpRouter.Calendar

/-- A date and a time of day, with the clock's offset east of universal time in microseconds. -/
structure Moment where
  date : Date
  hour : Nat
  minute : Nat
  second : Nat
  micro : Nat
  offset : Option Int
deriving DecidableEq, Repr

/-- Microseconds in a second. -/
def perSecond : Nat := 1000000

/-- Microseconds in a day. -/
def perDay : Nat := 86400 * perSecond

/-- Two digits. -/
def twoDigits (n : Nat) : String :=
  String.ofList [Nat.digitChar (n / 10 % 10), Nat.digitChar (n % 10)]

/-- Four digits. -/
def fourDigits (n : Nat) : String :=
  twoDigits (n / 100) ++ twoDigits n

/-- Six digits. -/
def sixDigits (n : Nat) : String :=
  twoDigits (n / 10000) ++ fourDigits n

/-- A date as year, month and day. -/
def Date.text (d : Date) : String :=
  fourDigits d.year ++ "-" ++ twoDigits d.month ++ "-" ++ twoDigits d.day

namespace Moment

/-- Whether the moment exists: the parts are in range, and the offset is less than a day. -/
def Valid (m : Moment) : Prop :=
  m.date.Valid ∧ m.hour < 24 ∧ m.minute < 60 ∧ m.second < 60 ∧ m.micro < perSecond ∧
    ∀ o, m.offset = some o → -(perDay : Int) < o ∧ o < perDay

/-- Microseconds on the moment's own clock since the calendar began. -/
def clock (m : Moment) : Nat :=
  m.date.number * perDay + ((m.hour * 60 + m.minute) * 60 + m.second) * perSecond + m.micro

/-- The moment at which a clock shows a number of microseconds since the calendar began. -/
def ofClock (n : Nat) (offset : Option Int) : Moment :=
  let seconds := n % perDay / perSecond
  { date := Date.ofNumber (n / perDay)
    hour := seconds / 3600
    minute := seconds / 60 % 60
    second := seconds % 60
    micro := n % perSecond
    offset }

/-- The same moment on the clock of universal time, unless that lies outside the calendar. -/
def universal? (m : Moment) : Option Moment :=
  match m.offset with
  | none => some { m with offset := some 0 }
  | some o =>
    let n := (m.clock : Int) - o
    if 0 ≤ n ∧ n < dayCount * perDay then some (ofClock n.toNat (some 0)) else none

/-- An offset as hours and minutes, with seconds and microseconds if there are any. -/
def offsetText (o : Int) : String :=
  let n := o.natAbs
  let seconds := n / perSecond
  let micro := n % perSecond
  let tail := if micro ≠ 0 then ":" ++ twoDigits (seconds % 60) ++ "." ++ sixDigits micro
    else if seconds % 60 ≠ 0 then ":" ++ twoDigits (seconds % 60) else ""
  (if o < 0 then "-" else "+") ++ twoDigits (seconds / 3600) ++ ":" ++ twoDigits (seconds / 60 % 60) ++ tail

/-- The moment as text, with a mark between date and time. -/
def textWith (mark : String) (m : Moment) : String :=
  m.date.text ++ mark ++ twoDigits m.hour ++ ":" ++ twoDigits m.minute ++ ":" ++ twoDigits m.second ++
    (if m.micro = 0 then "" else "." ++ sixDigits m.micro) ++ (m.offset.map offsetText).getD ""

/-- The moment as text, with a blank between date and time. -/
def text (m : Moment) : String :=
  m.textWith " "

/-- What is wrong with the parts of a moment. -/
inductive RangeError where
  | year (year : Int)
  | month
  | day
  | hour
  | minute
  | second
  | offset (micros : Int)
deriving DecidableEq, Repr

/-- A span of time in days, seconds and microseconds, the parts that are zero left out. -/
def spanText (micros : Int) : String :=
  let part := fun (name : String) (n : Int) => if n = 0 then [] else [name ++ "=" ++ toString n]
  let seconds := micros.fdiv perSecond
  let parts := part "days" (seconds.fdiv 86400) ++ part "seconds" (seconds.fmod 86400) ++
    part "microseconds" (micros.fmod perSecond)
  "datetime.timedelta(" ++ (if parts.isEmpty then "0" else ", ".intercalate parts) ++ ")"

/-- The text of a range error. -/
def RangeError.message : RangeError → String
  | .year y => "year " ++ toString y ++ " is out of range"
  | .month => "month must be in 1..12"
  | .day => "day is out of range for month"
  | .hour => "hour must be in 0..23"
  | .minute => "minute must be in 0..59"
  | .second => "second must be in 0..59"
  | .offset micros =>
    "offset must be a timedelta strictly between -timedelta(hours=24) and timedelta(hours=24), not " ++
      spanText micros ++ "."

/-- A moment from its parts, the first part out of range being the error. -/
def checked (year month day hour minute second : Int) (micro : Nat) (offset : Option Int) :
    Except RangeError Moment :=
  if ¬(1 ≤ year ∧ year ≤ lastYear) then .error (.year year)
  else if ¬(1 ≤ month ∧ month ≤ 12) then .error .month
  else if ¬(1 ≤ day ∧ day ≤ monthLength year.toNat month.toNat) then .error .day
  else if ¬(0 ≤ hour ∧ hour < 24) then .error .hour
  else if ¬(0 ≤ minute ∧ minute < 60) then .error .minute
  else if ¬(0 ≤ second ∧ second < 60) then .error .second
  else .ok ⟨⟨year.toNat, month.toNat, day.toNat⟩, hour.toNat, minute.toNat, second.toNat, micro, offset⟩

/-- An offset of less than a day. -/
def checkedOffset (micros : Int) : Except RangeError Int :=
  if -(perDay : Int) < micros ∧ micros < perDay then .ok micros else .error (.offset micros)

end Moment

end HttpRouter.Calendar
