/-!
# Calendar dates

Dates of the Gregorian calendar from year 1 to year 9999, and their numbering by days: day 0 is the first of January of
year 1, a Monday.
-/

namespace HttpRouter.Calendar

/-- A day of the calendar. -/
structure Date where
  year : Nat
  month : Nat
  day : Nat
deriving DecidableEq, Repr

/-- Whether a year has a leap day. -/
def isLeap (year : Nat) : Bool :=
  year % 4 == 0 && (year % 100 != 0 || year % 400 == 0)

/-- The lengths of the months of a year. -/
def monthLengths (year : Nat) : List Nat :=
  [31, if isLeap year then 29 else 28, 31, 30, 31, 30, 31, 31, 30, 31, 30, 31]

/-- The length of a month; zero for a month that does not exist. -/
def monthLength (year month : Nat) : Nat :=
  if month = 0 then 0 else (monthLengths year).getD (month - 1) 0

theorem length_monthLengths (year : Nat) : (monthLengths year).length = 12 := rfl

/-- The last year of the calendar. -/
def lastYear : Nat := 9999

/-- The number of the first day of a year. -/
def yearStart (year : Nat) : Nat :=
  let y := year - 1
  365 * y + y / 4 - y / 100 + y / 400

/-- How many days the calendar has. -/
def dayCount : Nat := yearStart (lastYear + 1)

namespace Date

/-- Whether the date exists. -/
def Valid (d : Date) : Prop :=
  1 ≤ d.year ∧ d.year ≤ lastYear ∧ 1 ≤ d.month ∧ d.month ≤ 12 ∧ 1 ≤ d.day ∧ d.day ≤ monthLength d.year d.month

instance (d : Date) : Decidable d.Valid := by unfold Valid; infer_instance

/-- The number of a date. -/
def number (d : Date) : Nat :=
  yearStart d.year + ((monthLengths d.year).take (d.month - 1)).foldl (· + ·) 0 + (d.day - 1)

/-- The month and the day that a day of the year falls on, counting months from `month` on. -/
def ofDayOfYear (day : Nat) (month : Nat) : List Nat → Nat × Nat
  | [] => (month, day + 1)
  | length :: rest => if day < length then (month, day + 1) else ofDayOfYear (day - length) (month + 1) rest

/-- The year that a day falls in: the average length of a year gives it up to one. -/
def yearOfNumber (n : Nat) : Nat :=
  let year := n * 400 / 146097 + 1
  if n < yearStart year then year - 1
  else if yearStart (year + 1) ≤ n then year + 1
  else year

/-- The date with a given number. -/
def ofNumber (n : Nat) : Date :=
  let year := yearOfNumber n
  let (month, day) := ofDayOfYear (n - yearStart year) 1 (monthLengths year)
  ⟨year, month, day⟩

/-- The day of the week, Monday being 0. -/
def weekday (d : Date) : Nat :=
  d.number % 7

end Date

end HttpRouter.Calendar
