import HttpRouter.Calendar.Moment
import HttpRouter.Fault

/-!
# HTTP dates

The date format of HTTP headers, always in universal time and to the second: `Fri, 02 Jan 2026 03:04:05 GMT`.
-/

namespace HttpRouter.Calendar.HttpDate

/-- The names of the days of the week, Monday first. -/
def dayNames : List String :=
  ["Mon", "Tue", "Wed", "Thu", "Fri", "Sat", "Sun"]

/-- The names of the months. -/
def monthNames : List String :=
  ["Jan", "Feb", "Mar", "Apr", "May", "Jun", "Jul", "Aug", "Sep", "Oct", "Nov", "Dec"]

/-- Writes what a clock in universal time shows. -/
def writeUniversal (m : Moment) : String :=
  dayNames.getD m.date.weekday "" ++ ", " ++ twoDigits m.date.day ++ " " ++ monthNames.getD (m.date.month - 1) "" ++ " " ++
    fourDigits m.date.year ++ " " ++ twoDigits m.hour ++ ":" ++ twoDigits m.minute ++ ":" ++ twoDigits m.second ++ " GMT"

/-- Writes a moment, unless it lies outside the calendar in universal time. -/
def write (m : Moment) : Except Fault String :=
  match m.universal? with
  | some u => .ok (writeUniversal u)
  | none => .error (.incidental .overflow "date value out of range")

end HttpRouter.Calendar.HttpDate
