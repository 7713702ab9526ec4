import HttpRouter.Calendar.Moment
import HttpRouter.Text.Case
import HttpRouter.Text.Digit
import HttpRouter.Words

/-!
# Mail dates

Reads the dates of mail and HTTP headers, leniently: the day of the week may be missing or wrong, day and month may be
exchanged, year and time too, years may have two digits, and the zone may be a name, a signed number or missing.
-/

namespace HttpRouter.Calendar.MailDate

open Text (lower upper words splitOn integer? isDigit)

/-- The names of the days, in lower case. -/
def dayNames : List String :=
  ["mon", "tue", "wed", "thu", "fri", "sat", "sun"]

/-- The names of the months, in lower case, each with its number. -/
def monthNumbers : List (String × Nat) :=
  [("jan", 1), ("feb", 2), ("mar", 3), ("apr", 4), ("may", 5), ("jun", 6), ("jul", 7), ("aug", 8), ("sep", 9),
   ("oct", 10), ("nov", 11), ("dec", 12), ("january", 1), ("february", 2), ("march", 3), ("april", 4), ("june", 6),
   ("july", 7), ("august", 8), ("september", 9), ("october", 10), ("november", 11), ("december", 12)]

/-- The named zones, as hours times a hundred and minutes. -/
def zones : List (String × Int) :=
  [("UT", 0), ("UTC", 0), ("GMT", 0), ("Z", 0), ("AST", -400), ("ADT", -300), ("EST", -500), ("EDT", -400),
   ("CST", -600), ("CDT", -500), ("MST", -700), ("MDT", -600), ("PST", -800), ("PDT", -700)]

/-- Why a text is not read: it is no date, or a number in it is far too large. -/
inductive ReadError where
  | notADate
  | tooLarge (text : String)
deriving DecidableEq, Repr

/-- The number of a month name. -/
def month? (s : List Char) : Option Nat :=
  monthNumbers.lookup (String.ofList (lower s))

/-- The five parts of a date, as they are written. -/
structure Parts where
  day : List Char
  month : List Char
  year : List Char
  time : List Char
  zone : List Char

/-- What follows the last comma, or the whole text. -/
def afterComma (s : List Char) : List Char :=
  (s.reverse.takeWhile (· != ',')).reverse

/-- Drops one comma from the end. -/
def dropComma (s : List Char) : List Char :=
  if s.getLast? = some ',' then s.dropLast else s

/-- The words without the day of the week. -/
def withoutDayName : List (List Char) → List (List Char)
  | [] => []
  | w :: rest =>
    if w.getLast? = some ',' ∨ String.ofList (lower w) ∈ dayNames then rest else afterComma w :: rest

/-- Splits a time from the offset written right behind it, by the first `+`, or else by the first `-`. -/
def splitOffset (s : List Char) : List (List Char) :=
  let sign := if s.contains '+' then '+' else '-'
  let time := s.takeWhile (· != sign)
  if s.contains sign ∧ !time.isEmpty then [time, s.drop time.length] else [s, []]

/-- The parts of a date in words. A first word `day-month-year` counts for three. -/
def parts? (ws : List (List Char)) : Option Parts :=
  let ws := match withoutDayName ws with
    | [w, time, zone] => if (splitOn '-' w).length = 3 then splitOn '-' w ++ [time, zone] else [w, time, zone]
    | [a, b, c, d] => a :: b :: c :: splitOffset d
    | ws => ws
  match ws with
  | day :: month :: year :: time :: zone :: _ => some ⟨day, month, year, time, zone⟩
  | _ => none

/-- The parts of a time of day. -/
def timeParts? (s : List Char) : Option (List Char × List Char × List Char) :=
  match splitOn ':' s with
  | [h, m] => some (h, m, ['0'])
  | [h, m, sec] => some (h, m, sec)
  | [_] => match splitOn '.' s with
    | [h, m] => some (h, m, ['0'])
    | [h, m, sec] => some (h, m, sec)
    | _ => none
  | _ => none

/-- A year of fewer than three digits lies between 1969 and 2068. -/
def fullYear (year : Int) : Int :=
  if 100 ≤ year then year else if 68 < year then year + 1900 else year + 2000

/-- The offset in seconds that a zone names, if it names one; a negative zero names none. -/
def zoneSeconds? (s : List Char) : Option Int :=
  let zone := upper s
  let hundreds := match zones.lookup (String.ofList zone) with
    | some n => some n
    | none => match integer? zone with
      | some 0 => if zone.head? = some '-' then none else some 0
      | n => n
  hundreds.map fun n =>
    let seconds : Int := (n.natAbs / 100 * 3600 + n.natAbs % 100 * 60 : Nat)
    if n < 0 then -seconds else seconds

/-- Numbers that fit into 32 bits. -/
def fits (n : Int) : Except ReadError Unit :=
  if Words.fits Words.limit32 n then .ok ()
  else if !Words.fits Words.limit64 n then .error (.tooLarge "number too large for a word")
  else if n < 0 then .error (.tooLarge "signed integer is less than minimum")
  else .error (.tooLarge "signed integer is greater than maximum")

/-- An offset in seconds as an offset in microseconds. -/
def offsetMicros (seconds : Int) : Except ReadError Int := do
  let days := seconds.fdiv 86400
  if !Words.fits Words.limit32 days then
    throw (.tooLarge "number too large for a word")
  if 999999999 < days.natAbs then
    throw (.tooLarge ("days=" ++ toString days ++ "; must have magnitude <= 999999999"))
  (Moment.checkedOffset (seconds * perSecond)).mapError fun _ => .notADate

/-- The numbers of a date: year, month, day, hour, minute, second, and the zone as it is written. -/
def numbers? (p : Parts) : Option (List Int × List Char) := do
  guard (!p.day.isEmpty && !p.month.isEmpty && !p.year.isEmpty)
  let (day, month) ← match month? p.month with
    | some m => some (p.day, m)
    | none => (month? p.day).map (p.month, ·)
  let (year, time) := if p.year.contains ':' && p.year.head? != some ':' then (p.time, p.year) else (p.year, p.time)
  let year := dropComma year
  guard (!year.isEmpty)
  let (year, zone) := if year.head?.all isDigit then (year, p.zone) else (p.zone, year)
  let (h, m, s) ← timeParts? (dropComma time)
  return ([fullYear (← integer? year), month, ← integer? (dropComma day), ← integer? h, ← integer? m, ← integer? s],
    zone)

/-- Reads a moment. -/
def read (s : List Char) : Except ReadError Moment := do
  match ((parts? (words s)).bind numbers?) with
  | some ([year, month, day, hour, minute, second], zone) =>
    let offset ← match zoneSeconds? zone with
      | none => pure none
      | some seconds => do pure (some (← offsetMicros seconds))
    fits year; fits day; fits hour; fits minute; fits second
    (Moment.checked year month day hour minute second 0 offset).mapError fun _ => .notADate
  | _ => throw .notADate

end HttpRouter.Calendar.MailDate
