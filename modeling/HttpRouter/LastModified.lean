import HttpRouter.Calendar.HttpDate
import HttpRouter.Calendar.IsoDate
import HttpRouter.Calendar.MailDate
import HttpRouter.Value
import HttpRouter.Words

/-!
# Last-modified times

A last-modified time may be given as a moment, a date, seconds since 1970, or a text in one of the date formats. All of
them are brought into the form of an HTTP date. A value that counts as nothing means that there is no such time.
-/

namespace HttpRouter.LastModified

open Calendar (Moment Date)

/-- The number of the first of January 1970. -/
def epochDay : Nat := Calendar.yearStart 1970

/-- Seconds and microseconds since the first of January 1970 as a moment in universal time. -/
def ofSeconds (seconds : Int) (micro : Nat) : Except Fault Moment :=
  if !Words.fits Words.limit64 seconds then
    .error (.incidental .overflow "timestamp out of range for platform time_t")
  else
    let clock := epochDay * (86400 : Int) + seconds
    let year := yearOf (clock.fdiv 86400)
    if !Words.fits Words.limit32 (year - 1900) then
      .error (.incidental .system "[Errno 75] Value too large for defined data type")
    else if year < 1 ∨ Calendar.lastYear < year then
      .error (.incidental .value ("year " ++ toString year ++ " is out of range"))
    else .ok (Moment.ofClock (clock.toNat * Calendar.perSecond + micro) (some 0))
where
  /-- The year of any day, before year 1 by cycles of four hundred years. -/
  yearOf (day : Int) : Int :=
    let cycle := day.fdiv 146097
    cycle * 400 + Date.yearOfNumber (day.fmod 146097).toNat

/-- A double as seconds and microseconds: the fraction is rounded to microseconds, halves to the even one. -/
def secondsOfFloat (b : Decimal.Binary) (x : Float) : Int × Nat :=
  let whole := b.truncated
  let micros := match Decimal.decode ((x - Float.ofInt whole) * 1000000.0) with
    | .finite f => f.signed (Decimal.roundHalfEven f.numerator f.denominator)
    | _ => 0
  let total := whole * Calendar.perSecond + micros
  (total.fdiv Calendar.perSecond, (total.fmod Calendar.perSecond).toNat)

/-- A number of seconds that is not whole as a moment. -/
def ofFloat (x : Float) : Except Fault Moment :=
  match Decimal.decode x with
  | .nan => .error (.incidental .value "Invalid value NaN (not a number)")
  | .infinite _ => .error (.incidental .overflow "timestamp out of range for platform time_t")
  | .finite b =>
    let (seconds, micro) := secondsOfFloat b x
    ofSeconds seconds micro

/-- The places in an ISO text at which the letter between date and time may stand. -/
def dividers : List Nat := [7, 8, 10]

/-- The characters of an ISO text. The letter between date and time need not be one. -/
def isoChars? (s : Letters) : Option (List Char) :=
  match dividers.find? fun place => s[place]?.any fun l => l.char?.isNone with
  | some place => Text.plain? (s.set place 'T')
  | none => Text.plain? s

/-- A text in one of the date formats as a moment. A letter that is no character is like any other sign that has no
meaning in a mail date. -/
def ofText (s : Letters) : Except Fault Moment :=
  match Calendar.MailDate.read (s.map fun l => l.char?.getD Text.Utf8.replacement) with
  | .ok m => .ok m
  | .error (.tooLarge text) => .error (.incidental .overflow text)
  | .error .notADate =>
    match (isoChars? s).elim (.error .form) Calendar.IsoDate.read with
    | .ok m => .ok m
    | .error .form => .error (.incidental .value ("Invalid isoformat string: " ++ Text.Quoted.text s))
    | .error (.range e) => .error (.incidental .value e.message)

/-- The HTTP date of a last-modified value, if it has one. -/
def toHttpDate (v : Value) : Except Fault (Option String) :=
  if !v.isTruthy then .ok none
  else do
    let m ← match v with
      | .moment m => pure m
      | .date d => pure ⟨d, 0, 0, 0, 0, some 0⟩
      | .int n => ofSeconds n 0
      | .float x => ofFloat x
      | .text s => ofText s
      | v => throw (.declare .type ("Unsupported last-modified value: " ++ v.written))
    return some (← Calendar.HttpDate.write m)

end HttpRouter.LastModified
