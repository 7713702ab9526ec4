import HttpRouter.Calendar.Moment
import HttpRouter.Text.Digit

/-!
# ISO dates

Reads the ISO 8601 forms: a date by month or by week, in the basic or the extended form, then any one character, a time
of day and an offset. A time is two digits for each part, the parts all separated by colons or not at all, then a
fraction of which six digits count.
-/

namespace HttpRouter.Calendar.IsoDate

open Text (asciiDigit?)

/-- What can be wrong with a text: its form, or the range of a part. -/
inductive ReadError where
  | form
  | range (e : Moment.RangeError)
deriving DecidableEq, Repr

/-- Reads exactly `count` digits after those that amount to `value`. -/
def digits (value : Nat) : Nat → List Char → Option (Nat × List Char)
  | 0, s => some (value, s)
  | _ + 1, [] => none
  | count + 1, c :: s => do digits (10 * value + (← asciiDigit? c)) count s

/-- Where the date ends, in a text of at least seven characters. -/
def dateLength (s : List Char) : Option Nat :=
  let at? := fun n => s[n]?
  let isDigitAt := fun n => ((at? n).bind asciiDigit?).isSome
  if s.length = 7 then some 7
  else if at? 4 = some '-' then
    if at? 5 = some 'W' then
      if at? 8 = some '-' then
        if s.length = 9 then none
        else if isDigitAt 10 then some 8 else some 10
      else some 8
    else some 10
  else if at? 4 = some 'W' then
    let stop := 7 + ((s.drop 7).takeWhile fun c => (asciiDigit? c).isSome).length
    if stop < 9 then some stop else if stop % 2 = 0 then some 7 else some 8
  else some 8

/-- The number of the Monday of the first week of a year, the one that holds the fourth of January. -/
def firstMonday (year : Nat) : Int :=
  let start := yearStart year
  let weekday := start % 7
  (start : Int) - weekday + if weekday ≤ 3 then 0 else 7

/-- Whether a year has a given week. -/
def hasWeek (year week : Nat) : Bool :=
  1 ≤ week && (week ≤ 52 ||
    (week == 53 && (yearStart year % 7 == 3 || (yearStart year % 7 == 2 && isLeap year))))

/-- A date as year, month and day, not yet checked. -/
abbrev RawDate := Int × Int × Int

/-- The date of a day of a week. -/
def ofWeek (year week day : Nat) : Option RawDate :=
  if !hasWeek year week then none
  else if day = 0 ∨ 8 ≤ day then none
  else
    let n := firstMonday year + (week - 1) * 7 + (day - 1)
    if n < 0 then some (0, 12, 31)
    else let d := Date.ofNumber n.toNat; some (d.year, d.month, d.day)

/-- Reads a date that takes up the whole text. -/
def date (s : List Char) : Option RawDate := do
  let (year, s) ← digits 0 4 s
  let (separated, s) := match s with
    | '-' :: s => (true, s)
    | s => (false, s)
  match s with
  | 'W' :: s =>
    let (week, s) ← digits 0 2 s
    match separated, s with
    | _, [] => ofWeek year week 1
    | true, '-' :: s => do let (day, _) ← digits 0 1 s; ofWeek year week day
    | true, _ => none
    | false, s => do let (day, _) ← digits 0 1 s; ofWeek year week day
  | s =>
    let (month, s) ← digits 0 2 s
    let s ← match separated, s with
      | true, '-' :: s => some s
      | true, _ => none
      | false, s => some s
    let (day, s) ← digits 0 2 s
    if s.isEmpty then some (year, month, day) else none

/-- A time of day, and whether characters were left over where a sign may follow. -/
structure Clock where
  hour : Nat
  minute : Nat
  second : Nat
  micro : Nat
  leftover : Bool

/-- Reads a fraction of a second: six digits count, and more may follow. -/
def fraction (s : List Char) (follow : Bool) : Option (Nat × Bool) := do
  let count := min s.length 6
  let (n, s) ← digits 0 count s
  let s := s.dropWhile fun c => (asciiDigit? c).isSome
  return (n * Nat.pow 10 (6 - count), match s with
    | [] => follow
    | c :: _ => c != '\x00')

/-- Whether a character is a decimal mark. -/
def isMark (c : Char) : Bool :=
  c == '.' || c == ','

/-- Reads what may follow the parts of a time read so far: nothing, one odd ASCII character, or a fraction; otherwise `more`
goes on with the next part. -/
def clockFrom (hour minute second : Nat) (s : List Char) (follow : Bool) (more : Option Clock) : Option Clock :=
  match s with
  | [] => some ⟨hour, minute, second, 0, follow⟩
  | [c] => if c.toNat < 0x80 then some ⟨hour, minute, second, 0, c != '\x00'⟩ else none
  | c :: s =>
    if isMark c then (fraction s follow).map fun (micro, leftover) => ⟨hour, minute, second, micro, leftover⟩
    else more

/-- Reads a time of day that ends at a sign (`follow`) or at the end of the text. The parts are separated by colons if
the first two are. At most one odd character, or any after six digits of a fraction, are left over. A colon may stand
for the decimal mark, and without colons the fraction needs no mark. -/
def clock (s : List Char) (follow : Bool) : Option Clock := do
  let (hour, s) ← digits 0 2 s
  let colons := s.head? == some ':'
  clockFrom hour 0 0 s follow do
    let (minute, s) ← digits 0 2 (if colons then s.tail else s)
    clockFrom hour minute 0 s follow do
      guard (!colons || s.head? == some ':')
      let (second, s) ← digits 0 2 (if colons then s.tail else s)
      clockFrom hour minute second s follow do
        guard (!colons || s.head? == some ':')
        let (micro, leftover) ← fraction (if colons then s.tail else s) follow
        return ⟨hour, minute, second, micro, leftover⟩

/-- Whether a character starts an offset. -/
def startsOffset (c : Char) : Bool :=
  c == '+' || c == '-' || c == 'Z'

/-- Reads a time of day and an offset in microseconds. -/
def timeAndOffset (s : List Char) : Option (Clock × Option Int) := do
  let time := s.takeWhile fun c => !startsOffset c
  match s.dropWhile fun c => !startsOffset c with
  | [] =>
    let t ← clock time false
    if t.leftover then none else return (t, none)
  | sign :: zone =>
    let t ← clock time true
    if sign = 'Z' then
      if zone.head?.all (· == '\x00') then return (t, some 0) else none
    else
      let z ← clock zone false
      if z.leftover then none
      let micros : Int := ((z.hour * 60 + z.minute) * 60 + z.second) * perSecond + z.micro
      return (t, some (if sign = '-' then -micros else micros))

/-- Reads a moment. -/
def read (s : List Char) : Except ReadError Moment := do
  let form := fun {α : Type} (x : Option α) => (x.elim (.error .form) .ok : Except ReadError α)
  if s.length < 7 then throw .form
  let length ← form (dateLength s)
  let (year, month, day) ← form (date (s.take length))
  let (t, offset) ← form <| match s.drop length with
    | [] => some (⟨0, 0, 0, 0, false⟩, none)
    | _ :: time => timeAndOffset time
  let range := fun {α : Type} (x : Except Moment.RangeError α) => x.mapError ReadError.range
  let offset ← match offset with
    | none => pure none
    | some o => do pure (some (← range (Moment.checkedOffset o)))
  range (Moment.checked year month day t.hour t.minute t.second t.micro offset)

end HttpRouter.Calendar.IsoDate
