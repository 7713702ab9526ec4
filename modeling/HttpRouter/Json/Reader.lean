import HttpRouter.Decimal.Fixed
import HttpRouter.Text.Digit
import HttpRouter.Value

/-!
# Reading JSON

Reads one JSON value with blanks around it. Besides the grammar of JSON the three names `NaN`, `Infinity` and
`-Infinity` are read as numbers. A key that comes twice keeps its first place and takes the last value. Texts are read as
letters, since an escape may stand for half of a surrogate pair alone.
-/

namespace HttpRouter.Json

open Text (asciiDigit? digitLimit)

/-- Why a text is not read: its form, or a whole number with too many digits. -/
inductive ReadError where
  | form
  | tooManyDigits
deriving DecidableEq, Repr

/-- Whether a character is a blank of JSON. -/
def isBlank (c : Char) : Bool :=
  c == ' ' || c == '\t' || c == '\n' || c == '\r'

/-- Drops blanks. -/
def skip (s : List Char) : List Char :=
  s.dropWhile isBlank

/-- The value of four hex digits. -/
def unit? : List Char → Option (Nat × List Char)
  | a :: b :: c :: d :: s => do
    let n ← [a, b, c, d].foldlM (fun n h => do return n * 16 + (← digit? h)) 0
    return (n, s)
  | _ => none
where
  /-- The value of a hex digit. -/
  digit? (h : Char) : Option Nat :=
    if '0' ≤ h ∧ h ≤ '9' then some (h.toNat - 48)
    else if 'a' ≤ h ∧ h ≤ 'f' then some (h.toNat - 87)
    else if 'A' ≤ h ∧ h ≤ 'F' then some (h.toNat - 55)
    else none

/-- The character that a letter after a backslash stands for. -/
def simpleEscape? (c : Char) : Option Char :=
  [('"', '"'), ('\\', '\\'), ('/', '/'), ('b', '\x08'), ('f', '\x0c'), ('n', '\n'), ('r', '\r'), ('t', '\t')].lookup c

/-- Whether a unit is the first of a pair. -/
def isHigh (n : Nat) : Bool :=
  0xd800 ≤ n && n < 0xdc00

/-- Whether a unit is the second of a pair. -/
def isLow (n : Nat) : Bool :=
  0xdc00 ≤ n && n < 0xe000

/-- The letter of a single unit; half a pair is no character. -/
def ofUnit (n : Nat) : Letter :=
  if isHigh n || isLow n then .lone (Fin.ofNat 0x800 (n - 0xd800)) else Char.ofNat n

/-- Reads the letter that an escape of units stands for. -/
def escapedUnit? (s : List Char) : Option (Letter × List Char) := do
  let (n, s) ← unit? s
  match s with
  | '\\' :: 'u' :: t =>
    if isHigh n then
      match unit? t with
      | some (m, t) =>
        if isLow m then return (.char (Char.ofNat (0x10000 + (n - 0xd800) * 0x400 + (m - 0xdc00))), t)
        else return (ofUnit n, s)
      | none => return (ofUnit n, s)
    else return (ofUnit n, s)
  | s => return (ofUnit n, s)

/-- Reads a text up to its closing quote. -/
def readText : Nat → List Char → Option (Letters × List Char)
  | 0, _ => none
  | _ + 1, [] => none
  | _ + 1, '"' :: s => some ([], s)
  | fuel + 1, '\\' :: 'u' :: s => do
    let (c, s) ← escapedUnit? s
    let (cs, s) ← readText fuel s
    return (c :: cs, s)
  | fuel + 1, '\\' :: e :: s => do
    let c ← simpleEscape? e
    let (cs, s) ← readText fuel s
    return (.char c :: cs, s)
  | fuel + 1, c :: s =>
    if c = '\\' ∨ c.toNat < 0x20 then none
    else do
      let (cs, s) ← readText fuel s
      return (.char c :: cs, s)

/-- Splits off the digits in front. -/
def digits (s : List Char) : List Char × List Char :=
  (s.takeWhile fun c => (asciiDigit? c).isSome, s.dropWhile fun c => (asciiDigit? c).isSome)

/-- The number that digits amount to. -/
def amount (s : List Char) : Nat :=
  s.foldl (fun n c => 10 * n + (asciiDigit? c).getD 0) 0

/-- The digits of a fraction after its point, if there is one. -/
def fraction (s : List Char) : List Char × List Char :=
  match s with
  | '.' :: t => if (digits t).1.isEmpty then ([], s) else digits t
  | _ => ([], s)

/-- The value of an exponent, if there is one. -/
def exponent (s : List Char) : Option Int × List Char :=
  match s with
  | e :: t =>
    if e = 'e' ∨ e = 'E' then
      let (negative, t) := match t with
        | '-' :: t => (true, t)
        | '+' :: t => (false, t)
        | t => (false, t)
      let (ds, rest) := digits t
      if ds.isEmpty then (none, s) else (some (if negative then -(amount ds : Int) else amount ds), rest)
    else (none, s)
  | [] => (none, s)

/-- Reads a number without its sign. -/
def readNumber (negative : Bool) (s : List Char) : Except ReadError (Value × List Char) :=
  let (whole, s) := match s with
    | '0' :: s => (['0'], s)
    | s => digits s
  if whole.isEmpty then .error .form
  else
    let (places, s) := fraction s
    let (e, s) := exponent s
    if places.isEmpty ∧ e.isNone then
      if digitLimit < whole.length then .error .tooManyDigits
      else .ok (.int (if negative then -(amount whole : Int) else amount whole), s)
    else
      let x := Decimal.nearest (amount (whole ++ places)) (e.getD 0 - places.length)
      .ok (.float (if negative then -x else x), s)

/-- Reads a name that stands for a value. -/
def readName (s : List Char) : Except ReadError (Value × List Char) :=
  let names : List (String × Value) :=
    [("null", .null), ("true", .bool true), ("false", .bool false), ("NaN", .float (0.0 / 0.0)),
      ("Infinity", .float (1.0 / 0.0)), ("-Infinity", .float (-1.0 / 0.0))]
  match names.find? fun n => n.1.toList.isPrefixOf s with
  | some (name, v) => .ok (v, s.drop name.length)
  | none =>
    match s with
    | '-' :: s => readNumber true s
    | s => readNumber false s

/-- Reads a key and the colon behind it. -/
def readKey (s : List Char) : Option (Letters × List Char) :=
  match s with
  | '"' :: s => do
    let (k, s) ← readText (s.length + 1) s
    match skip s with
    | ':' :: s => some (k, skip s)
    | _ => none
  | _ => none

mutual

/-- Reads a value, at most `fuel` levels of items deep and wide. -/
def readValue : Nat → List Char → Except ReadError (Value × List Char)
  | 0, _ => .error .form
  | fuel + 1, s =>
    match s with
    | '"' :: s =>
      match readText (s.length + 1) s with
      | some (cs, s) => .ok (.text cs, s)
      | none => .error .form
    | '[' :: s =>
      match skip s with
      | ']' :: s => .ok (.list [], s)
      | s => do
        let (items, s) ← readItems fuel s
        return (.list items, s)
    | '\x7b' :: s =>
      match skip s with
      | '\x7d' :: s => .ok (.mapping [], s)
      | s => do
        let (entries, s) ← readEntries fuel s
        return (.mapping (Fields.ofPairs entries), s)
    | s => readName s

/-- Reads the items of an array that has some, and its end. -/
def readItems : Nat → List Char → Except ReadError (List Value × List Char)
  | 0, _ => .error .form
  | fuel + 1, s => do
    let (item, s) ← readValue fuel s
    match skip s with
    | ',' :: s =>
      let (items, s) ← readItems fuel (skip s)
      return (item :: items, s)
    | ']' :: s => return ([item], s)
    | _ => throw .form

/-- Reads the entries of an object that has some, and its end. -/
def readEntries : Nat → List Char → Except ReadError (List (Value × Value) × List Char)
  | 0, _ => .error .form
  | fuel + 1, s => do
    match readKey s with
    | none => throw .form
    | some (k, s) =>
      let (v, s) ← readValue fuel s
      match skip s with
      | ',' :: s =>
        let (entries, s) ← readEntries fuel (skip s)
        return ((.text k, v) :: entries, s)
      | '\x7d' :: s => return ([(.text k, v)], s)
      | _ => throw .form

end

/-- Reads a text that is one JSON value. -/
def read (s : List Char) : Except ReadError Value := do
  let (v, rest) ← readValue (s.length + 1) (skip s)
  if (skip rest).isEmpty then return v else throw .form

end HttpRouter.Json
