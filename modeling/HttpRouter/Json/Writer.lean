import HttpRouter.Fault
import HttpRouter.Text.Digit
import HttpRouter.Value

/-!
# Writing JSON

Values as JSON in ASCII: every other character is escaped, those outside the first plane as two units, and so is half of
a surrogate pair that stands alone. A list and a tuple are both written as an array. A value that JSON has no form for is
written as its text, and a key has to be a text, a number, a truth value or null. Whole numbers of any size can be
written, but are not where they may come from anywhere: a number with too many digits is refused there, as it is when it
is read.
-/

namespace HttpRouter.Json

open Text (digitLimit)
open Text.Quoted (hex)

/-- The escape of one unit of 16 bits. -/
def unit (n : Nat) : List Char :=
  '\\' :: 'u' :: hex 4 n

/-- One character of a JSON text. -/
def encodeChar (c : Char) : List Char :=
  if c = '"' ∨ c = '\\' then ['\\', c]
  else if c = '\n' then ['\\', 'n']
  else if c = '\r' then ['\\', 'r']
  else if c = '\t' then ['\\', 't']
  else if c = '\x08' then ['\\', 'b']
  else if c = '\x0c' then ['\\', 'f']
  else if 0x20 ≤ c.toNat ∧ c.toNat < 0x7f then [c]
  else if c.toNat < 0x10000 then unit c.toNat
  else
    let n := c.toNat - 0x10000
    unit (0xd800 + n / 0x400) ++ unit (0xdc00 + n % 0x400)

/-- One letter of a JSON text. -/
def encodeLetter : Letter → List Char
  | .char c => encodeChar c
  | .lone half => unit (Letter.lone half).toNat

/-- A JSON text. -/
def encode (s : Letters) : List Char :=
  '"' :: s.flatMap encodeLetter ++ ['"']

/-- A number as JSON writes it; not all doubles are numbers in JSON proper. -/
def floatText (x : Float) : String :=
  match Decimal.decode x with
  | .nan => "NaN"
  | .infinite negative => if negative then "-Infinity" else "Infinity"
  | .finite _ => Decimal.floatText x

/-- A whole number in decimal. -/
def wholeText (n : Int) : Except Fault String :=
  .ok (toString n)

/-- A whole number in decimal; one with too many digits is not written. -/
def limitedText (n : Int) : Except Fault String :=
  if digitLimit < (Nat.toDigits 10 n.natAbs).length then
    .error (.incidental .value
      ("Exceeds the limit (" ++ toString digitLimit ++ " digits) for integer string conversion"))
  else wholeText n

section Values

variable (whole : Int → Except Fault String)

/-- A key of a mapping, as text. -/
def keyWith : Value → Except Fault Letters
  | .text s => .ok s
  | .int n => (whole n).map Text.ofString
  | .float x => .ok (floatText x)
  | .bool b => .ok (if b then "true" else "false")
  | .null => .ok "null"
  | v => .error (.incidental .type ("keys must be str, int, float, bool or None, not " ++ v.sortName))

mutual

/-- A value as JSON, its whole numbers written as given. -/
def writeWith : Value → Except Fault (List Char)
  | .null => .ok "null".toList
  | .bool b => .ok (if b then "true" else "false").toList
  | .int n => (whole n).map String.toList
  | .float x => .ok (floatText x).toList
  | .list items | .tuple items => do
    return '[' :: Text.joinWith [',', ' '] (← writeItems items) ++ [']']
  | .mapping entries => do
    return '\x7b' :: Text.joinWith [',', ' '] (← writeEntries entries) ++ ['\x7d']
  | v => .ok (encode v.shown)

/-- The items of an array. -/
def writeItems : List Value → Except Fault (List (List Char))
  | [] => .ok []
  | item :: rest => do return (← writeWith item) :: (← writeItems rest)

/-- The entries of an object. -/
def writeEntries : List (Value × Value) → Except Fault (List (List Char))
  | [] => .ok []
  | (k, v) :: rest => do
    let k ← keyWith whole k
    return (encode k ++ [':', ' '] ++ (← writeWith v)) :: (← writeEntries rest)

end

end Values

/-- A value as JSON. -/
def write (v : Value) : Except Fault (List Char) :=
  writeWith limitedText v

end HttpRouter.Json
