import HttpRouter.Text.Letter
import HttpRouter.Text.Printable

/-!
# Quoted text

How texts and octets are shown inside messages: between quotes, with escapes for the quote, the backslash and whatever
cannot be printed, so that every text is shown by characters. The quote is single unless the text holds single quotes
and no double ones.
-/

namespace HttpRouter.Text.Quoted

/-- The quote for a text: double if it holds single quotes and no double ones. -/
def quoteFor (s : Letters) : Char :=
  if s.contains '\'' && !s.contains '"' then '"' else '\''

/-- The digit of a value below sixteen, in lower case. -/
def hexDigit (n : Nat) : Char :=
  Char.ofNat (if n < 10 then 48 + n else 87 + n)

/-- The last `width` hex digits of a number. -/
def hex : Nat → Nat → List Char
  | 0, _ => []
  | width + 1, n => hex width (n / 16) ++ [hexDigit (n % 16)]

@[simp] theorem length_hex (width n : Nat) : (hex width n).length = width := by
  induction width generalizing n with
  | zero => rfl
  | succ width ih => simp [hex, ih]

/-- One character between quotes `quote`. -/
def encodeChar (quote c : Char) : List Char :=
  if c = quote ∨ c = '\\' then ['\\', c]
  else if c = '\n' then ['\\', 'n']
  else if c = '\r' then ['\\', 'r']
  else if c = '\t' then ['\\', 't']
  else if isPrintable c then [c]
  else if c.toNat < 0x100 then '\\' :: 'x' :: hex 2 c.toNat
  else if c.toNat < 0x10000 then '\\' :: 'u' :: hex 4 c.toNat
  else '\\' :: 'U' :: hex 8 c.toNat

/-- One letter between quotes `quote`. -/
def encodeLetter (quote : Char) : Letter → List Char
  | .char c => encodeChar quote c
  | .lone half => '\\' :: 'u' :: hex 4 (Letter.lone half).toNat

/-- A text between quotes. -/
def encode (s : Letters) : List Char :=
  let quote := quoteFor s
  quote :: s.flatMap (encodeLetter quote) ++ [quote]

/-- One octet between quotes `quote`. -/
def encodeOctet (quote : Char) (b : UInt8) : List Char :=
  if b < 0x7f then encodeChar quote (Char.ofNat b.toNat) else '\\' :: 'x' :: hex 2 b.toNat

/-- Octets between quotes, marked as octets. -/
def encodeOctets (octets : List UInt8) : List Char :=
  let quote := quoteFor (octets.map fun b => Char.ofNat b.toNat)
  'b' :: quote :: octets.flatMap (encodeOctet quote) ++ [quote]

/-- A text between quotes, as a string. -/
def text (s : Letters) : String :=
  String.ofList (encode s)

end HttpRouter.Text.Quoted
