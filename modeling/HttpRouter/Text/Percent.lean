import HttpRouter.Text.Letter
import HttpRouter.Text.Utf8

/-!
# Percent coding

Text in a path: the characters that are not safe are written as `%` and two upper-case hex digits per octet of their
UTF-8 form. Reading takes hex digits of either case, leaves a `%` that starts no escape alone, and reads the octets
between two characters outside ASCII together. A letter that is no character is left alone too.
-/

namespace HttpRouter.Text.Percent

/-- The digit of a value below sixteen, in upper case. -/
def hexDigit (n : Nat) : Char :=
  Char.ofNat (if n < 10 then 48 + n else 55 + n)

/-- The value of a hex digit of either case. -/
def hexValue? (c : Char) : Option Nat :=
  if '0' ≤ c ∧ c ≤ '9' then some (c.toNat - 48)
  else if 'A' ≤ c ∧ c ≤ 'F' then some (c.toNat - 55)
  else if 'a' ≤ c ∧ c ≤ 'f' then some (c.toNat - 87)
  else none

/-- The escape of one octet. -/
def escape (b : UInt8) : List Char :=
  ['%', hexDigit (b.toNat / 16), hexDigit (b.toNat % 16)]

/-- The characters that are never escaped. -/
def isUnreserved (c : Char) : Bool :=
  ('a' ≤ c ∧ c ≤ 'z') || ('A' ≤ c ∧ c ≤ 'Z') || ('0' ≤ c ∧ c ≤ '9') || c == '_' || c == '.' || c == '-' || c == '~'

/-- One character, escaped unless it is unreserved or in `safe`. -/
def encodeChar (safe : List Char) (c : Char) : List Char :=
  if isUnreserved c || safe.contains c then [c] else (Utf8.encodeChar c).flatMap escape

/-- Escapes every character that is neither unreserved nor in `safe`, which holds ASCII characters. -/
def encode (safe : List Char) (s : List Char) : List Char :=
  s.flatMap (encodeChar safe)

/-- Escapes letters: each character as `encode` does. A letter that is no character has no octets and stays. -/
def encodeLetters (safe : List Char) (s : Letters) : Letters :=
  s.flatMap fun
    | .char c => ofChars (encodeChar safe c)
    | .lone half => [.lone half]

/-- **Among characters, letters are escaped as characters are.** -/
theorem encodeLetters_ofChars (safe s : List Char) : encodeLetters safe (ofChars s) = ofChars (encode safe s) := by
  induction s with
  | nil => rfl
  | cons c s ih =>
    rw [encodeLetters, ofChars_cons, List.flatMap_cons, encode, List.flatMap_cons, ofChars_append]
    exact congrArg (ofChars (encodeChar safe c) ++ ·) ih

theorem encodeLetters_append (safe : List Char) (s t : Letters) :
    encodeLetters safe (s ++ t) = encodeLetters safe s ++ encodeLetters safe t :=
  List.flatMap_append

theorem hexValue?_hexDigit : ∀ n < 16, hexValue? (hexDigit n) = some n := by decide

@[simp] theorem encode_nil (safe : List Char) : encode safe [] = [] := rfl

@[simp] theorem encode_cons (safe : List Char) (c : Char) (s : List Char) :
    encode safe (c :: s) = encodeChar safe c ++ encode safe s := rfl

@[simp] theorem encode_append (safe s t : List Char) : encode safe (s ++ t) = encode safe s ++ encode safe t :=
  List.flatMap_append

/-- The octet that two characters after a `%` stand for. -/
def octet? (h l : Char) : Option UInt8 := do
  let high ← hexValue? h
  let low ← hexValue? l
  return (high * 16 + low).toUInt8

/-- Reads text with escapes, from a given state of the octet reader on. -/
def decodeFrom (state : Utf8.State) : List Char → List Char
  | [] => Utf8.finish state
  | '%' :: h :: l :: rest =>
    match octet? h l with
    | some b => let (cs, state) := Utf8.feed state b; cs ++ decodeFrom state rest
    | none => let (cs, state) := Utf8.feed state 0x25; cs ++ decodeFrom state (h :: l :: rest)
  | c :: rest =>
    if c.toNat < 0x80 then let (cs, state) := Utf8.feed state c.toNat.toUInt8; cs ++ decodeFrom state rest
    else Utf8.finish state ++ c :: decodeFrom none rest

/-- Reads text with escapes. -/
def decode (s : List Char) : List Char :=
  decodeFrom none s

/-- Reads letters with escapes, behind characters that are read along with those in front: each run of characters is read
by itself. -/
def decodeRun (run : List Char) : Letters → Letters
  | [] => ofChars (decode run)
  | .char c :: s => decodeRun (run ++ [c]) s
  | .lone half :: s => ofChars (decode run) ++ .lone half :: decodeRun [] s

/-- Reads letters with escapes. -/
def decodeLetters (s : Letters) : Letters :=
  decodeRun [] s

/-- **Among characters, letters are read as characters are.** -/
theorem decodeLetters_ofChars (s : List Char) : decodeLetters (ofChars s) = ofChars (decode s) := by
  suffices h : ∀ run, decodeRun run (ofChars s) = ofChars (decode (run ++ s)) from h []
  induction s with
  | nil => exact fun run => by rw [List.append_nil]; rfl
  | cons c s ih =>
    intro run
    rw [ofChars_cons, decodeRun, ih, List.append_assoc, List.singleton_append]

end HttpRouter.Text.Percent
