/-!
# UTF-8

Text as octets and back. Reading never fails: every longest run of octets that starts a character but does not finish
it, and every octet that starts none, is read as one replacement character. The reader takes one octet at a time, so
that octets may come from anywhere, percent escapes included.
-/

namespace HttpRouter.Text.Utf8

/-- The octets of one character. -/
def encodeChar (c : Char) : List UInt8 :=
  let n := c.toNat
  if n < 0x80 then [n.toUInt8]
  else if n < 0x800 then [(0xc0 + n / 0x40).toUInt8, (0x80 + n % 0x40).toUInt8]
  else if n < 0x10000 then
    [(0xe0 + n / 0x1000).toUInt8, (0x80 + n / 0x40 % 0x40).toUInt8, (0x80 + n % 0x40).toUInt8]
  else
    [(0xf0 + n / 0x40000).toUInt8, (0x80 + n / 0x1000 % 0x40).toUInt8, (0x80 + n / 0x40 % 0x40).toUInt8,
      (0x80 + n % 0x40).toUInt8]

/-- The octets of a text. -/
def encode (s : List Char) : List UInt8 :=
  s.flatMap encodeChar

@[simp] theorem encode_nil : encode [] = [] := rfl

@[simp] theorem encode_cons (c : Char) (s : List Char) : encode (c :: s) = encodeChar c ++ encode s := rfl

@[simp] theorem encode_append (s t : List Char) : encode (s ++ t) = encode s ++ encode t :=
  List.flatMap_append

/-- What stands for octets that are no character. -/
def replacement : Char :=
  Char.ofNat 0xfffd

/-- A character begun: the value of its octets so far, how many more it needs after the next one, and the range of the
next one. -/
structure Pending where
  value : Nat
  more : Nat
  low : Nat
  high : Nat
deriving DecidableEq, Repr

/-- Between characters, or inside one. -/
abbrev State := Option Pending

/-- Reads an octet between characters. -/
def start (b : Nat) : List Char × State :=
  if b < 0x80 then ([Char.ofNat b], none)
  else if b < 0xc2 then ([replacement], none)
  else if b < 0xe0 then ([], some ⟨b - 0xc0, 0, 0x80, 0xbf⟩)
  else if b = 0xe0 then ([], some ⟨0, 1, 0xa0, 0xbf⟩)
  else if b = 0xed then ([], some ⟨0xd, 1, 0x80, 0x9f⟩)
  else if b < 0xf0 then ([], some ⟨b - 0xe0, 1, 0x80, 0xbf⟩)
  else if b = 0xf0 then ([], some ⟨0, 2, 0x90, 0xbf⟩)
  else if b < 0xf4 then ([], some ⟨b - 0xf0, 2, 0x80, 0xbf⟩)
  else if b = 0xf4 then ([], some ⟨4, 2, 0x80, 0x8f⟩)
  else ([replacement], none)

/-- Reads one octet: the characters it completes, and where the reader then stands. -/
def feed (state : State) (octet : UInt8) : List Char × State :=
  match state with
  | none => start octet.toNat
  | some p =>
    let b := octet.toNat
    if p.low ≤ b ∧ b ≤ p.high then
      let value := p.value * 0x40 + (b - 0x80)
      match p.more with
      | 0 => ([Char.ofNat value], none)
      | more + 1 => ([], some ⟨value, more, 0x80, 0xbf⟩)
    else
      let (cs, state) := start b
      (replacement :: cs, state)

/-- What is read when the octets end here. -/
def finish : State → List Char
  | none => []
  | some _ => [replacement]

/-- Reads the octets from a given state on. -/
def decodeFrom (state : State) : List UInt8 → List Char
  | [] => finish state
  | b :: rest => let (cs, state) := feed state b; cs ++ decodeFrom state rest

/-- Reads octets as text. -/
def decode (octets : List UInt8) : List Char :=
  decodeFrom none octets

/-- Reads octets as text if they are well formed. -/
def decode? (octets : List UInt8) : Option (List Char) :=
  let s := decode octets
  if encode s = octets then some s else none

/-- The octets of a string. -/
def ofString (s : String) : List UInt8 :=
  encode s.toList

end HttpRouter.Text.Utf8
