import HttpRouter.Text.CaseTable

/-!
# Letter case

Upper, lower and title case of a text, by the full mappings of Unicode 14: one character may become several, and a
capital sigma becomes a final one at the end of a word. On ASCII letters all three are the usual shifts by 32.
-/

namespace HttpRouter.Text

/-- Whether a character has a case. -/
def isCased (c : Char) : Bool :=
  inRanges casedRanges c.toNat

/-- Whether the final-sigma rule looks past a character. -/
def isIgnorable (c : Char) : Bool :=
  inRanges ignorableRanges c.toNat

/-- The listed longer form of a code point, if there is one. -/
def expansion? (table : List (Nat × List Nat)) (n : Nat) : Option (List Char) :=
  (table.find? fun e => e.1 == n).map fun e => e.2.map Char.ofNat

/-- The single other form of a code point, or the code point itself. -/
def shifted (runs : List CaseRun) (n : Nat) : Char :=
  Char.ofNat ((runs.findSome? fun r => r.find? n).getD n)

/-- The upper-case form of a character. -/
def upperChar (c : Char) : List Char :=
  if c.toNat < 0x80 then
    [if 'a' ≤ c ∧ c ≤ 'z' then Char.ofNat (c.toNat - 32) else c]
  else (expansion? upperExpansions c.toNat).getD [shifted upperRuns c.toNat]

/-- The lower-case form of a character, wherever it stands; a capital I with a dot keeps the dot as a mark. -/
def lowerChar (c : Char) : List Char :=
  if c.toNat < 0x80 then
    [if 'A' ≤ c ∧ c ≤ 'Z' then Char.ofNat (c.toNat + 32) else c]
  else if c.toNat = 0x130 then ['i', Char.ofNat 0x307]
  else [shifted lowerRuns c.toNat]

/-- The form of a character at the start of a word. -/
def titleChar (c : Char) : List Char :=
  if inRanges georgianRanges c.toNat then [c]
  else (expansion? titleForms c.toNat).getD (upperChar c)

/-- The upper-case form of a text. -/
def upper (s : List Char) : List Char :=
  s.flatMap upperChar

@[simp] theorem upper_append (s t : List Char) : upper (s ++ t) = upper s ++ upper t :=
  List.flatMap_append

/-- Whether the nearest character that the final-sigma rule does not skip is cased. -/
def meetsCased (s : List Char) : Bool :=
  match s.dropWhile isIgnorable with
  | [] => false
  | c :: _ => isCased c

/-- The lower-case form of a character between the text before it, nearest first, and the text after it: a capital
sigma at the end of a word takes its final form. -/
def lowerAt (before : List Char) (c : Char) (after : List Char) : List Char :=
  if c.toNat = 0x3a3 then
    [Char.ofNat (if meetsCased before && !meetsCased after then 0x3c2 else 0x3c3)]
  else lowerChar c

/-- Lower case of the rest of a text that begins with `before`, nearest first. -/
def lowerFrom (before : List Char) : List Char → List Char
  | [] => []
  | c :: rest => lowerAt before c rest ++ lowerFrom (c :: before) rest

/-- The lower-case form of a text. -/
def lower (s : List Char) : List Char :=
  lowerFrom [] s

/-- Title case of the rest of a text: a character after a cased one is lowered, any other takes its title form. -/
def titleFrom (before : List Char) : List Char → List Char
  | [] => []
  | c :: rest =>
    (if before.head?.any isCased then lowerAt before c rest else titleChar c) ++ titleFrom (c :: before) rest

/-- The title-case form of a text: each run of cased characters starts with a capital. -/
def title (s : List Char) : List Char :=
  titleFrom [] s

/-- The upper-case form of a string. -/
def upperString (s : String) : String :=
  String.ofList (upper s.toList)

/-- The lower-case form of a string. -/
def lowerString (s : String) : String :=
  String.ofList (lower s.toList)

end HttpRouter.Text
