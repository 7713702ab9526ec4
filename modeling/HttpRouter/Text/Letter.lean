/-!
# Texts of letters

Texts that an application hands over, or that a client sends inside JSON, need not be texts of characters: half of a
surrogate pair may stand alone in them. Such a half is no character and has no encoding, so a text that holds one can be
matched, quoted and logged, but not be sent (`plain?_eq_some_iff`). Names, and whatever comes out of octets, are texts of
characters throughout; they count as texts of letters where one is asked for.
-/

namespace HttpRouter

/-- A letter: a character, or half of a surrogate pair that stands alone. -/
inductive Letter where
  | char (c : Char)
  | lone (half : Fin 0x800)
deriving DecidableEq, Repr, Inhabited

namespace Letter

instance : Coe Char Letter := ⟨char⟩

/-- A half that stands alone, U+D800. -/
def half : Letter := lone ⟨0, Nat.succ_pos _⟩

/-- The code point of a letter. -/
def toNat : Letter → Nat
  | char c => c.toNat
  | lone half => 0xd800 + half

/-- The character that a letter is, if it is one. -/
def char? : Letter → Option Char
  | char c => some c
  | lone _ => none

/-- Whether a letter is a character of a class. -/
def has (p : Char → Bool) : Letter → Bool
  | char c => p c
  | lone _ => false

end Letter

/-- A text of letters. -/
abbrev Letters := List Letter

namespace Text

/-- Characters as letters. -/
def ofChars (s : List Char) : Letters :=
  s.map .char

/-- A string as letters. -/
def ofString (s : String) : Letters :=
  ofChars s.toList

instance : Coe String Letters := ⟨ofString⟩

/-- The characters of a text, if all its letters are characters. -/
def plain? : Letters → Option (List Char)
  | [] => some []
  | .char c :: s => (plain? s).map (c :: ·)
  | .lone _ :: _ => none

@[simp] theorem ofChars_nil : ofChars [] = [] := rfl

@[simp] theorem ofChars_cons (c : Char) (s : List Char) : ofChars (c :: s) = .char c :: ofChars s := rfl

@[simp] theorem ofChars_append (s t : List Char) : ofChars (s ++ t) = ofChars s ++ ofChars t :=
  List.map_append

theorem ofChars_injective {s t : List Char} (h : ofChars s = ofChars t) : s = t :=
  (List.map_inj_right fun _ _ => Letter.char.inj).mp h

@[simp] theorem ofChars_eq_nil_iff {s : List Char} : ofChars s = [] ↔ s = [] :=
  List.map_eq_nil_iff

@[simp] theorem length_ofChars (s : List Char) : (ofChars s).length = s.length :=
  List.length_map _

@[simp] theorem ofString_append (s t : String) : ofString (s ++ t) = ofString s ++ ofString t := by
  rw [ofString, String.toList_append, ofChars_append]
  rfl

@[simp] theorem ofString_ofList (s : List Char) : ofString (String.ofList s) = ofChars s := by
  rw [ofString, String.toList_ofList]

theorem ofString_injective {s t : String} (h : ofString s = ofString t) : s = t :=
  String.toList_inj.mp (ofChars_injective h)

@[simp] theorem ofString_beq (s t : String) : (ofString s == ofString t) = (s == t) := by
  rw [Bool.eq_iff_iff, beq_iff_eq, beq_iff_eq]
  exact ⟨ofString_injective, congrArg ofString⟩

/-- **The texts that are plain are those of characters.** -/
theorem plain?_eq_some_iff {s : Letters} {t : List Char} : plain? s = some t ↔ s = ofChars t := by
  induction s generalizing t with
  | nil => cases t <;> simp [plain?]
  | cons l s ih =>
    cases l with
    | lone half => cases t <;> simp [plain?]
    | char c =>
      rw [plain?, Option.map_eq_some_iff]
      constructor
      · rintro ⟨u, hu, rfl⟩
        rw [ih.mp hu, ofChars_cons]
      · intro h
        cases t with
        | nil => cases h
        | cons d t =>
          obtain ⟨hd, hs⟩ := List.cons.inj h
          exact ⟨t, ih.mpr hs, by rw [Letter.char.inj hd]⟩

@[simp] theorem plain?_ofChars (s : List Char) : plain? (ofChars s) = some s :=
  plain?_eq_some_iff.mpr rfl

@[simp] theorem plain?_ofString (s : String) : plain? (ofString s) = some s.toList :=
  plain?_ofChars s.toList

/-- Two texts, one after the other, are plain if both of them are. -/
theorem plain?_append (s t : Letters) :
    plain? (s ++ t) = (plain? s).bind fun a => (plain? t).map (a ++ ·) := by
  induction s with
  | nil => cases h : plain? t <;> simp [plain?, h]
  | cons l s ih =>
    cases l with
    | lone half => rfl
    | char c =>
      rw [List.cons_append, plain?, plain?, ih]
      cases plain? s <;> cases plain? t <;> rfl

end Text

end HttpRouter
