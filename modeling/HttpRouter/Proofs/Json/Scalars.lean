import HttpRouter.Json.Reader
import HttpRouter.Json.Writer

/-!
# Texts and numbers in JSON

What is written of a text or a whole number is read as that, whatever follows it in a document. A character outside
ASCII is written as one unit or, outside the first plane, as a pair of them, and units are read back in pairs where they
are halves: a character is never taken for a half, so that no text is read otherwise than it was written. A number ends
where the document goes on, because neither a digit nor a point nor an exponent may follow a value (`Stops`).

* `readText_encode`: texts, with their closing quote;
* `readName_toString`: whole numbers with few enough digits.
-/

namespace HttpRouter.Json

open Text (asciiDigit? digitLimit)
open Text.Quoted (hex hexDigit)

/-! ## Texts -/

theorem digit?_hexDigit : ∀ d < 16, unit?.digit? (hexDigit d) = some d := by decide

/-- Four hex digits are read as the unit that they write. -/
theorem unit?_hex {n : Nat} (h : n < 0x10000) (s : List Char) : unit? (hex 4 n ++ s) = some (n, s) := by
  have hdigit (m : Nat) : unit?.digit? (hexDigit (m % 16)) = some (m % 16) :=
    digit?_hexDigit _ (Nat.mod_lt m (by decide))
  have hvalue : ((n / 16 / 16 / 16 % 16 * 16 + n / 16 / 16 % 16) * 16 + n / 16 % 16) * 16 + n % 16 = n := by omega
  simp [hex, unit?, hdigit, hvalue]

/-- A unit that is no first half stands for itself, whatever comes behind it. -/
theorem escapedUnit?_single {n : Nat} (h : n < 0x10000) (hhigh : isHigh n = false) (s : List Char) :
    escapedUnit? (hex 4 n ++ s) = some (ofUnit n, s) := by
  rw [escapedUnit?, unit?_hex h]
  simp only [Option.bind_eq_bind, Option.bind_some, hhigh]
  split <;> rfl

/-- Two halves stand for one character. -/
theorem escapedUnit?_pair {high low : Nat} (hhigh : isHigh high = true) (hlow : isLow low = true) (s : List Char) :
    escapedUnit? (hex 4 high ++ (unit low ++ s)) =
      some (.char (Char.ofNat (0x10000 + (high - 0xd800) * 0x400 + (low - 0xdc00))), s) := by
  have hsmall : high < 0x10000 ∧ low < 0x10000 := by
    simp only [isHigh, isLow, Bool.and_eq_true, decide_eq_true_eq] at hhigh hlow
    omega
  rw [escapedUnit?, unit?_hex hsmall.1]
  simp only [Option.bind_eq_bind, Option.bind_some, unit, List.cons_append, hhigh, if_true, unit?_hex hsmall.2, hlow]
  rfl

section Characters

variable {c : Char} {s : List Char}

/-- A character of the first plane is no half of a pair. -/
theorem escapedUnit?_toNat (h : c.toNat < 0x10000) : escapedUnit? (hex 4 c.toNat ++ s) = some (.char c, s) := by
  have hvalid : c.toNat < 0xd800 ∨ 0xdfff < c.toNat ∧ c.toNat < 0x110000 := c.valid
  have hhigh : isHigh c.toNat = false := by
    simp only [isHigh, Bool.and_eq_false_iff, decide_eq_false_iff_not]
    omega
  have hlow : isLow c.toNat = false := by
    simp only [isLow, Bool.and_eq_false_iff, decide_eq_false_iff_not]
    omega
  rw [escapedUnit?_single h hhigh, ofUnit, hhigh, hlow, Char.ofNat_toNat]
  rfl

/-- A character of another plane is put together again. -/
theorem escapedUnit?_halves (h : 0x10000 ≤ c.toNat) :
    escapedUnit? (hex 4 (0xd800 + (c.toNat - 0x10000) / 0x400) ++
      (unit (0xdc00 + (c.toNat - 0x10000) % 0x400) ++ s)) = some (.char c, s) := by
  have hvalid : c.toNat < 0xd800 ∨ 0xdfff < c.toNat ∧ c.toNat < 0x110000 := c.valid
  have hhigh : isHigh (0xd800 + (c.toNat - 0x10000) / 0x400) = true := by
    simp only [isHigh, Bool.and_eq_true, decide_eq_true_eq]
    omega
  have hlow : isLow (0xdc00 + (c.toNat - 0x10000) % 0x400) = true := by
    simp only [isLow, Bool.and_eq_true, decide_eq_true_eq]
    omega
  have hvalue : 0x10000 + (0xd800 + (c.toNat - 0x10000) / 0x400 - 0xd800) * 0x400 +
      (0xdc00 + (c.toNat - 0x10000) % 0x400 - 0xdc00) = c.toNat := by omega
  rw [escapedUnit?_pair hhigh hlow, hvalue, Char.ofNat_toNat]

variable (fuel : Nat)

theorem readText_plain (hquote : c ≠ '"') (hslash : c ≠ '\\') (h : 0x20 ≤ c.toNat) :
    readText (fuel + 1) (c :: s) = (readText fuel s).map fun (cs, rest) => (.char c :: cs, rest) := by
  rw [readText, if_neg fun hc => hc.elim hslash (Nat.not_lt.mpr h)]
  · cases readText fuel s <;> rfl
  · exact hquote
  · exact fun _ hc _ => hslash hc
  · exact fun _ _ hc _ => hslash hc

theorem readText_simple {e : Char} (he : e ≠ 'u') (h : simpleEscape? e = some c) :
    readText (fuel + 1) ('\\' :: e :: s) = (readText fuel s).map fun (cs, rest) => (.char c :: cs, rest) := by
  rw [readText, h]
  · cases readText fuel s <;> rfl
  · exact he

theorem readText_units {t : List Char} (h : escapedUnit? t = some (.char c, s)) :
    readText (fuel + 1) ('\\' :: 'u' :: t) = (readText fuel s).map fun (cs, rest) => (.char c :: cs, rest) := by
  rw [readText, h, Option.bind_eq_bind, Option.bind_some]
  dsimp only
  cases readText fuel s <;> rfl

/-- **A character is read as it was written**, and reading goes on behind it. -/
theorem readText_encodeChar (c : Char) (s : List Char) :
    readText (fuel + 1) (encodeChar c ++ s) = (readText fuel s).map fun (cs, rest) => (.char c :: cs, rest) := by
  unfold encodeChar
  split
  · next h => rcases h with rfl | rfl <;> exact readText_simple fuel (by decide) rfl
  · next hmark =>
    split
    · next h => exact readText_simple fuel (by decide) (congrArg some h.symm)
    split
    · next h => exact readText_simple fuel (by decide) (congrArg some h.symm)
    split
    · next h => exact readText_simple fuel (by decide) (congrArg some h.symm)
    split
    · next h => exact readText_simple fuel (by decide) (congrArg some h.symm)
    split
    · next h => exact readText_simple fuel (by decide) (congrArg some h.symm)
    split
    · next h => exact readText_plain fuel (fun hc => hmark (.inl hc)) (fun hc => hmark (.inr hc)) h.1
    split
    · next hplane => exact readText_units fuel (escapedUnit?_toNat hplane)
    · next hplane =>
      refine readText_units fuel (Eq.trans ?_ (escapedUnit?_halves (Nat.not_lt.mp hplane)))
      exact congrArg escapedUnit? (List.append_assoc _ _ _)

end Characters

theorem readText_flatMap (cs rest : List Char) {fuel : Nat} (h : cs.length < fuel) :
    readText fuel ((Text.ofChars cs).flatMap encodeLetter ++ '"' :: rest) = some (Text.ofChars cs, rest) := by
  induction cs generalizing fuel with
  | nil =>
    obtain ⟨fuel, rfl⟩ : ∃ n, fuel = n + 1 := ⟨fuel - 1, by omega⟩
    rfl
  | cons c cs ih =>
    obtain ⟨fuel, rfl⟩ : ∃ n, fuel = n + 1 := ⟨fuel - 1, by omega⟩
    rw [Text.ofChars_cons, List.flatMap_cons, List.append_assoc, encodeLetter, readText_encodeChar,
      ih (Nat.lt_of_succ_lt_succ h)]
    rfl

/-- Whether all characters of a text are in ASCII. -/
def IsAscii (s : List Char) : Prop :=
  ∀ c ∈ s, c.toNat < 0x80

instance (s : List Char) : Decidable (IsAscii s) :=
  List.decidableBAll (fun c : Char => c.toNat < 0x80) s

theorem isAscii_hex (width n : Nat) : IsAscii (hex width n) := by
  have hdigit : ∀ d < 16, (hexDigit d).toNat < 0x80 := by decide
  induction width generalizing n with
  | zero => nofun
  | succ width ih =>
    intro c hc
    rcases List.mem_append.mp hc with hc | hc
    · exact ih _ c hc
    · rw [List.mem_singleton.mp hc]
      exact hdigit _ (Nat.mod_lt n (by decide))

theorem isAscii_unit (n : Nat) : IsAscii (unit n) :=
  List.forall_mem_cons.mpr ⟨by decide, List.forall_mem_cons.mpr ⟨by decide, isAscii_hex 4 n⟩⟩

/-- What is written of a character is in ASCII, and is something. -/
theorem isAscii_encodeChar (c : Char) : IsAscii (encodeChar c) ∧ encodeChar c ≠ [] := by
  have hescape {d : Char} (hd : d.toNat < 0x80) : IsAscii ['\\', d] ∧ ['\\', d] ≠ [] :=
    ⟨List.forall_mem_cons.mpr ⟨by decide, List.forall_mem_singleton.mpr hd⟩, List.cons_ne_nil _ _⟩
  unfold encodeChar
  split
  · next h => rcases h with rfl | rfl <;> exact hescape (by decide)
  split
  · exact hescape (by decide)
  split
  · exact hescape (by decide)
  split
  · exact hescape (by decide)
  split
  · exact hescape (by decide)
  split
  · exact hescape (by decide)
  split
  · next h => exact ⟨List.forall_mem_singleton.mpr (by omega), List.cons_ne_nil _ _⟩
  split
  · exact ⟨isAscii_unit _, List.cons_ne_nil _ _⟩
  · exact ⟨List.forall_mem_append.mpr ⟨isAscii_unit _, isAscii_unit _⟩, List.cons_ne_nil _ _⟩

/-- So is what is written of half of a surrogate pair. -/
theorem isAscii_encodeLetter (l : Letter) : IsAscii (encodeLetter l) ∧ encodeLetter l ≠ [] := by
  cases l with
  | char c => exact isAscii_encodeChar c
  | lone half => exact ⟨isAscii_unit _, List.cons_ne_nil _ _⟩

theorem isAscii_encode (s : Letters) : IsAscii (encode s) := by
  intro c hc
  rcases List.mem_append.mp hc with hc | hc
  · rcases List.mem_cons.mp hc with rfl | hc
    · decide
    · obtain ⟨d, -, hc⟩ := List.mem_flatMap.mp hc
      exact (isAscii_encodeLetter d).1 c hc
  · rw [List.mem_singleton.mp hc]
    decide

theorem encode_append (s : Letters) (rest : List Char) :
    encode s ++ rest = '"' :: (s.flatMap encodeLetter ++ '"' :: rest) :=
  congrArg ('"' :: ·) (List.append_assoc _ ['"'] rest)

/-- **A text between quotes is read as that text**, however many characters a reader expects at most, if all of it is
characters: two halves of a surrogate pair in a row would be read as one character. -/
theorem readText_encode (s rest : List Char) :
    readText (((Text.ofChars s).flatMap encodeLetter ++ '"' :: rest).length + 1)
      ((Text.ofChars s).flatMap encodeLetter ++ '"' :: rest) = some (Text.ofChars s, rest) := by
  have hlength : s.length ≤ ((Text.ofChars s).flatMap encodeLetter).length := by
    induction s with
    | nil => exact Nat.le_refl 0
    | cons c s ih =>
      have hc := List.length_pos_iff.mpr (isAscii_encodeLetter c).2
      rw [Text.ofChars_cons, List.flatMap_cons, List.length_append, List.length_cons]
      omega
  refine readText_flatMap s rest ?_
  rw [List.length_append]
  omega

/-! ## Whole numbers -/

/-- Whether a text may stand behind a value: it is nothing, or goes on with a comma or the end of a collection. -/
def Stops (rest : List Char) : Prop :=
  ∀ c ∈ rest.head?, c ∈ [',', ']', '\x7d']

theorem stops_cons {c : Char} (h : c ∈ [',', ']', '\x7d']) (rest : List Char) : Stops (c :: rest) := by
  rintro _ ⟨⟩
  exact h

section Numbers

variable {n : Nat} {rest : List Char}

theorem Stops.cases (h : Stops rest) : rest = [] ∨ ∃ c t, rest = c :: t ∧ (c = ',' ∨ c = ']' ∨ c = '\x7d') := by
  cases rest with
  | nil => exact .inl rfl
  | cons c t => exact .inr ⟨c, t, rfl, by simpa using h c rfl⟩

theorem fraction_of_stops (h : Stops rest) : fraction rest = ([], rest) := by
  rcases h.cases with rfl | ⟨c, t, rfl, rfl | rfl | rfl⟩ <;> rfl

theorem exponent_of_stops (h : Stops rest) : exponent rest = (none, rest) := by
  rcases h.cases with rfl | ⟨c, t, rfl, rfl | rfl | rfl⟩ <;> rfl

theorem asciiDigit?_of_isDigit {c : Char} (h : c.isDigit = true) : asciiDigit? c = some (c.toNat - 48) := by
  rw [Char.isDigit_iff_toNat] at h
  exact if_pos ⟨h.1, h.2⟩

theorem isDigit_toDigits {c : Char} (hc : c ∈ Nat.toDigits 10 n) : c.isDigit = true :=
  Nat.isDigit_of_mem_toDigits (by decide) (by decide) hc

/-- The digits of a number end where the document goes on. -/
theorem digits_toDigits (n : Nat) (hrest : Stops rest) :
    digits (Nat.toDigits 10 n ++ rest) = (Nat.toDigits 10 n, rest) := by
  have hdigits : ∀ c ∈ Nat.toDigits 10 n, (asciiDigit? c).isSome = true := by
    intro c hc
    rw [asciiDigit?_of_isDigit (isDigit_toDigits hc)]
    rfl
  rw [digits, List.takeWhile_append_of_pos hdigits, List.dropWhile_append_of_pos hdigits]
  rcases hrest.cases with rfl | ⟨c, t, rfl, rfl | rfl | rfl⟩
  · rw [List.takeWhile_nil, List.dropWhile_nil, List.append_nil]
  · simp [asciiDigit?]
  · simp [asciiDigit?]
  · simp [asciiDigit?]

theorem foldl_digits {ds : List Char} (h : ∀ c ∈ ds, c.isDigit = true) (value : Nat) :
    ds.foldl (fun n c => 10 * n + (asciiDigit? c).getD 0) value = Nat.ofDigitChars 10 ds value := by
  induction ds generalizing value with
  | nil => exact Nat.ofDigitChars_nil.symm
  | cons c ds ih =>
    obtain ⟨hc, hds⟩ := List.forall_mem_cons.mp h
    rw [List.foldl_cons, asciiDigit?_of_isDigit hc, ih hds, Nat.ofDigitChars_cons]
    rfl

theorem amount_toDigits (n : Nat) : amount (Nat.toDigits 10 n) = n :=
  (foldl_digits (fun _ => isDigit_toDigits) 0).trans Nat.ofDigitChars_ten_toDigits

theorem head?_toDigits_append (n : Nat) (rest : List Char) :
    (Nat.toDigits 10 n ++ rest).head? = (Nat.toDigits 10 n).head? := by
  rw [List.head?_append, Option.or_of_isSome (List.isSome_head?.mpr Nat.toDigits_ne_nil)]

/-- Only zero begins with a zero. -/
theorem eq_zero_of_head?_toDigits (h : (Nat.toDigits 10 n).head? = some '0') : n = 0 := by
  induction n using Nat.strongRecOn with
  | ind n ih =>
    rw [Nat.toDigits_eq_if (by decide)] at h
    split at h
    · exact Nat.digitChar_eq_zero.mp (Option.some.inj h)
    · next hge =>
      rw [head?_toDigits_append] at h
      have hzero := ih (n / 10) (by omega) h
      omega

theorem readNumber_toDigits (negative : Bool) (hrest : Stops rest) (hn : (Nat.toDigits 10 n).length ≤ digitLimit) :
    readNumber negative (Nat.toDigits 10 n ++ rest) = .ok (.int (if negative then -(n : Int) else n), rest) := by
  by_cases hzero : n = 0
  · subst hzero
    show readNumber negative ('0' :: rest) = _
    rw [readNumber]
    simp only [fraction_of_stops hrest, exponent_of_stops hrest]
    rfl
  · rw [readNumber, digits_toDigits n hrest]
    · simp [Nat.toDigits_ne_nil, fraction_of_stops hrest, exponent_of_stops hrest, amount_toDigits, Nat.not_lt.mpr hn]
    · intro s h
      have hhead := congrArg List.head? h
      rw [head?_toDigits_append] at hhead
      exact hzero (eq_zero_of_head?_toDigits hhead)

end Numbers

/-- A number that is not negative is read as one, and none of the names. -/
theorem readName_digit {d : Char} (hd : d.isDigit = true) (s : List Char) :
    readName (d :: s) = readNumber false (d :: s) := by
  have hne (c : Char) (hc : c.isDigit = false) : c ≠ d := by
    rintro rfl
    rw [hd] at hc
    cases hc
  rw [readName]
  · simp [hne]
  · rintro t h
    exact hne '-' rfl (List.cons.inj h).1.symm

/-- A negative number is not taken for the name that begins with a sign. -/
theorem readName_minus {d : Char} (hd : d.isDigit = true) (s : List Char) :
    readName ('-' :: d :: s) = readNumber true (d :: s) := by
  have hne : 'I' ≠ d := by
    rintro rfl
    cases hd
  rw [readName]
  simp [hne]

theorem toList_toString (n : Int) :
    (toString n).toList = if n < 0 then '-' :: Nat.toDigits 10 n.natAbs else Nat.toDigits 10 n.natAbs := by
  cases n with
  | ofNat n => exact Nat.toList_repr.trans (if_neg (Int.not_lt.mpr (Int.natCast_nonneg n))).symm
  | negSucc n =>
    rw [if_pos (Int.negSucc_lt_zero n)]
    show ("-" ++ Nat.repr (n + 1)).toList = _
    rw [String.toList_append, Nat.toList_repr]
    rfl

theorem isAscii_toString (n : Int) : IsAscii (toString n).toList := by
  have hdigits : IsAscii (Nat.toDigits 10 n.natAbs) := by
    intro c hc
    have hdigit := Char.isDigit_iff_toNat.mp (isDigit_toDigits hc)
    exact Nat.lt_of_le_of_lt hdigit.2 (by decide)
  rw [toList_toString]
  split
  · exact List.forall_mem_cons.mpr ⟨by decide, hdigits⟩
  · exact hdigits

/-- The first character of a number is a sign or a digit. -/
theorem toString_eq_cons (n : Int) : ∃ c s, (toString n).toList = c :: s ∧ (c = '-' ∨ c.isDigit = true) := by
  rw [toList_toString]
  split
  · exact ⟨'-', _, rfl, .inl rfl⟩
  · obtain ⟨d, ds, hds⟩ := List.exists_cons_of_ne_nil (Nat.toDigits_ne_nil (b := 10) (n := n.natAbs))
    exact ⟨d, ds, hds, .inr (isDigit_toDigits (n := n.natAbs) (hds ▸ List.mem_cons_self))⟩

/-- **A whole number is read as it was written**, if it has few enough digits. -/
theorem readName_toString {n : Int} {rest : List Char} (hrest : Stops rest)
    (hn : (Nat.toDigits 10 n.natAbs).length ≤ digitLimit) :
    readName ((toString n).toList ++ rest) = .ok (.int n, rest) := by
  obtain ⟨d, ds, hds⟩ := List.exists_cons_of_ne_nil (Nat.toDigits_ne_nil (b := 10) (n := n.natAbs))
  have hd : d.isDigit = true := isDigit_toDigits (n := n.natAbs) (hds ▸ List.mem_cons_self)
  have hread (negative : Bool) := readNumber_toDigits negative hrest hn
  rw [hds] at hread
  rw [toList_toString, hds]
  split
  · next h =>
    refine (readName_minus hd _).trans ((hread true).trans ?_)
    rw [if_pos rfl, Int.ofNat_natAbs_of_nonpos (Int.le_of_lt h), Int.neg_neg]
  · next h =>
    refine (readName_digit hd _).trans ((hread false).trans ?_)
    rw [if_neg Bool.false_ne_true, Int.natAbs_of_nonneg (Int.not_lt.mp h)]

end HttpRouter.Json
