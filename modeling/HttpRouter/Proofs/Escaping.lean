import HttpRouter.Text.Percent

/-!
# Escapes are undone

A text that was escaped is read back as it was, in front of whatever follows it. The reader of escapes feeds the octets
it finds to the reader of UTF-8, so the one fact that both need is about the latter: fed with the octets of a character,
it gives that character and stands between characters again (`feedAll_encodeChar`).

* `Utf8.decode_encode`: the octets of a text are read as that text;
* `Percent.decodeFrom_encode`: so are its escapes, whichever ASCII characters other than `%` were held to be safe;
* `Percent.decodeLetters_encodeLetters`: and the letters that are no characters stand between what is read.
-/

namespace HttpRouter.Text

namespace Utf8

/-- Reads several octets: the characters they complete, and where the reader then stands. -/
def feedAll (state : State) : List UInt8 → List Char × State
  | [] => ([], state)
  | b :: bs =>
    let (cs, state) := feed state b
    let (ds, state) := feedAll state bs
    (cs ++ ds, state)

/-- Reading goes on from where the first octets left it. -/
theorem decodeFrom_append (state : State) (bs rest : List UInt8) :
    decodeFrom state (bs ++ rest) = (feedAll state bs).1 ++ decodeFrom (feedAll state bs).2 rest := by
  induction bs generalizing state with
  | nil => rfl
  | cons b bs ih =>
    rcases hf : feed state b with ⟨cs, next⟩
    simp only [List.cons_append, decodeFrom, feedAll, hf, ih, List.append_assoc]

/-! ## Single octets -/

theorem toNat_toUInt8 {n : Nat} (h : n < 256) : n.toUInt8.toNat = n :=
  UInt8.toNat_ofNat_of_lt' h

/-- The first octet of two. -/
theorem start_of_two {b : Nat} (h : 0xc2 ≤ b) (h' : b < 0xe0) : start b = ([], some ⟨b - 0xc0, 0, 0x80, 0xbf⟩) := by
  rw [start, if_neg (by omega), if_neg (by omega), if_pos h']

/-- The first octet of three; the second one may not make the character too small, nor a surrogate. -/
theorem start_of_three {b : Nat} (h : 0xe0 ≤ b) (h' : b < 0xf0) :
    start b = ([], some ⟨b - 0xe0, 1, if b = 0xe0 then 0xa0 else 0x80, if b = 0xed then 0x9f else 0xbf⟩) := by
  rw [start, if_neg (by omega), if_neg (by omega), if_neg (by omega)]
  by_cases h₀ : b = 0xe0
  · subst h₀
    rfl
  · by_cases hd : b = 0xed
    · subst hd
      rfl
    · rw [if_neg h₀, if_neg hd, if_pos h', if_neg h₀, if_neg hd]

/-- The first octet of four; the second one may make the character neither too small nor too large. -/
theorem start_of_four {b : Nat} (h : 0xf0 ≤ b) (h' : b ≤ 0xf4) :
    start b = ([], some ⟨b - 0xf0, 2, if b = 0xf0 then 0x90 else 0x80, if b = 0xf4 then 0x8f else 0xbf⟩) := by
  rw [start, if_neg (by omega), if_neg (by omega), if_neg (by omega), if_neg (by omega), if_neg (by omega),
    if_neg (by omega)]
  by_cases h₀ : b = 0xf0
  · subst h₀
    rfl
  · by_cases h₄ : b = 0xf4
    · subst h₄
      rfl
    · rw [if_neg h₀, if_pos (by omega), if_neg h₀, if_neg h₄]

/-- An octet that continues a character. -/
theorem feed_more {value more low high b value' : Nat} (hlow : low ≤ b) (hhigh : b ≤ high) (hb : b < 256)
    (hvalue : value * 0x40 + (b - 0x80) = value') :
    feed (some ⟨value, more + 1, low, high⟩) b.toUInt8 = ([], some ⟨value', more, 0x80, 0xbf⟩) := by
  rw [feed]
  simp only [toNat_toUInt8 hb, hlow, hhigh, hvalue, and_self, if_true]

/-- The octet that completes a character. -/
theorem feed_last {value low high b value' : Nat} (hlow : low ≤ b) (hhigh : b ≤ high) (hb : b < 256)
    (hvalue : value * 0x40 + (b - 0x80) = value') :
    feed (some ⟨value, 0, low, high⟩) b.toUInt8 = ([Char.ofNat value'], none) := by
  rw [feed]
  simp only [toNat_toUInt8 hb, hlow, hhigh, hvalue, and_self, if_true]

/-! ## Characters -/

section Characters

variable {n : Nat}

theorem feedAll_one (h : n < 0x80) : feedAll none [n.toUInt8] = ([Char.ofNat n], none) := by
  simp only [feedAll, feed, toNat_toUInt8 (show n < 256 by omega), start, if_pos h, List.append_nil]

theorem feedAll_two (h : 0x80 ≤ n) (h' : n < 0x800) :
    feedAll none [(0xc0 + n / 0x40).toUInt8, (0x80 + n % 0x40).toUInt8] = ([Char.ofNat n], none) := by
  have first : feed none (0xc0 + n / 0x40).toUInt8 = ([], some ⟨n / 0x40, 0, 0x80, 0xbf⟩) := by
    rw [feed, toNat_toUInt8 (by omega), start_of_two (by omega) (by omega), Nat.add_sub_cancel_left]
  have second : feed (some ⟨n / 0x40, 0, 0x80, 0xbf⟩) (0x80 + n % 0x40).toUInt8 = ([Char.ofNat n], none) :=
    feed_last (by omega) (by omega) (by omega) (by omega)
  simp only [feedAll, first, second, List.append_nil, List.nil_append]

theorem feedAll_three (h : 0x800 ≤ n) (h' : n < 0x10000) (hs : n < 0xd800 ∨ 0xdfff < n) :
    feedAll none [(0xe0 + n / 0x1000).toUInt8, (0x80 + n / 0x40 % 0x40).toUInt8, (0x80 + n % 0x40).toUInt8] =
      ([Char.ofNat n], none) := by
  have first : feed none (0xe0 + n / 0x1000).toUInt8 =
      ([], some ⟨n / 0x1000, 1, if 0xe0 + n / 0x1000 = 0xe0 then 0xa0 else 0x80,
        if 0xe0 + n / 0x1000 = 0xed then 0x9f else 0xbf⟩) := by
    rw [feed, toNat_toUInt8 (by omega), start_of_three (by omega) (by omega), Nat.add_sub_cancel_left]
  -- The narrower bounds hold because the character needs three octets and is no surrogate.
  have second : feed (some ⟨n / 0x1000, 1, if 0xe0 + n / 0x1000 = 0xe0 then 0xa0 else 0x80,
        if 0xe0 + n / 0x1000 = 0xed then 0x9f else 0xbf⟩) (0x80 + n / 0x40 % 0x40).toUInt8 =
      ([], some ⟨n / 0x40, 0, 0x80, 0xbf⟩) :=
    feed_more (by split <;> omega) (by split <;> omega) (by omega) (by omega)
  have third : feed (some ⟨n / 0x40, 0, 0x80, 0xbf⟩) (0x80 + n % 0x40).toUInt8 = ([Char.ofNat n], none) :=
    feed_last (by omega) (by omega) (by omega) (by omega)
  simp only [feedAll, first, second, third, List.append_nil, List.nil_append]

theorem feedAll_four (h : 0x10000 ≤ n) (h' : n < 0x110000) :
    feedAll none [(0xf0 + n / 0x40000).toUInt8, (0x80 + n / 0x1000 % 0x40).toUInt8, (0x80 + n / 0x40 % 0x40).toUInt8,
      (0x80 + n % 0x40).toUInt8] = ([Char.ofNat n], none) := by
  have first : feed none (0xf0 + n / 0x40000).toUInt8 =
      ([], some ⟨n / 0x40000, 2, if 0xf0 + n / 0x40000 = 0xf0 then 0x90 else 0x80,
        if 0xf0 + n / 0x40000 = 0xf4 then 0x8f else 0xbf⟩) := by
    rw [feed, toNat_toUInt8 (by omega), start_of_four (by omega) (by omega), Nat.add_sub_cancel_left]
  -- The narrower bounds hold because the character needs four octets and is not too large.
  have second : feed (some ⟨n / 0x40000, 2, if 0xf0 + n / 0x40000 = 0xf0 then 0x90 else 0x80,
        if 0xf0 + n / 0x40000 = 0xf4 then 0x8f else 0xbf⟩) (0x80 + n / 0x1000 % 0x40).toUInt8 =
      ([], some ⟨n / 0x1000, 1, 0x80, 0xbf⟩) :=
    feed_more (by split <;> omega) (by split <;> omega) (by omega) (by omega)
  have third : feed (some ⟨n / 0x1000, 1, 0x80, 0xbf⟩) (0x80 + n / 0x40 % 0x40).toUInt8 =
      ([], some ⟨n / 0x40, 0, 0x80, 0xbf⟩) :=
    feed_more (by omega) (by omega) (by omega) (by omega)
  have fourth : feed (some ⟨n / 0x40, 0, 0x80, 0xbf⟩) (0x80 + n % 0x40).toUInt8 = ([Char.ofNat n], none) :=
    feed_last (by omega) (by omega) (by omega) (by omega)
  simp only [feedAll, first, second, third, fourth, List.append_nil, List.nil_append]

end Characters

/-- A character is no surrogate and not too large. -/
theorem toNat_range (c : Char) : c.toNat < 0xd800 ∨ 0xdfff < c.toNat ∧ c.toNat < 0x110000 :=
  c.valid

/-- **The octets of a character are read as that character**, and the reader stands between characters again. -/
theorem feedAll_encodeChar (c : Char) : feedAll none (encodeChar c) = ([c], none) := by
  have hrange := toNat_range c
  have hc : Char.ofNat c.toNat = c := Char.ofNat_toNat c
  rw [encodeChar]
  by_cases h₁ : c.toNat < 0x80
  · rw [if_pos h₁, feedAll_one h₁, hc]
  · rw [if_neg h₁]
    by_cases h₂ : c.toNat < 0x800
    · rw [if_pos h₂, feedAll_two (by omega) h₂, hc]
    · rw [if_neg h₂]
      by_cases h₃ : c.toNat < 0x10000
      · rw [if_pos h₃, feedAll_three (by omega) h₃ (by omega), hc]
      · rw [if_neg h₃, feedAll_four (by omega) (by omega), hc]

/-- **The octets of a text are read as that text.** -/
theorem decode_encode (s : List Char) : decode (encode s) = s := by
  rw [decode]
  induction s with
  | nil => rfl
  | cons c s ih =>
    rw [encode_cons, decodeFrom_append, feedAll_encodeChar]
    exact congrArg (c :: ·) ih

end Utf8

/-! ## Escaped texts -/

namespace Percent

/-- **The escape of an octet is read as that octet.** -/
theorem octet?_escape (b : UInt8) : octet? (hexDigit (b.toNat / 16)) (hexDigit (b.toNat % 16)) = some b := by
  have hb := b.toNat_lt
  rw [octet?, hexValue?_hexDigit _ (by omega), hexValue?_hexDigit _ (by omega)]
  show some (b.toNat / 16 * 16 + b.toNat % 16).toUInt8 = some b
  rw [show b.toNat / 16 * 16 + b.toNat % 16 = b.toNat by omega]
  exact congrArg some UInt8.ofNat_toNat

/-- The escapes of octets are read as the octets are. -/
theorem decodeFrom_escape (state : Utf8.State) (bs : List UInt8) (rest : List Char) :
    decodeFrom state (bs.flatMap escape ++ rest) =
      (Utf8.feedAll state bs).1 ++ decodeFrom (Utf8.feedAll state bs).2 rest := by
  induction bs generalizing state with
  | nil => rfl
  | cons b bs ih =>
    rcases hf : Utf8.feed state b with ⟨cs, next⟩
    rw [List.flatMap_cons, escape, List.append_assoc]
    simp only [List.cons_append, List.nil_append, decodeFrom, octet?_escape, Utf8.feedAll, hf, ih, List.append_assoc]

/-- Octets that are written as the escapes of a character are read as that character. -/
theorem decodeFrom_escaped (c : Char) (rest : List Char) :
    decodeFrom none ((Utf8.encodeChar c).flatMap escape ++ rest) = c :: decodeFrom none rest := by
  rw [decodeFrom_escape, Utf8.feedAll_encodeChar]
  rfl

/-- An ASCII character that starts no escape is read as it is. -/
theorem decodeFrom_plain {c : Char} (h : c.toNat < 0x80) (hne : c ≠ '%') (rest : List Char) :
    decodeFrom none (c :: rest) = c :: decodeFrom none rest := by
  rw [decodeFrom]
  · rw [if_pos h, ← List.singleton_append, Utf8.feed, Utf8.toNat_toUInt8 (by omega), Utf8.start, if_pos h,
      Char.ofNat_toNat]
  · rintro h l rest' hc -
    exact hne hc

theorem toNat_le_of_le {c d : Char} (h : c ≤ d) : c.toNat ≤ d.toNat :=
  h

/-- An unreserved character is ASCII and starts no escape. -/
theorem plain_of_isUnreserved {c : Char} (h : isUnreserved c = true) : c.toNat < 0x80 ∧ c ≠ '%' := by
  refine ⟨?_, ?_⟩
  · simp only [isUnreserved, Bool.or_eq_true, decide_eq_true_eq, beq_iff_eq] at h
    rcases h with (((((h | h) | h) | rfl) | rfl) | rfl) | rfl
    · exact Nat.lt_of_le_of_lt (toNat_le_of_le h.2) (by decide)
    · exact Nat.lt_of_le_of_lt (toNat_le_of_le h.2) (by decide)
    · exact Nat.lt_of_le_of_lt (toNat_le_of_le h.2) (by decide)
    all_goals decide
  · rintro rfl
    exact absurd h (by decide)

section Safe

variable {safe : List Char} (hsafe : ∀ c ∈ safe, c.toNat < 0x80 ∧ c ≠ '%')

include hsafe

/-- An escaped character is read as that character. -/
theorem decodeFrom_encodeChar (c : Char) (rest : List Char) :
    decodeFrom none (encodeChar safe c ++ rest) = c :: decodeFrom none rest := by
  rw [encodeChar]
  split
  · next h =>
    have hc : c.toNat < 0x80 ∧ c ≠ '%' := by
      rcases Bool.or_eq_true_iff.mp h with h | h
      · exact plain_of_isUnreserved h
      · exact hsafe c (List.contains_iff_mem.mp h)
    exact decodeFrom_plain hc.1 hc.2 rest
  · exact decodeFrom_escaped c rest

/-- **An escaped text is read as that text**, in front of whatever follows it. -/
theorem decodeFrom_encode (s rest : List Char) :
    decodeFrom none (encode safe s ++ rest) = s ++ decodeFrom none rest := by
  induction s with
  | nil => rfl
  | cons c s ih => rw [encode_cons, List.append_assoc, decodeFrom_encodeChar hsafe, ih, List.cons_append]

theorem decode_encode (s : List Char) : decode (encode safe s) = s := by
  have h := decodeFrom_encode hsafe s []
  rw [List.append_nil] at h
  exact h.trans (List.append_nil s)

end Safe

/-! ## Escaped letters -/

section Runs

variable {c : Char} {e : List Char} (h : ∀ rest, decodeFrom none (e ++ rest) = c :: decodeFrom none rest)

include h

/-- What is read as a character in front of every text is so in front of a run. -/
theorem decodeRun_append (run : List Char) (s : Letters) : decodeRun (e ++ run) s = .char c :: decodeRun run s := by
  induction s generalizing run with
  | nil => rw [decodeRun, decodeRun, decode, h, ofChars_cons, decode]
  | cons l s ih =>
    cases l with
    | char d => rw [decodeRun, decodeRun, List.append_assoc, ih]
    | lone half => rw [decodeRun, decodeRun, decode, h, ofChars_cons, decode, List.cons_append]

/-- So they are in front of letters. -/
theorem decodeLetters_ofChars_append (s : Letters) : decodeLetters (ofChars e ++ s) = .char c :: decodeLetters s := by
  have hrun : ∀ run more, decodeRun run (ofChars more ++ s) = decodeRun (run ++ more) s := by
    intro run more
    induction more generalizing run with
    | nil => rw [ofChars_nil, List.nil_append, List.append_nil]
    | cons d more ih => rw [ofChars_cons, List.cons_append, decodeRun, ih, List.append_assoc, List.singleton_append]
  rw [decodeLetters, hrun, List.nil_append, ← List.append_nil e, decodeRun_append h, decodeLetters]

end Runs

/-- An ASCII character that starts no escape is read as it is, in front of letters. -/
theorem decodeLetters_plain {c : Char} (h : c.toNat < 0x80) (hne : c ≠ '%') (s : Letters) :
    decodeLetters (.char c :: s) = .char c :: decodeLetters s :=
  have hc : ∀ rest, decodeFrom none ([c] ++ rest) = c :: decodeFrom none rest := decodeFrom_plain h hne
  decodeLetters_ofChars_append hc s

/-- **Escaped letters are read as those letters**, in front of whatever follows them. -/
theorem decodeLetters_encodeLetters {safe : List Char} (hsafe : ∀ c ∈ safe, c.toNat < 0x80 ∧ c ≠ '%')
    (s rest : Letters) : decodeLetters (encodeLetters safe s ++ rest) = s ++ decodeLetters rest := by
  induction s with
  | nil => rfl
  | cons l s ih =>
    rw [encodeLetters, List.flatMap_cons, List.append_assoc]
    cases l with
    | lone half => exact congrArg (Letter.lone half :: ·) ih
    | char c =>
      refine (decodeLetters_ofChars_append (decodeFrom_encodeChar hsafe c) _).trans ?_
      exact congrArg (Letter.char c :: ·) ih

end Percent

end HttpRouter.Text
