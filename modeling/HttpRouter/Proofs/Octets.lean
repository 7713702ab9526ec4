import HttpRouter.Proofs.Escaping
import HttpRouter.Template.Basic

/-!
# Texts as octets

A server undoes the escapes of a path before it hands it over, and what it hands over are octets. Read as UTF-8 they are
what the path itself is read as (`Percent.decode_octets`), since a character outside ASCII begins with an octet that
never goes on with another character.

What is read is thereby no less safe than what was written: the two characters that end a segment, `/` and `.`, are read
only where they stand or are escaped (`Percent.isSegmentChar_of_mem_decode`), as octets above ASCII never come to one of
them.
-/

namespace HttpRouter.Text

open Template (isSegmentChar)

namespace Utf8

/-! ## Octets above ASCII -/

/-- The first octet of a character outside ASCII is above all octets that go on with a character. -/
theorem first_of_encodeChar {c : Char} (hc : 0x80 ≤ c.toNat) : ∃ b bs, encodeChar c = b :: bs ∧ 0xbf < b.toNat := by
  have hrange := toNat_range c
  rw [encodeChar, if_neg (by omega)]
  split
  · exact ⟨_, _, rfl, by rw [toNat_toUInt8] <;> omega⟩
  · split
    · exact ⟨_, _, rfl, by rw [toNat_toUInt8] <;> omega⟩
    · exact ⟨_, _, rfl, by rw [toNat_toUInt8] <;> omega⟩

theorem le_toUInt8 {n : Nat} (h : 0x80 ≤ n) (h' : n < 256) : 0x80 ≤ n.toUInt8.toNat := by
  rw [toNat_toUInt8 h']
  exact h

/-- All octets of a character outside ASCII are above ASCII. -/
theorem le_of_mem_encodeChar {c : Char} (hc : 0x80 ≤ c.toNat) : ∀ b ∈ encodeChar c, 0x80 ≤ b.toNat := by
  have hrange := toNat_range c
  rw [encodeChar, if_neg (by omega)]
  split
  · refine List.forall_mem_cons.mpr ⟨le_toUInt8 (by omega) (by omega), ?_⟩
    exact List.forall_mem_singleton.mpr (le_toUInt8 (by omega) (by omega))
  · split
    · refine List.forall_mem_cons.mpr ⟨le_toUInt8 (by omega) (by omega), ?_⟩
      refine List.forall_mem_cons.mpr ⟨le_toUInt8 (by omega) (by omega), ?_⟩
      exact List.forall_mem_singleton.mpr (le_toUInt8 (by omega) (by omega))
    · refine List.forall_mem_cons.mpr ⟨le_toUInt8 (by omega) (by omega), ?_⟩
      refine List.forall_mem_cons.mpr ⟨le_toUInt8 (by omega) (by omega), ?_⟩
      refine List.forall_mem_cons.mpr ⟨le_toUInt8 (by omega) (by omega), ?_⟩
      exact List.forall_mem_singleton.mpr (le_toUInt8 (by omega) (by omega))

/-! ## Characters begun -/

/-- What is known of a character that was begun: it goes on with octets between ASCII and the first octets, and its
value will be above ASCII. -/
structure Pending.Wide (p : Pending) : Prop where
  low : 0x80 ≤ p.low
  high : p.high ≤ 0xbf
  value : 2 ≤ if p.more = 0 then p.value else p.value * 0x40 + (p.low - 0x80)

/-- The same of a reader, which may stand between characters. -/
def Wide (state : State) : Prop :=
  ∀ p ∈ state, p.Wide

theorem wide_none : Wide none := nofun

/-- Between characters an ASCII octet is read as it is. -/
theorem start_of_ascii {b : Nat} (h : b < 0x80) : start b = ([Char.ofNat b], none) :=
  if_pos h

/-- Between characters any other octet begins a character, or is replaced. -/
theorem start_of_above {b : Nat} (h : 0x80 ≤ b) :
    (∃ p : Pending, p.Wide ∧ start b = ([], some p)) ∨ start b = ([replacement], none) := by
  by_cases h₁ : b < 0xc2
  · right
    rw [start, if_neg (by omega), if_pos h₁]
  by_cases h₂ : b < 0xe0
  · exact .inl ⟨_, ⟨Nat.le_refl _, Nat.le_refl _, by rw [if_pos rfl]; dsimp only; omega⟩, start_of_two (by omega) h₂⟩
  by_cases h₃ : b < 0xf0
  · -- The second octet of the least of these is not the least one.
    refine .inl ⟨_, ⟨?_, ?_, ?_⟩, start_of_three (by omega) h₃⟩
    · dsimp only
      split <;> omega
    · dsimp only
      split <;> omega
    · rw [if_neg Nat.one_ne_zero]
      dsimp only
      split <;> omega
  by_cases h₄ : b ≤ 0xf4
  · refine .inl ⟨_, ⟨?_, ?_, ?_⟩, start_of_four (by omega) h₄⟩
    · dsimp only
      split <;> omega
    · dsimp only
      split <;> omega
    · rw [if_neg (Nat.succ_ne_zero 1)]
      dsimp only
      split <;> omega
  · right
    rw [start, if_neg (by omega), if_neg h₁, if_neg h₂, if_neg (by omega), if_neg (by omega), if_neg h₃, if_neg (by omega),
      if_neg (by omega), if_neg (by omega)]

theorem wide_start (b : Nat) : Wide (start b).2 := by
  rcases Nat.lt_or_ge b 0x80 with h | h
  · rw [start_of_ascii h]
    exact wide_none
  · rcases start_of_above h with ⟨p, hp, heq⟩ | heq
    · rw [heq]
      rintro q hq
      obtain rfl := Option.mem_some_iff.mp hq
      exact hp
    · rw [heq]
      exact wide_none

/-- An octet that does not go on with a character begins anew behind a replacement. -/
theorem feed_of_outside {p : Pending} {b : UInt8} (h : ¬ (p.low ≤ b.toNat ∧ b.toNat ≤ p.high)) :
    feed (some p) b = (replacement :: (feed none b).1, (feed none b).2) := by
  rw [feed]
  exact if_neg h

/-- **A reader in the middle of a character gives that up for one outside ASCII**, and reads the latter. -/
theorem feedAll_encodeChar_of_wide {state : State} (h : Wide state) {c : Char} (hc : 0x80 ≤ c.toNat) :
    feedAll state (encodeChar c) = (finish state ++ [c], none) := by
  cases state with
  | none => exact feedAll_encodeChar c
  | some p =>
    obtain ⟨b, bs, hbs, hb⟩ := first_of_encodeChar hc
    have hread := feedAll_encodeChar c
    have hhigh := (h p rfl).high
    rw [hbs, feedAll] at hread ⊢
    rw [feed_of_outside (by omega)]
    rcases hnone : feed none b with ⟨cs, next⟩
    rw [hnone] at hread
    dsimp only at hread ⊢
    rw [List.cons_append, (Prod.mk.inj hread).1, (Prod.mk.inj hread).2]
    rfl

section Inside

variable {p : Pending} {b : UInt8} (h : p.low ≤ b.toNat ∧ b.toNat ≤ p.high)
include h

/-- The last octet of a character completes it. -/
theorem feed_of_last (hmore : p.more = 0) :
    feed (some p) b = ([Char.ofNat (p.value * 0x40 + (b.toNat - 0x80))], none) := by
  rw [feed]
  dsimp only
  rw [if_pos h, hmore]

/-- Any other octet goes on with it. -/
theorem feed_of_more {more : Nat} (hmore : p.more = more + 1) :
    feed (some p) b = ([], some ⟨p.value * 0x40 + (b.toNat - 0x80), more, 0x80, 0xbf⟩) := by
  rw [feed]
  dsimp only
  rw [if_pos h, hmore]

end Inside

/-- Reading goes on with characters that are wide. -/
theorem wide_feed {state : State} (h : Wide state) (b : UInt8) : Wide (feed state b).2 := by
  cases state with
  | none => exact wide_start b.toNat
  | some p =>
    by_cases hb : p.low ≤ b.toNat ∧ b.toNat ≤ p.high
    · obtain ⟨hlow, -, hvalue⟩ := h p rfl
      rcases hmore : p.more with _ | more
      · rw [feed_of_last hb hmore]
        exact wide_none
      · rw [feed_of_more hb hmore]
        rw [if_neg (by omega)] at hvalue
        rintro q hq
        obtain rfl := Option.mem_some_iff.mp hq
        refine ⟨Nat.le_refl _, Nat.le_refl _, ?_⟩
        dsimp only
        split <;> omega
    · rw [feed_of_outside hb]
      exact wide_start b.toNat

end Utf8

/-! ## What may be read -/

/-- Every number is that of a character which a segment may hold, except for two. -/
theorem isSegmentChar_ofNat {n : Nat} (hslash : n ≠ 0x2f) (hdot : n ≠ 0x2e) : isSegmentChar (Char.ofNat n) = true := by
  rw [Template.isSegmentChar, Bool.and_eq_true, bne_iff_ne, bne_iff_ne]
  by_cases hvalid : n.isValidChar
  · have hn : (Char.ofNat n).toNat = n := by
      rw [Char.ofNat, dif_pos hvalid]
      rfl
    refine ⟨?_, ?_⟩
    · intro h
      rw [Letter.char.inj h] at hn
      exact hslash hn.symm
    · intro h
      rw [Letter.char.inj h] at hn
      exact hdot hn.symm
  · have hn : (Char.ofNat n).toNat = 0 := by
      rw [Char.ofNat, dif_neg hvalid]
      rfl
    refine ⟨?_, ?_⟩
    · intro h
      rw [Letter.char.inj h] at hn
      cases hn
    · intro h
      rw [Letter.char.inj h] at hn
      cases hn

/-- These two end a segment. -/
theorem toNat_of_isSegmentChar {c : Char} (h : isSegmentChar c = true) : c.toNat ≠ 0x2f ∧ c.toNat ≠ 0x2e := by
  rw [Template.isSegmentChar, Bool.and_eq_true, bne_iff_ne, bne_iff_ne] at h
  exact ⟨fun hslash => h.1 (congrArg Letter.char (Char.toNat_inj.mp hslash)),
    fun hdot => h.2 (congrArg Letter.char (Char.toNat_inj.mp hdot))⟩

namespace Utf8

theorem isSegmentChar_replacement : isSegmentChar replacement = true :=
  isSegmentChar_ofNat (by decide) (by decide)

theorem isSegmentChar_of_mem_finish (state : State) : ∀ c ∈ finish state, isSegmentChar c = true := by
  cases state with
  | none => nofun
  | some p => exact List.forall_mem_singleton.mpr isSegmentChar_replacement

/-- **A segment is ended by octets for `/` and `.` only**: no other octet completes one of these. -/
theorem isSegmentChar_of_mem_feed {state : State} (h : Wide state) {b : UInt8} (hslash : b.toNat ≠ 0x2f)
    (hdot : b.toNat ≠ 0x2e) : ∀ c ∈ (feed state b).1, isSegmentChar c = true := by
  have hstart : ∀ c ∈ (start b.toNat).1, isSegmentChar c = true := by
    intro c hc
    rcases Nat.lt_or_ge b.toNat 0x80 with h | h
    · rw [start_of_ascii h] at hc
      obtain rfl := List.mem_singleton.mp hc
      exact isSegmentChar_ofNat hslash hdot
    · rcases start_of_above h with ⟨p, -, heq⟩ | heq
      · rw [heq] at hc
        cases hc
      · rw [heq] at hc
        obtain rfl := List.mem_singleton.mp hc
        exact isSegmentChar_replacement
  cases state with
  | none => exact hstart
  | some p =>
    by_cases hb : p.low ≤ b.toNat ∧ b.toNat ≤ p.high
    · obtain ⟨hlow, -, hvalue⟩ := h p rfl
      rcases hmore : p.more with _ | more
      · rw [feed_of_last hb hmore]
        rw [if_pos hmore] at hvalue
        intro c hc
        rw [List.mem_singleton.mp hc]
        have hvalue' : 0x80 ≤ p.value * 0x40 + (b.toNat - 0x80) := by omega
        generalize p.value * 0x40 + (b.toNat - 0x80) = value at hvalue'
        exact isSegmentChar_ofNat (by omega) (by omega)
      · rw [feed_of_more hb hmore]
        nofun
    · rw [feed_of_outside hb]
      exact List.forall_mem_cons.mpr ⟨isSegmentChar_replacement, hstart⟩

end Utf8

namespace Percent

/-! ## The octets of a text -/

/-- The octets that a text with escapes stands for: those of its escapes, and those of its other characters. -/
def octets : List Char → List UInt8
  | [] => []
  | '%' :: h :: l :: rest =>
    match octet? h l with
    | some b => b :: octets rest
    | none => 0x25 :: octets (h :: l :: rest)
  | c :: rest => Utf8.encodeChar c ++ octets rest

/-- A text is read like its octets, also from the middle of a character on. -/
theorem decodeFrom_octets {state : Utf8.State} (h : Utf8.Wide state) (s : List Char) :
    Utf8.decodeFrom state (octets s) = decodeFrom state s := by
  induction s using octets.induct generalizing state with
  | case1 => rfl
  | case2 high low rest b hb ih =>
    rw [octets, hb, decodeFrom, hb]
    exact congrArg ((Utf8.feed state b).1 ++ ·) (ih (Utf8.wide_feed h b))
  | case3 high low rest hb ih =>
    rw [octets, hb, decodeFrom, hb]
    exact congrArg ((Utf8.feed state 0x25).1 ++ ·) (ih (Utf8.wide_feed h 0x25))
  | case4 c rest hc ih =>
    rw [octets, decodeFrom]
    · by_cases hascii : c.toNat < 0x80
      · rw [if_pos hascii, Utf8.encodeChar, if_pos hascii, List.singleton_append]
        exact congrArg ((Utf8.feed state c.toNat.toUInt8).1 ++ ·) (ih (Utf8.wide_feed h _))
      · rw [if_neg hascii, Utf8.decodeFrom_append, Utf8.feedAll_encodeChar_of_wide h (by omega), ih Utf8.wide_none,
          List.append_assoc]
        rfl
    · exact hc
    · exact hc

/-- **A text is read like its octets.** -/
theorem decode_octets (s : List Char) : Utf8.decode (octets s) = decode s :=
  decodeFrom_octets Utf8.wide_none s

/-! ## Texts without escapes of delimiters -/

/-- Whether no escape in a text stands for a character that ends a segment. -/
def Clean (s : List Char) : Prop :=
  ∀ h l b, ['%', h, l] <:+: s → octet? h l = some b → b.toNat ≠ 0x2f ∧ b.toNat ≠ 0x2e

theorem clean_nil : Clean [] := by
  intro h l b hpart
  cases List.infix_nil.mp hpart

/-- What stands in a clean text is clean. -/
theorem Clean.of_part {s t : List Char} (h : Clean t) (hs : s <:+: t) : Clean s :=
  fun high low b hpart => h high low b (hpart.trans hs)

/-- **What a clean text is read as ends no segment**, if no character of the text does. -/
theorem isSegmentChar_of_mem_decodeFrom {state : Utf8.State} (h : Utf8.Wide state) {s : List Char} (hclean : Clean s)
    (hs : ∀ c ∈ s, isSegmentChar c = true) : ∀ c ∈ decodeFrom state s, isSegmentChar c = true := by
  induction s using octets.induct generalizing state with
  | case1 => exact Utf8.isSegmentChar_of_mem_finish state
  | case2 high low rest b hb ih =>
    obtain ⟨hslash, hdot⟩ := hclean high low b (List.prefix_append ['%', high, low] rest).isInfix hb
    rw [decodeFrom, hb]
    refine List.forall_mem_append.mpr ⟨Utf8.isSegmentChar_of_mem_feed h hslash hdot, ?_⟩
    refine ih (Utf8.wide_feed h b) (hclean.of_part (List.suffix_append ['%', high, low] rest).isInfix) ?_
    exact fun c hc => hs c (List.mem_append_right ['%', high, low] hc)
  | case3 high low rest hb ih =>
    rw [decodeFrom, hb]
    refine List.forall_mem_append.mpr ⟨Utf8.isSegmentChar_of_mem_feed h (by decide) (by decide), ?_⟩
    refine ih (Utf8.wide_feed h 0x25) (hclean.of_part (List.suffix_append ['%'] (high :: low :: rest)).isInfix) ?_
    exact fun c hc => hs c (List.mem_cons_of_mem _ hc)
  | case4 c rest hc ih =>
    obtain ⟨hhead, htail⟩ := List.forall_mem_cons.mp hs
    have hrest : Clean rest := hclean.of_part (List.suffix_cons c rest).isInfix
    rw [decodeFrom]
    · by_cases hascii : c.toNat < 0x80
      · rw [if_pos hascii]
        have hoctet : c.toNat.toUInt8.toNat = c.toNat := Utf8.toNat_toUInt8 (by omega)
        obtain ⟨hslash, hdot⟩ := toNat_of_isSegmentChar hhead
        rw [← hoctet] at hslash hdot
        exact List.forall_mem_append.mpr
          ⟨Utf8.isSegmentChar_of_mem_feed h hslash hdot, ih (Utf8.wide_feed h _) hrest htail⟩
      · rw [if_neg hascii]
        exact List.forall_mem_append.mpr
          ⟨Utf8.isSegmentChar_of_mem_finish state, List.forall_mem_cons.mpr ⟨hhead, ih Utf8.wide_none hrest htail⟩⟩
    · exact hc

/-- A character that starts no escape may stand in front of a clean text. -/
theorem clean_cons {c : Char} (hc : c ≠ '%') {s : List Char} (hs : Clean s) : Clean (c :: s) := by
  intro h l b hpart
  rcases List.infix_cons_iff.mp hpart with hfront | hpart
  · exact absurd (List.cons_prefix_cons.mp hfront).1.symm hc
  · exact hs h l b hpart

/-- So may the escape of an octet other than those of the delimiters. -/
theorem clean_escape {b : UInt8} (hslash : b.toNat ≠ 0x2f) (hdot : b.toNat ≠ 0x2e) {s : List Char} (hs : Clean s) :
    Clean (escape b ++ s) := by
  have hdigit : ∀ n < 16, hexDigit n ≠ '%' := by decide
  have hb := b.toNat_lt
  intro h l b' hpart hoctet
  rw [escape] at hpart
  rcases List.infix_cons_iff.mp hpart with hfront | hpart
  · obtain ⟨-, hdigits⟩ := List.cons_prefix_cons.mp hfront
    obtain ⟨hhigh, hdigit'⟩ := List.cons_prefix_cons.mp hdigits
    obtain ⟨hlow, -⟩ := List.cons_prefix_cons.mp hdigit'
    rw [hhigh, hlow, octet?_escape] at hoctet
    obtain rfl := Option.some.inj hoctet
    exact ⟨hslash, hdot⟩
  · exact clean_cons (hdigit _ (by omega)) (clean_cons (hdigit _ (by omega)) hs) h l b' hpart hoctet

theorem clean_escapes {bs : List UInt8} (hbs : ∀ b ∈ bs, b.toNat ≠ 0x2f ∧ b.toNat ≠ 0x2e) {s : List Char}
    (hs : Clean s) : Clean (bs.flatMap escape ++ s) := by
  induction bs with
  | nil => exact hs
  | cons b bs ih =>
    obtain ⟨⟨hslash, hdot⟩, hrest⟩ := List.forall_mem_cons.mp hbs
    rw [List.flatMap_cons, List.append_assoc]
    exact clean_escape hslash hdot (ih hrest)

/-- **An escaped text is clean** if slashes were held to be safe, as dots always are. -/
theorem clean_encode {safe : List Char} (hsafe : ∀ c ∈ safe, c.toNat < 0x80 ∧ c ≠ '%') (hslash : '/' ∈ safe)
    (s : List Char) : Clean (encode safe s) := by
  induction s with
  | nil => exact clean_nil
  | cons c s ih =>
    rw [encode_cons, encodeChar]
    split
    · next h =>
      have hc : c ≠ '%' := by
        rcases Bool.or_eq_true_iff.mp h with h | h
        · exact (plain_of_isUnreserved h).2
        · exact (hsafe c (List.contains_iff_mem.mp h)).2
      exact clean_cons hc ih
    · next h =>
      refine clean_escapes ?_ ih
      intro b hb
      by_cases hascii : c.toNat < 0x80
      · -- The one octet of the character is not that of a delimiter, since these are safe.
        rw [Utf8.encodeChar, if_pos hascii, List.mem_singleton] at hb
        rw [hb, Utf8.toNat_toUInt8 (by omega)]
        refine ⟨?_, ?_⟩
        · intro hc
          obtain rfl : c = '/' := Char.toNat_inj.mp hc
          exact h (Bool.or_eq_true_iff.mpr (.inr (List.contains_iff_mem.mpr hslash)))
        · intro hc
          obtain rfl : c = '.' := Char.toNat_inj.mp hc
          exact h (Bool.or_eq_true_iff.mpr (.inl (by decide)))
      · have hle := Utf8.le_of_mem_encodeChar (by omega) b hb
        exact ⟨by omega, by omega⟩

end Percent

end HttpRouter.Text
