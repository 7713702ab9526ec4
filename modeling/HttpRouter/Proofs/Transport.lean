import HttpRouter.Proofs.Redirecting
import Mathlib.Data.Bool.AllAny

/-!
# Paths and mount points in transport

A server hands texts over as characters that stand for octets, which is how both the path of a request and the mount
point of the application arrive. The gateway reads the octets of a path as UTF-8 and encodes what it read: the path that
routes, redirects and access records get to see is made of few characters, and no text is lost. It encodes a mount point
without reading it first, so that the octets of a character outside ASCII are encoded as characters of their own: only
a mount point in ASCII is found again in an absolute location.

* `Text.Percent.encoded_encode`: what encoded texts are made of.
* `Text.Percent.octets_encode`: a server that undoes the escapes gets the octets of the text.
* `Environ.path_reencoded`: the path that the gateway makes of a path that was handed over.
* `Environ.absolute_of_mount`: the mount point in an absolute location.
-/

namespace HttpRouter

variable {κ : Type}

namespace Text

/-! ## Octets that are read -/

namespace Utf8

/-- Every octet completes a character, or is kept as part of one. -/
theorem feed_ne_nil (state : State) (b : UInt8) : (feed state b).1 ≠ [] ∨ (feed state b).2.isSome := by
  cases state with
  | none =>
    rcases Nat.lt_or_ge b.toNat 0x80 with h | h
    · exact .inl (by rw [feed, start_of_ascii h]; exact List.cons_ne_nil _ _)
    · rcases start_of_above h with ⟨p, -, heq⟩ | heq
      · exact .inr (by rw [feed, heq]; rfl)
      · exact .inl (by rw [feed, heq]; exact List.cons_ne_nil _ _)
  | some p =>
    by_cases hb : p.low ≤ b.toNat ∧ b.toNat ≤ p.high
    · rcases hmore : p.more with _ | more
      · exact .inl (by rw [feed_of_last hb hmore]; exact List.cons_ne_nil _ _)
      · exact .inr (by rw [feed_of_more hb hmore]; rfl)
    · exact .inl (by rw [feed_of_outside hb]; exact List.cons_ne_nil _ _)

/-- Nothing is read only where there is nothing. -/
theorem eq_nil_of_decodeFrom {state : State} {bs : List UInt8} (h : decodeFrom state bs = []) :
    state = none ∧ bs = [] := by
  induction bs generalizing state with
  | nil =>
    cases state with
    | none => exact ⟨rfl, rfl⟩
    | some p => cases h
  | cons b bs ih =>
    have hfeed := feed_ne_nil state b
    rw [decodeFrom] at h
    generalize feed state b = fed at h hfeed
    obtain ⟨cs, next⟩ := fed
    obtain ⟨rfl, hrest⟩ := List.append_eq_nil_iff.mp h
    obtain ⟨rfl, -⟩ := ih hrest
    rcases hfeed with hne | hpending
    · exact absurd rfl hne
    · cases hpending

theorem encodeChar_of_ascii {c : Char} (h : c.toNat < 0x80) : encodeChar c = [c.toNat.toUInt8] :=
  if_pos h

/-- Only a slash has the octet of one. -/
theorem eq_slash_of_mem {c : Char} {b : UInt8} (h : b ∈ encodeChar c) (hb : b.toNat = 0x2f) : c = '/' := by
  by_cases hascii : c.toNat < 0x80
  · rw [encodeChar_of_ascii hascii, List.mem_singleton] at h
    rw [h, toNat_toUInt8 (by omega)] at hb
    exact Char.toNat_inj.mp hb
  · have hle := le_of_mem_encodeChar (by omega) b h
    omega

/-- A character outside ASCII has more than one octet. -/
theorem one_lt_length_encodeChar {c : Char} (h : 0x80 ≤ c.toNat) : 1 < (encodeChar c).length := by
  rw [encodeChar, if_neg (by omega)]
  split
  · exact Nat.lt_succ_self 1
  · split
    · exact Nat.lt_add_of_pos_right Nat.two_pos
    · exact Nat.lt_add_of_pos_right (Nat.succ_pos 2)

/-- A text has no more characters than octets. -/
theorem length_le_length_encode (s : List Char) : s.length ≤ (encode s).length := by
  induction s with
  | nil => exact Nat.le_refl 0
  | cons c s ih =>
    have hc : 0 < (encodeChar c).length := List.length_pos_iff.mpr (Template.encodeChar_ne_nil c)
    rw [encode_cons, List.length_append, List.length_cons]
    omega

/-- It has fewer if one of them is outside ASCII. -/
theorem length_lt_length_encode {s : List Char} {c : Char} (hmem : c ∈ s) (hc : 0x80 ≤ c.toNat) :
    s.length < (encode s).length := by
  obtain ⟨before, after, rfl⟩ := List.append_of_mem hmem
  have hone := one_lt_length_encodeChar hc
  have hbefore := length_le_length_encode before
  have hafter := length_le_length_encode after
  simp only [encode_append, encode_cons, List.length_append, List.length_cons]
  omega

end Utf8

/-! ## Encoded texts -/

namespace Percent

/-- The digits of escapes as they are written. -/
def capitalDigits : List Char := "0123456789ABCDEF".toList

theorem hexDigit_mem : ∀ n < 16, hexDigit n ∈ capitalDigits := by decide

theorem isUnreserved_of_capitalDigit : ∀ c ∈ capitalDigits, isUnreserved c = true :=
  List.all_eq_true.mp (by decide)

/-- The texts that are made of unreserved characters, safe ones, and escapes with digits in capitals. -/
inductive Encoded (safe : List Char) : List Char → Prop
  | nil : Encoded safe []
  | plain {c : Char} {rest : List Char} (hc : isUnreserved c = true ∨ c ∈ safe) (h : Encoded safe rest) :
      Encoded safe (c :: rest)
  | escaped {high low : Char} {rest : List Char} (hhigh : high ∈ capitalDigits) (hlow : low ∈ capitalDigits)
      (h : Encoded safe rest) : Encoded safe ('%' :: high :: low :: rest)

theorem Encoded.append {safe s t : List Char} (hs : Encoded safe s) (ht : Encoded safe t) : Encoded safe (s ++ t) := by
  induction hs with
  | nil => exact ht
  | plain hc _ ih => exact .plain hc ih
  | escaped hhigh hlow _ ih => exact .escaped hhigh hlow ih

/-- The characters of an encoded text. -/
theorem Encoded.of_mem {safe s : List Char} (h : Encoded safe s) {c : Char} (hc : c ∈ s) :
    isUnreserved c = true ∨ c ∈ safe ∨ c = '%' := by
  induction h with
  | nil => cases hc
  | plain hfirst _ ih =>
    rcases List.mem_cons.mp hc with rfl | hc
    · exact hfirst.imp_right .inl
    · exact ih hc
  | escaped hhigh hlow _ ih =>
    rcases List.mem_cons.mp hc with rfl | hc
    · exact .inr (.inr rfl)
    · rcases List.mem_cons.mp hc with rfl | hc
      · exact .inl (isUnreserved_of_capitalDigit _ hhigh)
      · rcases List.mem_cons.mp hc with rfl | hc
        · exact .inl (isUnreserved_of_capitalDigit _ hlow)
        · exact ih hc

theorem encoded_escapes (safe : List Char) (bs : List UInt8) : Encoded safe (bs.flatMap escape) := by
  induction bs with
  | nil => exact .nil
  | cons b bs ih =>
    have hb := b.toNat_lt
    exact .escaped (hexDigit_mem _ (by omega)) (hexDigit_mem _ (by omega)) ih

/-- **What is encoded is made of unreserved characters, safe ones and escapes.** -/
theorem encoded_encode (safe s : List Char) : Encoded safe (encode safe s) := by
  induction s with
  | nil => exact .nil
  | cons c s ih =>
    rw [encode_cons]
    refine Encoded.append ?_ ih
    rw [encodeChar]
    split
    · next h => exact .plain ((Bool.or_eq_true_iff.mp h).imp_right List.contains_iff_mem.mp) .nil
    · exact encoded_escapes safe _

/-- Nothing but the empty text is encoded as nothing. -/
theorem encode_ne_nil {safe s : List Char} (h : s ≠ []) : encode safe s ≠ [] := by
  obtain ⟨c, s, rfl⟩ := List.exists_cons_of_ne_nil h
  rw [encode_cons]
  exact List.append_ne_nil_of_left_ne_nil (percentEncodeChar_ne_nil safe c) _

/-- **Slashes are neither added nor escaped** if they are safe. -/
theorem count_slash_encode {safe : List Char} (hsafe : '/' ∈ safe) (s : List Char) :
    (encode safe s).count '/' = s.count '/' := by
  induction s with
  | nil => rfl
  | cons c s ih =>
    rw [encode_cons, List.count_append, ih]
    by_cases hc : c = '/'
    · rw [hc, encodeChar_slash hsafe, List.count_cons_self, List.count_cons_self, List.count_nil, Nat.add_comm]
    · rw [List.count_eq_zero.mpr (slash_notMem_encodeChar hc), List.count_cons_of_ne hc, Nat.zero_add]

/-- A character that starts no escape stands for its own octets. -/
theorem octets_of_ne {c : Char} (hc : c ≠ '%') (rest : List Char) :
    octets (c :: rest) = Utf8.encodeChar c ++ octets rest := by
  rw [octets]
  exact fun _ _ _ h _ => hc h

theorem octets_escapes (bs : List UInt8) (rest : List Char) :
    octets (bs.flatMap escape ++ rest) = bs ++ octets rest := by
  induction bs with
  | nil => rfl
  | cons b bs ih =>
    rw [List.flatMap_cons, escape, List.append_assoc]
    show octets ('%' :: _ :: _ :: (bs.flatMap escape ++ rest)) = _
    rw [octets, octet?_escape, ih]
    rfl

section Safe

variable {safe : List Char} (hsafe : ∀ c ∈ safe, c.toNat < 0x80 ∧ c ≠ '%')

include hsafe

/-- **A server that undoes the escapes gets the octets of the text.** -/
theorem octets_encode (s : List Char) : octets (encode safe s) = Utf8.encode s := by
  induction s with
  | nil => rfl
  | cons c s ih =>
    rw [encode_cons, encodeChar, Utf8.encode_cons, ← ih]
    split
    · next h =>
      have hc : c ≠ '%' := by
        rcases Bool.or_eq_true_iff.mp h with h | h
        · exact (plain_of_isUnreserved h).2
        · exact (hsafe c (List.contains_iff_mem.mp h)).2
      exact octets_of_ne hc _
    · exact octets_escapes _ _

end Safe

end Percent

end Text

/-! ## Initializers and paths -/

namespace Initializer

/-- Whether an initializer leaves the path of every exchange as it is. -/
def KeepsPath (i : Initializer) : Prop :=
  ∀ x, (i.apply x).exchange.path = x.path

/-- Only an initializer of the application changes paths. -/
theorem keepsPath_of_ne {i : Initializer} (h : ∀ effects, i ≠ .custom effects) : i.KeepsPath := by
  intro x
  cases i with
  | noTrailingSlash => exact congrArg Exchange.path (applyNoTrailingSlash_exchange x)
  | methodOverride param allowed =>
    rw [apply, applyOverride]
    dsimp only
    split <;> rfl
  | allowedMethods allowed =>
    rw [apply]
    split <;> rfl
  | custom effects => exact absurd rfl (h effects)

/-- Initializers that keep paths keep them one after the other. -/
theorem path_leave {is : List Initializer} (h : ∀ i ∈ is, i.KeepsPath) (x : Exchange) :
    (leave (applied is x) x).path = x.path := by
  induction is generalizing x with
  | nil => rfl
  | cons i rest ih =>
    have hpath := h i List.mem_cons_self x
    by_cases hpass : (i.apply x).result = .ok none
    · have hrest := ih (fun j hj => h j (List.mem_cons_of_mem i hj)) (i.apply x).exchange
      rw [applied_of_passed hpass, leave, List.foldl_cons]
      exact hrest.trans hpath
    · rw [applied_of_ended hpass]
      exact hpath

end Initializer

/-- The path that is routed is that of the request, if the initializers keep it. -/
theorem Dispatcher.path_prepared {d : Dispatcher κ} (h : ∀ i ∈ d.initializers, i.KeepsPath) (x : Exchange) :
    (d.prepared x).path = x.path := by
  rw [prepared, executed]
  split
  · rfl
  · exact Initializer.path_leave h x

namespace Environ

open Text (Percent.Encoded Percent.isUnreserved Percent.decode Percent.encode Percent.octets)
open Text (Utf8.decode Utf8.ofString)

/-! ## Paths -/

/-- Whether a character is in print and is none of those that would end a path where it stands: a space, a quotation
mark, a question mark, a number sign or a backslash. -/
def IsPathChar (c : Char) : Prop :=
  0x20 < c.toNat ∧ c.toNat < 0x7f ∧ c ∉ [' ', '"', '?', '#', '\\']

instance (c : Char) : Decidable (IsPathChar c) :=
  inferInstanceAs (Decidable (_ ∧ _ ∧ _))

theorem isPathChar_of_unreserved :
    ∀ n < 0x80, Percent.isUnreserved (Char.ofNat n) = true → IsPathChar (Char.ofNat n) := by
  decide

theorem isPathChar_of_safe : ∀ c ∈ '%' :: pathSafe, IsPathChar c :=
  List.all_iff_forall_prop.mp (by decide)

/-- **Every character of an encoded path is one that paths may have.** -/
theorem isPathChar_of_mem {s : List Char} (h : Percent.Encoded pathSafe s) : ∀ c ∈ s, IsPathChar c := by
  intro c hc
  rcases h.of_mem hc with hunreserved | hsafe | rfl
  · have hchar := isPathChar_of_unreserved c.toNat (Text.Percent.plain_of_isUnreserved hunreserved).1
    rw [Char.ofNat_toNat] at hchar
    exact hchar hunreserved
  · exact isPathChar_of_safe c (List.mem_cons_of_mem _ hsafe)
  · exact isPathChar_of_safe '%' List.mem_cons_self

/-- Characters that are numbers of octets stand for these, one each. -/
theorem exists_octets {s : String} (h : ∀ c ∈ s.toList, c.toNat < 256) :
    ∃ bs, octets? s = some bs ∧ bs.length = s.toList.length := by
  rw [octets?]
  generalize s.toList = cs at h
  induction cs with
  | nil => exact ⟨[], rfl, rfl⟩
  | cons c cs ih =>
    obtain ⟨hc, hcs⟩ := List.forall_mem_cons.mp h
    obtain ⟨bs, hbs, hlength⟩ := ih hcs
    refine ⟨UInt8.ofNat c.toNat :: bs, ?_, congrArg (· + 1) hlength⟩
    rw [List.mapM_cons, if_pos hc, hbs]
    rfl

/-- A path that was handed over stands for octets, of which there are some: an empty one is taken for the root. -/
theorem octets_of_path {info : String} (h : ∀ c ∈ info.toList, c.toNat < 256) :
    ∃ bs, octets? (orRoot info) = some bs ∧ bs ≠ [] := by
  by_cases hempty : info = ""
  · rw [hempty]
    exact ⟨[0x2f], rfl, List.cons_ne_nil _ _⟩
  · obtain ⟨bs, hbs, hlength⟩ := exists_octets h
    rw [orRoot_of_ne hempty]
    refine ⟨bs, hbs, ?_⟩
    rw [ne_eq, ← List.length_eq_zero_iff, hlength, List.length_eq_zero_iff, String.toList_eq_nil_iff]
    exact hempty

theorem path_of_octets {env : Environ} {bs : List UInt8}
    (h : octets? (orRoot ((env.get? "PATH_INFO").getD "")) = some bs) :
    env.path = .ok (String.ofList (Percent.encode pathSafe (Utf8.decode bs))) := by
  rw [path, h]

/-- The octets of a text that is not empty are not empty. -/
theorem latin1_ofString_ne {s : String} (h : s ≠ "") : latin1 (Utf8.ofString s) ≠ "" := by
  have hlength := Text.Utf8.length_le_length_encode s.toList
  rw [ne_eq, ← String.toList_eq_nil_iff, ← List.length_eq_zero_iff] at h ⊢
  rw [latin1, String.toList_ofList, List.length_map, Utf8.ofString]
  omega

/-- How a path comes out that was handed over as `info`. -/
structure Reencodes (info path : String) : Prop where
  nonempty : path ≠ ""
  encoded : Percent.Encoded pathSafe path.toList
  characters : ∀ c ∈ path.toList, IsPathChar c
  /-- So are those of the location that such a path without the slashes at its end is redirected to. -/
  shortened : ∀ l ∈ Initializer.withoutTrailingSlash (Text.ofString path), ∃ c, l = .char c ∧ IsPathChar c
  /-- If the octets of a text were handed over, the text is had back, and its slashes stand for themselves. -/
  lossless : ∀ s : String, s ≠ "" → info = latin1 (Utf8.ofString s) →
    String.ofList (Percent.decode path.toList) = s ∧ path.toList.count '/' = s.toList.count '/'

/-- What octets are read as comes out encoded. -/
theorem reencodes_decode {info : String} {bs : List UInt8} (hbs : octets? (orRoot info) = some bs) (hne : bs ≠ []) :
    Reencodes info (String.ofList (Percent.encode pathSafe (Utf8.decode bs))) := by
  have hsafe : '/' ∈ pathSafe := by decide
  have hdecoded : Utf8.decode bs ≠ [] := fun h => hne (Text.Utf8.eq_nil_of_decodeFrom h).2
  have hencoded := Text.Percent.encoded_encode pathSafe (Utf8.decode bs)
  refine ⟨?_, ?_, ?_, ?_, ?_⟩
  · rw [← String.ofList_nil]
    exact fun h => Text.Percent.encode_ne_nil hdecoded (String.ofList_injective h)
  · rw [String.toList_ofList]
    exact hencoded
  · rw [String.toList_ofList]
    exact isPathChar_of_mem hencoded
  · obtain ⟨short, -, hkept⟩ := Initializer.exists_encode_of_encode hsafe (Utf8.decode bs)
    rw [Text.ofString_ofList, hkept]
    intro l hl
    obtain ⟨c, hc, rfl⟩ := List.mem_map.mp hl
    exact ⟨c, rfl, isPathChar_of_mem (Text.Percent.encoded_encode _ _) c hc⟩
  · rintro s hs rfl
    rw [orRoot_of_ne (latin1_ofString_ne hs), octets?_latin1] at hbs
    obtain rfl := Option.some.inj hbs
    rw [Utf8.ofString, String.toList_ofList, Text.Utf8.decode_encode, Text.Percent.decode_encode pathSafe_plain,
      String.ofList_toList]
    exact ⟨rfl, Text.Percent.count_slash_encode hsafe _⟩

/-- **The path that the gateway makes of what a server hands over is clean and loses nothing**, whatever octets these
are: it is made of unreserved and safe characters and of escapes, and if it was a text that was handed over, the path is
read as that text and has its slashes. It is the path of the request, and initializers of the router leave it at that. -/
theorem path_reencoded {env : Environ} (h : ∀ c ∈ ((env.get? "PATH_INFO").getD "").toList, c.toNat < 256) :
    ∃ path : String, env.path = .ok path ∧ Reencodes ((env.get? "PATH_INFO").getD "") path ∧
      ∀ request, env.request = .ok request → request.path = path ∧
        ∀ (d : Dispatcher κ) (id : String), (∀ i ∈ d.initializers, i.KeepsPath) →
          (d.prepared (.ofRequest request id)).path = path := by
  obtain ⟨bs, hbs, hne⟩ := octets_of_path h
  have hpath := path_of_octets hbs
  refine ⟨_, hpath, reencodes_decode hbs hne, ?_⟩
  intro request hrequest
  obtain ⟨path, hrouted, hsent, -⟩ := request_eq_ok hrequest
  obtain rfl := Except.ok.inj (hrouted.symm.trans hpath)
  refine ⟨hsent, ?_⟩
  intro d id hkeeps
  exact (d.path_prepared hkeeps _).trans hsent

/-- Octets that are not all of a text come out as well: the last one here is read as a replacement. -/
theorem path_reencoded_store :
    (∀ c ∈ (((store "/caf\u00c3\u00a9 \"1\"/\u00ff" "").get? "PATH_INFO").getD "").toList, c.toNat < 256) ∧
      (store "/caf\u00c3\u00a9 \"1\"/\u00ff" "").path = .ok "/caf%C3%A9%20%221%22/%EF%BF%BD" ∧
      Reencodes "/caf\u00c3\u00a9 \"1\"/\u00ff" "/caf%C3%A9%20%221%22/%EF%BF%BD" ∧
      ∀ request, (store "/caf\u00c3\u00a9 \"1\"/\u00ff" "").request = .ok request →
        (Dispatcher.plainPage.prepared (.ofRequest request "a1b2c3d4")).path = "/caf%C3%A9%20%221%22/%EF%BF%BD" := by
  have hoctets : ∀ c ∈ (((store "/caf\u00c3\u00a9 \"1\"/\u00ff" "").get? "PATH_INFO").getD "").toList,
      c.toNat < 256 :=
    List.all_iff_forall_prop.mp (by decide)
  have hpath : (store "/caf\u00c3\u00a9 \"1\"/\u00ff" "").path = .ok "/caf%C3%A9%20%221%22/%EF%BF%BD" := rfl
  obtain ⟨path, hsent, hreencodes, hrouted⟩ := path_reencoded (κ := Unit) hoctets
  obtain rfl := Except.ok.inj (hpath.symm.trans hsent)
  refine ⟨hoctets, hpath, hreencodes, ?_⟩
  intro request hrequest
  refine (hrouted request hrequest).2 Dispatcher.plainPage _ ?_
  obtain ⟨allowed, hdefault⟩ := Config.initializers_default
  intro i hi
  refine Initializer.keepsPath_of_ne ?_
  rintro effects rfl
  rw [Dispatcher.plainPage, hdefault] at hi
  rcases List.mem_cons.mp hi with hi | hi
  · cases hi
  · cases List.mem_singleton.mp hi

/-! ## Mount points -/

/-- Whether all characters of a text are in ASCII. -/
def IsAscii (s : String) : Prop :=
  ∀ c ∈ s.toList, c.toNat < 0x80

instance (s : String) : Decidable (IsAscii s) :=
  List.decidableBAll _ _

/-- **A text is handed over as it is exactly if it is in ASCII.** -/
theorem latin1_ofString_eq_iff {s : String} : latin1 (Utf8.ofString s) = s ↔ IsAscii s := by
  constructor
  · intro h c hc
    refine Classical.byContradiction fun hwide => ?_
    have hlength := Text.Utf8.length_lt_length_encode hc (Nat.le_of_not_lt hwide)
    have hsame := congrArg (fun s => s.toList.length) h
    rw [latin1, String.toList_ofList, List.length_map, Utf8.ofString] at hsame
    omega
  · intro h
    rw [← String.toList_inj, latin1, String.toList_ofList, Utf8.ofString]
    rw [IsAscii] at h
    generalize s.toList = cs at h
    induction cs with
    | nil => rfl
    | cons c cs ih =>
      obtain ⟨hc, hcs⟩ := List.forall_mem_cons.mp h
      rw [Text.Utf8.encode_cons, Text.Utf8.encodeChar_of_ascii hc, List.singleton_append, List.map_cons, ih hcs,
        Text.Utf8.toNat_toUInt8 (by omega), Char.ofNat_toNat]

/-- What is handed over is in ASCII exactly if the text is. -/
theorem isAscii_latin1_iff {s : String} : IsAscii (latin1 (Utf8.ofString s)) ↔ IsAscii s := by
  constructor
  · intro h c hc
    refine Classical.byContradiction fun hwide => ?_
    obtain ⟨b, hb⟩ := List.exists_mem_of_ne_nil _ (Template.encodeChar_ne_nil c)
    have hle := Text.Utf8.le_of_mem_encodeChar (Nat.le_of_not_lt hwide) b hb
    have hlt : (Char.ofNat b.toNat).toNat < 0x80 := by
      refine h _ ?_
      rw [latin1, String.toList_ofList]
      exact List.mem_map_of_mem (List.mem_flatMap.mpr ⟨c, hc, hb⟩)
    rw [toNat_ofNat_octet] at hlt
    omega
  · intro h
    rw [latin1_ofString_eq_iff.mpr h]
    exact h

/-- What is handed over ends in a slash only if the text does. -/
theorem getLast?_latin1 {s : String} (h : s.toList.getLast? ≠ some '/') :
    (latin1 (Utf8.ofString s)).toList.getLast? ≠ some '/' := by
  rw [latin1, String.toList_ofList, Utf8.ofString]
  generalize s.toList = cs at h
  cases cs using List.reverseRecOn with
  | nil =>
    intro hlast
    cases hlast
  | append_singleton cs c =>
    rw [List.getLast?_concat] at h
    have hne : (Text.Utf8.encodeChar c).map (fun b => Char.ofNat b.toNat) ≠ [] := by
      rw [ne_eq, List.map_eq_nil_iff]
      exact Template.encodeChar_ne_nil c
    rw [Text.Utf8.encode_append, Text.Utf8.encode_cons, Text.Utf8.encode_nil, List.append_nil, List.map_append,
      List.getLast?_append_of_ne_nil _ hne]
    intro hlast
    obtain ⟨b, hb, hslash⟩ := List.mem_map.mp (List.mem_of_getLast? hlast)
    have hoctet := congrArg Char.toNat hslash
    rw [toNat_ofNat_octet] at hoctet
    exact h (congrArg some (Text.Utf8.eq_slash_of_mem hb hoctet))

/-- A mount point without slashes at its end is encoded as it was handed over. -/
theorem mount_of_script {env : Environ} {script : String} (hscript : env.get? "SCRIPT_NAME" = some script)
    (hlast : script.toList.getLast? ≠ some '/') : env.mount = String.ofList (Percent.encode pathSafe script.toList) := by
  have hkept : Text.dropEndWhile (· == '/') script.toList = script.toList := by
    rw [Text.dropEndWhile_eq, List.rdropWhile_eq_self_iff]
    intro hne hslash
    rw [List.getLast?_eq_some_getLast hne] at hlast
    exact hlast (congrArg some (beq_iff_eq.mp hslash))
  rw [mount, hscript, Option.getD_some, hkept]

/-- **An absolute location holds the mount point as it was handed over.** Let the octets of a text without a slash at its
end be handed over as the mount point. What stands for it between the host and the path is encoded, but is read as those
octets, each a character of its own: it is the text, and leads back to the mount point, exactly if that is in ASCII. -/
theorem absolute_of_mount {env : Environ} {s : String} (hlast : s.toList.getLast? ≠ some '/')
    (hscript : env.get? "SCRIPT_NAME" = some (latin1 (Utf8.ofString s))) (path : Letters) :
    ∃ u : String,
      env.absolute path = (env.get? "wsgi.url_scheme").getD "http" ++ "://" ++
        env.host ((env.get? "wsgi.url_scheme").getD "http") ++ u ++ path ∧
      Percent.Encoded pathSafe u.toList ∧ IsAscii u ∧
      String.ofList (Percent.decode u.toList) = latin1 (Utf8.ofString s) ∧
      (String.ofList (Percent.decode u.toList) = s ↔ IsAscii s) ∧
      (latin1 (Percent.octets u.toList) = latin1 (Utf8.ofString s) ↔ IsAscii s) := by
  have hmount := mount_of_script hscript (getLast?_latin1 hlast)
  have hencoded : Percent.Encoded pathSafe env.mount.toList := by
    rw [hmount, String.toList_ofList]
    exact Text.Percent.encoded_encode _ _
  have hdecoded : String.ofList (Percent.decode env.mount.toList) = latin1 (Utf8.ofString s) := by
    rw [hmount, String.toList_ofList, Text.Percent.decode_encode pathSafe_plain, String.ofList_toList]
  refine ⟨env.mount, rfl, hencoded, ?_, hdecoded, ?_, ?_⟩
  · intro c hc
    have hvisible := (isPathChar_of_mem hencoded c hc).2.1
    omega
  · rw [hdecoded]
    exact latin1_ofString_eq_iff
  · -- The octets of what stands there are those of a text that is no text of the server's any more.
    rw [hmount, String.toList_ofList, Text.Percent.octets_encode pathSafe_plain]
    exact latin1_ofString_eq_iff.trans isAscii_latin1_iff

/-- A mount point in ASCII is found again. -/
theorem absolute_of_mount_store :
    "/store".toList.getLast? ≠ some '/' ∧
      (store "/page" "").get? "SCRIPT_NAME" = some (latin1 (Utf8.ofString "/store")) ∧
      ∃ u : String,
        (store "/page" "").absolute "/page" = "http" ++ "://" ++ (store "/page" "").host "http" ++ u ++ "/page" ∧
        Percent.Encoded pathSafe u.toList ∧ IsAscii u ∧ String.ofList (Percent.decode u.toList) = "/store" ∧
        latin1 (Percent.octets u.toList) = latin1 (Utf8.ofString "/store") := by
  have hlast : "/store".toList.getLast? ≠ some '/' := by decide
  have hscript : (store "/page" "").get? "SCRIPT_NAME" = some (latin1 (Utf8.ofString "/store")) := rfl
  have hascii : IsAscii "/store" := by decide
  obtain ⟨u, hlocation, hencoded, hu, -, hread, hback⟩ := absolute_of_mount hlast hscript "/page"
  exact ⟨hlast, hscript, u, hlocation, hencoded, hu, hread.mpr hascii, hback.mpr hascii⟩

/-- What a server says about a request to a shop that is mounted at `/é`. -/
def accented : Environ where
  entries := [("SCRIPT_NAME", latin1 (Utf8.ofString "/é")), ("HTTP_HOST", "shop.example")]
  input := none

/-- **A mount point outside ASCII is lost**: what stands for it in an absolute location is read as another text. -/
theorem absolute_accented :
    "/é".toList.head? = some '/' ∧ "/é".toList.getLast? ≠ some '/' ∧ "/page".toList.head? = some '/' ∧
      accented.get? "SCRIPT_NAME" = some (latin1 (Utf8.ofString "/é")) ∧
      accented.absolute "/page" = "http://shop.example/%C3%83%C2%A9/page" ∧
      ¬ ∃ u : String, accented.absolute "/page" = "http://shop.example" ++ u ++ "/page" ∧
        String.ofList (Percent.decode u.toList) = "/é" := by
  have hlocation : accented.absolute "/page" = "http://shop.example/%C3%83%C2%A9/page" := by decide
  refine ⟨rfl, by decide, rfl, rfl, hlocation, ?_⟩
  rintro ⟨u, hu, hread⟩
  have hmount : Text.ofString "http://shop.example" ++ Text.ofString "/%C3%83%C2%A9" ++ Text.ofString "/page" =
      Text.ofString "http://shop.example" ++ u ++ "/page" :=
    hlocation.symm.trans hu
  rw [List.append_left_inj, List.append_right_inj] at hmount
  rw [← Text.ofString_injective hmount] at hread
  exact absurd hread (by decide)

end Environ

end HttpRouter
