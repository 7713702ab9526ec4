import HttpRouter.Application
import HttpRouter.Proofs.Json.Scalars
import HttpRouter.Proofs.Transport
import HttpRouter.View.Renderer
import Mathlib.Data.List.Forall2

/-!
# Values in JSON

A value that JSON has a form for is read back from what is written of it, a list standing for a tuple and the text of a
mapping for one that is not of the usual sort, which is the same as the value if it holds none. What is written denotes
the value wherever it stands in a document (`Denoted`): that is shown of texts and numbers by themselves, and of arrays
and objects from their parts, which are read one after the other up to the mark that closes them. The text renderer
writes collections this way, and a request reads its body this way, once or as often as it is asked to.

* `Json.denoted_write`: what is written denotes the value;
* `Json.exists_write_iff`: what is written at all;
* `Request.access_remembered`: what is remembered of a body is what would be read;
* `TextRenderer.json_of_render`: a request whose body is a rendered collection has that collection as its JSON.
-/

namespace HttpRouter

/-! ## Values that JSON has a form for -/

namespace Value

/-- A value that is built from null, truth values, whole numbers, texts, lists, tuples and mappings of any sort. The keys
of a mapping are different texts. -/
inductive Portable : Value → Prop
  | null : Portable .null
  | bool (b : Bool) : Portable (.bool b)
  | int (n : Int) : Portable (.int n)
  | text (s : String) : Portable (.text s)
  | list {items : List Value} (h : ∀ v ∈ items, Portable v) : Portable (.list items)
  | tuple {items : List Value} (h : ∀ v ∈ items, Portable v) : Portable (.tuple items)
  | mapping {entries : List (String × Value)} (hkeys : (entries.map Prod.fst).Nodup)
      (h : ∀ e ∈ entries, Portable e.2) : Portable (.mapping (entries.map fun e => (.text e.1, e.2)))
  | proxy {entries : List (String × Value)} (hkeys : (entries.map Prod.fst).Nodup)
      (h : ∀ e ∈ entries, Portable e.2) (shown written : String) :
      Portable (.proxy (entries.map fun e => (.text e.1, e.2)) shown written)

mutual

/-- A value with lists in place of tuples, and every mapping as one of the usual sort. -/
def untupled : Value → Value
  | list items | tuple items => list (untupledItems items)
  | mapping entries | proxy entries _ _ => mapping (untupledEntries entries)
  | v => v

/-- Values with lists in place of tuples. -/
def untupledItems : List Value → List Value
  | [] => []
  | item :: rest => untupled item :: untupledItems rest

/-- The entries of a mapping with lists in place of tuples. -/
def untupledEntries : List (Value × Value) → List (Value × Value)
  | [] => []
  | (key, value) :: rest => (key, untupled value) :: untupledEntries rest

end

theorem untupledItems_eq (items : List Value) : untupledItems items = items.map untupled := by
  induction items with
  | nil => rfl
  | cons v items ih => rw [untupledItems, ih, List.map_cons]

theorem untupledEntries_eq (entries : List (Value × Value)) :
    untupledEntries entries = entries.map fun e => (e.1, e.2.untupled) := by
  induction entries with
  | nil => rfl
  | cons e entries ih => rw [untupledEntries, ih, List.map_cons]

mutual

/-- What JSON has for a value: lists stand for tuples, and its text for a mapping that is not of the usual sort. -/
def inJson : Value → Value
  | list items | tuple items => list (itemsInJson items)
  | mapping entries => mapping (entriesInJson entries)
  | proxy _ shown _ => text shown
  | v => v

/-- What JSON has for several values. -/
def itemsInJson : List Value → List Value
  | [] => []
  | item :: rest => inJson item :: itemsInJson rest

/-- What JSON has for the entries of a mapping. -/
def entriesInJson : List (Value × Value) → List (Value × Value)
  | [] => []
  | (key, value) :: rest => (key, inJson value) :: entriesInJson rest

end

theorem itemsInJson_eq (items : List Value) : itemsInJson items = items.map inJson := by
  induction items with
  | nil => rfl
  | cons v items ih => rw [itemsInJson, ih, List.map_cons]

theorem entriesInJson_eq (entries : List (Value × Value)) :
    entriesInJson entries = entries.map fun e => (e.1, e.2.inJson) := by
  induction entries with
  | nil => rfl
  | cons e entries ih => rw [entriesInJson, ih, List.map_cons]

/-- Whether a value is a mapping that is not of the usual sort, or holds one. -/
inductive HasProxy : Value → Prop
  | proxy (entries : List (Value × Value)) (shown written : String) : HasProxy (.proxy entries shown written)
  | list {items : List Value} {v : Value} (hv : v ∈ items) (h : HasProxy v) : HasProxy (.list items)
  | tuple {items : List Value} {v : Value} (hv : v ∈ items) (h : HasProxy v) : HasProxy (.tuple items)
  | mapping {entries : List (Value × Value)} {e : Value × Value} (he : e ∈ entries) (h : HasProxy e.2) :
      HasProxy (.mapping entries)

theorem not_hasProxy_list_iff {items : List Value} : ¬ (list items).HasProxy ↔ ∀ v ∈ items, ¬ v.HasProxy := by
  refine ⟨fun h v hv hproxy => h (.list hv hproxy), ?_⟩
  rintro h (_ | ⟨hv, hproxy⟩)
  exact h _ hv hproxy

theorem not_hasProxy_tuple_iff {items : List Value} : ¬ (tuple items).HasProxy ↔ ∀ v ∈ items, ¬ v.HasProxy := by
  refine ⟨fun h v hv hproxy => h (.tuple hv hproxy), ?_⟩
  rintro h (_ | _ | ⟨hv, hproxy⟩)
  exact h _ hv hproxy

theorem not_hasProxy_mapping_iff {entries : List (Value × Value)} :
    ¬ (mapping entries).HasProxy ↔ ∀ e ∈ entries, ¬ e.2.HasProxy := by
  refine ⟨fun h e he hproxy => h (.mapping he hproxy), ?_⟩
  rintro h (_ | _ | _ | ⟨he, hproxy⟩)
  exact h _ he hproxy

/-- **JSON has the value itself for a value without a mapping that is not of the usual sort**, and for no other. -/
theorem Portable.inJson_eq_untupled_iff {v : Value} (h : v.Portable) : v.inJson = v.untupled ↔ ¬ v.HasProxy := by
  induction h with
  | null | bool _ | int _ | text _ => exact ⟨fun _ => nofun, fun _ => rfl⟩
  | list _ ih =>
    rw [inJson, untupled, itemsInJson_eq, untupledItems_eq, list.injEq, List.map_inj_left, not_hasProxy_list_iff]
    exact forall₂_congr ih
  | tuple _ ih =>
    rw [inJson, untupled, itemsInJson_eq, untupledItems_eq, list.injEq, List.map_inj_left, not_hasProxy_tuple_iff]
    exact forall₂_congr ih
  | mapping _ _ ih =>
    rw [inJson, untupled, entriesInJson_eq, untupledEntries_eq, mapping.injEq, List.map_inj_left,
      not_hasProxy_mapping_iff, List.forall_mem_map, List.forall_mem_map]
    refine forall₂_congr fun e he => ?_
    rw [← ih e he, Prod.mk.injEq, eq_self, true_and]
  | proxy _ _ shown written => exact ⟨nofun, fun hproxy => absurd (.proxy _ shown written) hproxy⟩

/-- A whole number is a value, or occurs in it where it is written. -/
inductive Holds (n : Int) : Value → Prop
  | int : Holds n (.int n)
  | list {items : List Value} {v : Value} (hv : v ∈ items) (h : Holds n v) : Holds n (.list items)
  | tuple {items : List Value} {v : Value} (hv : v ∈ items) (h : Holds n v) : Holds n (.tuple items)
  | mapping {entries : List (Value × Value)} {e : Value × Value} (he : e ∈ entries) (h : Holds n e.2) :
      Holds n (.mapping entries)

/-- Whether no whole number in a value has too many digits. -/
def Limited (v : Value) : Prop :=
  ∀ n, v.Holds n → (Nat.toDigits 10 n.natAbs).length ≤ Text.digitLimit

theorem limited_int_iff {n : Int} : (int n).Limited ↔ (Nat.toDigits 10 n.natAbs).length ≤ Text.digitLimit :=
  ⟨fun h => h n .int, fun h _ hm => by cases hm; exact h⟩

theorem limited_list_iff {items : List Value} : (list items).Limited ↔ ∀ v ∈ items, v.Limited := by
  refine ⟨fun h v hv n hn => h n (.list hv hn), ?_⟩
  rintro h n (_ | ⟨hv, hn⟩)
  exact h _ hv n hn

theorem limited_tuple_iff {items : List Value} : (tuple items).Limited ↔ ∀ v ∈ items, v.Limited := by
  refine ⟨fun h v hv n hn => h n (.tuple hv hn), ?_⟩
  rintro h n (_ | _ | ⟨hv, hn⟩)
  exact h _ hv n hn

theorem limited_mapping_iff {entries : List (Value × Value)} :
    (mapping entries).Limited ↔ ∀ e ∈ entries, e.2.Limited := by
  refine ⟨fun h e he n hn => h n (.mapping he hn), ?_⟩
  rintro h n (_ | _ | _ | ⟨he, hn⟩)
  exact h _ he n hn

end Value

/-! ## Keys that are texts -/

namespace Fields

variable {ν : Type}

theorem set_textKey (k : String) (v : ν) (entries : Fields String ν) :
    Fields.set (.text k) v (entries.map fun e => (Value.text e.1, e.2)) =
      (Fields.set k v entries).map fun e => (Value.text e.1, e.2) := by
  induction entries with
  | nil => rfl
  | cons e entries ih =>
    have hkey : (Value.text k == Value.text e.1) = (k == e.1) := Text.ofString_beq k e.1
    rw [List.map_cons, Fields.set, Fields.set, hkey, ih]
    split <;> rfl

/-- **Entries whose keys are different texts are a mapping already.** -/
theorem ofPairs_textKeys {entries : List (String × ν)} (h : (entries.map Prod.fst).Nodup) :
    Fields.ofPairs (entries.map fun e => (Value.text e.1, e.2)) = entries.map fun e => (Value.text e.1, e.2) := by
  suffices hset : ∀ fields : Fields String ν,
      (entries.map fun e => (Value.text e.1, e.2)).foldl (fun fields p => Fields.set p.1 p.2 fields)
          (fields.map fun e => (Value.text e.1, e.2)) =
        (entries.foldl (fun fields p => Fields.set p.1 p.2 fields) fields).map fun e => (Value.text e.1, e.2) by
    refine (hset []).trans (congrArg _ ?_)
    exact Fields.ofPairs_of_nodup h
  clear h
  induction entries with
  | nil => exact fun _ => rfl
  | cons e entries ih =>
    intro fields
    rw [List.map_cons, List.foldl_cons, List.foldl_cons, set_textKey]
    exact ih _

end Fields

namespace Json

open Text (joinWith)

/-! ## What denotes a value -/

/-- Whether a text may begin a value: there are no blanks in front, and it is not the end of a collection. -/
def Opens (w : List Char) : Prop :=
  ∃ c t, w = c :: t ∧ isBlank c = false ∧ c ∉ [']', '\x7d']

section Opens

variable {w : List Char}

theorem Opens.append (h : Opens w) (rest : List Char) : Opens (w ++ rest) := by
  obtain ⟨c, t, rfl, hc⟩ := h
  exact ⟨c, t ++ rest, rfl, hc⟩

theorem Opens.joinWith (h : Opens w) (sep : List Char) (ws : List (List Char)) : Opens (joinWith sep (w :: ws)) := by
  cases ws with
  | nil => exact h
  | cons w' ws =>
    rw [Text.joinWith, List.append_assoc]
    · exact h.append _
    · exact List.cons_ne_nil _ _

theorem Opens.skip_eq (h : Opens w) : skip w = w := by
  obtain ⟨c, t, rfl, hblank, -⟩ := h
  exact List.dropWhile_cons_of_neg (Bool.eq_false_iff.mp hblank)

theorem Opens.ne_cons (h : Opens w) {c : Char} (hc : c ∈ [']', '\x7d']) (s : List Char) : w ≠ c :: s := by
  obtain ⟨d, t, rfl, -, hd⟩ := h
  intro heq
  exact hd ((List.cons.inj heq).1 ▸ hc)

theorem Opens.exists_succ (h : Opens w) {fuel : Nat} (hfuel : w.length ≤ fuel) : ∃ n, fuel = n + 1 := by
  obtain ⟨c, t, rfl, -⟩ := h
  exact ⟨fuel - 1, by rw [List.length_cons] at hfuel; omega⟩

end Opens

/-- A text denotes a value: the value is read wherever the text stands in a document. -/
structure Denoted (v : Value) (w : List Char) : Prop where
  ascii : IsAscii w
  opens : Opens w
  reads : ∀ fuel rest, w.length ≤ fuel → Stops rest → readValue fuel (w ++ rest) = .ok (v, rest)

theorem opens_encode (s : Letters) : Opens (encode s) :=
  ⟨'"', _, rfl, rfl, by decide⟩

theorem denoted_text (s : String) : Denoted (.text s) (encode s) := by
  refine ⟨isAscii_encode _, opens_encode _, ?_⟩
  intro fuel rest hfuel _
  obtain ⟨fuel, rfl⟩ := (opens_encode _).exists_succ hfuel
  rw [Text.ofString, encode_append, readValue, readText_encode]

/-- A text that is neither in quotes nor between brackets is read as a name or a number. -/
theorem denoted_of_readName {v : Value} {c : Char} {w : List Char} (hascii : IsAscii (c :: w))
    (hblank : isBlank c = false) (hc : c ∉ ['"', '[', '\x7b', ']', '\x7d'])
    (h : ∀ rest, Stops rest → readName (c :: w ++ rest) = .ok (v, rest)) : Denoted v (c :: w) := by
  have hne (rest : List Char) (d : Char) (hd : d ∈ ['"', '[', '\x7b', ']', '\x7d']) (s : List Char) :
      c :: (w ++ rest) = d :: s → False :=
    fun heq => hc ((List.cons.inj heq).1 ▸ hd)
  have hopens : Opens (c :: w) := ⟨c, w, rfl, hblank, fun h => hc (List.mem_append_right ['"', '[', '\x7b'] h)⟩
  refine ⟨hascii, hopens, ?_⟩
  intro fuel rest hfuel hrest
  obtain ⟨fuel, rfl⟩ := hopens.exists_succ hfuel
  rw [← h rest hrest, List.cons_append, readValue]
  · exact hne rest '"' (by decide)
  · exact hne rest '[' (by decide)
  · exact hne rest '\x7b' (by decide)

theorem denoted_null : Denoted .null "null".toList := by
  have h : "null".toList = ['n', 'u', 'l', 'l'] := by decide
  rw [h]
  exact denoted_of_readName (by decide) rfl (by decide) fun _ _ => rfl

theorem denoted_bool (b : Bool) : Denoted (.bool b) (if b then "true" else "false").toList := by
  cases b with
  | true =>
    have h : "true".toList = ['t', 'r', 'u', 'e'] := by decide
    exact h ▸ denoted_of_readName (by decide) rfl (by decide) fun _ _ => rfl
  | false =>
    have h : "false".toList = ['f', 'a', 'l', 's', 'e'] := by decide
    exact h ▸ denoted_of_readName (by decide) rfl (by decide) fun _ _ => rfl

theorem denoted_int {n : Int} (h : (Nat.toDigits 10 n.natAbs).length ≤ Text.digitLimit) :
    Denoted (.int n) (toString n).toList := by
  have hascii := isAscii_toString n
  have hread (rest : List Char) (hrest : Stops rest) := readName_toString (n := n) hrest h
  obtain ⟨c, w, heq, hc⟩ := toString_eq_cons n
  rw [heq] at hascii hread ⊢
  obtain ⟨hblank, hmark⟩ : isBlank c = false ∧ c ∉ ['"', '[', '\x7b', ']', '\x7d'] := by
    rcases hc with rfl | hdigit
    · decide
    · have hne (d : Char) (hd : d.isDigit = false) : c ≠ d := by
        rintro rfl
        rw [hdigit] at hd
        cases hd
      simp [isBlank, hne]
  exact denoted_of_readName hascii hblank hmark hread

/-! ## Arrays and objects -/

/-- Parts that are separated by commas are read one after the other up to the mark that closes them. -/
theorem read_joinWith {α β : Type} {many : Nat → List Char → Except ReadError (List β × List Char)} {close : Char}
    (value : α → β) {Part : α → List Char → Prop} (hopens : ∀ a w, Part a w → Opens w)
    (hlast : ∀ fuel a w rest, Part a w → w.length ≤ fuel →
      many (fuel + 1) (w ++ close :: rest) = .ok ([value a], rest))
    (hmore : ∀ fuel a w t bs rest, Part a w → w.length ≤ fuel → many fuel (skip t) = .ok (bs, rest) →
      many (fuel + 1) (w ++ ',' :: t) = .ok (value a :: bs, rest))
    {as : List α} {ws : List (List Char)} (h : List.Forall₂ Part as ws) (hne : as ≠ []) {fuel : Nat}
    (hfuel : (joinWith [',', ' '] ws).length < fuel) (rest : List Char) :
    many fuel (joinWith [',', ' '] ws ++ close :: rest) = .ok (as.map value, rest) := by
  induction h generalizing fuel with
  | nil => exact absurd rfl hne
  | @cons a w as ws hw hws ih =>
    obtain ⟨fuel, rfl⟩ : ∃ n, fuel = n + 1 := ⟨fuel - 1, by omega⟩
    cases hws with
    | nil => exact hlast fuel a w rest hw (Nat.le_of_lt_succ hfuel)
    | @cons a' w' as ws hw' hws =>
      have hjoin : joinWith [',', ' '] (w :: w' :: ws) = w ++ ',' :: ' ' :: joinWith [',', ' '] (w' :: ws) := by
        simp [joinWith]
      have hnext : Opens (joinWith [',', ' '] (w' :: ws)) := (hopens a' w' hw').joinWith _ ws
      rw [hjoin, List.length_append, List.length_cons, List.length_cons] at hfuel
      rw [hjoin, List.append_assoc]
      refine hmore fuel a w _ _ rest hw (by omega) ?_
      -- The blank behind the comma is skipped, and no other one follows it.
      show many fuel (skip (joinWith [',', ' '] (w' :: ws) ++ close :: rest)) = _
      rw [(hnext.append _).skip_eq]
      exact ih (List.cons_ne_nil _ _) (by omega)

theorem readItems_joinWith {vs : List Value} {ws : List (List Char)} (h : List.Forall₂ Denoted vs ws) (hne : vs ≠ [])
    {fuel : Nat} (hfuel : (joinWith [',', ' '] ws).length < fuel) (rest : List Char) :
    readItems fuel (joinWith [',', ' '] ws ++ ']' :: rest) = .ok (vs, rest) := by
  refine (read_joinWith id (fun _ _ hw => hw.opens) ?_ ?_ h hne hfuel rest).trans ?_
  · intro fuel v w rest hw hlength
    rw [readItems, hw.reads fuel _ hlength (stops_cons (by decide) _)]
    rfl
  · intro fuel v w t vs rest hw hlength hrest
    rw [readItems, hw.reads fuel _ hlength (stops_cons (by decide) _)]
    exact congrArg (· >>= fun read => pure (v :: read.1, read.2)) hrest
  · rw [List.map_id]

/-- What is written of an entry of a mapping. -/
def entryText (k : String) (w : List Char) : List Char :=
  encode k ++ ':' :: ' ' :: w

/-- A text denotes an entry of a mapping. -/
def DenotedEntry (e : String × Value) (t : List Char) : Prop :=
  ∃ w, t = entryText e.1 w ∧ Denoted e.2 w

theorem opens_entryText (k : String) (w : List Char) : Opens (entryText k w) :=
  (opens_encode _).append _

theorem readKey_entryText (k : String) {w : List Char} (h : Opens w) (rest : List Char) :
    readKey (entryText k w ++ rest) = some (Text.ofString k, w ++ rest) := by
  rw [entryText, Text.ofString, List.append_assoc, encode_append, readKey, readText_encode]
  show some (Text.ofString k, skip (w ++ rest)) = _
  rw [(h.append rest).skip_eq, Text.ofString]

theorem readEntries_joinWith {es : List (String × Value)} {ts : List (List Char)}
    (h : List.Forall₂ DenotedEntry es ts) (hne : es ≠ []) {fuel : Nat}
    (hfuel : (joinWith [',', ' '] ts).length < fuel) (rest : List Char) :
    readEntries fuel (joinWith [',', ' '] ts ++ '\x7d' :: rest) =
      .ok (es.map fun e => (Value.text e.1, e.2), rest) := by
  have hlength {k : String} {w : List Char} {fuel : Nat} (hfuel : (entryText k w).length ≤ fuel) :
      w.length ≤ fuel := by
    rw [entryText, List.length_append, List.length_cons, List.length_cons] at hfuel
    omega
  refine read_joinWith (fun e => (Value.text e.1, e.2)) ?_ ?_ ?_ h hne hfuel rest
  · rintro e _ ⟨w, rfl, -⟩
    exact opens_entryText e.1 w
  · rintro fuel e _ rest ⟨w, rfl, hw⟩ hfuel
    rw [readEntries, readKey_entryText e.1 hw.opens]
    dsimp only
    rw [hw.reads fuel _ (hlength hfuel) (stops_cons (by decide) rest)]
    rfl
  · rintro fuel e _ next es rest ⟨w, rfl, hw⟩ hfuel hrest
    rw [readEntries, readKey_entryText e.1 hw.opens]
    dsimp only
    rw [hw.reads fuel _ (hlength hfuel) (stops_cons (by decide) next)]
    exact congrArg (· >>= fun read => pure ((Value.text e.1, e.2) :: read.1, read.2)) hrest

theorem isAscii_joinWith {sep : List Char} (hsep : IsAscii sep) {ws : List (List Char)} (h : ∀ w ∈ ws, IsAscii w) :
    IsAscii (joinWith sep ws) := by
  induction ws with
  | nil => nofun
  | cons w ws ih =>
    obtain ⟨hw, hws⟩ := List.forall_mem_cons.mp h
    cases ws with
    | nil => exact hw
    | cons w' ws =>
      exact List.forall_mem_append.mpr ⟨List.forall_mem_append.mpr ⟨hw, hsep⟩, ih hws⟩

theorem forall_mem_right {α β : Type} {R : α → β → Prop} {p : β → Prop} (hp : ∀ a b, R a b → p b) {as : List α}
    {bs : List β} (h : List.Forall₂ R as bs) : ∀ b ∈ bs, p b := by
  induction h with
  | nil => nofun
  | cons hab _ ih => exact List.forall_mem_cons.mpr ⟨hp _ _ hab, ih⟩

/-- What stands between brackets is in ASCII if all its parts are. -/
theorem isAscii_bracketed {opening close : Char} (hopening : opening.toNat < 0x80) (hclose : close.toNat < 0x80)
    {ws : List (List Char)} (h : ∀ w ∈ ws, IsAscii w) :
    IsAscii (opening :: joinWith [',', ' '] ws ++ [close]) := by
  refine List.forall_mem_append.mpr ⟨List.forall_mem_cons.mpr ⟨hopening, ?_⟩, List.forall_mem_singleton.mpr hclose⟩
  exact isAscii_joinWith (by decide) h

theorem denoted_array {vs : List Value} {ws : List (List Char)} (h : List.Forall₂ Denoted vs ws) :
    Denoted (.list vs) ('[' :: joinWith [',', ' '] ws ++ [']']) := by
  refine ⟨isAscii_bracketed (by decide) (by decide) (forall_mem_right (fun _ _ hw => hw.ascii) h),
    ⟨'[', _, rfl, rfl, by decide⟩, ?_⟩
  intro fuel rest hfuel _
  rw [List.cons_append, List.length_cons, List.length_append, List.length_singleton] at hfuel
  obtain ⟨fuel, rfl⟩ : ∃ n, fuel = n + 1 := ⟨fuel - 1, by omega⟩
  rw [List.append_assoc, List.singleton_append, List.cons_append, readValue]
  cases h with
  | nil => rfl
  | @cons v w vs ws hw hws =>
    have hopens : Opens (joinWith [',', ' '] (w :: ws) ++ ']' :: rest) := (hw.opens.joinWith _ ws).append _
    rw [hopens.skip_eq]
    split
    · next s heq => exact absurd heq (hopens.ne_cons (by decide) s)
    · rw [readItems_joinWith (.cons hw hws) (List.cons_ne_nil _ _) (by omega)]
      rfl

theorem denoted_object {es : List (String × Value)} (hkeys : (es.map Prod.fst).Nodup) {ts : List (List Char)}
    (h : List.Forall₂ DenotedEntry es ts) :
    Denoted (.mapping (es.map fun e => (.text e.1, e.2))) ('\x7b' :: joinWith [',', ' '] ts ++ ['\x7d']) := by
  have hascii : ∀ t ∈ ts, IsAscii t := by
    refine forall_mem_right ?_ h
    rintro e _ ⟨w, rfl, hw⟩
    refine List.forall_mem_append.mpr ⟨isAscii_encode _, ?_⟩
    exact List.forall_mem_cons.mpr ⟨by decide, List.forall_mem_cons.mpr ⟨by decide, hw.ascii⟩⟩
  refine ⟨isAscii_bracketed (by decide) (by decide) hascii, ⟨'\x7b', _, rfl, rfl, by decide⟩, ?_⟩
  intro fuel rest hfuel _
  rw [List.cons_append, List.length_cons, List.length_append, List.length_singleton] at hfuel
  obtain ⟨fuel, rfl⟩ : ∃ n, fuel = n + 1 := ⟨fuel - 1, by omega⟩
  rw [List.append_assoc, List.singleton_append, List.cons_append, readValue]
  cases h with
  | nil => rfl
  | @cons e t es ts ht hts =>
    have hopens : Opens (joinWith [',', ' '] (t :: ts) ++ '\x7d' :: rest) := by
      obtain ⟨w, rfl, -⟩ := ht
      exact ((opens_entryText _ _).joinWith _ ts).append _
    rw [hopens.skip_eq]
    split
    · next s heq => exact absurd heq (hopens.ne_cons (by decide) s)
    · rw [readEntries_joinWith (.cons ht hts) (List.cons_ne_nil _ _) (by omega)]
      show Except.ok (Value.mapping (Fields.ofPairs _), rest) = _
      rw [Fields.ofPairs_textKeys hkeys]

/-! ## What is written -/

section Writing

variable {whole : Int → Except Fault String}

theorem bind_eq_ok_iff {ε α β : Type} {x : Except ε α} {f : α → Except ε β} {b : β} :
    x >>= f = .ok b ↔ ∃ a, x = .ok a ∧ f a = .ok b := by
  cases x with
  | error e => exact ⟨nofun, nofun⟩
  | ok a => exact ⟨fun h => ⟨a, rfl, h⟩, fun ⟨_, ha, h⟩ => Except.ok.inj ha ▸ h⟩

theorem pure_eq_ok_iff {ε α : Type} {a b : α} : (pure a : Except ε α) = .ok b ↔ a = b :=
  ⟨Except.ok.inj, congrArg _⟩

theorem writeItems_eq_ok_iff {items : List Value} {ws : List (List Char)} :
    writeItems whole items = .ok ws ↔ List.Forall₂ (fun v w => writeWith whole v = .ok w) items ws := by
  induction items generalizing ws with
  | nil =>
    rw [writeItems, List.forall₂_nil_left_iff]
    exact pure_eq_ok_iff.trans eq_comm
  | cons v items ih =>
    rw [writeItems, List.forall₂_cons_left_iff]
    simp only [bind_eq_ok_iff, pure_eq_ok_iff, ih]
    constructor
    · rintro ⟨w, hw, ws', hws, rfl⟩
      exact ⟨w, ws', hw, hws, rfl⟩
    · rintro ⟨w, ws', hw, hws, rfl⟩
      exact ⟨w, hw, ws', hws, rfl⟩

theorem writeEntries_eq_ok_iff {entries : List (String × Value)} {ts : List (List Char)} :
    writeEntries whole (entries.map fun e => (.text e.1, e.2)) = .ok ts ↔
      List.Forall₂ (fun e t => ∃ w, t = entryText e.1 w ∧ writeWith whole e.2 = .ok w) entries ts := by
  induction entries generalizing ts with
  | nil =>
    rw [List.map_nil, writeEntries, List.forall₂_nil_left_iff]
    exact pure_eq_ok_iff.trans eq_comm
  | cons e entries ih =>
    rw [List.map_cons, writeEntries, List.forall₂_cons_left_iff]
    simp only [keyWith, bind_eq_ok_iff, pure_eq_ok_iff, ih, Except.ok.injEq, exists_eq_left']
    constructor
    · rintro ⟨w, hw, ts', hts, rfl⟩
      exact ⟨_, ts', ⟨w, List.append_assoc _ _ _, hw⟩, hts, rfl⟩
    · rintro ⟨t, ts', ⟨w, rfl, hw⟩, hts, rfl⟩
      exact ⟨w, hw, ts', hts, congrArg (· :: ts') (List.append_assoc _ _ _)⟩

end Writing

theorem limitedText_eq_ok_iff {n : Int} {s : String} :
    limitedText n = .ok s ↔ (Nat.toDigits 10 n.natAbs).length ≤ Text.digitLimit ∧ toString n = s := by
  rw [limitedText]
  split
  · next h => exact ⟨nofun, fun hs => absurd hs.1 (Nat.not_le.mpr h)⟩
  · next h => exact ⟨fun hs => ⟨Nat.not_lt.mp h, Except.ok.inj hs⟩, fun hs => congrArg _ hs.2⟩

theorem write_int_eq_ok_iff {n : Int} {w : List Char} :
    write (.int n) = .ok w ↔ (Nat.toDigits 10 n.natAbs).length ≤ Text.digitLimit ∧ (toString n).toList = w := by
  rw [write, writeWith]
  constructor
  · intro h
    cases hs : limitedText n with
    | error e =>
      rw [hs] at h
      cases h
    | ok s =>
      obtain ⟨hlength, rfl⟩ := limitedText_eq_ok_iff.mp hs
      rw [hs] at h
      exact ⟨hlength, Except.ok.inj h⟩
  · rintro ⟨hlength, rfl⟩
    rw [limitedText_eq_ok_iff.mpr ⟨hlength, rfl⟩]
    rfl

theorem write_list_eq_ok_iff {items : List Value} {w : List Char} :
    write (.list items) = .ok w ↔
      ∃ ws, List.Forall₂ (fun v w => write v = .ok w) items ws ∧ '[' :: joinWith [',', ' '] ws ++ [']'] = w := by
  simp only [write, writeWith, bind_eq_ok_iff, pure_eq_ok_iff, writeItems_eq_ok_iff]

theorem write_tuple (items : List Value) : write (.tuple items) = write (.list items) := by
  rw [write, write, writeWith, writeWith]

theorem write_mapping_eq_ok_iff {entries : List (String × Value)} {w : List Char} :
    write (.mapping (entries.map fun e => (.text e.1, e.2))) = .ok w ↔
      ∃ ts, List.Forall₂ (fun e t => ∃ w, t = entryText e.1 w ∧ write e.2 = .ok w) entries ts ∧
        '\x7b' :: joinWith [',', ' '] ts ++ ['\x7d'] = w := by
  simp only [write, writeWith, bind_eq_ok_iff, pure_eq_ok_iff, writeEntries_eq_ok_iff]

/-- **What is written of a value denotes what JSON has for it**. -/
theorem denoted_write {v : Value} (h : v.Portable) {w : List Char} (hw : write v = .ok w) : Denoted v.inJson w := by
  -- Lists and tuples are written alike.
  have hitems {items : List Value} {w : List Char}
      (ih : ∀ v ∈ items, ∀ {w}, write v = .ok w → Denoted v.inJson w) (hw : write (.list items) = .ok w) :
      Denoted (.list (items.map Value.inJson)) w := by
    obtain ⟨ws, hws, rfl⟩ := write_list_eq_ok_iff.mp hw
    refine denoted_array (List.forall₂_map_left_iff.mpr ?_)
    refine ((List.forall₂_and_left _ _).mpr ⟨ih, hws⟩).imp ?_
    exact fun v w h => h.1 h.2
  induction h generalizing w with
  | null => cases hw; exact denoted_null
  | bool b => cases hw; exact denoted_bool b
  | int n =>
    obtain ⟨hlength, rfl⟩ := write_int_eq_ok_iff.mp hw
    exact denoted_int hlength
  | text s => cases hw; exact denoted_text s
  | list _ ih =>
    rw [Value.inJson, Value.itemsInJson_eq]
    exact hitems ih hw
  | tuple _ ih =>
    rw [Value.inJson, Value.itemsInJson_eq]
    exact hitems ih (write_tuple _ ▸ hw)
  | @mapping entries hkeys _ ih =>
    obtain ⟨ts, hts, rfl⟩ := write_mapping_eq_ok_iff.mp hw
    -- The keys are texts before and after, and stay different from each other.
    have hentries : Value.entriesInJson (entries.map fun e => (.text e.1, e.2)) =
        (entries.map fun e => (e.1, e.2.inJson)).map fun e => (.text e.1, e.2) := by
      rw [Value.entriesInJson_eq, List.map_map, List.map_map]
      rfl
    rw [Value.inJson, hentries]
    refine denoted_object ?_ (List.forall₂_map_left_iff.mpr ?_)
    · rw [List.map_map]
      exact hkeys
    · refine ((List.forall₂_and_left _ _).mpr ⟨ih, hts⟩).imp ?_
      rintro e _ ⟨he, w, rfl, hw⟩
      exact ⟨w, rfl, he hw⟩
  | proxy _ _ shown _ => cases hw; exact denoted_text shown

theorem exists_forall₂_iff {α β : Type} {R : α → β → Prop} {as : List α} :
    (∃ bs, List.Forall₂ R as bs) ↔ ∀ a ∈ as, ∃ b, R a b := by
  induction as with
  | nil => exact ⟨fun _ => nofun, fun _ => ⟨[], .nil⟩⟩
  | cons a as ih =>
    rw [List.forall_mem_cons, ← ih]
    simp only [List.forall₂_cons_left_iff]
    constructor
    · rintro ⟨_, b, bs, hb, hbs, rfl⟩
      exact ⟨⟨b, hb⟩, bs, hbs⟩
    · rintro ⟨⟨b, hb⟩, bs, hbs⟩
      exact ⟨b :: bs, b, bs, hb, hbs, rfl⟩

/-- **A value is written if none of its numbers has too many digits**, and only then. -/
theorem exists_write_iff {v : Value} (h : v.Portable) : (∃ w, write v = .ok w) ↔ v.Limited := by
  have hitems {items : List Value} (ih : ∀ v ∈ items, (∃ w, write v = .ok w) ↔ v.Limited) :
      (∃ w, write (.list items) = .ok w) ↔ ∀ v ∈ items, v.Limited := by
    rw [← forall₂_congr ih, ← exists_forall₂_iff]
    simp only [write_list_eq_ok_iff]
    exact ⟨fun ⟨_, ws, hws, _⟩ => ⟨ws, hws⟩, fun ⟨ws, hws⟩ => ⟨_, ws, hws, rfl⟩⟩
  induction h with
  | null => exact ⟨fun _ => nofun, fun _ => ⟨_, rfl⟩⟩
  | bool b => exact ⟨fun _ => nofun, fun _ => ⟨_, rfl⟩⟩
  | int n =>
    simp only [write_int_eq_ok_iff, Value.limited_int_iff]
    exact ⟨fun ⟨_, h, _⟩ => h, fun h => ⟨_, h, rfl⟩⟩
  | text s => exact ⟨fun _ => nofun, fun _ => ⟨_, rfl⟩⟩
  | list _ ih => exact (hitems ih).trans Value.limited_list_iff.symm
  | tuple _ ih =>
    rw [write_tuple]
    exact (hitems ih).trans Value.limited_tuple_iff.symm
  | mapping _ _ ih =>
    rw [Value.limited_mapping_iff, List.forall_mem_map, ← forall₂_congr ih]
    simp only [write_mapping_eq_ok_iff]
    constructor
    · rintro ⟨_, ts, hts, -⟩ e he
      obtain ⟨_, w, -, hw⟩ := exists_forall₂_iff.mp ⟨ts, hts⟩ e he
      exact ⟨w, hw⟩
    · intro hwrite
      obtain ⟨ts, hts⟩ := exists_forall₂_iff.mpr fun e he =>
        (hwrite e he).elim fun w hw => (⟨entryText e.1 w, w, rfl, hw⟩ : ∃ t w, t = entryText e.1 w ∧ write e.2 = .ok w)
      exact ⟨_, ts, hts, rfl⟩
  | proxy => exact ⟨fun _ => nofun, fun _ => ⟨_, rfl⟩⟩

/-- **What is written of a value is read as what JSON has for it.** -/
theorem read_write {v : Value} (h : v.Portable) {w : List Char} (hw : write v = .ok w) : read w = .ok v.inJson := by
  have hdenoted := denoted_write h hw
  have hread := hdenoted.reads (w.length + 1) [] (Nat.le_succ _) nofun
  rw [List.append_nil] at hread
  rw [read, hdenoted.opens.skip_eq, hread]
  rfl

end Json

/-! ## Reading a body -/

namespace Request

theorem access_of_ne_null (r : Request) {memory : Value} (h : memory ≠ .null) :
    r.access memory = (.ok memory, memory) := by
  cases memory <;> first | rfl | exact absurd rfl h

/-- Nothing is remembered of a body, or what it is read as. -/
theorem remembered_cases (r : Request) (n : Nat) : r.remembered n = .null ∨ r.json = .ok (r.remembered n) := by
  have hfirst : (r.access .null).2 = .null ∨ r.json = .ok (r.access .null).2 := by
    unfold json remembered access
    cases r.body.isEmpty with
    | true => exact .inl rfl
    | false =>
      cases r.parsed with
      | ok v => exact .inr rfl
      | error f => exact .inl rfl
  induction n with
  | zero => exact .inl rfl
  | succ n ih =>
    rw [remembered]
    by_cases hn : r.remembered n = .null
    · rw [hn]
      exact hfirst
    · rw [access_of_ne_null r hn]
      exact ih

/-- **Every access gives what the first one gives.** -/
theorem access_remembered (r : Request) (n : Nat) : (r.access (r.remembered n)).1 = r.json := by
  by_cases hn : r.remembered n = .null
  · rw [hn]
    rfl
  · rw [access_of_ne_null r hn, (r.remembered_cases n).resolve_left hn]

theorem json_of_body {r : Request} {s : List Char} (hbody : r.body = Text.Utf8.encode s) (hne : s ≠ []) {v : Value}
    (h : Json.read s = .ok v) : r.json = .ok v := by
  have hempty : r.body.isEmpty = false := by
    refine List.isEmpty_eq_false_iff.mpr fun hnil => hne ?_
    rw [← Text.Utf8.decode_encode s, ← hbody, hnil]
    rfl
  have hdecode : Text.Utf8.decode? r.body = some s := by
    rw [hbody, Text.Utf8.decode?, Text.Utf8.decode_encode]
    exact if_pos rfl
  have hparsed : r.parsed = .ok v := by
    rw [parsed, hdecode]
    dsimp only
    rw [h]
  rw [json, remembered, access, hempty, hparsed]
  rfl

end Request

/-! ## Bodies of collections -/

theorem Text.Utf8.octet_lt_of_isAscii {w : List Char} (h : Json.IsAscii w) : ∀ b ∈ encode w, b.toNat < 0x80 := by
  intro b hb
  obtain ⟨c, hc, hb⟩ := List.mem_flatMap.mp hb
  have hascii := h c hc
  rw [encodeChar_of_ascii hascii, List.mem_singleton] at hb
  rw [hb, toNat_toUInt8 (by omega)]
  exact hascii

namespace TextRenderer

theorem render_eq_ok_iff {v : Value} (h : isCollection v = true) (i : Instance) {body : List UInt8} :
    Renderer.text.render (.resource i) (.data v) = .ok body ↔
      ∃ w, Json.write v = .ok w ∧ Text.Utf8.encode w = body := by
  have hrender : Renderer.text.render (.resource i) (.data v) =
      ((Json.write v).map Text.Utf8.encode).mapError Failure.fault := by
    have hdata : renderData v = (Json.write v).map Text.Utf8.encode := by
      cases v <;> first | exact absurd h Bool.false_ne_true | rfl
    exact congrArg (Except.mapError Failure.fault) hdata
  rw [hrender]
  cases Json.write v with
  | error e => exact ⟨nofun, nofun⟩
  | ok w => exact ⟨fun hw => ⟨w, rfl, Except.ok.inj hw⟩, fun ⟨_, hw, hbody⟩ => by cases hw; exact congrArg _ hbody⟩

/-- What JSON has for a collection that is rendered is the JSON of a request with that body. -/
theorem access_of_render {v : Value} (hportable : v.Portable) (hcollection : isCollection v = true) {i : Instance}
    {body : List UInt8} (hbody : Renderer.text.render (.resource i) (.data v) = .ok body) :
    (∀ b ∈ body, b.toNat < 0x80) ∧
      ∀ request : Request, request.body = body →
        ∀ n, (request.access (request.remembered n)).1 = .ok v.inJson := by
  obtain ⟨w, hw, rfl⟩ := (render_eq_ok_iff hcollection i).mp hbody
  have hdenoted := Json.denoted_write hportable hw
  refine ⟨Text.Utf8.octet_lt_of_isAscii hdenoted.ascii, ?_⟩
  intro request hrequest n
  obtain ⟨c, t, rfl, -⟩ := hdenoted.opens
  rw [Request.access_remembered]
  exact Request.json_of_body hrequest (List.cons_ne_nil c t) (Json.read_write hportable hw)

/-- **What JSON has for a collection that is rendered is the JSON of a request with that body**, at the first access as
at every later one; this is the collection, with lists in place of tuples, exactly if it holds no mapping that is not of
the usual sort. It is rendered unless one of its numbers has too many digits. -/
theorem json_of_render {v : Value} (hportable : v.Portable) (hcollection : isCollection v = true) (i : Instance) :
    Renderer.text.mediaType (.resource i) (.data v) = "application/json" ∧
      ((∃ body, Renderer.text.render (.resource i) (.data v) = .ok body) ↔ v.Limited) ∧
      (∀ body, Renderer.text.render (.resource i) (.data v) = .ok body →
        (∀ b ∈ body, b.toNat < 0x80) ∧
          ∀ request : Request, request.body = body →
            ∀ n, (request.access (request.remembered n)).1 = .ok v.inJson) ∧
      (v.inJson = v.untupled ↔ ¬ v.HasProxy) := by
  refine ⟨if_pos hcollection, ?_, fun body => access_of_render hportable hcollection, hportable.inJson_eq_untupled_iff⟩
  rw [← Json.exists_write_iff hportable]
  simp only [render_eq_ok_iff hcollection]
  exact ⟨fun ⟨_, w, hw, _⟩ => ⟨w, hw⟩, fun ⟨w, hw⟩ => ⟨_, w, hw, rfl⟩⟩

theorem json_of_render_nested :
    ∃ body,
      Renderer.text.render (.resource (Application.base.fresh Hierarchy.root))
          (.data (.mapping [(.text "größe", .tuple [.int (-7), .null, .bool true]), (.text "", .list [.text "😀\n"])])) =
        .ok body ∧
      (∀ b ∈ body, b.toNat < 0x80) ∧
      ∀ request : Request, request.body = body → ∀ n, (request.access (request.remembered n)).1 =
        .ok (.mapping [(.text "größe", .list [.int (-7), .null, .bool true]), (.text "", .list [.text "😀\n"])]) := by
  have hportable : (Value.mapping
      [(.text "größe", .tuple [.int (-7), .null, .bool true]), (.text "", .list [.text "😀\n"])]).Portable := by
    refine @Value.Portable.mapping [("größe", .tuple [.int (-7), .null, .bool true]), ("", .list [.text "😀\n"])]
      (by decide) ?_
    simp only [List.forall_mem_cons]
    refine ⟨.tuple ?_, .list ?_, nofun⟩
    · simp only [List.forall_mem_cons]
      exact ⟨.int _, .null, .bool _, nofun⟩
    · exact List.forall_mem_singleton.mpr (.text _)
  have hlimited : (Value.mapping
      [(.text "größe", .tuple [.int (-7), .null, .bool true]), (.text "", .list [.text "😀\n"])]).Limited := by
    simp only [Value.limited_mapping_iff, Value.limited_tuple_iff, Value.limited_list_iff, Value.limited_int_iff,
      List.forall_mem_cons]
    exact ⟨⟨by decide, fun _ => nofun, fun _ => nofun, nofun⟩, ⟨fun _ => nofun, nofun⟩, nofun⟩
  obtain ⟨-, hrender, hread, -⟩ := json_of_render hportable rfl (Application.base.fresh Hierarchy.root)
  obtain ⟨body, hbody⟩ := hrender.mpr hlimited
  exact ⟨body, hbody, hread body hbody⟩

/-- A mapping that is not of the usual sort comes back as a text. -/
theorem json_of_render_proxy :
    let v := Value.proxy [(.text "a", .int 1)] "\x7b'a': 1\x7d" "mappingproxy(\x7b'a': 1\x7d)"
    v.Portable ∧ isCollection v = true ∧
      ∃ body, Renderer.text.render (.resource (Application.base.fresh Hierarchy.root)) (.data v) = .ok body ∧
        ∀ request : Request, request.body = body →
          request.json = .ok (.text "\x7b'a': 1\x7d") ∧ request.json ≠ .ok v.untupled := by
  intro v
  have hportable : v.Portable := by
    refine @Value.Portable.proxy [("a", .int 1)] (by decide) ?_ _ _
    exact List.forall_mem_singleton.mpr (.int 1)
  obtain ⟨body, hbody⟩ : ∃ body,
      Renderer.text.render (.resource (Application.base.fresh Hierarchy.root)) (.data v) = .ok body := ⟨_, rfl⟩
  refine ⟨hportable, rfl, body, hbody, fun request hrequest => ?_⟩
  have hjson := (access_of_render hportable rfl hbody).2 request hrequest 0
  rw [Request.access_remembered] at hjson
  rw [hjson]
  exact ⟨rfl, nofun⟩

end TextRenderer

end HttpRouter
