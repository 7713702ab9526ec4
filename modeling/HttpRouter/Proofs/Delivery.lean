import HttpRouter.Gateway
import HttpRouter.Proofs.Fitting
import HttpRouter.Proofs.Octets
import HttpRouter.Proofs.RoundTrip
import Mathlib.Data.List.Nodup

/-!
# Links through a server

A server undoes the escapes of a path before it hands it over, and the gateway escapes it again. A link does not always
come back as it was: it escapes more than the gateway does, and a `/` or a `.` in the value of a segment, once the escape
is undone, is one of the path. What does come back is a path made by the same template of the same values, each of them
escaped as the gateway does (`Template.arrived_render`). So it matches as long as no value of a segment holds one of the
two characters; and if the template leaves no choice, it gives the same parameters then, and only then.

* `Environ.path_of_delivered`: what the gateway makes of a path that a server hands over;
* `Template.path_of_link`: how a link arrives, and what it matches.
-/

namespace HttpRouter

open Text (Percent.decode Percent.decodeLetters Percent.encode Percent.encodeChar Percent.encodeLetters Percent.octets)

namespace Environ

/-! ## What a server hands over -/

/-- Octets as a text, each as the character of its number. -/
def latin1 (bs : List UInt8) : String :=
  String.ofList (bs.map fun b => Char.ofNat b.toNat)

/-- What the gateway makes of a path whose escapes were undone. -/
def arrived (s : Letters) : Letters :=
  Percent.encodeLetters pathSafe (Percent.decodeLetters s)

theorem arrived_ofChars (s : List Char) :
    arrived (Text.ofChars s) = Text.ofChars (Percent.encode pathSafe (Percent.decode s)) := by
  rw [arrived, Text.Percent.decodeLetters_ofChars, Text.Percent.encodeLetters_ofChars]

theorem pathSafe_plain : ∀ c ∈ pathSafe, c.toNat < 0x80 ∧ c ≠ '%' := by
  have hall : (pathSafe.all fun c => c.toNat < 0x80 && c != '%') = true := by decide
  intro c hc
  simpa using List.all_eq_true.mp hall c hc

theorem toNat_ofNat_octet (b : UInt8) : (Char.ofNat b.toNat).toNat = b.toNat := by
  have hb := b.toNat_lt
  rw [Char.ofNat, dif_pos (Or.inl (by omega))]
  rfl

/-- Octets that were handed over as characters are had back. -/
theorem octets?_latin1 (bs : List UInt8) : octets? (latin1 bs) = some bs := by
  rw [octets?, latin1, String.toList_ofList]
  induction bs with
  | nil => rfl
  | cons b bs ih =>
    have hb : (Char.ofNat b.toNat).toNat < 256 := by
      rw [toNat_ofNat_octet]
      exact b.toNat_lt
    rw [List.map_cons, List.mapM_cons, if_pos hb, ih, toNat_ofNat_octet]
    exact congrArg (fun b => some (b :: bs)) UInt8.ofNat_toNat

/-- **What the gateway makes of a path that a server hands over.** -/
theorem path_of_delivered {env : Environ} {s : List Char} (hslash : s.head? = some '/')
    (henv : env.get? "PATH_INFO" = some (latin1 (Percent.octets s))) : 
    env.path = .ok (String.ofList (Percent.encode pathSafe (Percent.decode s))) := by
  obtain ⟨rest, rfl⟩ := List.head?_eq_some_iff.mp hslash
  -- The path is not empty, so that nothing takes its place.
  have hne : latin1 (Percent.octets ('/' :: rest)) ≠ "" := by
    rw [ne_eq, ← String.toList_eq_nil_iff, latin1, String.toList_ofList, List.map_eq_nil_iff]
    exact List.cons_ne_nil 0x2f (Percent.octets rest)
  rw [path, henv, Option.getD_some, orRoot_of_ne hne, octets?_latin1]
  dsimp only
  rw [Text.Percent.decode_octets]

end Environ

namespace Template

open Environ (arrived arrived_ofChars pathSafe pathSafe_plain)

/-! ## Escapes that are undone and made again -/

/-- What arrives is read as what was sent. -/
theorem decodeLetters_arrived (s : Letters) : Percent.decodeLetters (arrived s) = Percent.decodeLetters s := by
  have h := Text.Percent.decodeLetters_encodeLetters pathSafe_plain (Percent.decodeLetters s) []
  rw [List.append_nil] at h
  exact h.trans (List.append_nil _)

/-- What was escaped as the gateway does arrives as it is. -/
theorem arrived_encodeLetters (s : Letters) :
    arrived (Percent.encodeLetters pathSafe s) = Percent.encodeLetters pathSafe s := by
  have h := Text.Percent.decodeLetters_encodeLetters pathSafe_plain s []
  rw [List.append_nil] at h
  exact congrArg (Percent.encodeLetters pathSafe) (h.trans (List.append_nil s))

/-- Whether a text is read by itself, whatever follows it: it ends with no part of an escape or of a character. -/
def Whole (s : Letters) : Prop :=
  ∀ rest, Percent.decodeLetters (s ++ rest) = Percent.decodeLetters s ++ Percent.decodeLetters rest

/-- A whole text arrives by itself. -/
theorem Whole.arrived_append {s : Letters} (h : Whole s) (rest : Letters) :
    arrived (s ++ rest) = arrived s ++ arrived rest := by
  rw [arrived, h, Text.Percent.encodeLetters_append]
  rfl

/-- A text that is read as a given text in front of everything is whole. -/
theorem whole_of_decodeLetters {s t : Letters}
    (h : ∀ rest, Percent.decodeLetters (s ++ rest) = t ++ Percent.decodeLetters rest) : Whole s := by
  have hdecode : Percent.decodeLetters s = t := by
    have hnil := h []
    rw [List.append_nil] at hnil
    exact hnil.trans (List.append_nil t)
  intro rest
  rw [h, hdecode]

theorem Whole.append {s t : Letters} (hs : Whole s) (ht : Whole t) : Whole (s ++ t) := by
  have h : ∀ rest, Percent.decodeLetters (s ++ t ++ rest) =
      Percent.decodeLetters s ++ Percent.decodeLetters t ++ Percent.decodeLetters rest := by
    intro rest
    rw [List.append_assoc, hs, ht, List.append_assoc]
  exact whole_of_decodeLetters h

theorem whole_encodeLetters {safe : List Char} (hsafe : ∀ c ∈ safe, c.toNat < 0x80 ∧ c ≠ '%') (s : Letters) :
    Whole (Percent.encodeLetters safe s) :=
  whole_of_decodeLetters (Text.Percent.decodeLetters_encodeLetters hsafe s)

/-- A text that arrives as it is is whole. -/
theorem whole_of_arrived {s : Letters} (h : arrived s = s) : Whole s := by
  rw [← h]
  exact whole_encodeLetters pathSafe_plain _

theorem slash_plain : ∀ c ∈ ['/'], c.toNat < 0x80 ∧ c ≠ '%' := by
  intro c hc
  obtain rfl := List.mem_singleton.mp hc
  decide

theorem whole_leftoverText (values : List Value) : Whole (leftoverText values) := by
  induction values with
  | nil => exact fun rest => rfl
  | cons v values ih =>
    rw [leftoverText, List.flatMap_cons]
    have hslash : Whole [.char '/'] := whole_of_arrived (by decide)
    exact (hslash.append (whole_encodeLetters slash_plain v.shown)).append ih

theorem whole_escapeFor (slot : Slot) (v : Value) : Whole (escapeFor slot v) := by
  rw [escapeFor]
  split
  · exact whole_encodeLetters slash_plain _
  · exact whole_of_decodeLetters (decodeLetters_escapeSegment_append _)

/-! ## The texts of a link -/

/-- The slots that take a value and the texts they take of it. -/
theorem zip_bindSlots {slots : List Slot} {values leftover : List Value} {texts : List Letters}
    (h : bindSlots slots values = .ok (texts, leftover)) :
    slots.zip texts = (slots.zip values).map fun p => (p.1, escapeFor p.1 p.2) := by
  induction slots generalizing values texts with
  | nil => rfl
  | cons slot slots ih =>
    cases values with
    | nil =>
      cases h
      rfl
    | cons v values =>
      obtain ⟨-, -, texts', hr, rfl⟩ := bindSlots_cons_eq_ok h
      rw [List.zip_cons_cons, ih hr]
      rfl

section Extending

variable {extra : Letters} {slots : List Slot} {texts texts' : List Letters}

/-- Where something is put behind a text, the slot is a wildcard. -/
theorem extended_of_mem (h : extendLast extra slots texts = some texts') :
    ∀ p ∈ slots.zip texts', p ∈ slots.zip texts ∨
      p.1.isWildcard = true ∧ ∃ text, (p.1, text) ∈ slots.zip texts ∧ p.2 = text ++ extra := by
  induction slots generalizing texts texts' with
  | nil => cases h
  | cons slot slots ih =>
    cases texts with
    | nil => cases h
    | cons text texts =>
      rw [extendLast] at h
      rw [List.zip_cons_cons]
      split at h
      · next more hmore =>
        obtain rfl := Option.some.inj h
        intro p hp
        rw [List.zip_cons_cons] at hp
        rcases List.mem_cons.mp hp with rfl | hp
        · exact .inl List.mem_cons_self
        · rcases ih hmore p hp with hp | ⟨hw, text, htext, hp⟩
          · exact .inl (List.mem_cons_of_mem _ hp)
          · exact .inr ⟨hw, text, List.mem_cons_of_mem _ htext, hp⟩
      · split at h
        · next hw =>
          obtain rfl := Option.some.inj h
          intro p hp
          rw [List.zip_cons_cons] at hp
          rcases List.mem_cons.mp hp with rfl | hp
          · exact .inr ⟨hw, text, List.mem_cons_self, rfl⟩
          · exact .inl (List.mem_cons_of_mem _ hp)
        · cases h

/-- The text of a segment stays as it is. -/
theorem mem_extended (h : extendLast extra slots texts = some texts') :
    ∀ p ∈ slots.zip texts, p.1.isWildcard = false → p ∈ slots.zip texts' := by
  induction slots generalizing texts texts' with
  | nil => cases h
  | cons slot slots ih =>
    cases texts with
    | nil => cases h
    | cons text texts =>
      rw [extendLast] at h
      intro p hp hsegment
      rw [List.zip_cons_cons] at hp
      split at h
      · next more hmore =>
        obtain rfl := Option.some.inj h
        rw [List.zip_cons_cons]
        rcases List.mem_cons.mp hp with rfl | hp
        · exact List.mem_cons_self
        · exact List.mem_cons_of_mem _ (ih hmore p hp hsegment)
      · split at h
        · next hw =>
          obtain rfl := Option.some.inj h
          rw [List.zip_cons_cons]
          rcases List.mem_cons.mp hp with rfl | hp
          · rw [hw] at hsegment
            cases hsegment
          · exact List.mem_cons_of_mem _ hp
        · cases h

end Extending

section Binding

variable {slots : List Slot} {values : List Value} {texts : List Letters}

/-- **Every text of a link is that of a value**, and in the case of a wildcard perhaps of those left over too. -/
theorem bound_of_mem (h : bindValues slots values = .ok texts) {p : Slot × Letters} (hp : p ∈ slots.zip texts) :
    ∃ v, (p.1, v) ∈ slots.zip values ∧ (p.2 = escapeFor p.1 v ∨
      p.1.isWildcard = true ∧ p.2 = escapeFor p.1 v ++ leftoverText (values.drop slots.length)) := by
  have bound : ∀ {first leftover}, bindSlots slots values = .ok (first, leftover) → ∀ q ∈ slots.zip first,
      ∃ v, (q.1, v) ∈ slots.zip values ∧ q.2 = escapeFor q.1 v := by
    intro first leftover hr q hq
    rw [zip_bindSlots hr] at hq
    obtain ⟨⟨slot, v⟩, hv, rfl⟩ := List.mem_map.mp hq
    exact ⟨v, hv, rfl⟩
  obtain ⟨first, leftover, hr, ⟨-, rfl⟩ | ⟨-, he, -⟩⟩ := bindValues_eq_ok_iff.mp h
  · obtain ⟨v, hv, heq⟩ := bound hr p hp
    exact ⟨v, hv, .inl heq⟩
  · rcases extended_of_mem he p hp with hp | ⟨hw, text, htext, heq⟩
    · obtain ⟨v, hv, heq⟩ := bound hr p hp
      exact ⟨v, hv, .inl heq⟩
    · obtain ⟨v, hv, htext⟩ := bound hr _ htext
      refine ⟨v, hv, .inr ⟨hw, ?_⟩⟩
      rw [heq, (length_bindSlots hr).2]
      exact congrArg (· ++ leftoverText (values.drop slots.length)) htext

/-- The value of a segment is its text. -/
theorem mem_of_bound (h : bindValues slots values = .ok texts) {slot : Slot} {v : Value}
    (hv : (slot, v) ∈ slots.zip values) (hsegment : slot.isWildcard = false) :
    (slot, escapeSegment v.shown) ∈ slots.zip texts := by
  have bound : ∀ {first leftover}, bindSlots slots values = .ok (first, leftover) →
      (slot, escapeSegment v.shown) ∈ slots.zip first := by
    intro first leftover hr
    rw [zip_bindSlots hr]
    refine List.mem_map.mpr ⟨(slot, v), hv, ?_⟩
    rw [escapeFor, hsegment]
    rfl
  obtain ⟨first, leftover, hr, ⟨-, rfl⟩ | ⟨-, he, -⟩⟩ := bindValues_eq_ok_iff.mp h
  · exact bound hr
  · exact mem_extended he _ (bound hr) hsegment

theorem whole_bindValues (h : bindValues slots values = .ok texts) : ∀ p ∈ slots.zip texts, Whole p.2 := by
  intro p hp
  obtain ⟨v, -, heq | ⟨-, heq⟩⟩ := bound_of_mem h hp
  · rw [heq]
    exact whole_escapeFor _ _
  · rw [heq]
    exact (whole_escapeFor _ _).append (whole_leftoverText _)

end Binding

/-! ## A link arrives -/

/-- Whether the literals of a template stand in it as they arrive: escaped like the gateway does. -/
def LiteralsEncoded : Template → Prop
  | nil => True
  | literal text rest => arrived text = text ∧ rest.LiteralsEncoded
  | segment _ rest => rest.LiteralsEncoded
  | wildcard rest => rest.LiteralsEncoded
  | group inner rest => inner.LiteralsEncoded ∧ rest.LiteralsEncoded

instance decidableLiteralsEncoded : (t : Template) → Decidable t.LiteralsEncoded
  | nil => isTrue trivial
  | literal text rest =>
    have := decidableLiteralsEncoded rest
    inferInstanceAs (Decidable (arrived text = text ∧ rest.LiteralsEncoded))
  | segment _ rest => decidableLiteralsEncoded rest
  | wildcard rest => decidableLiteralsEncoded rest
  | group inner rest =>
    have := decidableLiteralsEncoded inner
    have := decidableLiteralsEncoded rest
    inferInstanceAs (Decidable (inner.LiteralsEncoded ∧ rest.LiteralsEncoded))

/-- Whether a group is dropped depends on how many texts there are. -/
theorem dropped_map_iff (t : Template) (f : Letters → Letters) (texts : List Letters) :
    ((t.render (texts.map f)).bound = 0 ∧ 0 < (t.render (texts.map f)).unbound) ↔
      ((t.render texts).bound = 0 ∧ 0 < (t.render texts).unbound) := by
  simp only [bound_render, Nat.pos_iff_ne_zero, ne_eq, unbound_render_eq_zero_iff, List.length_map]

/-- **A rendered template arrives as the same template, rendered with its texts as they arrive.** -/
theorem arrived_render {t : Template} (ht : t.LiteralsEncoded) {texts : List Letters}
    (hw : ∀ p ∈ t.slots.zip texts, Whole p.2) (hu : (t.render texts).unbound = 0) :
    arrived (t.render texts).text = (t.render (texts.map arrived)).text ∧ Whole (t.render texts).text := by
  induction t generalizing texts with
  | nil => exact ⟨rfl, fun rest => rfl⟩
  | literal text rest ih =>
    obtain ⟨hrest, hwhole⟩ := ih ht.2 hw hu
    have htext := whole_of_arrived ht.1
    refine ⟨?_, htext.append hwhole⟩
    show arrived (text ++ (rest.render texts).text) = text ++ (rest.render (texts.map arrived)).text
    rw [htext.arrived_append, ht.1, hrest]
  | segment name rest ih =>
    cases texts with
    | nil => cases hu
    | cons text texts =>
      obtain ⟨htext, htexts⟩ := List.forall_mem_cons.mp hw
      obtain ⟨hrest, hwhole⟩ := ih ht htexts hu
      refine ⟨?_, htext.append hwhole⟩
      show arrived (text ++ (rest.render texts).text) = arrived text ++ (rest.render (texts.map arrived)).text
      rw [htext.arrived_append, hrest]
  | wildcard rest ih =>
    cases texts with
    | nil => cases hu
    | cons text texts =>
      obtain ⟨htext, htexts⟩ := List.forall_mem_cons.mp hw
      obtain ⟨hrest, hwhole⟩ := ih ht htexts hu
      refine ⟨?_, htext.append hwhole⟩
      show arrived (text ++ (rest.render texts).text) = arrived text ++ (rest.render (texts.map arrived)).text
      rw [htext.arrived_append, hrest]
  | group inner rest ihInner ihRest =>
    rw [slots, zip_append_drop] at hw
    obtain ⟨hwi, hwr⟩ := List.forall_mem_append.mp hw
    by_cases hd : (inner.render texts).bound = 0 ∧ 0 < (inner.render texts).unbound
    · have hd' := (dropped_map_iff inner arrived texts).mpr hd
      rw [render_group_of_dropped hd, texts_render] at hu ⊢
      rw [render_group_of_dropped hd', texts_render, ← List.map_drop]
      exact ihRest ht.2 hwr hu
    · have hd' := fun h => hd ((dropped_map_iff inner arrived texts).mp h)
      rw [render_group_of_kept hd, texts_render inner texts] at hu ⊢
      rw [render_group_of_kept hd', texts_render inner (texts.map arrived), ← List.map_drop]
      obtain ⟨hui, hur⟩ := Nat.add_eq_zero_iff.mp hu
      obtain ⟨hinner, hwhole⟩ := ihInner ht.1 hwi hui
      obtain ⟨hrest, hwhole'⟩ := ihRest ht.2 hwr hur
      exact ⟨by rw [hwhole.arrived_append, hinner, hrest], hwhole.append hwhole'⟩

/-! ## What has arrived suits its slot -/

/-- An escaped character may stand in a segment if the character may. -/
theorem isSegmentChar_of_mem_encodeChar {safe : List Char} {c d : Char} (hc : isSegmentChar c = true)
    (hd : d ∈ Percent.encodeChar safe c) : isSegmentChar d = true := by
  rw [Percent.encodeChar] at hd
  split at hd
  · rw [List.mem_singleton.mp hd]
    exact hc
  · obtain ⟨b, -, hd⟩ := List.mem_flatMap.mp hd
    exact isSegmentChar_of_mem_escape hd

/-- A segment takes an escaped text if none of its characters ends a segment. -/
theorem takes_encodeLetters (safe : List Char) (name : Letters) {s : Letters} (hne : s ≠ [])
    (hs : ∀ c ∈ s, isSegmentChar c = true) : (Slot.segment name).Takes (Percent.encodeLetters safe s) := by
  refine ⟨?_, ?_⟩
  · obtain ⟨l, s, rfl⟩ := List.exists_cons_of_ne_nil hne
    rw [Percent.encodeLetters, List.flatMap_cons]
    refine List.append_ne_nil_of_left_ne_nil ?_ _
    cases l with
    | lone half => exact List.cons_ne_nil _ _
    | char c =>
      rw [ne_eq, Text.ofChars_eq_nil_iff, Percent.encodeChar]
      split
      · exact List.cons_ne_nil _ _
      · obtain ⟨b, bs, hb⟩ := List.exists_cons_of_ne_nil (encodeChar_ne_nil c)
        rw [hb]
        exact List.cons_ne_nil _ _
  · intro d hd
    obtain ⟨l, hl, hd⟩ := List.mem_flatMap.mp hd
    cases l with
    | lone half =>
      rw [List.mem_singleton.mp hd]
      exact hs _ hl
    | char c =>
      obtain ⟨e, he, rfl⟩ := List.mem_map.mp hd
      exact isSegmentChar_of_mem_encodeChar (hs _ hl) he

/-- Whether no value of a segment holds a character that ends segments. -/
def Segmental (t : Template) (values : List Value) : Prop :=
  ∀ p ∈ t.slots.zip values, p.1.isWildcard = true ∨ p.2.shown.all isSegmentChar = true

instance (t : Template) (values : List Value) : Decidable (t.Segmental values) :=
  inferInstanceAs (Decidable (∀ p ∈ t.slots.zip values, _))

/-- The text of a segment arrives with its value escaped like the gateway does. -/
theorem arrived_escapeSegment (s : Letters) : arrived (escapeSegment s) = Percent.encodeLetters pathSafe s :=
  congrArg (Percent.encodeLetters pathSafe) (decodeLetters_escapeSegment s)

/-- What has arrived of the texts of a link suits their slots if no value of a segment holds a delimiter. -/
theorem takes_arrived {t : Template} {values : List Value} {texts : List Letters}
    (h : bindValues t.slots values = .ok texts) (hv : t.Segmental values) :
    ∀ p ∈ t.slots.zip (texts.map arrived), p.1.Takes p.2 := by
  intro p hp
  rw [List.zip_map_right] at hp
  obtain ⟨⟨slot, text⟩, htext, rfl⟩ := List.mem_map.mp hp
  cases slot with
  | wildcard => trivial
  | segment name =>
    obtain ⟨hne, -⟩ := takes_bindValues h _ htext
    obtain ⟨v, hvalue, heq | ⟨hw, -⟩⟩ := bound_of_mem h htext
    · obtain rfl : text = escapeSegment v.shown := heq
      show (Slot.segment name).Takes (arrived (escapeSegment v.shown))
      rw [arrived_escapeSegment]
      refine takes_encodeLetters _ _ ?_ (List.all_eq_true.mp ((hv _ hvalue).resolve_left Bool.false_ne_true))
      intro hnil
      rw [hnil] at hne
      exact hne rfl
    · cases hw

/-! ## What is captured -/

/-- What a slot captured suits it, and stands in the path. -/
theorem Spells.captured {t : Template} {s : Letters} {captures : Captures} (h : t.Spells s captures)
    {c : Letters × Letters} (hc : c ∈ captures) : ∃ slot ∈ t.slots, slot.name = c.1 ∧ slot.Takes c.2 ∧ c.2 <:+: s := by
  induction h with
  | nil => cases hc
  | @literal text rest s captures _ ih =>
    obtain ⟨slot, hslot, hname, htakes, hpart⟩ := ih hc
    exact ⟨slot, hslot, hname, htakes, hpart.trans (List.suffix_append text s).isInfix⟩
  | @segment name taken rest s captures htaken _ ih =>
    rcases List.mem_cons.mp hc with rfl | hc
    · exact ⟨_, List.mem_cons_self, rfl, htaken, (List.prefix_append taken s).isInfix⟩
    · obtain ⟨slot, hslot, hname, htakes, hpart⟩ := ih hc
      exact ⟨slot, List.mem_cons_of_mem _ hslot, hname, htakes, hpart.trans (List.suffix_append taken s).isInfix⟩
  | @wildcard taken rest s captures _ ih =>
    rcases List.mem_cons.mp hc with rfl | hc
    · exact ⟨_, List.mem_cons_self, rfl, trivial, (List.prefix_append taken s).isInfix⟩
    · obtain ⟨slot, hslot, hname, htakes, hpart⟩ := ih hc
      exact ⟨slot, List.mem_cons_of_mem _ hslot, hname, htakes, hpart.trans (List.suffix_append taken s).isInfix⟩
  | @present inner rest s s' captures captures' _ _ ihInner ihRest =>
    rcases List.mem_append.mp hc with hc | hc
    · obtain ⟨slot, hslot, hname, htakes, hpart⟩ := ihInner hc
      exact ⟨slot, List.mem_append_left _ hslot, hname, htakes, hpart.trans (List.prefix_append s s').isInfix⟩
    · obtain ⟨slot, hslot, hname, htakes, hpart⟩ := ihRest hc
      exact ⟨slot, List.mem_append_right _ hslot, hname, htakes, hpart.trans (List.suffix_append s s').isInfix⟩
  | absent _ ih =>
    obtain ⟨slot, hslot, hname, htakes, hpart⟩ := ih hc
    exact ⟨slot, List.mem_append_right _ hslot, hname, htakes, hpart⟩

/-- Slots capture in their order, each at most once. -/
theorem Spells.names_sublist {t : Template} {s : Letters} {captures : Captures} (h : t.Spells s captures) :
    (captures.map (·.1)).Sublist t.names := by
  induction h with
  | nil => exact List.Sublist.refl []
  | literal _ ih => exact ih
  | segment _ _ ih => exact ih.cons_cons _
  | wildcard _ ih => exact ih.cons_cons _
  | present _ _ ihInner ihRest =>
    rw [List.map_append, names, slots, List.map_append]
    exact ihInner.append ihRest
  | absent _ ih =>
    rw [names, slots, List.map_append]
    exact ih.trans (List.sublist_append_right _ _)

/-- With different names the parameters are what was captured, decoded. -/
theorem Spells.paramsOf_eq {t : Template} {s : Letters} {captures : Captures} (h : t.Spells s captures)
    (hnames : t.names.Nodup) : paramsOf captures = captures.map decoded := by
  refine Fields.ofPairs_of_nodup ?_
  rw [List.map_map]
  exact hnames.sublist h.names_sublist

/-- A chain matches a path in the one way in which the path is made by it. -/
theorem IsChain.match?_of_spells {t : Template} (ht : t.IsChain) {path : Letters} {captures : Captures}
    (h : t.Spells path captures) : t.match? path = some (paramsOf captures) := by
  obtain ⟨found, hfound⟩ := Option.isSome_iff_exists.mp (capture?_isSome_iff.mpr ⟨_, h⟩)
  rw [match?, hfound, (spells_of_capture? hfound).unique ht h]
  rfl

/-- What has arrived gives the parameters that were sent. -/
theorem paramsOf_arrived (slots : List Slot) (texts : List Letters) :
    paramsOf (capturesOf slots (texts.map arrived)) = paramsOf (capturesOf slots texts) := by
  rw [paramsOf, paramsOf, capturesOf, capturesOf, List.zip_map_right, List.map_map, List.map_map, List.map_map]
  refine congrArg Fields.ofPairs (List.map_congr_left fun p _ => ?_)
  show (p.1.name, Percent.decodeLetters (arrived p.2)) = _
  rw [decodeLetters_arrived]
  rfl

/-! ## Values without delimiters -/

/-- The characters besides `/` that links escape and the gateway does not. -/
def delimiters : Letters :=
  ":@!$&'()*+,;="

theorem contains_pathSafe {c : Char} (h : .char c ∉ delimiters) : pathSafe.contains c = (c == '/') := by
  have hc : (":@!$&'()*+,;=".toList).contains c = false :=
    Bool.eq_false_iff.mpr fun hmem => h (List.mem_map_of_mem (List.contains_iff_mem.mp hmem))
  rw [show pathSafe = '/' :: ":@!$&'()*+,;=".toList from rfl, List.contains_cons, hc, Bool.or_false]

/-- Every other letter of a wildcard is escaped alike. -/
theorem escapeRest_eq {s : Letters} (h : ∀ l ∈ s, l ∉ delimiters) :
    escapeRest s = Percent.encodeLetters pathSafe s := by
  refine List.flatMap_congr fun l hl => ?_
  cases l with
  | lone half => rfl
  | char c =>
    dsimp only
    rw [Percent.encodeChar, Percent.encodeChar, contains_pathSafe (h _ hl), List.contains_cons, List.contains_nil,
      Bool.or_false]

/-- So is every other letter of a segment, if it ends none. -/
theorem escapeSegment_eq {s : Letters} (h : ∀ l ∈ s, l ∉ delimiters) (hs : ∀ l ∈ s, isSegmentChar l = true) :
    escapeSegment s = Percent.encodeLetters pathSafe s := by
  refine List.flatMap_congr fun l hl => ?_
  cases l with
  | lone half => rfl
  | char c =>
    have hends := hs _ hl
    rw [isSegmentChar, Bool.and_eq_true, bne_iff_ne, bne_iff_ne] at hends
    have hslash : c ≠ '/' := fun he => hends.1 (congrArg Letter.char he)
    have hdot : c ≠ '.' := fun he => hends.2 (congrArg Letter.char he)
    dsimp only
    rw [escapeSegmentLetter, if_neg hdot, Percent.encodeChar, Percent.encodeChar, contains_pathSafe (h _ hl),
      List.contains_nil, beq_eq_false_iff_ne.mpr hslash]

theorem leftoverText_eq {values : List Value} (h : ∀ v ∈ values, ∀ l ∈ v.shown, l ∉ delimiters) :
    leftoverText values = Percent.encodeLetters pathSafe (values.flatMap fun v => .char '/' :: v.shown) := by
  induction values with
  | nil => rfl
  | cons v values ih =>
    obtain ⟨hv, hvalues⟩ := List.forall_mem_cons.mp h
    rw [leftoverText, List.flatMap_cons, List.flatMap_cons, Text.Percent.encodeLetters_append, escapeRest_eq hv,
      ← ih hvalues]
    rfl

/-- **Texts of values without delimiters arrive as they are**, if they end no segments. -/
theorem arrived_bindValues {t : Template} {values : List Value} {texts : List Letters}
    (h : bindValues t.slots values = .ok texts) (hv : t.Segmental values)
    (hplain : ∀ v ∈ values, ∀ l ∈ v.shown, l ∉ delimiters) : texts.map arrived = texts := by
  -- Each of the texts is one that was escaped like the gateway does.
  have hpairs : ∀ p ∈ t.slots.zip texts, arrived p.2 = p.2 := by
    intro p hp
    obtain ⟨v, hvalue, heq⟩ := bound_of_mem h hp
    have hchars := hplain v (List.of_mem_zip hvalue).2
    have hencoded : escapeFor p.1 v = Percent.encodeLetters pathSafe v.shown := by
      rw [escapeFor]
      split
      · exact escapeRest_eq hchars
      · next hw => exact escapeSegment_eq hchars (List.all_eq_true.mp ((hv _ hvalue).resolve_left hw))
    rcases heq with heq | ⟨-, heq⟩
    · rw [heq, hencoded, arrived_encodeLetters]
    · have hleftover : ∀ v ∈ values.drop t.slots.length, ∀ l ∈ v.shown, l ∉ delimiters :=
        fun v hv => hplain v (List.mem_of_mem_drop hv)
      rw [heq, hencoded, leftoverText_eq hleftover, ← Text.Percent.encodeLetters_append,
        arrived_encodeLetters]
  have hlength : texts.length ≤ t.slots.length := by
    rw [length_bindValues h]
    exact Nat.min_le_left _ _
  rw [← List.map_snd_zip hlength, List.map_map]
  exact List.map_congr_left hpairs

/-! ## How a link arrives -/

/-- How a link arrives that was made of values: as the path `q`. -/
structure Delivers (t : Template) (values : List Value) (path q : Letters) : Prop where
  /-- It is matched if no value of a segment holds a character that ends segments. -/
  matched : t.Segmental values → (t.match? q).isSome
  /-- In the case of a chain, that is when it gives the same parameters as the link. -/
  same : t.Chained → (t.match? q = t.match? path ↔ t.Segmental values)
  /-- Without delimiters in the values it is the link. -/
  unchanged : t.Segmental values → (∀ v ∈ values, ∀ l ∈ v.shown, l ∉ delimiters) → q = path

/-- A link whose parameters arrive has no value of a segment with a character that ends segments: such a character would
have to be read from an escape, which the gateway does not make. -/
theorem segmental_of_same {t : Template} (ht : t.Chained) {values : List Value} {texts : List Letters}
    (h : bindValues t.slots values = .ok texts) {path : Letters} {s : List Char}
    (hpath : t.Spells path (capturesOf t.slots texts))
    (hsame : t.match? (Text.ofChars (Percent.encode pathSafe s)) = t.match? path) : t.Segmental values := by
  rw [ht.isChain.match?_of_spells hpath] at hsame
  obtain ⟨captures, hcaptures, hparams⟩ := Option.map_eq_some_iff.mp hsame
  have hspells := spells_of_capture? hcaptures
  rw [hspells.paramsOf_eq ht.names_nodup, hpath.paramsOf_eq ht.names_nodup] at hparams
  rintro ⟨slot, v⟩ hv
  cases slot with
  | wildcard => exact .inl rfl
  | segment name =>
    right
    rw [List.all_eq_true]
    -- The value is a parameter of the link, so that it is one of what arrives.
    have hmem : decoded (name, escapeSegment v.shown) ∈ captures.map decoded := by
      rw [hparams]
      exact List.mem_map_of_mem (List.mem_map.mpr ⟨_, mem_of_bound h hv rfl, rfl⟩)
    obtain ⟨⟨name', raw⟩, hraw, hdecoded⟩ := List.mem_map.mp hmem
    rw [decoded, decoded, decodeLetters_escapeSegment] at hdecoded
    obtain ⟨rfl, hvalue⟩ := Prod.mk.inj hdecoded
    -- It was captured by the same segment, and so from characters that end none.
    obtain ⟨slot, hslot, hname, htakes, hpart⟩ := hspells.captured hraw
    obtain rfl : slot = .segment name' := List.inj_on_of_nodup_map ht.names_nodup hslot (List.of_mem_zip hv).1 hname
    obtain ⟨chars, hinfix, rfl⟩ := List.infix_map_iff.mp hpart
    have hclean : Text.Percent.Clean chars :=
      (Text.Percent.clean_encode pathSafe_plain (by decide) s).of_part hinfix
    have hchars : ∀ c ∈ chars, isSegmentChar c = true := fun c hc => htakes.2 c (List.mem_map_of_mem hc)
    rw [← hvalue]
    show ∀ l ∈ Percent.decodeLetters (Text.ofChars chars), isSegmentChar l = true
    rw [Text.Percent.decodeLetters_ofChars]
    intro l hl
    obtain ⟨c, hc, rfl⟩ := List.mem_map.mp hl
    exact Text.Percent.isSegmentChar_of_mem_decodeFrom Text.Utf8.wide_none hclean hchars c hc

/-- **How a link arrives**, if the literals of its template are escaped like the gateway does. -/
theorem delivers_of_link {t : Template} (ht : t.LiteralsEncoded) {values : List Value} {path : List Char}
    (h : t.link? values = .ok (Text.ofChars path)) :
    t.Delivers values (Text.ofChars path) (Text.ofChars (Percent.encode pathSafe (Percent.decode path))) := by
  rw [← arrived_ofChars]
  obtain ⟨texts, hb, hu, hpath⟩ := link_eq_ok (link?_eq_ok h)
  have hq : arrived (Text.ofChars path) = (t.render (texts.map arrived)).text := by
    rw [hpath]
    exact (arrived_render ht (whole_bindValues hb) hu).1
  have hu' : (t.render (texts.map arrived)).unbound = 0 := by
    rw [unbound_render_eq_zero_iff, List.length_map, ← unbound_render_eq_zero_iff]
    exact hu
  have hsent : t.Spells (Text.ofChars path) (capturesOf t.slots texts) := by
    rw [hpath]
    exact spells_render (takes_bindValues hb) hu
  have harrived : t.Segmental values →
      t.Spells (arrived (Text.ofChars path)) (capturesOf t.slots (texts.map arrived)) := by
    intro hv
    rw [hq]
    exact spells_render (takes_arrived hb hv) hu'
  refine ⟨?_, ?_, ?_⟩
  · exact fun hv => isSome_match?_of_spells (harrived hv)
  · intro hchained
    refine ⟨fun hsame => ?_, fun hv => ?_⟩
    · rw [arrived_ofChars] at hsame
      exact segmental_of_same hchained hb hsent hsame
    · rw [hchained.isChain.match?_of_spells (harrived hv), hchained.isChain.match?_of_spells hsent, paramsOf_arrived]
  · intro hv hplain
    rw [hq, arrived_bindValues hb hv hplain, ← hpath]

/-- **Links through a server.** Let a template start with a slash, with literals that are escaped like the gateway does,
and let it link values. If a server hands the link over with its escapes undone, then a path arrives that the template
matches as long as no value of a segment holds a `/` or a `.`; in the case of a chain it gives the parameters of the link
then, and only then. It is the link itself if no value holds one of the other delimiters either. -/
theorem path_of_link {source : Letters} {t : Template} (hread : ofString source = .ok t)
    (hslash : source.head? = some (.char '/')) (hencoded : t.LiteralsEncoded) {values : List Value} {path : String}
    (h : t.link? values = .ok path) {env : Environ}
    (henv : env.get? "PATH_INFO" = some (Environ.latin1 (Percent.octets path.toList))) :
    ∃ q : String, env.path = .ok q ∧ t.Delivers values path q := by
  obtain ⟨rest, hrest⟩ := List.head?_eq_some_iff.mp (head?_of_link? hread hslash h)
  have hhead : path.toList.head? = some '/' := by
    cases hpath : path.toList with
    | nil =>
      rw [Text.ofString, hpath] at hrest
      cases hrest
    | cons c s =>
      rw [Text.ofString, hpath, Text.ofChars_cons] at hrest
      exact congrArg some (Letter.char.inj (List.cons.inj hrest).1)
  refine ⟨_, Environ.path_of_delivered hhead henv, ?_⟩
  rw [Text.ofString_ofList]
  exact delivers_of_link hencoded h

/-- A plus sign arrives without its escape, and gives the same parameters. -/
theorem path_of_link_product :
    ofString "/products/:name(.:format)" = .ok (ofBalanced "/products/:name(.:format)") ∧
      (ofBalanced "/products/:name(.:format)").Chained ∧
      (ofBalanced "/products/:name(.:format)").Segmental [.text "a+é", .text "json"] ∧
      (ofBalanced "/products/:name(.:format)").link? [.text "a+é", .text "json"] =
        .ok "/products/a%2B%C3%A9.json" ∧
      Environ.latin1 (Percent.octets "/products/a%2B%C3%A9.json".toList) = "/products/a+\u00c3\u00a9.json" ∧
      ∃ q : String, (Environ.mk [("PATH_INFO", "/products/a+\u00c3\u00a9.json")] none).path = .ok q ∧
        (ofBalanced "/products/:name(.:format)").Delivers [.text "a+é", .text "json"]
          "/products/a%2B%C3%A9.json" q := by
  have hlink : (ofBalanced "/products/:name(.:format)").link? [.text "a+é", .text "json"] =
      .ok "/products/a%2B%C3%A9.json" := rfl
  have hread : ofString "/products/:name(.:format)" = .ok (ofBalanced "/products/:name(.:format)") := rfl
  exact ⟨hread, by decide, by decide, hlink, rfl, path_of_link hread rfl (by decide) hlink rfl⟩

/-- **A slash in a value does not come back**: the link matches, and what arrives of it does not. -/
theorem path_of_link_slash :
    (ofBalanced "/products/:name").link? [.text "a/b"] = .ok "/products/a%2Fb" ∧
      (ofBalanced "/products/:name").match? "/products/a%2Fb" = some ([("name", "a/b")] : Params) ∧
      Environ.latin1 (Percent.octets "/products/a%2Fb".toList) = "/products/a/b" ∧
      (Environ.mk [("PATH_INFO", "/products/a/b")] none).path = .ok "/products/a/b" ∧
      (ofBalanced "/products/:name").match? "/products/a/b" = none :=
  ⟨rfl, rfl, rfl, rfl, rfl⟩

end Template

end HttpRouter
