import HttpRouter.Proofs.Linking

/-!
# Values that fit a template

Which values a template links can be said without binding or rendering any of them. What counts is how many there are:
the first slots get one each, from left to right, and a group is dropped if its first slot comes too late. So a template
is *complete* with a number of values if none of the slots that are kept is left without one (`Complete`).

* `unbound_render_eq_zero_iff`: rendering leaves nothing unbound if the template is complete with its texts;
* `exists_link_iff_fits`: values are linked if they fit, and only then.
-/

namespace HttpRouter.Template

/-! ## Complete templates -/

/-- Whether every slot that is kept gets one of the first `k` values. A group is dropped if no value is left for it. -/
def Complete : Template → Nat → Prop
  | nil, _ => True
  | literal _ rest, k => rest.Complete k
  | segment _ rest, k => 0 < k ∧ rest.Complete (k - 1)
  | wildcard rest, k => 0 < k ∧ rest.Complete (k - 1)
  | group inner rest, k => (k = 0 ∨ inner.Complete k) ∧ rest.Complete (k - inner.slots.length)

instance decidableComplete : (t : Template) → (k : Nat) → Decidable (t.Complete k)
  | nil, _ => isTrue trivial
  | literal _ rest, k => decidableComplete rest k
  | segment _ rest, k =>
    have := decidableComplete rest (k - 1)
    inferInstanceAs (Decidable (0 < k ∧ rest.Complete (k - 1)))
  | wildcard rest, k =>
    have := decidableComplete rest (k - 1)
    inferInstanceAs (Decidable (0 < k ∧ rest.Complete (k - 1)))
  | group inner rest, k =>
    have := decidableComplete inner k
    have := decidableComplete rest (k - inner.slots.length)
    inferInstanceAs (Decidable ((k = 0 ∨ inner.Complete k) ∧ rest.Complete (k - inner.slots.length)))

/-- A template is complete with a value for every slot. -/
theorem complete_of_slots_le {t : Template} {k : Nat} (h : t.slots.length ≤ k) : t.Complete k := by
  induction t generalizing k with
  | nil => trivial
  | literal text rest ih => exact ih h
  | segment name rest ih =>
    rw [slots, List.length_cons] at h
    exact ⟨by omega, ih (by omega)⟩
  | wildcard rest ih =>
    rw [slots, List.length_cons] at h
    exact ⟨by omega, ih (by omega)⟩
  | group inner rest ihInner ihRest =>
    rw [slots, List.length_append] at h
    exact ⟨.inr (ihInner (by omega)), ihRest (by omega)⟩

/-- **Rendering leaves no slot unbound** if the template is complete with as many values as there are texts. -/
theorem unbound_render_eq_zero_iff (t : Template) (texts : List Letters) :
    (t.render texts).unbound = 0 ↔ t.Complete texts.length := by
  induction t generalizing texts with
  | nil => exact iff_of_true rfl trivial
  | literal text rest ih => exact ih texts
  | segment name rest ih =>
    cases texts with
    | nil => exact iff_of_false (Nat.succ_ne_zero _) fun h => Nat.lt_irrefl 0 h.1
    | cons text texts => exact (ih texts).trans ⟨fun h => ⟨Nat.succ_pos _, h⟩, fun h => h.2⟩
  | wildcard rest ih =>
    cases texts with
    | nil => exact iff_of_false (Nat.succ_ne_zero _) fun h => Nat.lt_irrefl 0 h.1
    | cons text texts => exact (ih texts).trans ⟨fun h => ⟨Nat.succ_pos _, h⟩, fun h => h.2⟩
  | group inner rest ihInner ihRest =>
    have hinner := ihInner texts
    have hrest := ihRest (inner.render texts).texts
    rw [texts_render, List.length_drop] at hrest
    by_cases hd : (inner.render texts).bound = 0 ∧ 0 < (inner.render texts).unbound
    · -- A group is dropped only when there is nothing left for it.
      obtain rfl := eq_nil_of_dropped hd
      rw [render_group_of_dropped hd, texts_render, hrest]
      exact ⟨fun h => ⟨.inl rfl, h⟩, fun h => h.2⟩
    · rw [render_group_of_kept hd, texts_render]
      dsimp only
      rw [Nat.add_eq_zero_iff, hinner, hrest, Complete]
      refine and_congr_left fun _ => ⟨.inr, ?_⟩
      rintro (hnil | hc)
      · -- A kept group that got no text has no slot to be left without one.
        have hbound := bound_render inner texts
        rw [hnil, Nat.min_zero] at hbound
        exact hinner.mp (Nat.eq_zero_of_not_pos fun hpos => hd ⟨hbound, hpos⟩)
      · exact hc

/-! ## Values that can be bound -/

/-- Values are bound to slots unless a segment would be left empty or a text has no encoding. -/
theorem bindSlots_eq_ok_iff {slots : List Slot} {values : List Value} :
    (∃ bound, bindSlots slots values = .ok bound) ↔
      ∀ p ∈ slots.zip values, (p.1.isWildcard ∨ p.2.shown ≠ []) ∧ p.2.isEncodable := by
  induction slots generalizing values with
  | nil => exact iff_of_true ⟨_, rfl⟩ nofun
  | cons slot slots ih =>
    cases values with
    | nil => exact iff_of_true ⟨_, rfl⟩ nofun
    | cons v values =>
      rw [List.zip_cons_cons, List.forall_mem_cons, ← ih]
      constructor
      · rintro ⟨⟨texts, leftover⟩, h⟩
        obtain ⟨hv, hcode, texts', hr, -⟩ := bindSlots_cons_eq_ok h
        exact ⟨⟨hv, hcode⟩, _, hr⟩
      · rintro ⟨⟨hv, hcode⟩, ⟨texts, leftover⟩, hr⟩
        refine ⟨(escapeFor slot v :: texts, leftover), ?_⟩
        rw [bindSlots, if_neg, encodeFor_eq_ok_iff.mpr ⟨hcode, rfl⟩, hr]
        · rfl
        · rw [Bool.and_eq_true, Bool.not_eq_true', List.isEmpty_iff]
          rintro ⟨hw, hempty⟩
          rcases hv with hv | hv
          · rw [hw] at hv
            cases hv
          · exact hv hempty

/-- Text can be put behind what the last wildcard got if every slot got a text and one of them is a wildcard. -/
theorem isSome_extendLast (extra : Letters) {slots : List Slot} {texts : List Letters}
    (h : texts.length = slots.length) : (extendLast extra slots texts).isSome = slots.any Slot.isWildcard := by
  induction slots generalizing texts with
  | nil => rfl
  | cons slot slots ih =>
    cases texts with
    | nil => cases h
    | cons text texts =>
      have hrest := ih (Nat.succ.inj h)
      rw [extendLast, List.any_cons]
      cases hmore : extendLast extra slots texts with
      | some more =>
        rw [hmore] at hrest
        rw [← hrest, Option.isSome_some, Option.isSome_some, Bool.or_true]
      | none =>
        rw [hmore] at hrest
        rw [← hrest, Option.isSome_none, Bool.or_false]
        cases slot.isWildcard <;> rfl

/-- What is put behind a text changes how long the texts are, but not how many. -/
theorem length_extendLast {extra : Letters} {slots : List Slot} {texts texts' : List Letters}
    (h : extendLast extra slots texts = some texts') : texts'.length = texts.length := by
  induction slots generalizing texts texts' with
  | nil => cases h
  | cons slot slots ih =>
    cases texts with
    | nil => cases h
    | cons text texts =>
      rw [extendLast] at h
      split at h
      · next more hmore =>
        obtain rfl := Option.some.inj h
        exact congrArg Nat.succ (ih hmore)
      · split at h
        · obtain rfl := Option.some.inj h
          rfl
        · cases h

/-- As many slots get a text as there are values for. -/
theorem length_bindValues {slots : List Slot} {values : List Value} {texts : List Letters}
    (h : bindValues slots values = .ok texts) : texts.length = min slots.length values.length := by
  obtain ⟨first, leftover, hr, ⟨-, rfl⟩ | ⟨-, he, -⟩⟩ := bindValues_eq_ok_iff.mp h
  · exact (length_bindSlots hr).1
  · rw [length_extendLast he]
    exact (length_bindSlots hr).1

/-- The values that slots get and those left over are all of them. -/
theorem forall_zip_and_drop_iff (slots : List Slot) {values : List Value} {p : Value → Prop} :
    (∀ q ∈ slots.zip values, p q.2) ∧ (∀ v ∈ values.drop slots.length, p v) ↔ ∀ v ∈ values, p v := by
  induction slots generalizing values with
  | nil => simp
  | cons slot slots ih =>
    cases values with
    | nil => simp
    | cons v values =>
      rw [List.zip_cons_cons, List.forall_mem_cons, List.length_cons, List.drop_succ_cons, and_assoc, ih,
        List.forall_mem_cons]

/-- **Values can be bound** if no segment would be left empty, there is room for all of them, and all of their texts have
an encoding. -/
theorem exists_bindValues_iff {slots : List Slot} {values : List Value} :
    (∃ texts, bindValues slots values = .ok texts) ↔
      (∀ p ∈ slots.zip values, p.1.isWildcard ∨ p.2.shown ≠ []) ∧
        (values.length ≤ slots.length ∨ slots.any Slot.isWildcard) ∧ ∀ v ∈ values, v.isEncodable := by
  have hbind : (∃ bound, bindSlots slots values = .ok bound) ↔
      (∀ p ∈ slots.zip values, p.1.isWildcard ∨ p.2.shown ≠ []) ∧ ∀ p ∈ slots.zip values, p.2.isEncodable := by
    simp only [bindSlots_eq_ok_iff, imp_and, forall_and]
  rw [← forall_zip_and_drop_iff slots]
  constructor
  · rintro ⟨texts, h⟩
    obtain ⟨first, leftover, hr, hleft⟩ := bindValues_eq_ok_iff.mp h
    obtain ⟨hlength, hdrop⟩ := length_bindSlots hr
    obtain ⟨hfilled, hcode⟩ := hbind.mp ⟨_, hr⟩
    rcases hleft with ⟨rfl, -⟩ | ⟨hne, he, hmore⟩
    · exact ⟨hfilled, .inl (List.drop_eq_nil_iff.mp hdrop.symm), hcode, hdrop ▸ nofun⟩
    · refine ⟨hfilled, .inr ?_, hcode, hdrop ▸ hmore⟩
      -- Something is left over, so that every slot has a text.
      have hmore : slots.length < values.length := by
        rw [hdrop, ne_eq, List.drop_eq_nil_iff] at hne
        omega
      rw [← isSome_extendLast (leftoverText leftover) (show first.length = slots.length by omega), he]
      rfl
  · rintro ⟨hfilled, hroom, hcode, hmore⟩
    obtain ⟨⟨first, leftover⟩, hr⟩ := hbind.mpr ⟨hfilled, hcode⟩
    obtain ⟨hlength, hdrop⟩ := length_bindSlots hr
    by_cases hle : values.length ≤ slots.length
    · exact ⟨first, bindValues_eq_ok_iff.mpr ⟨first, leftover, hr, .inl ⟨hdrop.trans (List.drop_eq_nil_iff.mpr hle), rfl⟩⟩⟩
    · have hfull : first.length = slots.length := by omega
      have hwild : (extendLast (leftoverText leftover) slots first).isSome := by
        rw [isSome_extendLast _ hfull]
        exact hroom.resolve_left hle
      obtain ⟨texts, he⟩ := Option.isSome_iff_exists.mp hwild
      refine ⟨texts, bindValues_eq_ok_iff.mpr ⟨first, leftover, hr, .inr ⟨?_, he, hdrop ▸ hmore⟩⟩⟩
      rw [hdrop, ne_eq, List.drop_eq_nil_iff]
      exact hle

/-! ## Values that fit -/

/-- Whether values fit a template: none is empty where it would be that of a segment, there is room for all of them, all
of their texts have an encoding, and they are enough. -/
structure Fits (t : Template) (values : List Value) : Prop where
  filled : ∀ p ∈ t.slots.zip values, p.1.isWildcard ∨ p.2.shown ≠ []
  room : values.length ≤ t.slots.length ∨ t.hasWildcard
  encodable : ∀ v ∈ values, v.isEncodable
  complete : t.Complete values.length

instance (t : Template) (values : List Value) : Decidable (t.Fits values) :=
  decidable_of_iff ((∀ p ∈ t.slots.zip values, p.1.isWildcard ∨ p.2.shown ≠ []) ∧
      (values.length ≤ t.slots.length ∨ t.hasWildcard) ∧ (∀ v ∈ values, v.isEncodable) ∧ t.Complete values.length)
    ⟨fun h => ⟨h.1, h.2.1, h.2.2.1, h.2.2.2⟩, fun h => ⟨h.filled, h.room, h.encodable, h.complete⟩⟩

/-- With more values than slots a template is as complete as with one for each. -/
theorem complete_min_iff {t : Template} {k : Nat} : t.Complete (min t.slots.length k) ↔ t.Complete k := by
  by_cases h : t.slots.length ≤ k
  · rw [Nat.min_eq_left h]
    exact iff_of_true (complete_of_slots_le (Nat.le_refl _)) (complete_of_slots_le h)
  · rw [Nat.min_eq_right (by omega)]

/-- **Values are linked if they fit**, and only then. -/
theorem exists_link_iff_fits {t : Template} {values : List Value} :
    (∃ path, t.link values = .ok path) ↔ t.Fits values := by
  constructor
  · rintro ⟨path, h⟩
    obtain ⟨texts, hb, hu, -⟩ := link_eq_ok h
    obtain ⟨hfilled, hroom, hcode⟩ := exists_bindValues_iff.mp ⟨texts, hb⟩
    rw [unbound_render_eq_zero_iff, length_bindValues hb, complete_min_iff] at hu
    exact ⟨hfilled, hroom, hcode, hu⟩
  · rintro ⟨hfilled, hroom, hcode, hcomplete⟩
    obtain ⟨texts, hb⟩ := exists_bindValues_iff.mpr ⟨hfilled, hroom, hcode⟩
    have hu : (t.render texts).unbound = 0 := by
      rw [unbound_render_eq_zero_iff, length_bindValues hb, complete_min_iff]
      exact hcomplete
    refine ⟨(t.render texts).text, ?_⟩
    rw [link, hb]
    exact if_pos hu

/-- A group may be left without a value, but not with one that is too few, and values are left over for a wildcard only. -/
example :
    let t := ofBalanced "/:kind(/:year-:month)"
    t.Fits [.text "a"] ∧ ¬ t.Fits [.text "a", .text "2"] ∧ t.Fits [.text "a", .text "2", .text "3"] ∧
      ¬ t.Fits [.text "a", .text "2", .text "3", .text "4"] := by
  decide

end HttpRouter.Template
