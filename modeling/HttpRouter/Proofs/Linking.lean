import HttpRouter.Proofs.Matching
import HttpRouter.Template.Link
import HttpRouter.Template.Parser

/-!
# Links match

A link is bound from left to right, and groups are dropped by counting what was bound in them; a path is matched by a
search. The two meet in `Spells`: the path of a link is made by its template, every slot that got a value taking its
text and every dropped group being left out (`spells_link`). That the path matches is then completeness of the matcher.

What is dropped is decided by counts, so the counts come first: a rendered template has used up a text for each of its
slots (`texts_render`), and every text it used stands in what was kept (`bound_render`).
-/

namespace HttpRouter.Template

/-! ## Escaped texts suit their slots -/

/-- An escape is made of characters that a segment may hold. -/
theorem isSegmentChar_of_mem_escape {b : UInt8} {c : Char} (h : c ∈ Text.Percent.escape b) : isSegmentChar c = true := by
  have digit : ∀ n < 16, isSegmentChar (Text.Percent.hexDigit n) = true := by decide
  have hb := b.toNat_lt
  rcases List.mem_cons.mp h with rfl | h
  · decide
  rcases List.mem_cons.mp h with rfl | h
  · exact digit _ (by omega)
  · obtain rfl := List.mem_singleton.mp h
    exact digit _ (by omega)

theorem encodeChar_ne_nil (c : Char) : Text.Utf8.encodeChar c ≠ [] := by
  rw [Text.Utf8.encodeChar]
  split
  · simp
  · split
    · simp
    · split <;> simp

/-- A letter that is written for a segment stands there as letters that a segment may hold, at least one. -/
theorem takes_escapeSegmentLetter (name : Letters) (l : Letter) : (Slot.segment name).Takes (escapeSegmentLetter l) := by
  cases l with
  | lone half => exact ⟨List.cons_ne_nil _ _, by simp [escapeSegmentLetter, isSegmentChar]⟩
  | char c =>
    rw [escapeSegmentLetter]
    split
    · exact ⟨List.cons_ne_nil _ _, List.all_eq_true.mp (by decide)⟩
    · next hdot =>
      rw [Text.Percent.encodeChar]
      split
      · next hsafe =>
        refine ⟨List.cons_ne_nil _ _, ?_⟩
        have hslash : c ≠ '/' := by
          rintro rfl
          exact absurd hsafe (by decide)
        simp [isSegmentChar, hdot, hslash]
      · refine ⟨?_, ?_⟩
        · obtain ⟨b, bs, hb⟩ := List.exists_cons_of_ne_nil (encodeChar_ne_nil c)
          simp [hb, Text.Percent.escape]
        · intro l hl
          obtain ⟨d, hd, rfl⟩ := List.mem_map.mp hl
          obtain ⟨b, -, hd⟩ := List.mem_flatMap.mp hd
          exact isSegmentChar_of_mem_escape hd

/-- **An escaped text suits its slot**, unless it is the empty text of a segment. -/
theorem takes_escapeFor {slot : Slot} {v : Value} (h : slot.isWildcard ∨ v.shown ≠ []) :
    slot.Takes (escapeFor slot v) := by
  cases slot with
  | wildcard => trivial
  | segment name =>
    have hne : v.shown ≠ [] := by simpa [Slot.isWildcard] using h
    obtain ⟨l, s, hs⟩ := List.exists_cons_of_ne_nil hne
    -- The first letter keeps the text from being empty.
    have hl := takes_escapeSegmentLetter name l
    rw [escapeFor, if_neg (by simp [Slot.isWildcard]), hs]
    refine ⟨?_, ?_⟩
    · simp [escapeSegment, hl.1]
    · intro d hd
      obtain ⟨l, -, hd⟩ := List.mem_flatMap.mp hd
      exact (takes_escapeSegmentLetter name l).2 d hd

/-! ## Bound texts suit their slots -/

/-- What a slot takes of a value is its text escaped, and that is one of characters. -/
theorem encodeFor_eq_ok_iff {slot : Slot} {v : Value} {text : Letters} :
    encodeFor slot v = .ok text ↔ v.isEncodable ∧ text = escapeFor slot v := by
  rw [encodeFor]
  split
  · next h => simp [h, eq_comm]
  · next h => simp [h]

/-- A value is bound if its text has an encoding and would not leave a segment empty, and the others are bound to the
other slots. -/
theorem bindSlots_cons_eq_ok {slot : Slot} {slots : List Slot} {v : Value} {values leftover : List Value}
    {texts : List Letters} (h : bindSlots (slot :: slots) (v :: values) = .ok (texts, leftover)) :
    (slot.isWildcard ∨ v.shown ≠ []) ∧ v.isEncodable ∧
      ∃ texts', bindSlots slots values = .ok (texts', leftover) ∧ texts = escapeFor slot v :: texts' := by
  rw [bindSlots] at h
  split at h
  · cases h
  · next hne =>
    rcases he : encodeFor slot v with e | text
    · rw [he] at h
      cases h
    · obtain ⟨hplain, rfl⟩ := encodeFor_eq_ok_iff.mp he
      rcases hr : bindSlots slots values with e | ⟨texts', leftover'⟩
      · rw [he, hr] at h
        cases h
      · rw [he, hr] at h
        cases h
        refine ⟨?_, hplain, texts', rfl, rfl⟩
        cases hw : slot.isWildcard <;> simp_all

theorem takes_bindSlots {slots : List Slot} {values leftover : List Value} {texts : List Letters}
    (h : bindSlots slots values = .ok (texts, leftover)) : ∀ p ∈ slots.zip texts, p.1.Takes p.2 := by
  induction slots generalizing values texts with
  | nil => simp
  | cons slot slots ih =>
    cases values with
    | nil =>
      cases h
      simp
    | cons v values =>
      obtain ⟨hv, -, texts', hr, rfl⟩ := bindSlots_cons_eq_ok h
      rw [List.zip_cons_cons]
      exact List.forall_mem_cons.mpr ⟨takes_escapeFor hv, ih hr⟩

/-- What is put behind the text of a wildcard leaves every text suiting its slot. -/
theorem takes_extendLast {extra : Letters} {slots : List Slot} {texts texts' : List Letters}
    (h : extendLast extra slots texts = some texts') (ht : ∀ p ∈ slots.zip texts, p.1.Takes p.2) :
    ∀ p ∈ slots.zip texts', p.1.Takes p.2 := by
  induction slots generalizing texts texts' with
  | nil => simp
  | cons slot slots ih =>
    cases texts with
    | nil => cases h
    | cons text texts =>
      rw [List.zip_cons_cons] at ht
      obtain ⟨hhead, htail⟩ := List.forall_mem_cons.mp ht
      rw [extendLast] at h
      split at h
      · next more hmore =>
        obtain rfl := Option.some.inj h
        rw [List.zip_cons_cons]
        exact List.forall_mem_cons.mpr ⟨hhead, ih hmore htail⟩
      · split at h
        · next hw =>
          obtain rfl := Option.some.inj h
          rw [List.zip_cons_cons]
          refine List.forall_mem_cons.mpr ⟨?_, htail⟩
          cases slot with
          | segment name => cases hw
          | wildcard => trivial
        · cases h

theorem checkEncodings_eq_ok_iff {values : List Value} :
    checkEncodings values = .ok () ↔ ∀ v ∈ values, v.isEncodable := by
  rw [checkEncodings]
  split
  · next v hv =>
    refine iff_of_false nofun fun h => ?_
    exact absurd (h v (List.mem_of_find?_eq_some hv)) (by simpa using List.find?_some hv)
  · next hnone =>
    exact iff_of_true rfl fun v hv => by simpa using List.find?_eq_none.mp hnone v hv

/-- Bound values are the texts of the slots, extended by what was left over, if that has an encoding. -/
theorem bindValues_eq_ok_iff {slots : List Slot} {values : List Value} {texts : List Letters} :
    bindValues slots values = .ok texts ↔
      ∃ first leftover, bindSlots slots values = .ok (first, leftover) ∧
        ((leftover = [] ∧ texts = first) ∨
          (leftover ≠ [] ∧ extendLast (leftoverText leftover) slots first = some texts ∧
            ∀ v ∈ leftover, v.isEncodable)) := by
  rw [bindValues]
  rcases hr : bindSlots slots values with e | ⟨first, leftover⟩
  · constructor
    · intro h
      cases h
    · rintro ⟨_, _, h, -⟩
      cases h
  · cases leftover with
    | nil =>
      constructor
      · intro h
        cases h
        exact ⟨_, [], rfl, .inl ⟨rfl, rfl⟩⟩
      · rintro ⟨_, _, h, ⟨-, rfl⟩ | ⟨hne, -⟩⟩
        · cases h
          rfl
        · cases h
          exact absurd rfl hne
    | cons v more =>
      constructor
      · intro h
        rcases he : extendLast (leftoverText (v :: more)) slots first with _ | texts'
        · simp only [bind, Except.bind, he] at h
          cases h
        · rcases hc : checkEncodings (v :: more) with e | ⟨⟩
          · simp only [bind, Except.bind, he, hc] at h
            cases h
          · simp only [bind, Except.bind, he, hc] at h
            cases h
            exact ⟨first, v :: more, rfl, .inr ⟨List.cons_ne_nil _ _, he, checkEncodings_eq_ok_iff.mp hc⟩⟩
      · rintro ⟨_, _, h, ⟨hnil, -⟩ | ⟨-, he, hc⟩⟩
        · cases h
          cases hnil
        · cases h
          simp only [bind, Except.bind, he, checkEncodings_eq_ok_iff.mpr hc]
          rfl

/-- **Bound texts suit their slots.** -/
theorem takes_bindValues {slots : List Slot} {values : List Value} {texts : List Letters}
    (h : bindValues slots values = .ok texts) : ∀ p ∈ slots.zip texts, p.1.Takes p.2 := by
  obtain ⟨first, leftover, hr, ⟨-, rfl⟩ | ⟨-, he, -⟩⟩ := bindValues_eq_ok_iff.mp h
  · exact takes_bindSlots hr
  · exact takes_extendLast he (takes_bindSlots hr)

/-! ## What a rendered template counts -/

section Rendering

variable {inner rest : Template} {texts : List Letters}

/-- A group is dropped if it has slots without a text and none with one. -/
theorem render_group_of_dropped (h : (inner.render texts).bound = 0 ∧ 0 < (inner.render texts).unbound) :
    (group inner rest).render texts = rest.render (inner.render texts).texts :=
  if_pos h

/-- Every other group is kept. -/
theorem render_group_of_kept (h : ¬((inner.render texts).bound = 0 ∧ 0 < (inner.render texts).unbound)) :
    (group inner rest).render texts =
      { text := (inner.render texts).text ++ (rest.render (inner.render texts).texts).text
        bound := (inner.render texts).bound + (rest.render (inner.render texts).texts).bound
        unbound := (inner.render texts).unbound + (rest.render (inner.render texts).texts).unbound
        texts := (rest.render (inner.render texts).texts).texts } :=
  if_neg h

end Rendering

/-- **A rendered template has used up a text for each of its slots**, as far as there were any. -/
theorem texts_render (t : Template) (texts : List Letters) : (t.render texts).texts = texts.drop t.slots.length := by
  induction t generalizing texts with
  | nil => rfl
  | literal text rest ih => exact ih texts
  | segment name rest ih => cases texts <;> simp [render, Rendered.ofSlot, slots, ih]
  | wildcard rest ih => cases texts <;> simp [render, Rendered.ofSlot, slots, ih]
  | group inner rest ihInner ihRest =>
    have hrest : (rest.render (inner.render texts).texts).texts = texts.drop (group inner rest).slots.length := by
      rw [ihRest, ihInner, List.drop_drop, slots, List.length_append]
    by_cases h : (inner.render texts).bound = 0 ∧ 0 < (inner.render texts).unbound
    · rw [render_group_of_dropped h, hrest]
    · rw [render_group_of_kept h, hrest]

/-- **Every text that is used up stands in what is kept**: nothing that got a text is dropped. -/
theorem bound_render (t : Template) (texts : List Letters) :
    (t.render texts).bound = min t.slots.length texts.length := by
  induction t generalizing texts with
  | nil => simp [render, slots]
  | literal text rest ih => exact ih texts
  | segment name rest ih => cases texts <;> simp [render, Rendered.ofSlot, slots, ih]
  | wildcard rest ih => cases texts <;> simp [render, Rendered.ofSlot, slots, ih]
  | group inner rest ihInner ihRest =>
    -- The rest gets what the group has left over, whether the group is kept or not.
    have hinner := ihInner texts
    have hrest := ihRest (inner.render texts).texts
    rw [texts_render, List.length_drop] at hrest
    rw [slots, List.length_append]
    by_cases h : (inner.render texts).bound = 0 ∧ 0 < (inner.render texts).unbound
    · rw [render_group_of_dropped h, texts_render, hrest]
      omega
    · rw [render_group_of_kept h, texts_render, hinner, hrest]
      dsimp only
      omega

/-- Only slots are left without a text. -/
theorem unbound_render_le (t : Template) (texts : List Letters) : (t.render texts).unbound ≤ t.slots.length := by
  induction t generalizing texts with
  | nil => exact Nat.le_refl 0
  | literal text rest ih => exact ih texts
  | segment name rest ih =>
    cases texts with
    | nil => exact Nat.succ_le_succ (ih [])
    | cons text texts => exact Nat.le_succ_of_le (ih texts)
  | wildcard rest ih =>
    cases texts with
    | nil => exact Nat.succ_le_succ (ih [])
    | cons text texts => exact Nat.le_succ_of_le (ih texts)
  | group inner rest ihInner ihRest =>
    have hinner := ihInner texts
    have hrest := ihRest (inner.render texts).texts
    rw [slots, List.length_append]
    by_cases h : (inner.render texts).bound = 0 ∧ 0 < (inner.render texts).unbound
    · rw [render_group_of_dropped h]
      omega
    · rw [render_group_of_kept h]
      dsimp only
      omega

/-- A group is only dropped when no texts are left. -/
theorem eq_nil_of_dropped {t : Template} {texts : List Letters}
    (h : (t.render texts).bound = 0 ∧ 0 < (t.render texts).unbound) : texts = [] := by
  have hbound := bound_render t texts
  have hunbound := unbound_render_le t texts
  exact List.eq_nil_of_length_eq_zero (by omega)

/-! ## Links are made by their templates -/

/-- The texts that slots got, with the names of the slots. -/
def capturesOf (slots : List Slot) (texts : List Letters) : Captures :=
  (slots.zip texts).map fun p => (p.1.name, p.2)

theorem zip_append_drop (slots slots' : List Slot) (texts : List Letters) :
    (slots ++ slots').zip texts = slots.zip texts ++ slots'.zip (texts.drop slots.length) := by
  induction slots generalizing texts with
  | nil => rfl
  | cons slot slots ih =>
    cases texts with
    | nil => simp
    | cons text texts => simp [ih]

/-- **A rendered template is made by that template**, if no slot that is kept was left without a text. -/
theorem spells_render {t : Template} {texts : List Letters} (ht : ∀ p ∈ t.slots.zip texts, p.1.Takes p.2)
    (h : (t.render texts).unbound = 0) : t.Spells (t.render texts).text (capturesOf t.slots texts) := by
  induction t generalizing texts with
  | nil => exact .nil
  | literal text rest ih => exact .literal (ih ht h)
  | segment name rest ih =>
    cases texts with
    | nil => cases h
    | cons text texts =>
      obtain ⟨hhead, htail⟩ := List.forall_mem_cons.mp ht
      exact .segment hhead (ih htail h)
  | wildcard rest ih =>
    cases texts with
    | nil => cases h
    | cons text texts => exact .wildcard (ih (List.forall_mem_cons.mp ht).2 h)
  | group inner rest ihInner ihRest =>
    by_cases hd : (inner.render texts).bound = 0 ∧ 0 < (inner.render texts).unbound
    · -- A dropped group leaves no texts for the rest either, so nothing of what was bound is lost.
      obtain rfl := eq_nil_of_dropped hd
      rw [render_group_of_dropped hd, texts_render, List.drop_nil] at h ⊢
      have hrest : rest.Spells (rest.render []).text (capturesOf rest.slots []) := ihRest (by simp) h
      rw [capturesOf, List.zip_nil_right] at hrest ⊢
      exact .absent hrest
    · rw [render_group_of_kept hd] at h ⊢
      obtain ⟨hi, hr⟩ := Nat.add_eq_zero_iff.mp h
      rw [slots, zip_append_drop] at ht
      obtain ⟨hti, htr⟩ := List.forall_mem_append.mp ht
      rw [texts_render] at hr ⊢
      rw [capturesOf, slots, zip_append_drop, List.map_append]
      exact .present (ihInner hti hi) (ihRest htr hr)

/-- Values that are linked are bound, and no slot that is kept is without a value. -/
theorem link_eq_ok {t : Template} {values : List Value} {path : Letters} (h : t.link values = .ok path) :
    ∃ texts, bindValues t.slots values = .ok texts ∧ (t.render texts).unbound = 0 ∧ path = (t.render texts).text := by
  rw [link] at h
  rcases hb : bindValues t.slots values with e | texts
  · rw [hb] at h
    cases h
  · simp only [hb, bind, Except.bind] at h
    split at h
    · next hu =>
      cases h
      exact ⟨texts, rfl, hu, rfl⟩
    · cases h

/-- **The path of a link is made by its template**, every slot that got a value taking its text. -/
theorem spells_link {t : Template} {values : List Value} {path : Letters} (h : t.link values = .ok path) :
    ∃ texts, bindValues t.slots values = .ok texts ∧ t.Spells path (capturesOf t.slots texts) := by
  obtain ⟨texts, hb, hu, rfl⟩ := link_eq_ok h
  exact ⟨texts, hb, spells_render (takes_bindValues hb) hu⟩

/-- A link is one whatever errors are called. -/
theorem link?_eq_ok {t : Template} {values : List Value} {path : Letters} (h : t.link? values = .ok path) :
    t.link values = .ok path := by
  rw [link?] at h
  cases hl : t.link values with
  | error e =>
    rw [hl] at h
    cases h
  | ok path' =>
    rw [hl] at h
    cases h
    rfl

/-! ## Links are absolute -/

/-- A character in front of a template begins its text. -/
theorem cons_eq_literal (c : Letter) (t : Template) : ∃ text rest, cons c t = literal (c :: text) rest := by
  cases t with
  | literal text rest => exact ⟨text, rest, rfl⟩
  | nil => exact ⟨[], nil, rfl⟩
  | segment name rest => exact ⟨[], segment name rest, rfl⟩
  | wildcard rest => exact ⟨[], wildcard rest, rfl⟩
  | group inner rest => exact ⟨[], group inner rest, rfl⟩

/-- What starts with a slash is read as a template that does. -/
theorem ofString_of_slash {source : Letters} {t : Template} (h : ofString source = .ok t)
    (hslash : source.head? = some (.char '/')) : ∃ text rest, t = literal (.char '/' :: text) rest := by
  obtain ⟨s, hs⟩ := List.head?_eq_some_iff.mp hslash
  rw [ofString, parse, hs] at h
  cases himbalance : imbalance? (.char '/' :: s) with
  | some e =>
    rw [himbalance] at h
    cases h
  | none =>
    rw [himbalance] at h
    obtain rfl : ofBalanced (.char '/' :: s) = t := Except.ok.inj h
    exact cons_eq_literal '/' _

/-- **A link is an absolute path** if its template starts with a slash. -/
theorem head?_of_link? {source : Letters} {t : Template} (hread : ofString source = .ok t)
    (hslash : source.head? = some (.char '/')) {values : List Value} {path : Letters} (h : t.link? values = .ok path) :
    path.head? = some (.char '/') := by
  obtain ⟨text, rest, rfl⟩ := ofString_of_slash hread hslash
  obtain ⟨texts, -, hs⟩ := spells_link (link?_eq_ok h)
  obtain ⟨s, hpath, -⟩ := spells_literal_iff.mp hs
  rw [hpath]
  rfl

/-! ## Links match -/

/-- **Every link matches its own template**, whatever groups it has and however many values there are. -/
theorem match?_isSome_of_link? {t : Template} {values : List Value} {path : Letters} (h : t.link? values = .ok path) :
    (t.match? path).isSome := by
  obtain ⟨texts, -, hs⟩ := spells_link (link?_eq_ok h)
  rw [match?, Option.isSome_map]
  exact capture?_isSome_iff.mpr ⟨_, hs⟩

/-- A group of literals is kept, a group without a value is dropped, and dots are escaped. -/
theorem match?_isSome_of_link?_page :
    (ofBalanced "/:kind(/all)(/:page(.:format))").link? [.text "a.b", .text "é"] = .ok "/a%2Eb/all/%C3%A9" ∧
      ((ofBalanced "/:kind(/all)(/:page(.:format))").match? "/a%2Eb/all/%C3%A9").isSome := by
  have h : (ofBalanced "/:kind(/all)(/:page(.:format))").link? [.text "a.b", .text "é"] =
      .ok "/a%2Eb/all/%C3%A9" := rfl
  exact ⟨h, match?_isSome_of_link? h⟩

end HttpRouter.Template
