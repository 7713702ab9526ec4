import HttpRouter.Proofs.Canonical
import HttpRouter.Proofs.Fitting
import HttpRouter.RouteTable

/-!
# Mounted templates

A route is mounted under a base by writing the base in front of its path. What is read then is the template of the base
followed by that of the path (`append`), unless a name at the end of the base would go on in the path. Literal text at
the seam is joined, which changes nothing about the paths that are made, nor about links.

* `canonical_append`, `write_append`: both templates together are read from both texts together;
* `spells_append_iff`: they make what the first makes in front of what the second makes;
* `bindValues_append`, `render_append`: with a value for every slot of the first, the second is linked as by itself;
* `Route.make_of_base`: all of it, for routes.
-/

namespace HttpRouter

namespace Template

/-! ## One template behind another -/

/-- Literal text in front of a template, joined to the text that it starts with. -/
def behindText (text : Letters) : Template → Template
  | literal text' rest => literal (text ++ text') rest
  | t => literal text t

/-- A template with another one behind it. -/
def append : Template → Template → Template
  | nil, u => u
  | literal text rest, u => behindText text (append rest u)
  | segment name rest, u => segment name (append rest u)
  | wildcard rest, u => wildcard (append rest u)
  | group inner rest, u => group inner (append rest u)

section BehindText

variable (text : Letters) (t : Template)

theorem write_behindText : (behindText text t).write = text ++ t.write := by
  cases t <;> simp [behindText, write]

theorem slots_behindText : (behindText text t).slots = t.slots := by
  cases t <;> rfl

theorem spells_behindText_iff {s : Letters} {captures : Captures} :
    (behindText text t).Spells s captures ↔ (literal text t).Spells s captures := by
  cases t with
  | literal text' rest =>
    show (literal (text ++ text') rest).Spells s captures ↔ _
    simp only [spells_literal_iff]
    constructor
    · rintro ⟨s', rfl, h⟩
      exact ⟨text' ++ s', List.append_assoc .., s', rfl, h⟩
    · rintro ⟨_, rfl, s', rfl, h⟩
      exact ⟨s', (List.append_assoc ..).symm, h⟩
  | _ => exact Iff.rfl

theorem render_behindText (texts : List Letters) :
    (behindText text t).render texts = (literal text t).render texts := by
  cases t with
  | literal text' rest => simp [behindText, render]
  | _ => rfl

end BehindText

theorem slots_append (t u : Template) : (t.append u).slots = t.slots ++ u.slots := by
  induction t with
  | nil => rfl
  | literal text rest ih => exact (slots_behindText _ _).trans ih
  | segment name rest ih => exact congrArg _ ih
  | wildcard rest ih => exact congrArg _ ih
  | group inner rest ihInner ihRest => rw [append, slots, ihRest, slots, List.append_assoc]

/-! ## Both are read -/

theorem write_append (t u : Template) : (t.append u).write = t.write ++ u.write := by
  induction t with
  | nil => rfl
  | literal text rest ih => rw [append, write_behindText, ih, write, List.append_assoc]
  | segment name rest ih => rw [append, write, ih, write, List.append_assoc]
  | wildcard rest ih => rw [append, write, ih, write, List.cons_append]
  | group inner rest ihInner ihRest =>
    rw [append, write, ihRest, write, List.append_assoc, List.cons_append, List.cons_append, List.cons_append]

/-- Two plain texts are plain together, if the second one does not start with a character of a name. -/
theorem IsPlain.append {text text' : Letters} (h : IsPlain text) (h' : IsPlain text')
    (hseam : ∀ c ∈ text'.head?, isNameChar c = false) : IsPlain (text ++ text') := by
  induction text with
  | nil => exact h'
  | cons c text ih =>
    obtain ⟨hc, hcolon, htext⟩ := isPlain_cons_iff.mp h
    refine isPlain_cons_iff.mpr ⟨hc, fun he => ?_, ih htext⟩
    cases text with
    | nil => exact hseam
    | cons d text => exact hcolon he

/-- Plain text may stand in front of a canonical template that no name in front of it would go on in. -/
theorem canonical_behindText {text : Letters} (hne : text ≠ []) (hplain : IsPlain text) {t : Template}
    (ht : t.Canonical) (hseam : ¬ t.ContinuesName) : (behindText text t).Canonical := by
  cases t with
  | literal text' rest =>
    obtain ⟨-, hplain', hrest⟩ := ht
    refine ⟨List.append_ne_nil_of_left_ne_nil hne _, hplain.append hplain' fun c hc => ?_, hrest⟩
    obtain ⟨after, rfl⟩ := List.head?_eq_some_iff.mp hc
    exact Bool.eq_false_iff.mpr hseam
  | _ => exact ⟨hne, hplain, id, ht⟩

/-- What a name in front would take characters of is there in the first template, or else in the second. -/
theorem not_continuesName_append {t u : Template} (ht : t.Canonical) (h : ¬ t.ContinuesName) (hu : ¬ u.ContinuesName) :
    ¬ (t.append u).ContinuesName := by
  cases t with
  | nil => exact hu
  | literal text rest =>
    obtain ⟨c, text, rfl⟩ := List.exists_cons_of_ne_nil ht.1
    rw [append]
    cases rest.append u <;> exact h
  | _ => exact id

/-- **Two canonical templates are canonical together**, if no name would go on in the second one. -/
theorem canonical_append {t u : Template} (ht : t.Canonical) (hu : u.Canonical) (hseam : ¬ u.ContinuesName) :
    (t.append u).Canonical := by
  induction t with
  | nil => exact hu
  | literal text rest ih =>
    obtain ⟨hne, hplain, hstart, hrest⟩ := ht
    exact canonical_behindText hne hplain (ih hrest)
      (not_continuesName_append hrest (fun hname => hstart hname.startsWithText) hseam)
  | segment name rest ih =>
    obtain ⟨hne, hname, hnext, hrest⟩ := ht
    exact ⟨hne, hname, not_continuesName_append hrest hnext hseam, ih hrest⟩
  | wildcard rest ih => exact ih ht
  | group inner rest ihInner ihRest => exact ⟨ht.1, ihRest ht.2⟩

/-- **Two texts are read together as what they are read as**, if no name at the end of the first would go on in the
second. -/
theorem parse_append {s s' : Letters} {t u : Template} (ht : parse s = .ok t) (hu : parse s' = .ok u)
    (hseam : ∀ c ∈ s'.head?, isNameChar c = false) : parse (s ++ s') = .ok (t.append u) := by
  have hcontinues : ¬ u.ContinuesName := by
    intro hname
    obtain ⟨c, text, rest, hc, rfl⟩ := continuesName_iff.mp hname
    rw [← write_of_parse hu] at hseam
    rw [hseam c rfl] at hc
    cases hc
  have h := parse_write (canonical_append (canonical_of_parse ht) (canonical_of_parse hu) hcontinues)
  rwa [write_append, write_of_parse ht, write_of_parse hu] at h

/-! ## Both make their parts of a path -/

/-- **What two templates make together** is what the first makes in front of what the second makes. -/
theorem spells_append_iff {t u : Template} {s : Letters} {captures : Captures} :
    (t.append u).Spells s captures ↔
      ∃ front back own others, s = front ++ back ∧ captures = own ++ others ∧ t.Spells front own ∧
        u.Spells back others := by
  constructor
  · intro h
    induction t generalizing s captures with
    | nil => exact ⟨[], s, [], captures, rfl, rfl, .nil, h⟩
    | literal text rest ih =>
      obtain ⟨s', rfl, hrest⟩ := spells_literal_iff.mp ((spells_behindText_iff _ _).mp h)
      obtain ⟨front, back, own, others, rfl, rfl, hfront, hback⟩ := ih hrest
      exact ⟨text ++ front, back, own, others, (List.append_assoc ..).symm, rfl, .literal hfront, hback⟩
    | segment name rest ih =>
      obtain ⟨taken, s', more, rfl, rfl, htaken, hrest⟩ := spells_segment_iff.mp h
      obtain ⟨front, back, own, others, rfl, rfl, hfront, hback⟩ := ih hrest
      exact ⟨taken ++ front, back, _ :: own, others, (List.append_assoc ..).symm, rfl, .segment htaken hfront, hback⟩
    | wildcard rest ih =>
      obtain ⟨taken, s', more, rfl, rfl, hrest⟩ := spells_wildcard_iff.mp h
      obtain ⟨front, back, own, others, rfl, rfl, hfront, hback⟩ := ih hrest
      exact ⟨taken ++ front, back, _ :: own, others, (List.append_assoc ..).symm, rfl, .wildcard hfront, hback⟩
    | group inner rest ihInner ihRest =>
      rcases spells_group_iff.mp h with ⟨s₁, s₂, first, more, rfl, rfl, hinner, hrest⟩ | hrest
      · obtain ⟨front, back, own, others, rfl, rfl, hfront, hback⟩ := ihRest hrest
        exact ⟨s₁ ++ front, back, first ++ own, others, (List.append_assoc ..).symm, (List.append_assoc ..).symm,
          .present hinner hfront, hback⟩
      · obtain ⟨front, back, own, others, rfl, rfl, hfront, hback⟩ := ihRest hrest
        exact ⟨front, back, own, others, rfl, rfl, .absent hfront, hback⟩
  · rintro ⟨front, back, own, others, rfl, rfl, hfront, hback⟩
    induction hfront with
    | nil => exact hback
    | literal _ ih =>
      rw [List.append_assoc]
      exact (spells_behindText_iff _ _).mpr (.literal ih)
    | segment htaken _ ih =>
      rw [List.append_assoc]
      exact .segment htaken ih
    | wildcard _ ih =>
      rw [List.append_assoc]
      exact .wildcard ih
    | present hinner _ _ ih =>
      rw [List.append_assoc, List.append_assoc]
      exact .present hinner ih
    | absent _ ih => exact .absent ih

/-! ## Both are linked -/

section Binding

variable {slots slots' : List Slot} {us vs : List Value}

/-- With a value for every slot, the values behind them are bound to the slots behind. -/
theorem bindSlots_append {first more : List Letters} {leftover leftover' : List Value}
    (hlength : us.length = slots.length) (h : bindSlots slots us = .ok (first, leftover))
    (h' : bindSlots slots' vs = .ok (more, leftover')) :
    bindSlots (slots ++ slots') (us ++ vs) = .ok (first ++ more, leftover') := by
  induction slots generalizing us first with
  | nil =>
    obtain rfl := List.eq_nil_of_length_eq_zero hlength
    cases h
    exact h'
  | cons slot slots ih =>
    cases us with
    | nil => cases hlength
    | cons u us =>
      obtain ⟨hu, hcode, texts, hrest, rfl⟩ := bindSlots_cons_eq_ok h
      rw [List.cons_append, List.cons_append, bindSlots, if_neg, encodeFor_eq_ok_iff.mpr ⟨hcode, rfl⟩,
        ih (Nat.succ.inj hlength) hrest]
      · rfl
      · rw [Bool.and_eq_true, Bool.not_eq_true', List.isEmpty_iff]
        rintro ⟨hw, hempty⟩
        rcases hu with hu | hu
        · rw [hw] at hu
          cases hu
        · exact hu hempty

/-- The last wildcard of two lists of slots is that of the second one, if it has one. -/
theorem extendLast_append {extra : Letters} {first more more' : List Letters}
    (hlength : first.length = slots.length) (h : extendLast extra slots' more = some more') :
    extendLast extra (slots ++ slots') (first ++ more) = some (first ++ more') := by
  induction slots generalizing first with
  | nil =>
    obtain rfl := List.eq_nil_of_length_eq_zero hlength
    exact h
  | cons slot slots ih =>
    cases first with
    | nil => cases hlength
    | cons text first =>
      rw [List.cons_append, List.cons_append, extendLast, ih (Nat.succ.inj hlength)]
      rfl

/-- **With a value for every slot** of the first, the slots of the second get what they get by themselves. -/
theorem bindValues_append {first more : List Letters} (hlength : us.length = slots.length)
    (h : bindValues slots us = .ok first) (h' : bindValues slots' vs = .ok more) :
    bindValues (slots ++ slots') (us ++ vs) = .ok (first ++ more) := by
  obtain ⟨first', leftover, hbind, hleft⟩ := bindValues_eq_ok_iff.mp h
  obtain ⟨more', leftover', hbind', hleft'⟩ := bindValues_eq_ok_iff.mp h'
  obtain ⟨hcount, hdrop⟩ := length_bindSlots hbind
  -- Nothing is left over of the first values.
  obtain rfl : leftover = [] := by rw [hdrop, ← hlength, List.drop_length]
  obtain rfl : first = first' := hleft.elim And.right fun hmore => absurd rfl hmore.1
  refine bindValues_eq_ok_iff.mpr ⟨_, leftover', bindSlots_append hlength hbind hbind', ?_⟩
  refine hleft'.imp (And.imp_right (congrArg _))
    (And.imp_right (And.imp_left fun hextend => extendLast_append ?_ hextend))
  rw [hcount, hlength, Nat.min_self]

end Binding

/-- Texts for the slots of a group and of what follows it are texts for each of them. -/
theorem exists_append_of_group {inner rest : Template} {texts : List Letters}
    (h : texts.length = (group inner rest).slots.length) :
    ∃ own others, texts = own ++ others ∧ own.length = inner.slots.length ∧ others.length = rest.slots.length := by
  rw [slots, List.length_append] at h
  refine ⟨_, _, (List.take_append_drop inner.slots.length texts).symm, ?_, ?_⟩
  · rw [List.length_take]
    omega
  · rw [List.length_drop]
    omega

/-- With a text for every slot, texts behind them are not used. -/
theorem render_of_length_eq {t : Template} {texts : List Letters} (h : texts.length = t.slots.length)
    (more : List Letters) : t.render (texts ++ more) = { t.render texts with texts := more } := by
  induction t generalizing texts more with
  | nil =>
    obtain rfl := List.eq_nil_of_length_eq_zero h
    rfl
  | literal text rest ih => rw [render, ih h, render]
  | segment name rest ih =>
    cases texts with
    | nil => cases h
    | cons text texts => simp only [List.cons_append, render, Rendered.ofSlot, ih (Nat.succ.inj h)]
  | wildcard rest ih =>
    cases texts with
    | nil => cases h
    | cons text texts => simp only [List.cons_append, render, Rendered.ofSlot, ih (Nat.succ.inj h)]
  | group inner rest ihInner ihRest =>
    obtain ⟨own, others, rfl, hown, hothers⟩ := exists_append_of_group h
    simp only [List.append_assoc, render, ihInner hown, ihRest hothers]
    split <;> rfl

/-- **With a text for every slot** of the first, the second is rendered as by itself. -/
theorem render_append {t u : Template} {texts : List Letters} (h : texts.length = t.slots.length)
    (more : List Letters) :
    (t.append u).render (texts ++ more) =
      { text := (t.render texts).text ++ (u.render more).text
        bound := (t.render texts).bound + (u.render more).bound
        unbound := (t.render texts).unbound + (u.render more).unbound
        texts := (u.render more).texts } := by
  induction t generalizing texts with
  | nil =>
    obtain rfl := List.eq_nil_of_length_eq_zero h
    simp only [append, render, List.nil_append, Nat.zero_add]
  | literal text rest ih =>
    rw [append, render_behindText, render, ih h]
    simp only [render, List.append_assoc]
  | segment name rest ih =>
    cases texts with
    | nil => cases h
    | cons text texts =>
      simp only [append, List.cons_append, render, Rendered.ofSlot, ih (Nat.succ.inj h), List.append_assoc,
        Nat.add_right_comm]
  | wildcard rest ih =>
    cases texts with
    | nil => cases h
    | cons text texts =>
      simp only [append, List.cons_append, render, Rendered.ofSlot, ih (Nat.succ.inj h), List.append_assoc,
        Nat.add_right_comm]
  | group inner rest ihInner ihRest =>
    obtain ⟨own, others, rfl, hown, hothers⟩ := exists_append_of_group h
    simp only [append, List.append_assoc, render, render_of_length_eq hown, ihRest hothers]
    split
    · rfl
    · simp only [List.append_assoc, Nat.add_assoc]

/-- **With a value for every slot** of the first, both are linked together as each is linked. -/
theorem link_append {t u : Template} {us vs : List Value} {front back : Letters}
    (hlength : us.length = t.slots.length) (h : t.link us = .ok front) (h' : u.link vs = .ok back) :
    (t.append u).link (us ++ vs) = .ok (front ++ back) := by
  obtain ⟨texts, hbind, hunbound, rfl⟩ := link_eq_ok h
  obtain ⟨texts', hbind', hunbound', rfl⟩ := link_eq_ok h'
  have htexts : texts.length = t.slots.length := by
    rw [length_bindValues hbind, hlength, Nat.min_self]
  rw [link, slots_append, bindValues_append hlength hbind hbind']
  simp only [bind, Except.bind, render_append htexts, hunbound, hunbound']
  rfl

end Template

/-! ## Routes -/

/-- **Mounting is putting together.** If a base and a path are templates and the path does not start with a character
of a name, there is a route to the path under the base. Its slots are those of the base and then those of the path. It
matches a request path exactly if that can be parted so that the base matches the front and the path the back. If
values, one for each slot of the base, make a link of the base and others a link of the path, all of them make a link of
the route, which is the two links put together. -/
theorem Route.make_of_base {κ : Type} (resource : κ) {base path : Letters} {t u : Template}
    (hbase : Template.ofString base = .ok t) (hpath : Template.ofString path = .ok u)
    (hseam : ∀ c ∈ path.head?, Template.isNameChar c = false) :
    ∃ route, Route.make resource path base = .ok route ∧ Template.ofString (base ++ path) = .ok route.template ∧
      route.template.slots = t.slots ++ u.slots ∧
      (∀ request, (route.match? request).isSome ↔
        ∃ front back, request = front ++ back ∧ (t.match? front).isSome ∧ (u.match? back).isSome) ∧
      ∀ us vs front back, us.length = t.slots.length → t.link? us = .ok front → u.link? vs = .ok back →
        route.link (us ++ vs) = .ok (front ++ back) := by
  have hread : Template.ofString (base ++ path) = .ok (t.append u) := by
    rw [Template.ofString_eq_ok]
    exact Template.parse_append (Template.ofString_eq_ok.mp hbase) (Template.ofString_eq_ok.mp hpath) hseam
  refine ⟨⟨resource, path, base, t.append u⟩, by rw [Route.make, hread]; rfl, hread, Template.slots_append t u,
    fun request => ?_, fun us vs front back hlength hfront hback => ?_⟩
  · simp only [Route.match?, Template.match?, Option.isSome_map, Template.capture?_isSome_iff]
    constructor
    · rintro ⟨captures, h⟩
      obtain ⟨front, back, own, others, hs, -, hfront, hback⟩ := Template.spells_append_iff.mp h
      exact ⟨front, back, hs, ⟨own, hfront⟩, others, hback⟩
    · rintro ⟨front, back, rfl, ⟨own, hfront⟩, others, hback⟩
      exact ⟨own ++ others, Template.spells_append_iff.mpr
        ⟨_, _, own, others, rfl, rfl, hfront, hback⟩⟩
  · have hlink := Template.link_append hlength (Template.link?_eq_ok hfront) (Template.link?_eq_ok hback)
    rw [Route.link, Template.link?, hlink]
    rfl

/-- The seam lies between two groups, a path is parted there, and values left over go to the wildcard of the path. -/
theorem Route.make_of_base_shop :
    Template.ofString "/:shop(.:lang)" = .ok (Template.ofBalanced "/:shop(.:lang)") ∧
      Template.ofString "(/:item)/*" = .ok (Template.ofBalanced "(/:item)/*") ∧
      (∀ c ∈ (Text.ofString "(/:item)/*").head?, Template.isNameChar c = false) ∧
      ∃ route, Route.make "Item" "(/:item)/*" "/:shop(.:lang)" = .ok route ∧
        (route.match? "/a.de/7/x/y").isSome ∧
        route.link [.text "a", .text "de", .text "7", .text "x", .text "y"] = .ok "/a.de/7/x/y" := by
  have hseam : ∀ c ∈ (Text.ofString "(/:item)/*").head?, Template.isNameChar c = false := by
    intro c hc
    obtain rfl : Letter.char '(' = c := Option.some.inj hc
    rfl
  obtain ⟨route, hmake, -, -, hmatch, hlink⟩ := Route.make_of_base "Item"
    (show Template.ofString "/:shop(.:lang)" = .ok (Template.ofBalanced "/:shop(.:lang)") from rfl)
    (show Template.ofString "(/:item)/*" = .ok (Template.ofBalanced "(/:item)/*") from rfl) hseam
  refine ⟨rfl, rfl, hseam, route, hmake, (hmatch _).mpr ⟨"/a.de", "/7/x/y", rfl, by decide, by decide⟩, ?_⟩
  exact hlink [.text "a", .text "de"] [.text "7", .text "x", .text "y"] "/a.de" "/7/x/y" rfl rfl rfl

end HttpRouter
