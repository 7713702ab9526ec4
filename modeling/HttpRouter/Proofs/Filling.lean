import HttpRouter.Proofs.Fitting

/-!
# Templates that are filled in

What a link is made of can be said by numbers alone. The slots of a template are numbered from left to right, and a
value goes to the slot of its own number; so a slot stays vacant if there are no more values than its number. A group
is removed if it has a slot directly in it and all slots in it, however deep, stay vacant. What is left are pieces
(`Template.kept`), literal text and numbered slots, and each of them stands in the link by itself.

Linking goes about it in another way: it hands the texts of the values on from slot to slot and counts on the way back
which slots got one. The two agree because no text is left over where a group is dropped.

* `getElem?_bindValues`: a slot gets the text of the value of its number, and of those left over if it is to take them;
* `fills_render`: rendering leaves the pieces that are kept, and counts the vacant slots among them;
* `link?_eq`: the rule of links.
-/

namespace HttpRouter

/-- What is left of a template: literal text, and slots with their numbers. -/
inductive LinkPiece where
  | text (s : Letters)
  | slot (number : Nat) (slot : Slot)
deriving DecidableEq, Repr

/-- Whether a piece is a slot that stays vacant if there are `k` values. -/
def LinkPiece.isVacant (k : Nat) : LinkPiece → Bool
  | text _ => false
  | slot number _ => k ≤ number

namespace Template

/-! ## The rule -/

/-- Whether a group is removed if there are `k` values, its slots being numbered from `first` on: it has a slot directly
in it, and no slot in it, however deep, has a number below `k`. -/
def IsRemoved (inner : Template) (first k : Nat) : Prop :=
  inner.outerSlots ≠ [] ∧ ∀ number ∈ List.range' first inner.slots.length, ¬ number < k

instance (inner : Template) (first k : Nat) : Decidable (inner.IsRemoved first k) :=
  inferInstanceAs (Decidable (_ ∧ _))

/-- What is left of a template if there are `k` values, its slots being numbered from `first` on. -/
def kept (k : Nat) : Template → Nat → List LinkPiece
  | nil, _ => []
  | literal text rest, first => .text text :: kept k rest first
  | segment name rest, first => .slot first (.segment name) :: kept k rest (first + 1)
  | wildcard rest, first => .slot first .wildcard :: kept k rest (first + 1)
  | group inner rest, first =>
    (if inner.IsRemoved first k then [] else kept k inner first) ++ kept k rest (first + inner.slots.length)

/-- Whether the slot of a number is the last wildcard. -/
def IsLastWildcard (slots : List Slot) (number : Nat) : Prop :=
  slots[number]? = some .wildcard ∧ .wildcard ∉ slots.drop (number + 1)

instance (slots : List Slot) (number : Nat) : Decidable (IsLastWildcard slots number) :=
  inferInstanceAs (Decidable (_ ∧ _))

/-- The text that the slot of a number takes: that of its value, and in the case of the last wildcard those of all
values left over, with a slash in front of each. -/
def taken? (slots : List Slot) (values : List Value) (number : Nat) (slot : Slot) : Option Letters :=
  values[number]?.map fun v =>
    escapeFor slot v ++ if IsLastWildcard slots number then leftoverText (values.drop slots.length) else []

/-- A piece in a link: a vacant slot stands there as its marker. -/
def writePiece (slots : List Slot) (values : List Value) : LinkPiece → Letters
  | .text s => s
  | .slot number slot => (taken? slots values number slot).getD slot.marker

/-- Why a slot does not take a value: a segment takes no empty one, and no slot one whose text has no encoding. -/
def refusal? (slot : Slot) (v : Value) : Option LinkError :=
  if !slot.isWildcard && v.shown.isEmpty then some (.emptyValue v)
  else if v.isEncodable then none
  else some (.unencodable v)

/-- Why the slots do not take the values of their numbers: the first of them that does not decides. -/
def slotRefusal? (slots : List Slot) (values : List Value) : Option LinkError :=
  (slots.zip values).findSome? fun p => refusal? p.1 p.2

/-- Why the values left over are not taken: the first of them if there is no wildcard for it, or else the first one whose
text has no encoding. -/
def leftoverRefusal? (slots : List Slot) (values : List Value) : Option LinkError :=
  if slots.any Slot.isWildcard then ((values.drop slots.length).find? fun v => !v.isEncodable).map .unencodable
  else values[slots.length]?.map .noSlot

/-! ## Values are bound by number -/

/-- Values are bound to the slots of the same numbers, up to one that is not taken. -/
theorem bindSlots_eq (slots : List Slot) (values : List Value) :
    bindSlots slots values =
      match slotRefusal? slots values with
      | some e => .error e
      | none => .ok ((slots.zip values).map fun p => escapeFor p.1 p.2, values.drop slots.length) := by
  induction slots generalizing values with
  | nil => rfl
  | cons slot slots ih =>
    cases values with
    | nil => rfl
    | cons v values =>
      rw [bindSlots, ih values, slotRefusal?, slotRefusal?, List.zip_cons_cons, List.findSome?_cons, refusal?, encodeFor]
      cases hempty : !slot.isWildcard && v.shown.isEmpty with
      | true => rfl
      | false =>
        cases hcode : v.isEncodable with
        | false => rfl
        | true => cases (slots.zip values).findSome? fun p => refusal? p.1 p.2 <;> rfl

theorem isWildcard_iff {slot : Slot} : slot.isWildcard = true ↔ slot = .wildcard := by
  cases slot <;> simp [Slot.isWildcard]

theorem any_isWildcard_iff {slots : List Slot} : slots.any Slot.isWildcard = true ↔ .wildcard ∈ slots := by
  simp [List.any_eq_true, isWildcard_iff]

theorem isLastWildcard_zero_iff {slot : Slot} {slots : List Slot} :
    IsLastWildcard (slot :: slots) 0 ↔ slot = .wildcard ∧ .wildcard ∉ slots := by
  simp [IsLastWildcard]

theorem isLastWildcard_succ_iff {slot : Slot} {slots : List Slot} {number : Nat} :
    IsLastWildcard (slot :: slots) (number + 1) ↔ IsLastWildcard slots number :=
  Iff.rfl

theorem IsLastWildcard.mem {slots : List Slot} {number : Nat} (h : IsLastWildcard slots number) : .wildcard ∈ slots :=
  List.mem_of_getElem? h.1

/-- **What is put behind the texts of slots goes to the last wildcard.** -/
theorem getElem?_extendLast {extra : Letters} {slots : List Slot} {texts texts' : List Letters}
    (hlength : texts.length = slots.length) (h : extendLast extra slots texts = some texts') (number : Nat) :
    texts'[number]? = texts[number]?.map (· ++ if IsLastWildcard slots number then extra else []) := by
  induction slots generalizing texts texts' number with
  | nil => cases h
  | cons slot slots ih =>
    cases texts with
    | nil => cases h
    | cons text texts =>
      have hlength := Nat.succ.inj hlength
      have hwild := (isSome_extendLast extra hlength).symm
      rw [extendLast] at h
      split at h
      · next more hmore =>
        -- There is a wildcard further on, so that this one, if it is one, is not the last.
        obtain rfl := Option.some.inj h
        rw [hmore, Option.isSome_some, any_isWildcard_iff] at hwild
        cases number with
        | zero =>
          rw [if_neg fun hlast => (isLastWildcard_zero_iff.mp hlast).2 hwild]
          simp
        | succ number => exact ih hlength hmore number
      · next hnone =>
        rw [hnone, Option.isSome_none, ← Bool.not_eq_true, any_isWildcard_iff] at hwild
        split at h
        · next hslot =>
          obtain rfl := Option.some.inj h
          cases number with
          | zero =>
            rw [if_pos (isLastWildcard_zero_iff.mpr ⟨isWildcard_iff.mp hslot, hwild⟩)]
            rfl
          | succ number =>
            rw [if_neg fun hlast => hwild (isLastWildcard_succ_iff.mp hlast).mem]
            simp
        · cases h

section Binding

variable {slots : List Slot} {values : List Value}

/-- A value that its slot does not take is not bound. -/
theorem bindValues_of_slotRefusal {e : LinkError} (h : slotRefusal? slots values = some e) :
    bindValues slots values = .error e := by
  rw [bindValues, bindSlots_eq, h]
  rfl

/-- Nor is a value left over that is not taken. -/
theorem bindValues_of_leftoverRefusal (hnone : slotRefusal? slots values = none) {e : LinkError}
    (h : leftoverRefusal? slots values = some e) : bindValues slots values = .error e := by
  have hmore : slots.length < values.length := by
    rw [leftoverRefusal?] at h
    split at h
    · obtain ⟨v, hv, -⟩ := Option.map_eq_some_iff.mp h
      have hlength := List.length_pos_of_mem (List.mem_of_find?_eq_some hv)
      rw [List.length_drop] at hlength
      omega
    · obtain ⟨v, hv, -⟩ := Option.map_eq_some_iff.mp h
      exact (List.getElem?_eq_some_iff.mp hv).1
  have hfull : ((slots.zip values).map fun p => escapeFor p.1 p.2).length = slots.length := by
    rw [List.length_map, List.length_zip]
    omega
  have hleft := List.drop_eq_getElem_cons hmore
  have hextend := isSome_extendLast (leftoverText (values.drop slots.length)) hfull
  rw [bindValues, bindSlots_eq, hnone]
  rw [leftoverRefusal?] at h
  rw [hleft] at h hextend ⊢
  split at h
  · next hwild =>
    -- There is a wildcard for what is left over, and so an encoding is missing.
    obtain ⟨v, hv, rfl⟩ := Option.map_eq_some_iff.mp h
    obtain ⟨texts, htexts⟩ := Option.isSome_iff_exists.mp (hextend.trans hwild)
    simp only [bind, Except.bind, htexts, checkEncodings, hv]
  · next hwild =>
    obtain ⟨v, hv, rfl⟩ := Option.map_eq_some_iff.mp h
    rw [Bool.eq_false_iff.mpr hwild, Option.isSome_eq_false_iff, Option.isNone_iff_eq_none] at hextend
    obtain ⟨-, rfl⟩ := List.getElem?_eq_some_iff.mp hv
    simp only [bind, Except.bind, hextend]
    rfl

/-- All other values are bound. -/
theorem exists_bindValues (hnone : slotRefusal? slots values = none) (h : leftoverRefusal? slots values = none) :
    ∃ texts, bindValues slots values = .ok texts := by
  have htaken : ∀ p ∈ slots.zip values, (p.1.isWildcard ∨ p.2.shown ≠ []) ∧ p.2.isEncodable := by
    intro p hp
    have hp := List.findSome?_eq_none_iff.mp hnone p hp
    rw [refusal?] at hp
    split at hp
    · cases hp
    · next hempty =>
      split at hp
      · next hcode =>
        refine ⟨?_, hcode⟩
        cases hwild : p.1.isWildcard with
        | true => exact .inl rfl
        | false => exact .inr (by simpa [hwild] using hempty)
      · cases hp
  refine exists_bindValues_iff.mpr ⟨fun p hp => (htaken p hp).1, ?_⟩
  rw [← forall_zip_and_drop_iff slots]
  rw [leftoverRefusal?] at h
  split at h
  · next hwild =>
    exact ⟨.inr hwild, fun p hp => (htaken p hp).2, by simpa using h⟩
  · have hle := List.getElem?_eq_none_iff.mp (Option.map_eq_none_iff.mp h)
    exact ⟨.inl hle, fun p hp => (htaken p hp).2, by rw [List.drop_eq_nil_of_le hle]; exact nofun⟩

/-- A slot refuses a value for its encoding only if it has none. -/
theorem isEncodable_of_refusal {slot : Slot} {v v' : Value} (h : refusal? slot v = some (.unencodable v')) :
    v' = v ∧ v.isEncodable = false := by
  rw [refusal?] at h
  split at h
  · cases h
  · split at h
    · cases h
    · next hcode =>
      cases h
      exact ⟨rfl, Bool.eq_false_iff.mpr hcode⟩

/-- **What is refused for its encoding is one of the values**, and has none. -/
theorem mem_of_link_eq_error {t : Template} {v : Value} (h : t.link values = .error (.unencodable v)) :
    v ∈ values ∧ v.isEncodable = false := by
  rw [link] at h
  cases hslot : slotRefusal? t.slots values with
  | some e =>
    rw [bindValues_of_slotRefusal hslot] at h
    obtain rfl : e = .unencodable v := Except.error.inj h
    obtain ⟨p, hp, hrefusal⟩ := List.exists_of_findSome?_eq_some hslot
    obtain ⟨rfl, hcode⟩ := isEncodable_of_refusal hrefusal
    exact ⟨(List.of_mem_zip hp).2, hcode⟩
  | none =>
    cases hleftover : leftoverRefusal? t.slots values with
    | some e =>
      rw [bindValues_of_leftoverRefusal hslot hleftover] at h
      obtain rfl : e = .unencodable v := Except.error.inj h
      rw [leftoverRefusal?] at hleftover
      split at hleftover
      · obtain ⟨v', hv, hsame⟩ := Option.map_eq_some_iff.mp hleftover
        cases hsame
        exact ⟨List.mem_of_mem_drop (List.mem_of_find?_eq_some hv), by simpa using List.find?_some hv⟩
      · obtain ⟨v', -, hsame⟩ := Option.map_eq_some_iff.mp hleftover
        cases hsame
    | none =>
      obtain ⟨texts, hbind⟩ := exists_bindValues hslot hleftover
      rw [hbind] at h
      -- With all values bound, no more than an incomplete path can be refused.
      simp only [bind, Except.bind] at h
      split at h <;> cases h

/-- **Every slot gets the text of its number**, if the values can be bound. -/
theorem getElem?_bindValues {texts : List Letters} (h : bindValues slots values = .ok texts) {number : Nat}
    {slot : Slot} (hslot : slots[number]? = some slot) : texts[number]? = taken? slots values number slot := by
  obtain ⟨first, leftover, hr, hleft⟩ := bindValues_eq_ok_iff.mp h
  obtain ⟨hlength, hdrop⟩ := length_bindSlots hr
  have hfirst : first[number]? = values[number]?.map (escapeFor slot) := by
    rw [bindSlots_eq] at hr
    split at hr
    · cases hr
    · cases hr
      rw [List.getElem?_map, List.zip_eq_zipWith, List.getElem?_zipWith, hslot]
      cases values[number]? <;> rfl
  rw [taken?, ← hdrop]
  rcases hleft with ⟨rfl, rfl⟩ | ⟨hne, he, -⟩
  · rw [hfirst]
    simp [leftoverText]
  · have hfull : first.length = slots.length := by
      rw [hdrop, ne_eq, List.drop_eq_nil_iff] at hne
      omega
    rw [getElem?_extendLast hfull he, hfirst, Option.map_map]
    rfl

end Binding

/-! ## Rendering leaves what is kept -/

/-- Without texts the slots outside all groups are left unbound, and no others. -/
theorem unbound_render_nil (t : Template) : (t.render []).unbound = t.outerSlots.length := by
  induction t with
  | nil => rfl
  | literal text rest ih => exact ih
  | segment name rest ih => exact congrArg Nat.succ ih
  | wildcard rest ih => exact congrArg Nat.succ ih
  | group inner rest ihInner ihRest =>
    have htexts : (inner.render []).texts = [] := by rw [texts_render, List.drop_nil]
    by_cases hd : (inner.render []).bound = 0 ∧ 0 < (inner.render []).unbound
    · rw [render_group_of_dropped hd, htexts]
      exact ihRest
    · -- A group that is kept has nothing unbound in it, since nothing is bound either.
      have hbound : (inner.render []).bound = 0 := by rw [bound_render, List.length_nil, Nat.min_zero]
      have hinner : (inner.render []).unbound = 0 := Nat.eq_zero_of_not_pos fun hpos => hd ⟨hbound, hpos⟩
      rw [render_group_of_kept hd, htexts, hinner, Nat.zero_add]
      exact ihRest

/-- A group is dropped if there are no texts for it and it has a slot directly in it. -/
theorem dropped_iff {t : Template} {texts : List Letters} :
    ((t.render texts).bound = 0 ∧ 0 < (t.render texts).unbound) ↔ texts = [] ∧ t.outerSlots ≠ [] := by
  constructor
  · intro h
    obtain rfl := eq_nil_of_dropped h
    rw [unbound_render_nil, List.length_pos_iff] at h
    exact ⟨rfl, h.2⟩
  · rintro ⟨rfl, h⟩
    rw [unbound_render_nil, List.length_pos_iff, bound_render, List.length_nil, Nat.min_zero]
    exact ⟨rfl, h⟩

/-- A slot directly in a template is one of its slots. -/
theorem outerSlots_sublist (t : Template) : t.outerSlots.Sublist t.slots := by
  induction t with
  | nil => exact .slnil
  | literal text rest ih => exact ih
  | segment name rest ih => exact ih.cons_cons _
  | wildcard rest ih => exact ih.cons_cons _
  | group inner rest ihInner ihRest => exact ihRest.trans (List.sublist_append_right _ _)

/-- With a slot directly in it a group is removed if its first slot stays vacant. -/
theorem isRemoved_iff {t : Template} {first k : Nat} : t.IsRemoved first k ↔ t.outerSlots ≠ [] ∧ k ≤ first := by
  refine and_congr_right fun hne => ?_
  have hlength : 0 < t.slots.length :=
    Nat.lt_of_lt_of_le (List.length_pos_iff.mpr hne) (outerSlots_sublist t).length_le
  constructor
  · intro h
    exact Nat.le_of_not_lt (h first (List.mem_range'_1.mpr ⟨Nat.le_refl _, by omega⟩))
  · intro h number hnumber
    obtain ⟨hle, -⟩ := List.mem_range'_1.mp hnumber
    omega

section Filling

variable {slots : List Slot} {values : List Value}

/-- A rendered template is what pieces are written as, and as many slots are left unbound as there are vacant ones among
the pieces. -/
structure Fills (slots : List Slot) (values : List Value) (pieces : List LinkPiece) (r : Rendered) : Prop where
  text : r.text = pieces.flatMap (writePiece slots values)
  unbound : r.unbound = pieces.countP (LinkPiece.isVacant values.length)

/-- A slot has a text exactly if there is a value of its number. -/
theorem taken?_eq_none_iff {number : Nat} {slot : Slot} :
    taken? slots values number slot = none ↔ values.length ≤ number := by
  rw [taken?, Option.map_eq_none_iff, List.getElem?_eq_none_iff]

/-- The texts hold what slots take whose numbers begin with `first`. -/
def Supplies (slots : List Slot) (values : List Value) (texts : List Letters) (own : List Slot) (first : Nat) :
    Prop :=
  ∀ number slot, own[number]? = some slot → texts[first + number]? = taken? slots values (first + number) slot

namespace Supplies

variable {texts : List Letters} {slot : Slot} {own more : List Slot} {first : Nat}

theorem head (h : Supplies slots values texts (slot :: own) first) : texts[first]? = taken? slots values first slot :=
  h 0 slot rfl

theorem tail (h : Supplies slots values texts (slot :: own) first) : Supplies slots values texts own (first + 1) := by
  intro number slot hslot
  rw [Nat.add_assoc, Nat.add_comm 1]
  exact h (number + 1) slot hslot

theorem left (h : Supplies slots values texts (own ++ more) first) : Supplies slots values texts own first := by
  intro number slot hslot
  exact h number slot ((List.getElem?_append_left (List.getElem?_eq_some_iff.mp hslot).1).trans hslot)

theorem right (h : Supplies slots values texts (own ++ more) first) :
    Supplies slots values texts more (first + own.length) := by
  intro number slot hslot
  rw [Nat.add_assoc]
  refine h (own.length + number) slot ?_
  rw [List.getElem?_append_right (Nat.le_add_right _ _), Nat.add_sub_cancel_left, hslot]

end Supplies

/-- A slot is filled in with the text of its number. -/
theorem Fills.slot {pieces : List LinkPiece} {texts : List Letters} {rest : List Letters → Rendered}
    {number : Nat} {slot : Slot} (htext : texts[number]? = taken? slots values number slot)
    (hrest : Fills slots values pieces (rest (texts.drop (number + 1)))) :
    Fills slots values (.slot number slot :: pieces) (.ofSlot slot (texts.drop number) rest) := by
  cases htaken : taken? slots values number slot with
  | some text =>
    have hvacant : ¬ values.length ≤ number := fun h => by
      rw [taken?_eq_none_iff.mpr h] at htaken
      cases htaken
    rw [htaken] at htext
    obtain ⟨hlt, htext⟩ := List.getElem?_eq_some_iff.mp htext
    rw [List.drop_eq_getElem_cons hlt, htext]
    constructor
    · rw [List.flatMap_cons, ← hrest.text, writePiece, htaken]
      rfl
    · rw [List.countP_cons_of_neg (by simpa [LinkPiece.isVacant] using hvacant), ← hrest.unbound]
      rfl
  | none =>
    have hvacant := taken?_eq_none_iff.mp htaken
    rw [htaken, List.getElem?_eq_none_iff] at htext
    rw [List.drop_eq_nil_of_le (Nat.le_succ_of_le htext)] at hrest
    rw [List.drop_eq_nil_of_le htext]
    constructor
    · rw [List.flatMap_cons, ← hrest.text, writePiece, htaken]
      rfl
    · rw [List.countP_cons_of_pos (by simpa [LinkPiece.isVacant] using hvacant), ← hrest.unbound]
      rfl

/-- A group is dropped if it is removed by the rule. -/
theorem isRemoved_iff_dropped {texts : List Letters} {inner : Template} {first : Nat}
    (htexts : Supplies slots values texts inner.slots first) :
    inner.IsRemoved first values.length ↔
      ((inner.render (texts.drop first)).bound = 0 ∧ 0 < (inner.render (texts.drop first)).unbound) := by
  rw [isRemoved_iff, dropped_iff, and_comm]
  refine and_congr_left fun hne => ?_
  -- The group has a first slot, which is vacant exactly if no texts are left.
  have hlength := (outerSlots_sublist inner).length_le
  obtain ⟨slot, more, hslots⟩ := List.exists_cons_of_ne_nil fun hnil : inner.slots = [] => by
    rw [hnil, List.length_nil, Nat.le_zero, List.length_eq_zero_iff] at hlength
    exact hne hlength
  rw [hslots] at htexts
  have hvacant : texts[first]? = none ↔ values.length ≤ first := by rw [htexts.head, taken?_eq_none_iff]
  rw [← hvacant, List.getElem?_eq_none_iff, List.drop_eq_nil_iff]

/-- **Rendering leaves the pieces that are kept**, if the texts are those that the slots take. -/
theorem fills_render {texts : List Letters} {t : Template} {first : Nat}
    (htexts : Supplies slots values texts t.slots first) :
    Fills slots values (t.kept values.length first) (t.render (texts.drop first)) := by
  induction t generalizing first with
  | nil => exact ⟨rfl, rfl⟩
  | literal text rest ih =>
    obtain ⟨htext, hunbound⟩ := ih htexts
    exact ⟨congrArg (text ++ ·) htext, hunbound⟩
  | segment name rest ih => exact .slot htexts.head (ih htexts.tail)
  | wildcard rest ih => exact .slot htexts.head (ih htexts.tail)
  | group inner rest ihInner ihRest =>
    have hinner := ihInner htexts.left
    have hrest := ihRest htexts.right
    have hremoved := isRemoved_iff_dropped htexts.left
    have hleft : (inner.render (texts.drop first)).texts = texts.drop (first + inner.slots.length) := by
      rw [texts_render, List.drop_drop]
    rw [kept]
    by_cases hd : (inner.render (texts.drop first)).bound = 0 ∧ 0 < (inner.render (texts.drop first)).unbound
    · rw [render_group_of_dropped hd, if_pos (hremoved.mpr hd), hleft]
      exact hrest
    · rw [render_group_of_kept hd, if_neg fun h => hd (hremoved.mp h), hleft]
      refine ⟨?_, ?_⟩
      · rw [List.flatMap_append, ← hinner.text, ← hrest.text]
      · rw [List.countP_append, ← hinner.unbound, ← hrest.unbound]

end Filling

/-! ## The rule of links -/

/-- **The rule of links.** What decides first is a value that its slot does not take: an empty one that meets a segment,
or one whose text has no encoding. Otherwise it is a value that is left over when there is no wildcard, or that has no
encoding when there is one. All other values are put into their slots, and the groups that are removed are left out; if
a slot stays vacant then, it stands as its marker in what is refused. -/
theorem link?_eq (t : Template) (values : List Value) :
    t.link? values =
      match slotRefusal? t.slots values, leftoverRefusal? t.slots values with
      | some e, _ => .error e.fault
      | none, some e => .error e.fault
      | none, none =>
        let pieces := t.kept values.length 0
        let path := pieces.flatMap (writePiece t.slots values)
        if pieces.any (LinkPiece.isVacant values.length) then .error (.declare .link ("incomplete link: " ++ path))
        else .ok path := by
  rw [link?, link]
  cases hslot : slotRefusal? t.slots values with
  | some e =>
    rw [bindValues_of_slotRefusal hslot]
    rfl
  | none =>
    cases hleftover : leftoverRefusal? t.slots values with
    | some e =>
      rw [bindValues_of_leftoverRefusal hslot hleftover]
      rfl
    | none =>
      obtain ⟨texts, hbind⟩ := exists_bindValues hslot hleftover
      obtain ⟨htext, hunbound⟩ : Fills t.slots values (t.kept values.length 0) (t.render texts) :=
        fills_render fun number slot hslot => by
          rw [Nat.zero_add]
          exact getElem?_bindValues hbind hslot
      rw [hbind]
      simp only [bind, Except.bind, htext, hunbound]
      by_cases hvacant : (t.kept values.length 0).any (LinkPiece.isVacant values.length) = true
      · rw [if_pos hvacant, if_neg]
        · rfl
        · rw [List.countP_eq_zero]
          obtain ⟨piece, hpiece, hv⟩ := List.any_eq_true.mp hvacant
          exact fun h => h piece hpiece hv
      · rw [if_neg hvacant, if_pos]
        · rfl
        · rw [List.countP_eq_zero]
          exact fun piece hpiece hv => hvacant (List.any_eq_true.mpr ⟨piece, hpiece, hv⟩)

/-- A value that holds half of a surrogate pair alone gives neither a path nor an error of links, though it is not empty,
no value is left over, and no slot stays vacant. -/
theorem link?_of_lone_half :
    let t := ofBalanced "/products/:name"
    let values : List Value := [.text [.half]]
    (∀ p ∈ t.slots.zip values, p.2.shown ≠ []) ∧ values.length = t.slots.length ∧
      ((t.kept values.length 0).any (LinkPiece.isVacant values.length)) = false ∧
      t.link? values = .error (.unencodable [.half]) ∧
      (∀ path, t.link? values ≠ .ok path) ∧ ∀ text, t.link? values ≠ .error (.declare .link text) := by
  have h : (ofBalanced "/products/:name").link? [.text [.half]] = .error (.unencodable [.half]) := rfl
  refine ⟨by decide, rfl, rfl, h, fun path => ?_, fun text => ?_⟩
  · rw [h]
    exact nofun
  · rw [h]
    exact fun he => FaultKind.noConfusion (congrArg Fault.kind (Except.error.inj he))

/-- A group without a slot of its own is kept, even if a group in it is removed, and so is one with too few values. -/
example :
    (ofBalanced "/:kind(/all(/:page))").kept 1 0 =
        [.text "/", .slot 0 (.segment "kind"), .text "/all"] ∧
      (ofBalanced "/(:year-:month)*").kept 1 0 =
        [.text "/", .slot 0 (.segment "year"), .text "-", .slot 1 (.segment "month"), .slot 2 .wildcard] := by
  decide

end Template

end HttpRouter
