import HttpRouter.Proofs.Escaping
import HttpRouter.Proofs.Linking

/-!
# Links read back

Matching a link gives the values back that it was made of, as long as the template leaves no choice. It does not if it
is a *chain*: nothing follows a wildcard or a group, and whatever follows a segment starts with a character that no
segment can hold. Then a path can be made in one way only (`Spells.unique`), so that the matcher finds the very way that
the link was made in, and what is left is that escapes are undone (`decoded_bindValues`).

* `match?_link?`: a link matches its template with its own values.
-/

namespace HttpRouter

namespace Template

/-! ## Chains -/

/-- Whether a template starts with literal text, and that with a character that ends a segment. -/
def StartsWithDelimiter : Template → Prop
  | literal (c :: _) _ => isSegmentChar c = false
  | _ => False

/-- Whether a template may follow a segment: it is over, it goes on with a group, or it starts with a character that
ends the segment. -/
def EndsSegment : Template → Prop
  | nil => True
  | group _ _ => True
  | t => t.StartsWithDelimiter

/-- Whether a template is a chain: a group comes last and starts with a character that ends a segment, what follows a
segment ends it, and a wildcard comes last. -/
def IsChain : Template → Prop
  | nil => True
  | literal _ rest => rest.IsChain
  | segment _ rest => rest.EndsSegment ∧ rest.IsChain
  | wildcard rest => rest = nil
  | group inner rest => rest = nil ∧ inner.StartsWithDelimiter ∧ inner.IsChain

/-- A chain whose slots all have names of their own. -/
structure Chained (t : Template) : Prop where
  isChain : t.IsChain
  names_nodup : t.names.Nodup

instance : (t : Template) → Decidable t.StartsWithDelimiter
  | literal (c :: _) _ => inferInstanceAs (Decidable (isSegmentChar c = false))
  | literal [] _ => isFalse id
  | nil => isFalse id
  | segment _ _ => isFalse id
  | wildcard _ => isFalse id
  | group _ _ => isFalse id

instance : (t : Template) → Decidable t.EndsSegment
  | nil => isTrue trivial
  | group _ _ => isTrue trivial
  | literal text rest => inferInstanceAs (Decidable (literal text rest).StartsWithDelimiter)
  | segment _ _ => isFalse id
  | wildcard _ => isFalse id

instance decidableIsChain : (t : Template) → Decidable t.IsChain
  | nil => isTrue trivial
  | literal _ rest => decidableIsChain rest
  | segment _ rest =>
    have := decidableIsChain rest
    inferInstanceAs (Decidable (rest.EndsSegment ∧ rest.IsChain))
  | wildcard rest => inferInstanceAs (Decidable (rest = nil))
  | group inner rest =>
    have := decidableIsChain inner
    inferInstanceAs (Decidable (rest = nil ∧ inner.StartsWithDelimiter ∧ inner.IsChain))

instance (t : Template) : Decidable t.Chained :=
  decidable_of_iff (t.IsChain ∧ t.names.Nodup) ⟨fun h => ⟨h.1, h.2⟩, fun h => ⟨h.isChain, h.names_nodup⟩⟩

/-- A text that starts with a delimiter has nothing for a segment in front. -/
theorem Spells.takeWhile_of_startsWithDelimiter {t : Template} {s : Letters} {captures : Captures}
    (ht : t.StartsWithDelimiter) (h : t.Spells s captures) : s ≠ [] ∧ s.takeWhile isSegmentChar = [] := by
  cases h with
  | @literal text rest s captures h =>
    cases text with
    | nil => cases ht
    | cons c text =>
      have hc : isSegmentChar c = false := ht
      exact ⟨List.cons_ne_nil _ _, by rw [List.cons_append, List.takeWhile_cons, hc]; rfl⟩
  | nil => cases ht
  | segment _ _ => cases ht
  | wildcard _ => cases ht
  | present _ _ => cases ht
  | absent _ => cases ht

/-- What may follow a segment has nothing for that segment in front. -/
theorem Spells.takeWhile_of_endsSegment {t : Template} {s : Letters} {captures : Captures} (hc : t.IsChain)
    (ht : t.EndsSegment) (h : t.Spells s captures) : s.takeWhile isSegmentChar = [] := by
  cases t with
  | nil =>
    obtain ⟨rfl, -⟩ := spells_nil_iff.mp h
    rfl
  | literal text rest => exact (h.takeWhile_of_startsWithDelimiter ht).2
  | segment name rest => exact False.elim ht
  | wildcard rest => exact False.elim ht
  | group inner rest =>
    obtain ⟨rfl, hinner, -⟩ := hc
    rcases spells_group_iff.mp h with ⟨s₁, s₂, own, more, rfl, -, h₁, h₂⟩ | h
    · obtain ⟨rfl, -⟩ := spells_nil_iff.mp h₂
      rw [List.append_nil]
      exact (h₁.takeWhile_of_startsWithDelimiter hinner).2
    · obtain ⟨rfl, -⟩ := spells_nil_iff.mp h
      rfl

/-- **A chain leaves no choice**: a path can be made by it in one way only. -/
theorem Spells.unique {t : Template} (ht : t.IsChain) {s : Letters} {captures captures' : Captures}
    (h : t.Spells s captures) (h' : t.Spells s captures') : captures = captures' := by
  induction t generalizing s captures captures' with
  | nil => rw [(spells_nil_iff.mp h).2, (spells_nil_iff.mp h').2]
  | literal text rest ih =>
    -- The rest is determined by the path, since the literal is.
    obtain ⟨s₁, rfl, h₁⟩ := spells_literal_iff.mp h
    obtain ⟨s₂, heq, h₂⟩ := spells_literal_iff.mp h'
    obtain rfl := List.append_cancel_left heq
    exact ih ht h₁ h₂
  | segment name rest ih =>
    obtain ⟨hends, hrest⟩ := ht
    obtain ⟨taken, s₁, more, rfl, rfl, htaken, h₁⟩ := spells_segment_iff.mp h
    obtain ⟨taken', s₂, more', heq, rfl, htaken', h₂⟩ := spells_segment_iff.mp h'
    -- Both texts of the segment are all the characters in front that a segment can hold.
    have hfront : taken = taken' := by
      have hwhile := congrArg (List.takeWhile isSegmentChar) heq
      rw [List.takeWhile_append_of_pos htaken.2, List.takeWhile_append_of_pos htaken'.2,
        h₁.takeWhile_of_endsSegment hrest hends, h₂.takeWhile_of_endsSegment hrest hends, List.append_nil,
        List.append_nil] at hwhile
      exact hwhile
    subst hfront
    obtain rfl := List.append_cancel_left heq
    rw [ih hrest h₁ h₂]
  | wildcard rest ih =>
    obtain rfl : rest = .nil := ht
    obtain ⟨taken, s₁, more, rfl, rfl, h₁⟩ := spells_wildcard_iff.mp h
    obtain ⟨taken', s₂, more', heq, rfl, h₂⟩ := spells_wildcard_iff.mp h'
    obtain ⟨rfl, rfl⟩ := spells_nil_iff.mp h₁
    obtain ⟨rfl, rfl⟩ := spells_nil_iff.mp h₂
    rw [List.append_cancel_right heq]
  | group inner rest ihInner ihRest =>
    obtain ⟨rfl, hstarts, hinner⟩ := ht
    rcases spells_group_iff.mp h with ⟨s₁, s₂, own, more, rfl, rfl, h₁, h₂⟩ | h₀
    · obtain ⟨rfl, rfl⟩ := spells_nil_iff.mp h₂
      rcases spells_group_iff.mp h' with ⟨s₁', s₂', own', more', heq, rfl, h₁', h₂'⟩ | h₀'
      · obtain ⟨rfl, rfl⟩ := spells_nil_iff.mp h₂'
        obtain rfl := List.append_cancel_right heq
        rw [ihInner hinner h₁ h₁']
      · -- A group that is present does not leave the path empty.
        obtain ⟨hnil, -⟩ := spells_nil_iff.mp h₀'
        exact absurd (List.append_eq_nil_iff.mp hnil).1 (h₁.takeWhile_of_startsWithDelimiter hstarts).1
    · obtain ⟨rfl, rfl⟩ := spells_nil_iff.mp h₀
      rcases spells_group_iff.mp h' with ⟨s₁', s₂', own', more', heq, rfl, h₁', -⟩ | h₀'
      · exact absurd (List.append_eq_nil_iff.mp heq.symm).1 (h₁'.takeWhile_of_startsWithDelimiter hstarts).1
      · exact (spells_nil_iff.mp h₀').2.symm

/-- **Only the last slot of a chain is a wildcard.** -/
theorem IsChain.wildcard_last {t : Template} (ht : t.IsChain) {before after : List Slot}
    (h : t.slots = before ++ .wildcard :: after) : after = [] := by
  induction t generalizing before with
  | nil => simp [slots] at h
  | literal text rest ih => exact ih ht h
  | segment name rest ih =>
    cases before with
    | nil => cases h
    | cons slot before => exact ih ht.2 (List.cons.inj h).2
  | wildcard rest ih =>
    obtain rfl : rest = .nil := ht
    cases before with
    | nil => exact (List.cons.inj h).2.symm
    | cons slot before => simp [slots] at h
  | group inner rest ihInner ihRest =>
    obtain ⟨rfl, -, hinner⟩ := ht
    rw [slots, slots, List.append_nil] at h
    exact ihInner hinner h

/-! ## Escapes are undone -/

/-- A letter that is escaped for a segment is read as that letter, in front of whatever follows it. -/
theorem decodeLetters_escapeSegmentLetter (l : Letter) (rest : Letters) :
    Text.Percent.decodeLetters (escapeSegmentLetter l ++ rest) = l :: Text.Percent.decodeLetters rest := by
  cases l with
  | lone half => rfl
  | char c =>
    rw [escapeSegmentLetter]
    split
    · next hdot =>
      subst hdot
      exact Text.Percent.decodeLetters_ofChars_append (Text.Percent.decodeFrom_escaped '.') rest
    · exact Text.Percent.decodeLetters_ofChars_append (Text.Percent.decodeFrom_encodeChar (by simp) c) rest

/-- A text that is escaped for a segment is read as that text, in front of whatever follows it. -/
theorem decodeLetters_escapeSegment_append (s rest : Letters) :
    Text.Percent.decodeLetters (escapeSegment s ++ rest) = s ++ Text.Percent.decodeLetters rest := by
  induction s with
  | nil => rfl
  | cons l s ih =>
    rw [escapeSegment, List.flatMap_cons, List.append_assoc, decodeLetters_escapeSegmentLetter]
    exact congrArg (l :: ·) ih

theorem decodeLetters_escapeSegment (s : Letters) : Text.Percent.decodeLetters (escapeSegment s) = s := by
  have h := decodeLetters_escapeSegment_append s []
  rw [List.append_nil] at h
  exact h.trans (List.append_nil s)

/-- A text that is escaped for a wildcard is read back, and so are the values behind it. -/
theorem decodeLetters_escapeRest (s : Letters) (values : List Value) :
    Text.Percent.decodeLetters (escapeRest s ++ leftoverText values) =
      Text.joinWith [.char '/'] (s :: values.map Value.shown) := by
  have hsafe : ∀ c ∈ ['/'], c.toNat < 0x80 ∧ c ≠ '%' := by
    intro c hc
    obtain rfl := List.mem_singleton.mp hc
    decide
  induction values generalizing s with
  | nil =>
    rw [escapeRest, Text.Percent.decodeLetters_encodeLetters hsafe]
    exact List.append_nil s
  | cons v values ih =>
    rw [escapeRest, Text.Percent.decodeLetters_encodeLetters hsafe, leftoverText, List.flatMap_cons, List.cons_append,
      Text.Percent.decodeLetters_plain (by decide) (by decide)]
    show s ++ .char '/' :: Text.Percent.decodeLetters (escapeRest v.shown ++ leftoverText values) = _
    rw [ih]
    simp [Text.joinWith]

end Template

/-- The text that a slot takes of its value and of the values left over: a wildcard takes them all, with slashes between
them. -/
def Slot.textOf (slot : Slot) (v : Value) (leftover : List Value) : Letters :=
  if slot.isWildcard then Text.joinWith [.char '/'] ((v :: leftover).map Value.shown) else v.shown

namespace Template

/-- A capture as a parameter. -/
def decoded (c : Letters × Letters) : Letters × Letters :=
  (c.1, Text.Percent.decodeLetters c.2)

/-- Values for a segment and more: the segment takes the first one, and the others are bound as if it were not there. -/
theorem bindValues_segment {name : Letters} {slots : List Slot} {v : Value} {values : List Value}
    {texts : List Letters} (h : bindValues (.segment name :: slots) (v :: values) = .ok texts) :
    ∃ texts', bindValues slots values = .ok texts' ∧ texts = escapeSegment v.shown :: texts' := by
  obtain ⟨first, leftover, hb, hleft⟩ := bindValues_eq_ok_iff.mp h
  obtain ⟨-, -, texts', hr, rfl⟩ := bindSlots_cons_eq_ok hb
  rcases hleft with ⟨rfl, rfl⟩ | ⟨hne, he, hcode⟩
  · exact ⟨texts', bindValues_eq_ok_iff.mpr ⟨_, _, hr, .inl ⟨rfl, rfl⟩⟩, rfl⟩
  · rw [extendLast] at he
    split at he
    · next more hmore =>
      obtain rfl := Option.some.inj he
      exact ⟨more, bindValues_eq_ok_iff.mpr ⟨_, _, hr, .inr ⟨hne, hmore, hcode⟩⟩, rfl⟩
    · cases he

/-- Values for a wildcard at the end: it takes them all. -/
theorem bindValues_wildcard {v : Value} {values : List Value} {texts : List Letters}
    (h : bindValues [.wildcard] (v :: values) = .ok texts) :
    texts = [escapeRest v.shown ++ leftoverText values] := by
  obtain ⟨first, leftover, hb, hleft⟩ := bindValues_eq_ok_iff.mp h
  obtain ⟨-, -, texts', hr, rfl⟩ := bindSlots_cons_eq_ok hb
  obtain ⟨rfl, rfl⟩ := Prod.mk.inj (Except.ok.inj hr)
  rcases hleft with ⟨rfl, rfl⟩ | ⟨-, he, -⟩
  · simp [leftoverText, escapeFor, Slot.isWildcard]
  · exact (Option.some.inj he).symm

/-- **What was bound reads back as the values**, if only the last slot is a wildcard. -/
theorem decoded_bindValues {slots : List Slot} {values : List Value} {texts : List Letters}
    (hw : ∀ before after, slots = before ++ .wildcard :: after → after = [])
    (h : bindValues slots values = .ok texts) :
    (capturesOf slots texts).map decoded =
      (slots.zip values).map fun p => (p.1.name, p.1.textOf p.2 (values.drop slots.length)) := by
  induction slots generalizing values texts with
  | nil => rfl
  | cons slot slots ih =>
    cases values with
    | nil =>
      cases h
      rfl
    | cons v values =>
      cases slot with
      | segment name =>
        obtain ⟨texts, hr, rfl⟩ := bindValues_segment h
        have hlast : ∀ before after, slots = before ++ .wildcard :: after → after = [] :=
          fun before after e => hw (.segment name :: before) after (congrArg _ e)
        have hhead : decoded (name, escapeSegment v.shown) = (name, v.shown) := by
          rw [decoded, decodeLetters_escapeSegment]
        show decoded (name, escapeSegment v.shown) :: (capturesOf slots texts).map decoded = _
        rw [hhead, ih hlast hr]
        rfl
      | wildcard =>
        -- It is the last slot, so that it takes the values left over.
        obtain rfl := hw [] slots rfl
        obtain rfl := bindValues_wildcard h
        show [decoded (Slot.wildcardName, escapeRest v.shown ++ leftoverText values)] = _
        rw [decoded, decodeLetters_escapeRest]
        rfl

/-! ## The round trip -/

theorem map_fst_zip_sublist {α β : Type} (as : List α) (bs : List β) : ((as.zip bs).map (·.1)).Sublist as := by
  induction as generalizing bs with
  | nil => exact List.Sublist.refl []
  | cons a as ih =>
    cases bs with
    | nil => exact List.nil_sublist _
    | cons b bs => exact (ih bs).cons_cons a

/-- **A link reads back.** If a template is a chain and links values, it matches the link, and what it gives to the
names is what the link was made of: the name of every slot that has a value goes with the text of that value, a wildcard
with the texts of its own value and of all that are left over, and there are no other names. -/
theorem match?_link? {t : Template} (ht : t.Chained) {values : List Value} {path : Letters}
    (h : t.link? values = .ok path) :
    t.match? path = some ((t.slots.zip values).map fun p =>
      (p.1.name, p.1.textOf p.2 (values.drop t.slots.length))) := by
  obtain ⟨texts, hb, hs⟩ := spells_link (link?_eq_ok h)
  obtain ⟨captures, hc⟩ := Option.isSome_iff_exists.mp (capture?_isSome_iff.mpr ⟨_, hs⟩)
  -- The matcher may search as it likes: there is only the way in which the link was made.
  obtain rfl := (spells_of_capture? hc).unique ht.isChain hs
  -- No name is given twice, so that no value covers another one.
  have hkeys : (((t.slots.zip values).map fun p =>
      (p.1.name, p.1.textOf p.2 (values.drop t.slots.length))).map (·.1)).Nodup := by
    have hsub := (map_fst_zip_sublist t.slots values).map Slot.name
    rw [List.map_map] at hsub ⊢
    exact ht.names_nodup.sublist hsub
  rw [match?, hc, Option.map_some, paramsOf]
  show some (Fields.ofPairs ((capturesOf t.slots texts).map decoded)) = _
  rw [decoded_bindValues (fun _ _ e => ht.isChain.wildcard_last e) hb, Fields.ofPairs_of_nodup hkeys]

/-- Dots, blanks and letters beyond ASCII come back, and a wildcard takes what is left over. -/
theorem match?_link?_files :
    (ofBalanced "/files/:id(/*)").Chained ∧
      (ofBalanced "/files/:id(/*)").link? [.text "a.b", .text "x y", .text "é/z"] =
        .ok "/files/a%2Eb/x%20y/%C3%A9/z" ∧
      (ofBalanced "/files/:id(/*)").match? "/files/a%2Eb/x%20y/%C3%A9/z" =
        some ([("id", "a.b"), ("rest", "x y/é/z")] : Params) := by
  have ht : (ofBalanced "/files/:id(/*)").Chained := by decide
  have h : (ofBalanced "/files/:id(/*)").link? [.text "a.b", .text "x y", .text "é/z"] =
      .ok "/files/a%2Eb/x%20y/%C3%A9/z" := rfl
  exact ⟨ht, h, match?_link? ht h⟩

end Template

end HttpRouter
