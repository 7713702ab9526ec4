import HttpRouter.Template.Matcher

/-!
# Matching is exact

What it means for a text to be made by a template is said here without any search (`Spells`): the literals stand as they
are, every slot takes a text that suits it, and every group is either left out or made like the rest. The matcher tries
the ways of doing that one after the other, and with every cut of the path it goes on to whatever comes next; so what
is proved about it is proved for an arbitrary test `fits` of the rest of the path.

* `spells_of_captureThen`: what the matcher finds is such a way, in front of a rest that fits;
* `captureThen_isSome`: if there is such a way, the matcher finds one;
* `match?_exact`: the two together, for whole paths, with the parameters that come of them.
-/

namespace HttpRouter

namespace Slot

/-- Whether a slot can take a text: a segment takes one or more letters other than `/` and `.`, a wildcard any. -/
def Takes : Slot → Letters → Prop
  | segment _, text => text ≠ [] ∧ ∀ c ∈ text, Template.isSegmentChar c = true
  | wildcard, _ => True

end Slot

namespace Template

/-! ## What a template makes -/

/-- `t.Spells s captures`: the text `s` can be made by the template `t` in such a way that its slots take the texts in
`captures`. A group that is left out takes nothing. -/
inductive Spells : Template → Letters → Captures → Prop where
  | nil : Spells nil [] []
  | literal {text : Letters} {rest : Template} {s : Letters} {captures : Captures} :
    Spells rest s captures → Spells (literal text rest) (text ++ s) captures
  | segment {name taken : Letters} {rest : Template} {s : Letters} {captures : Captures} :
    (Slot.segment name).Takes taken → Spells rest s captures →
      Spells (segment name rest) (taken ++ s) ((name, taken) :: captures)
  | wildcard {taken : Letters} {rest : Template} {s : Letters} {captures : Captures} :
    Spells rest s captures → Spells (wildcard rest) (taken ++ s) ((Slot.wildcardName, taken) :: captures)
  | present {inner rest : Template} {s s' : Letters} {captures captures' : Captures} :
    Spells inner s captures → Spells rest s' captures' → Spells (group inner rest) (s ++ s') (captures ++ captures')
  | absent {inner rest : Template} {s : Letters} {captures : Captures} :
    Spells rest s captures → Spells (group inner rest) s captures

section Inversion

variable {inner rest : Template} {text name s : Letters} {captures : Captures}

theorem spells_nil_iff : nil.Spells s captures ↔ s = [] ∧ captures = [] := by
  constructor
  · rintro ⟨⟩
    exact ⟨rfl, rfl⟩
  · rintro ⟨rfl, rfl⟩
    exact .nil

theorem spells_literal_iff : (literal text rest).Spells s captures ↔ ∃ s', s = text ++ s' ∧ rest.Spells s' captures := by
  constructor
  · rintro ⟨⟩
    exact ⟨_, rfl, ‹_›⟩
  · rintro ⟨s', rfl, h⟩
    exact .literal h

theorem spells_segment_iff : (segment name rest).Spells s captures ↔
    ∃ taken s' more, s = taken ++ s' ∧ captures = (name, taken) :: more ∧ (Slot.segment name).Takes taken ∧
      rest.Spells s' more := by
  constructor
  · rintro ⟨⟩
    exact ⟨_, _, _, rfl, rfl, ‹_›, ‹_›⟩
  · rintro ⟨taken, s', more, rfl, rfl, htaken, h⟩
    exact .segment htaken h

theorem spells_wildcard_iff : (wildcard rest).Spells s captures ↔
    ∃ taken s' more, s = taken ++ s' ∧ captures = (Slot.wildcardName, taken) :: more ∧ rest.Spells s' more := by
  constructor
  · rintro ⟨⟩
    exact ⟨_, _, _, rfl, rfl, ‹_›⟩
  · rintro ⟨taken, s', more, rfl, rfl, h⟩
    exact .wildcard h

theorem spells_group_iff : (group inner rest).Spells s captures ↔
    (∃ s₁ s₂ own more, s = s₁ ++ s₂ ∧ captures = own ++ more ∧ inner.Spells s₁ own ∧ rest.Spells s₂ more) ∨
      rest.Spells s captures := by
  constructor
  · rintro ⟨⟩
    · exact .inl ⟨_, _, _, _, rfl, rfl, ‹_›, ‹_›⟩
    · exact .inr ‹_›
  · rintro (⟨s₁, s₂, own, more, rfl, rfl, h₁, h₂⟩ | h)
    · exact .present h₁ h₂
    · exact .absent h

end Inversion

/-- The slots outside all groups, from left to right. -/
def outerSlots : Template → List Slot
  | nil => []
  | literal _ rest => outerSlots rest
  | segment name rest => .segment name :: outerSlots rest
  | wildcard rest => .wildcard :: outerSlots rest
  | group _ rest => outerSlots rest

/-- **A slot outside all groups takes part** in every way of making a text. -/
theorem Spells.name_mem {t : Template} {s : Letters} {captures : Captures} (h : t.Spells s captures) {slot : Slot}
    (hs : slot ∈ t.outerSlots) : slot.name ∈ captures.map (·.1) := by
  induction h with
  | nil => cases hs
  | literal _ ih => exact ih hs
  | segment _ _ ih =>
    rcases List.mem_cons.mp hs with rfl | hs
    · exact List.mem_cons_self
    · exact List.mem_cons_of_mem _ (ih hs)
  | wildcard _ ih =>
    rcases List.mem_cons.mp hs with rfl | hs
    · exact List.mem_cons_self
    · exact List.mem_cons_of_mem _ (ih hs)
  | present _ _ _ ih =>
    rw [List.map_append]
    exact List.mem_append_right _ (ih hs)
  | absent _ ih => exact ih hs

/-! ## The cuts find what there is to find -/

section Cuts

variable {α : Type} {fits : Letters → Option α}

/-- A short cut is found if there is any cut. -/
theorem shortestCut_isSome {taken rest : Letters} (h : (fits rest).isSome) :
    (shortestCut fits (taken ++ rest)).isSome := by
  induction taken with
  | nil =>
    cases rest with
    | nil => simpa [shortestCut] using h
    | cons c rest =>
      obtain ⟨a, ha⟩ := Option.isSome_iff_exists.mp h
      simp [shortestCut, ha]
  | cons c taken ih =>
    rw [List.cons_append, shortestCut]
    split
    · rfl
    · simpa using ih

/-- A long cut is found if there is any cut behind letters of the class. -/
theorem longestCut_isSome {p : Letter → Bool} {taken rest : Letters} (hp : ∀ c ∈ taken, p c = true)
    (h : (fits rest).isSome) : (longestCut p fits (taken ++ rest)).isSome := by
  induction taken with
  | nil =>
    cases rest with
    | nil => simpa [longestCut] using h
    | cons c rest =>
      -- The cut in front of the rest is tried last, but what is found before it will do as well.
      have here : ((fits (c :: rest)).map (([] : Letters), ·)).isSome := by simpa using h
      rw [List.nil_append, longestCut]
      split
      · split
        · rfl
        · exact here
      · exact here
  | cons c taken ih =>
    obtain ⟨hc, hp⟩ := List.forall_mem_cons.mp hp
    obtain ⟨cut, hcut⟩ := Option.isSome_iff_exists.mp (ih hp)
    rw [List.cons_append, longestCut, if_pos hc, hcut]
    rfl

theorem longestCut₁_isSome {p : Letter → Bool} {taken rest : Letters} (hne : taken ≠ []) (hp : ∀ c ∈ taken, p c = true)
    (h : (fits rest).isSome) : (longestCut₁ p fits (taken ++ rest)).isSome := by
  cases taken with
  | nil => exact absurd rfl hne
  | cons c taken =>
    obtain ⟨hc, hp⟩ := List.forall_mem_cons.mp hp
    rw [List.cons_append, longestCut₁, if_pos hc, Option.isSome_map]
    exact longestCut_isSome hp h

/-- A long cut behind at least one letter is a cut whose first part is not empty and of the class. -/
theorem longestCut₁_eq_some {p : Letter → Bool} {s taken : Letters} {a : α}
    (h : longestCut₁ p fits s = some (taken, a)) :
    ∃ rest, s = taken ++ rest ∧ fits rest = some a ∧ taken ≠ [] ∧ ∀ c ∈ taken, p c = true := by
  cases s with
  | nil => cases h
  | cons c s =>
    rw [longestCut₁] at h
    split at h
    · next hc =>
      obtain ⟨⟨taken', a'⟩, hcut, heq⟩ := Option.map_eq_some_iff.mp h
      obtain ⟨rfl, rfl⟩ := Prod.mk.inj heq
      obtain ⟨rest, rfl, hf, hp⟩ := longestCut_eq_some hcut
      exact ⟨rest, rfl, hf, List.cons_ne_nil _ _, List.forall_mem_cons.mpr ⟨hc, hp⟩⟩
    · cases h

end Cuts

/-! ## The matcher finds a way if there is one -/

/-- **What the matcher finds is a way to make the front of the path**, and the rest of the path fits. -/
theorem spells_of_captureThen {t : Template} {fits : Letters → Option Captures} {s : Letters}
    {captures : Captures} (h : captureThen t fits s = some captures) :
    ∃ front back own others,
      s = front ++ back ∧ t.Spells front own ∧ fits back = some others ∧ captures = own ++ others := by
  induction t generalizing fits s captures with
  | nil => exact ⟨[], s, [], captures, rfl, .nil, h, rfl⟩
  | literal text rest ih =>
    obtain ⟨after, ha, hnext⟩ := Option.bind_eq_some_iff.mp h
    obtain ⟨front, back, own, others, rfl, hs, hf, rfl⟩ := ih hnext
    obtain rfl := afterText_eq_some_iff.mp ha
    exact ⟨text ++ front, back, own, others, (List.append_assoc ..).symm, .literal hs, hf, rfl⟩
  | segment name rest ih =>
    obtain ⟨⟨taken, more⟩, hcut, rfl⟩ := Option.map_eq_some_iff.mp h
    -- The test of the cut is the matcher of the rest, so that the cut brings along what that one found.
    obtain ⟨after, rfl, hnext, htaken⟩ := longestCut₁_eq_some hcut
    obtain ⟨front, back, own, others, rfl, hs, hf, rfl⟩ := ih hnext
    exact ⟨taken ++ front, back, (name, taken) :: own, others, (List.append_assoc ..).symm, .segment htaken hs, hf, rfl⟩
  | wildcard rest ih =>
    obtain ⟨⟨taken, more⟩, hcut, rfl⟩ := Option.map_eq_some_iff.mp h
    obtain ⟨after, rfl, hnext⟩ := shortestCut_eq_some hcut
    obtain ⟨front, back, own, others, rfl, hs, hf, rfl⟩ := ih hnext
    exact ⟨taken ++ front, back, (Slot.wildcardName, taken) :: own, others, (List.append_assoc ..).symm, .wildcard hs,
      hf, rfl⟩
  | group inner rest ihInner ihRest =>
    rcases Option.or_eq_some_iff.mp h with hpresent | ⟨-, habsent⟩
    · -- The test that the group hands on is the matcher of what follows it.
      obtain ⟨front, after, own, more, rfl, hs, hnext, rfl⟩ := ihInner hpresent
      obtain ⟨front', back, own', others, rfl, hs', hf, rfl⟩ := ihRest hnext
      exact ⟨front ++ front', back, own ++ own', others, (List.append_assoc ..).symm, .present hs hs', hf,
        (List.append_assoc ..).symm⟩
    · obtain ⟨front, back, own, others, rfl, hs, hf, rfl⟩ := ihRest habsent
      exact ⟨front, back, own, others, rfl, .absent hs, hf, rfl⟩

/-- **The matcher finds a way if there is one**: a text that a template makes is matched in front of every rest that
fits. -/
theorem captureThen_isSome {t : Template} {front : Letters} {captures : Captures} (h : t.Spells front captures)
    {fits : Letters → Option Captures} {back : Letters} (hf : (fits back).isSome) :
    (captureThen t fits (front ++ back)).isSome := by
  induction h generalizing fits back with
  | nil => exact hf
  | literal _ ih =>
    rw [List.append_assoc, captureThen, afterText_eq_some_iff.mpr rfl]
    exact ih hf
  | segment htaken _ ih =>
    rw [List.append_assoc, captureThen, Option.isSome_map]
    exact longestCut₁_isSome htaken.1 htaken.2 (ih hf)
  | wildcard _ ih =>
    rw [List.append_assoc, captureThen, Option.isSome_map]
    exact shortestCut_isSome (ih hf)
  | present _ _ ihInner ihRest =>
    -- What follows the group finds a way, and so the group does in front of it.
    rw [List.append_assoc, captureThen, Option.isSome_or, ihInner (ihRest hf), Bool.true_or]
  | absent _ ih =>
    rw [captureThen, Option.isSome_or, ih hf, Bool.or_true]

/-- What is found for a whole path is a way to make it. -/
theorem spells_of_capture? {t : Template} {path : Letters} {captures : Captures}
    (h : t.capture? path = some captures) : t.Spells path captures := by
  obtain ⟨front, back, own, others, rfl, hs, hf, rfl⟩ := spells_of_captureThen h
  cases back with
  | nil =>
    obtain rfl := Option.some.inj hf
    rwa [List.append_nil, List.append_nil]
  | cons c back => cases hf

/-- A path can be matched if there is a way to make it. -/
theorem capture?_isSome_iff {t : Template} {path : Letters} :
    (t.capture? path).isSome ↔ ∃ captures, t.Spells path captures := by
  constructor
  · intro h
    obtain ⟨captures, h⟩ := Option.isSome_iff_exists.mp h
    exact ⟨captures, spells_of_capture? h⟩
  · rintro ⟨captures, h⟩
    have hend : (captureThen t atEnd (path ++ [])).isSome := captureThen_isSome h rfl
    rwa [List.append_nil] at hend

theorem isSome_match?_of_spells {t : Template} {path : Letters} {captures : Captures}
    (h : t.Spells path captures) : (t.match? path).isSome := by
  rw [match?, Option.isSome_map]
  exact capture?_isSome_iff.mpr ⟨_, h⟩

/-! ## Parameters -/

/-- **The last text of a name counts**, decoded on its own. -/
theorem get?_paramsOf (captures : Captures) (name : Letters) :
    (paramsOf captures).get? name =
      (captures.reverse.lookup name).map Text.Percent.decodeLetters := by
  rw [paramsOf, Fields.get?_ofPairs, ← List.map_reverse]
  induction captures.reverse with
  | nil => rfl
  | cons c rest ih =>
    rw [List.map_cons, List.lookup_cons, List.lookup_cons]
    split
    · rfl
    · exact ih

/-- **Matching is exact.** A template matches the paths that can be made by it, and no others. What it gives to the names
comes of one way to make the whole path: it is what the slots took there, each text decoded on its own, and the last one
where a name occurs more than once. Every slot outside all groups gives a value to its name. -/
theorem match?_exact (t : Template) (path : Letters) :
    ((t.match? path).isSome ↔ ∃ captures, t.Spells path captures) ∧
      ∀ params, t.match? path = some params →
        ∃ captures, t.Spells path captures ∧
          (params.map (·.1)).Nodup ∧
          (∀ name, params.get? name =
            (captures.reverse.lookup name).map Text.Percent.decodeLetters) ∧
          ∀ slot ∈ t.outerSlots, (params.get? slot.name).isSome := by
  refine ⟨?_, ?_⟩
  · rw [match?, Option.isSome_map]
    exact capture?_isSome_iff
  · intro params h
    obtain ⟨captures, hc, rfl⟩ := Option.map_eq_some_iff.mp h
    have hs := spells_of_capture? hc
    refine ⟨captures, hs, Fields.keys_ofPairs_nodup _, get?_paramsOf captures, ?_⟩
    intro slot hslot
    obtain ⟨c, hc, hname⟩ := List.mem_map.mp (hs.name_mem hslot)
    rw [get?_paramsOf, Option.isSome_map, List.lookup_isSome_iff]
    exact ⟨c, List.mem_reverse.mpr hc, beq_iff_eq.mpr hname.symm⟩

end Template

end HttpRouter
