import HttpRouter.Proofs.Matching

/-!
# Which match counts

A path can often be made by a template in several ways. A way (`Way`) says of every slot what it takes and of every
group whether it is present, and two ways are compared where they first differ, from left to right: a group is present
rather than absent, a segment takes more rather than less, and a wildcard takes less rather than more. The matcher finds
the way that comes before all others.

That has to be said of the front of a path, with an arbitrary test of what is left: the matcher of a group goes on to
what follows the group, so that a way through the group counts only if a way through the rest comes behind it.

* `le_of_longestCut`, `le_of_shortestCut`: the cuts are as long and as short as they can be;
* `first_of_captureThen`: what the matcher finds comes before every other way;
* `match?_priority`: the parameters of a match are those of the first way.
-/

namespace HttpRouter.Template

/-! ## Ways to match -/

/-- A way to match a template, from left to right. -/
inductive Way : Template → Type where
  | nil : Way nil
  | literal {text : Letters} {rest : Template} (next : Way rest) : Way (literal text rest)
  | segment {name : Letters} {rest : Template} (taken : Letters) (suits : (Slot.segment name).Takes taken)
    (next : Way rest) : Way (segment name rest)
  | wildcard {rest : Template} (taken : Letters) (next : Way rest) : Way (wildcard rest)
  | present {inner rest : Template} (inside : Way inner) (next : Way rest) : Way (group inner rest)
  | absent {inner rest : Template} (next : Way rest) : Way (group inner rest)

/-- What a way decides at a slot or a group. -/
inductive Choice where
  | segment (taken : Letters)
  | wildcard (taken : Letters)
  | group (present : Bool)
deriving DecidableEq, Repr

namespace Choice

/-- Whether a choice goes before another one in the same place. -/
def Precedes : Choice → Choice → Prop
  | segment taken, segment taken' => taken'.length < taken.length
  | wildcard taken, wildcard taken' => taken.length < taken'.length
  | group present, group present' => present = true ∧ present' = false
  | _, _ => False

/-- Whether choices go before others: one does where they first differ. -/
def Before (choices choices' : List Choice) : Prop :=
  ∃ same c c' more more', choices = same ++ c :: more ∧ choices' = same ++ c' :: more' ∧ c.Precedes c'

end Choice

namespace Way

/-- The text that is made in a way. -/
def text : {t : Template} → Way t → Letters
  | _, nil => []
  | .literal s _, literal next => s ++ next.text
  | _, segment taken _ next => taken ++ next.text
  | _, wildcard taken next => taken ++ next.text
  | _, present inside next => inside.text ++ next.text
  | _, absent next => next.text

/-- What the slots take. -/
def captures : {t : Template} → Way t → Captures
  | _, nil => []
  | _, literal next => next.captures
  | .segment name _, segment taken _ next => (name, taken) :: next.captures
  | _, wildcard taken next => (Slot.wildcardName, taken) :: next.captures
  | _, present inside next => inside.captures ++ next.captures
  | _, absent next => next.captures

/-- What is decided, from left to right. -/
def choices : {t : Template} → Way t → List Choice
  | _, nil => []
  | _, literal next => next.choices
  | _, segment taken _ next => .segment taken :: next.choices
  | _, wildcard taken next => .wildcard taken :: next.choices
  | _, present inside next => .group true :: (inside.choices ++ next.choices)
  | _, absent next => .group false :: next.choices

/-- The groups that are absent, although what stands around them is present. -/
def leftOut : {t : Template} → Way t → List Template
  | _, nil => []
  | _, literal next => next.leftOut
  | _, segment _ _ next => next.leftOut
  | _, wildcard _ next => next.leftOut
  | _, present inside next => inside.leftOut ++ next.leftOut
  | .group inner _, absent next => inner :: next.leftOut

/-- Whether a way goes before another one. -/
def Before {t : Template} (w w' : Way t) : Prop :=
  Choice.Before w.choices w'.choices

/-- Whether a way makes a text and goes before all other ways that make it. -/
def IsFirst {t : Template} (w : Way t) (s : Letters) : Prop :=
  w.text = s ∧ ∀ w' : Way t, w'.text = s → w' ≠ w → w.Before w'

/-- A way to match makes its text. -/
theorem spells {t : Template} (w : Way t) : t.Spells w.text w.captures := by
  induction w with
  | nil => exact .nil
  | literal next ih => exact .literal ih
  | segment taken suits next ih => exact .segment suits ih
  | wildcard taken next ih => exact .wildcard ih
  | present inside next ihInside ihNext => exact .present ihInside ihNext
  | absent next ih => exact .absent ih

end Way

/-! ## Comparing choices -/

namespace Choice

theorem Precedes.asymm {c c' : Choice} (h : c.Precedes c') : ¬ c'.Precedes c := by
  cases c <;> cases c' <;> simp_all [Precedes] <;> omega

section Before

variable {choices choices' more more' : List Choice}

theorem before_cons {c c' : Choice} (h : c.Precedes c') : Before (c :: more) (c' :: more') :=
  ⟨[], c, c', more, more', rfl, rfl, h⟩

/-- What is decided later does not matter. -/
theorem Before.append (h : Before choices choices') : Before (choices ++ more) (choices' ++ more') := by
  obtain ⟨same, c, c', rest, rest', rfl, rfl, hc⟩ := h
  exact ⟨same, c, c', rest ++ more, rest' ++ more', List.append_assoc .., List.append_assoc .., hc⟩

/-- What is decided alike before does not matter. -/
theorem Before.after (h : Before more more') (same : List Choice) : Before (same ++ more) (same ++ more') := by
  obtain ⟨same', c, c', rest, rest', rfl, rfl, hc⟩ := h
  exact ⟨same ++ same', c, c', rest, rest', (List.append_assoc ..).symm, (List.append_assoc ..).symm, hc⟩

theorem before_cons_cons {c : Choice} (h : Before more more') : Before (c :: more) (c :: more') :=
  h.after [c]

theorem Before.asymm (h : Before choices choices') : ¬ Before choices' choices := by
  obtain ⟨same, c, c', rest, rest', rfl, rfl, hc⟩ := h
  induction same with
  | nil =>
    rintro ⟨same', d', d, rest'', rest''', he', he, hd⟩
    cases same' with
    | nil =>
      obtain ⟨rfl, -⟩ := List.cons.inj he
      obtain ⟨rfl, -⟩ := List.cons.inj he'
      exact hc.asymm hd
    | cons a same' =>
      obtain ⟨rfl, -⟩ := List.cons.inj he
      obtain ⟨rfl, -⟩ := List.cons.inj he'
      exact hc.asymm hc
  | cons a same ih =>
    rintro ⟨same', d', d, rest'', rest''', he', he, hd⟩
    cases same' with
    | nil =>
      obtain ⟨rfl, -⟩ := List.cons.inj he
      obtain ⟨rfl, -⟩ := List.cons.inj he'
      exact hd.asymm hd
    | cons b same' => exact ih ⟨same', d', d, rest'', rest''', (List.cons.inj he').2, (List.cons.inj he).2, hd⟩

end Before

end Choice

/-! ## The cuts are the longest and the shortest -/

section Cuts

variable {α : Type} {fits : Letters → Option α} {s taken taken' rest' : Letters} {a : α}

/-- **A short cut is the shortest** of all that fit. -/
theorem le_of_shortestCut (h : shortestCut fits s = some (taken, a)) (hs : s = taken' ++ rest')
    (hfits : (fits rest').isSome) : taken.length ≤ taken'.length := by
  induction s generalizing taken taken' with
  | nil =>
    obtain ⟨b, -, heq⟩ := Option.map_eq_some_iff.mp h
    obtain ⟨rfl, rfl⟩ := Prod.mk.inj heq
    exact Nat.zero_le _
  | cons c s ih =>
    rw [shortestCut] at h
    split at h
    · obtain ⟨rfl, rfl⟩ := Prod.mk.inj (Option.some.inj h)
      exact Nat.zero_le _
    · next hnone =>
      obtain ⟨⟨taken, b⟩, hcut, heq⟩ := Option.map_eq_some_iff.mp h
      obtain ⟨rfl, rfl⟩ := Prod.mk.inj heq
      cases taken' with
      | nil =>
        obtain rfl : c :: s = rest' := hs
        rw [hnone] at hfits
        cases hfits
      | cons d taken' => exact Nat.succ_le_succ (ih hcut (List.cons.inj hs).2)

/-- **A long cut is the longest** of all that fit. -/
theorem le_of_longestCut {p : Letter → Bool} (h : longestCut p fits s = some (taken, a)) (hs : s = taken' ++ rest')
    (hp : ∀ c ∈ taken', p c = true) (hfits : (fits rest').isSome) : taken'.length ≤ taken.length := by
  induction s generalizing taken taken' with
  | nil =>
    obtain ⟨rfl, -⟩ := List.append_eq_nil_iff.mp hs.symm
    exact Nat.zero_le _
  | cons c s ih =>
    cases taken' with
    | nil => exact Nat.zero_le _
    | cons d taken' =>
      rw [List.cons_append] at hs
      obtain ⟨rfl, rfl⟩ := List.cons.inj hs
      obtain ⟨hc, hp⟩ := List.forall_mem_cons.mp hp
      rw [longestCut, if_pos hc] at h
      -- There is a cut behind the character, so that the longest one is found there.
      obtain ⟨⟨taken, b⟩, hcut⟩ := Option.isSome_iff_exists.mp (longestCut_isSome hp hfits)
      rw [hcut] at h
      obtain ⟨rfl, rfl⟩ := Prod.mk.inj (Option.some.inj h)
      exact Nat.succ_le_succ (ih hcut rfl hp)

theorem le_of_longestCut₁ {p : Letter → Bool} (h : longestCut₁ p fits s = some (taken, a)) (hs : s = taken' ++ rest')
    (hp : ∀ c ∈ taken', p c = true) (hfits : (fits rest').isSome) : taken'.length ≤ taken.length := by
  cases s with
  | nil => cases h
  | cons c s =>
    rw [longestCut₁] at h
    split at h
    · obtain ⟨⟨taken, b⟩, hcut, heq⟩ := Option.map_eq_some_iff.mp h
      obtain ⟨rfl, rfl⟩ := Prod.mk.inj heq
      cases taken' with
      | nil => exact Nat.zero_le _
      | cons d taken' =>
        exact Nat.succ_le_succ (le_of_longestCut hcut (List.cons.inj hs).2 (List.forall_mem_cons.mp hp).2 hfits)
    · cases h

end Cuts

/-! ## The matcher finds the first way -/

/-- There is a match wherever there is a way, if what is left fits. -/
theorem Way.captureThen_isSome {t : Template} (w : Way t) {fits : Letters → Option Captures} {back : Letters}
    (hfits : (fits back).isSome) : (captureThen t fits (w.text ++ back)).isSome :=
  Template.captureThen_isSome w.spells hfits

/-- **What the matcher finds is a way that goes before every other one** that leaves what fits. -/
theorem first_of_captureThen {t : Template} {fits : Letters → Option Captures} {s : Letters} {found : Captures}
    (h : captureThen t fits s = some found) :
    ∃ (w : Way t) (back : Letters) (others : Captures),
      s = w.text ++ back ∧ fits back = some others ∧ found = w.captures ++ others ∧
        ∀ (w' : Way t) (back' : Letters), s = w'.text ++ back' → (fits back').isSome → w' = w ∨ w.Before w' := by
  induction t generalizing fits s found with
  | nil =>
    refine ⟨.nil, s, found, rfl, h, rfl, fun w' back' _ _ => ?_⟩
    cases w'
    exact .inl rfl
  | literal text rest ih =>
    obtain ⟨after, ha, hnext⟩ := Option.bind_eq_some_iff.mp h
    obtain rfl := afterText_eq_some_iff.mp ha
    obtain ⟨w, back, others, rfl, hfits, rfl, hfirst⟩ := ih hnext
    refine ⟨.literal w, back, others, (List.append_assoc ..).symm, hfits, rfl, fun w' back' hs hfits' => ?_⟩
    cases w' with
    | literal next =>
      have hs : text ++ (w.text ++ back) = text ++ (next.text ++ back') := hs.trans (List.append_assoc ..)
      exact (hfirst next back' (List.append_cancel_left hs) hfits').imp (congrArg Way.literal) id
  | segment name rest ih =>
    obtain ⟨⟨taken, more⟩, hcut, rfl⟩ := Option.map_eq_some_iff.mp h
    obtain ⟨after, rfl, hnext, htaken⟩ := longestCut₁_eq_some hcut
    obtain ⟨w, back, others, rfl, hfits, rfl, hfirst⟩ := ih hnext
    refine ⟨.segment taken htaken w, back, others, (List.append_assoc ..).symm, hfits, rfl,
      fun w' back' hs hfits' => ?_⟩
    cases w' with
    | segment taken' suits next =>
      have hs : taken ++ (w.text ++ back) = taken' ++ (next.text ++ back') := hs.trans (List.append_assoc ..)
      have hle := le_of_longestCut₁ hcut hs suits.2 (next.captureThen_isSome hfits')
      rcases Nat.lt_or_eq_of_le hle with hlt | hlength
      · exact .inr (Choice.before_cons hlt)
      · obtain ⟨rfl, hback⟩ := List.append_inj hs hlength.symm
        exact (hfirst next back' hback hfits').imp (congrArg (Way.segment taken suits)) Choice.before_cons_cons
  | wildcard rest ih =>
    obtain ⟨⟨taken, more⟩, hcut, rfl⟩ := Option.map_eq_some_iff.mp h
    obtain ⟨after, rfl, hnext⟩ := shortestCut_eq_some hcut
    obtain ⟨w, back, others, rfl, hfits, rfl, hfirst⟩ := ih hnext
    refine ⟨.wildcard taken w, back, others, (List.append_assoc ..).symm, hfits, rfl, fun w' back' hs hfits' => ?_⟩
    cases w' with
    | wildcard taken' next =>
      have hs : taken ++ (w.text ++ back) = taken' ++ (next.text ++ back') := hs.trans (List.append_assoc ..)
      have hle := le_of_shortestCut hcut hs (next.captureThen_isSome hfits')
      rcases Nat.lt_or_eq_of_le hle with hlt | hlength
      · exact .inr (Choice.before_cons hlt)
      · obtain ⟨rfl, hback⟩ := List.append_inj hs hlength
        exact (hfirst next back' hback hfits').imp (congrArg (Way.wildcard taken)) Choice.before_cons_cons
  | group inner rest ihInner ihRest =>
    rcases Option.or_eq_some_iff.mp h with hpresent | ⟨hnone, habsent⟩
    · obtain ⟨inside, after, more, rfl, hnext, rfl, hfirstInside⟩ := ihInner hpresent
      obtain ⟨next, back, others, rfl, hfits, rfl, hfirst⟩ := ihRest hnext
      refine ⟨.present inside next, back, others, (List.append_assoc ..).symm, hfits, (List.append_assoc ..).symm,
        fun w' back' hs hfits' => ?_⟩
      cases w' with
      | present inside' next' =>
        have hs : inside.text ++ (next.text ++ back) = inside'.text ++ (next'.text ++ back') :=
          hs.trans (List.append_assoc ..)
        -- Where the ways differ inside the group, that decides; otherwise the same text is left behind it.
        rcases hfirstInside inside' _ hs (next'.captureThen_isSome hfits') with rfl | hbefore
        · exact (hfirst next' back' (List.append_cancel_left hs) hfits').imp (congrArg (Way.present inside'))
            fun hbefore => Choice.before_cons_cons (hbefore.after _)
        · exact .inr (Choice.before_cons_cons hbefore.append)
      | absent next' => exact .inr (Choice.before_cons ⟨rfl, rfl⟩)
    · obtain ⟨next, back, others, rfl, hfits, rfl, hfirst⟩ := ihRest habsent
      refine ⟨.absent next, back, others, rfl, hfits, rfl, fun w' back' hs hfits' => ?_⟩
      cases w' with
      | present inside' next' =>
        -- The group would have been found.
        have hs : next.text ++ back = inside'.text ++ (next'.text ++ back') := hs.trans (List.append_assoc ..)
        have hsome := inside'.captureThen_isSome (next'.captureThen_isSome hfits')
        rw [← hs, hnone] at hsome
        cases hsome
      | absent next' =>
        exact (hfirst next' back' hs hfits').imp (congrArg Way.absent) Choice.before_cons_cons

/-- What is found for a whole path are the captures of the first way to make it. -/
theorem first_of_capture? {t : Template} {path : Letters} {found : Captures} (h : t.capture? path = some found) :
    ∃ w : Way t, w.IsFirst path ∧ found = w.captures := by
  obtain ⟨w, back, others, rfl, hfits, rfl, hfirst⟩ := first_of_captureThen h
  cases back with
  | nil =>
    obtain rfl := Option.some.inj hfits
    rw [List.append_nil, List.append_nil] at *
    refine ⟨w, ⟨rfl, fun w' hw' hne => ?_⟩, rfl⟩
    exact (hfirst w' [] (by rw [hw', List.append_nil]) rfl).resolve_left hne
  | cons c back => cases hfits

/-- There is only one first way. -/
theorem Way.IsFirst.unique {t : Template} {w w' : Way t} {s : Letters} (h : w.IsFirst s) (h' : w'.IsFirst s) :
    w = w' :=
  Classical.byContradiction fun hne => (h.2 w' h'.1 (Ne.symm hne)).asymm (h'.2 w h.1 hne)

/-- If an absent group can make the empty text, a way goes before in which that group is present. -/
theorem Way.exists_before_of_leftOut {t inner : Template} (w : Way t) (h : inner ∈ w.leftOut) {v : Way inner}
    (hv : v.text = []) : ∃ w' : Way t, w'.text = w.text ∧ w'.Before w := by
  induction w with
  | nil => cases h
  | literal next ih =>
    obtain ⟨w', htext, hbefore⟩ := ih h
    exact ⟨.literal w', congrArg (_ ++ ·) htext, hbefore⟩
  | segment taken suits next ih =>
    obtain ⟨w', htext, hbefore⟩ := ih h
    exact ⟨.segment taken suits w', congrArg (taken ++ ·) htext, Choice.before_cons_cons hbefore⟩
  | wildcard taken next ih =>
    obtain ⟨w', htext, hbefore⟩ := ih h
    exact ⟨.wildcard taken w', congrArg (taken ++ ·) htext, Choice.before_cons_cons hbefore⟩
  | present inside next ihInside ihNext =>
    rcases List.mem_append.mp h with h | h
    · obtain ⟨w', htext, hbefore⟩ := ihInside h
      exact ⟨.present w' next, congrArg (· ++ next.text) htext, Choice.before_cons_cons hbefore.append⟩
    · obtain ⟨w', htext, hbefore⟩ := ihNext h
      exact ⟨.present inside w', congrArg (inside.text ++ ·) htext, Choice.before_cons_cons (hbefore.after _)⟩
  | absent next ih =>
    rcases List.mem_cons.mp h with rfl | h
    · exact ⟨.present v next, by rw [text, hv]; rfl, Choice.before_cons ⟨rfl, rfl⟩⟩
    · obtain ⟨w', htext, hbefore⟩ := ih h
      exact ⟨.absent w', htext, Choice.before_cons_cons hbefore⟩

/-- **The first way counts.** If there is a way to make a path by a template, the path is matched, and the parameters
are those of the way that goes before all others. No group that can make the empty text is absent in that way, and a
name gets the text, decoded, that was taken last under it. -/
theorem match?_priority (t : Template) (path : Letters) :
    (∀ w : Way t, w.text = path → (t.match? path).isSome) ∧
      (∀ params, t.match? path = some params ↔ ∃ w : Way t, w.IsFirst path ∧ params = paramsOf w.captures) ∧
      ∀ w : Way t, w.IsFirst path →
        (∀ inner ∈ w.leftOut, ∀ v : Way inner, v.text ≠ []) ∧
          ∀ name, (paramsOf w.captures).get? name =
            (w.captures.reverse.lookup name).map Text.Percent.decodeLetters := by
  have hsome : ∀ w : Way t, w.text = path → (t.match? path).isSome := fun w hw =>
    isSome_match?_of_spells (hw ▸ w.spells)
  have hfound : ∀ params, t.match? path = some params →
      ∃ w : Way t, w.IsFirst path ∧ params = paramsOf w.captures := by
    intro params h
    obtain ⟨found, hcapture, rfl⟩ := Option.map_eq_some_iff.mp h
    obtain ⟨w, hw, rfl⟩ := first_of_capture? hcapture
    exact ⟨w, hw, rfl⟩
  refine ⟨hsome, fun params => ⟨hfound params, ?_⟩, fun w hw => ⟨fun inner hinner v hv => ?_, get?_paramsOf _⟩⟩
  · rintro ⟨w, hw, rfl⟩
    obtain ⟨params, hparams⟩ := Option.isSome_iff_exists.mp (hsome w hw.1)
    obtain ⟨w', hw', rfl⟩ := hfound params hparams
    rw [hparams, hw.unique hw']
  · obtain ⟨w', htext, hbefore⟩ := w.exists_before_of_leftOut hinner hv
    have hne : w' ≠ w := fun he => (he ▸ hbefore).asymm (he ▸ hbefore)
    exact (hw.2 w' (htext.trans hw.1) hne).asymm hbefore

/-- The first segment takes all but what the second one needs, the first wildcard takes nothing, and a group that can
make the empty text is present. -/
example :
    (segment "a" (segment "b" nil)).match? "xyz" = some ([("a", "xy"), ("b", "z")] : Params) ∧
      (wildcard (group (wildcard nil) nil)).match? "x" = some ([("rest", "x")] : Params) ∧
      (group (wildcard nil) nil).match? "" = some ([("rest", "")] : Params) := by
  decide

end HttpRouter.Template
