import HttpRouter.Fields
import HttpRouter.Template.Basic
import HttpRouter.Text.Percent

/-!
# Matching paths

A template matches a path if the path is made of its literals, of some text for every slot, and of some or none of its
groups. Where that can be done in several ways, the first one counts, choices being made from left to right: a group is
present rather than absent, a segment takes as many letters as it can, a wildcard as few. The search goes on to the
next choice whenever the rest of the path does not fit.

* `afterText_eq_some_iff`, `shortestCut_eq_some`, `longestCut_eq_some`: whatever is taken from a path and whatever is
  left of it make the path.
-/

namespace HttpRouter

/-- What a path gives to the slots that took part in a match: names with decoded texts. -/
abbrev Params := Fields Letters Letters

namespace Template

/-- The raw texts that slots took, with the names of the slots, from left to right. -/
abbrev Captures := List (Letters × Letters)

/-- Cuts a text where the second part satisfies `fits`, trying short first parts first. Gives the first part and what
`fits` made of the second. -/
def shortestCut {α : Type} (fits : Letters → Option α) : Letters → Option (Letters × α)
  | [] => (fits []).map ([], ·)
  | c :: s =>
    match fits (c :: s) with
    | some a => some ([], a)
    | none => (shortestCut fits s).map fun (taken, a) => (c :: taken, a)

/-- Cuts a text after letters of a class, where the second part satisfies `fits`, trying long first parts first. -/
def longestCut {α : Type} (p : Letter → Bool) (fits : Letters → Option α) : Letters → Option (Letters × α)
  | [] => (fits []).map ([], ·)
  | c :: s =>
    if p c then
      match longestCut p fits s with
      | some (taken, a) => some (c :: taken, a)
      | none => (fits (c :: s)).map ([], ·)
    else (fits (c :: s)).map ([], ·)

/-- A short cut is a cut: the parts make the text, and the second part fits. -/
theorem shortestCut_eq_some {α : Type} {fits : Letters → Option α} {s taken : Letters} {a : α}
    (h : shortestCut fits s = some (taken, a)) : ∃ rest, s = taken ++ rest ∧ fits rest = some a := by
  induction s generalizing taken with
  | nil =>
    simp only [shortestCut, Option.map_eq_some_iff, Prod.mk.injEq] at h
    obtain ⟨b, hb, rfl, rfl⟩ := h
    exact ⟨[], rfl, hb⟩
  | cons c s ih =>
    unfold shortestCut at h
    split at h
    · next b hb =>
      simp only [Option.some.injEq, Prod.mk.injEq] at h
      obtain ⟨rfl, rfl⟩ := h
      exact ⟨c :: s, rfl, hb⟩
    · simp only [Option.map_eq_some_iff] at h
      obtain ⟨⟨t, b⟩, ht, h⟩ := h
      simp only [Prod.mk.injEq] at h
      obtain ⟨rfl, rfl⟩ := h
      obtain ⟨rest, rfl, hr⟩ := ih ht
      exact ⟨rest, rfl, hr⟩

/-- A long cut is a cut whose first part is of the class. -/
theorem longestCut_eq_some {α : Type} {p : Letter → Bool} {fits : Letters → Option α} {s taken : Letters} {a : α}
    (h : longestCut p fits s = some (taken, a)) :
    ∃ rest, s = taken ++ rest ∧ fits rest = some a ∧ ∀ c ∈ taken, p c = true := by
  induction s generalizing taken with
  | nil =>
    simp only [longestCut, Option.map_eq_some_iff, Prod.mk.injEq] at h
    obtain ⟨b, hb, rfl, rfl⟩ := h
    exact ⟨[], rfl, hb, by simp⟩
  | cons c s ih =>
    have here : ((fits (c :: s)).map (([] : Letters), ·)) = some (taken, a) →
        ∃ rest, c :: s = taken ++ rest ∧ fits rest = some a ∧ ∀ c ∈ taken, p c = true := by
      intro h
      simp only [Option.map_eq_some_iff, Prod.mk.injEq] at h
      obtain ⟨b, hb, rfl, rfl⟩ := h
      exact ⟨c :: s, rfl, hb, by simp⟩
    unfold longestCut at h
    split at h
    · next hp =>
      split at h
      · next t b ht =>
        simp only [Option.some.injEq, Prod.mk.injEq] at h
        obtain ⟨rfl, rfl⟩ := h
        obtain ⟨rest, rfl, hr, hall⟩ := ih ht
        exact ⟨rest, rfl, hr, by simpa [hp] using hall⟩
      · exact here h
    · exact here h

/-- As `longestCut`, with at least one letter in the first part. -/
def longestCut₁ {α : Type} (p : Letter → Bool) (fits : Letters → Option α) : Letters → Option (Letters × α)
  | [] => none
  | c :: s => if p c then (longestCut p fits s).map fun (taken, a) => (c :: taken, a) else none

/-- What is left of a text behind a given beginning. -/
def afterText : Letters → Letters → Option (Letters)
  | [], s => some s
  | _ :: _, [] => none
  | c :: text, d :: s => if c = d then afterText text s else none

theorem afterText_eq_some_iff {text s rest : Letters} : afterText text s = some rest ↔ s = text ++ rest := by
  induction text generalizing s with
  | nil => simp [afterText]
  | cons c text ih =>
    cases s with
    | nil => simp [afterText]
    | cons d s =>
      by_cases h : c = d
      · simp [afterText, h, ih]
      · simp [afterText, h, Ne.symm h]

/-- Matches a template at the front of a path such that the rest of the path satisfies `fits`, which gives the captures
to the right. -/
def captureThen : Template → (Letters → Option Captures) → Letters → Option Captures
  | nil, fits, s => fits s
  | literal text rest, fits, s => (afterText text s).bind (captureThen rest fits)
  | segment name rest, fits, s =>
    (longestCut₁ isSegmentChar (captureThen rest fits) s).map fun (taken, captures) => (name, taken) :: captures
  | wildcard rest, fits, s =>
    (shortestCut (captureThen rest fits) s).map fun (taken, captures) => (Slot.wildcardName, taken) :: captures
  | group inner rest, fits, s =>
    (captureThen inner (captureThen rest fits) s).or (captureThen rest fits s)

/-- Succeeds at the end of a path. -/
def atEnd : Letters → Option Captures
  | [] => some []
  | _ :: _ => none

/-- Matches a whole path. -/
def capture? (t : Template) (path : Letters) : Option Captures :=
  captureThen t atEnd path

/-- The parameters that captures stand for: each raw text is decoded on its own, and a repeated name keeps its place and
takes its last text. -/
def paramsOf (captures : Captures) : Params :=
  Fields.ofPairs (captures.map fun (name, raw) => (name, Text.Percent.decodeLetters raw))

/-- Matches a whole path and decodes what the slots took. -/
def match? (t : Template) (path : Letters) : Option Params :=
  (t.capture? path).map paramsOf

end Template

end HttpRouter
