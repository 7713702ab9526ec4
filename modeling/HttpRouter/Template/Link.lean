import HttpRouter.Fault
import HttpRouter.Template.Basic
import HttpRouter.Text.Blank
import HttpRouter.Text.Percent
import HttpRouter.Value

/-!
# Linking

A link is a path made from a template and values, which are bound to the slots from left to right. Values left over go
to the last wildcard, each behind a `/`. A group is dropped if it has slots and none of the slots in what is kept of it
got a value. Values are escaped so that the path matches the template again; a value whose text has no encoding cannot
be.

* `length_bindSlots`: as many slots get a value as there are values for, and the values behind these are left over.
-/

namespace HttpRouter

/-- Why values do not make a path. -/
inductive LinkError where
  /-- A segment cannot take an empty value. -/
  | emptyValue (v : Value)
  /-- There is no wildcard for the values left over, of which this is the first. -/
  | noSlot (v : Value)
  /-- Slots got no value: the path with their markers in it. -/
  | incomplete (path : Letters)
  /-- The text of a value has no encoding. -/
  | unencodable (v : Value)

/-- A link error as a fault. -/
def LinkError.fault : LinkError → Fault
  | emptyValue v => .declare .link ("cannot match var pattern for " ++ v.written)
  | noSlot v => .declare .link ("cannot match var pattern for " ++ v.shown)
  | incomplete path => .declare .link ("incomplete link: " ++ path)
  | unencodable v => .unencodable v.shown

namespace Template

/-! ## Escaping -/

/-- A text for a wildcard: everything is escaped but slashes. -/
def escapeRest (s : Letters) : Letters :=
  Text.Percent.encodeLetters ['/'] s

/-- A letter of a text for a segment: slashes and dots are escaped too. -/
def escapeSegmentLetter : Letter → Letters
  | .char c => if c = '.' then "%2E" else Text.ofChars (Text.Percent.encodeChar [] c)
  | .lone half => [.lone half]

/-- A text for a segment. -/
def escapeSegment (s : Letters) : Letters :=
  s.flatMap escapeSegmentLetter

/-- The text of a value, escaped for a slot. -/
def escapeFor (slot : Slot) (v : Value) : Letters :=
  if slot.isWildcard then escapeRest v.shown else escapeSegment v.shown

/-- A value as a slot takes it: its text is escaped by octets, and has to have an encoding for that. -/
def encodeFor (slot : Slot) (v : Value) : Except LinkError Letters :=
  if v.isEncodable then .ok (escapeFor slot v) else .error (.unencodable v)

/-! ## Binding -/

/-- Puts text behind what the last wildcard got, if there is a wildcard. -/
def extendLast (extra : Letters) : List Slot → List Letters → Option (List Letters)
  | slot :: slots, text :: texts =>
    match extendLast extra slots texts with
    | some texts => some (text :: texts)
    | none => if slot.isWildcard then some ((text ++ extra) :: texts) else none
  | _, _ => none

/-- The text that leftover values add to a wildcard. -/
def leftoverText (values : List Value) : Letters :=
  values.flatMap fun v => .char '/' :: escapeRest v.shown

/-- Whether the texts of all values have an encoding. -/
def checkEncodings (values : List Value) : Except LinkError Unit :=
  match values.find? fun v => !v.isEncodable with
  | some v => .error (.unencodable v)
  | none => .ok ()

/-- Binds values to slots, as far as both go: the texts of the slots that got one, and the values left over. -/
def bindSlots : List Slot → List Value → Except LinkError (List Letters × List Value)
  | slot :: slots, v :: values =>
    if !slot.isWildcard && v.shown.isEmpty then .error (.emptyValue v)
    else do
      let text ← encodeFor slot v
      let (texts, leftover) ← bindSlots slots values
      return (text :: texts, leftover)
  | _, leftover => .ok ([], leftover)

/-- **Values are bound from left to right**, as many as there are slots for. -/
theorem length_bindSlots {slots : List Slot} {values leftover : List Value} {texts : List Letters}
    (h : bindSlots slots values = .ok (texts, leftover)) :
    texts.length = min slots.length values.length ∧ leftover = values.drop slots.length := by
  induction slots generalizing values texts with
  | nil =>
    simp only [bindSlots, Except.ok.injEq, Prod.mk.injEq] at h
    obtain ⟨rfl, rfl⟩ := h
    simp
  | cons slot slots ih =>
    cases values with
    | nil =>
      simp only [bindSlots, Except.ok.injEq, Prod.mk.injEq] at h
      obtain ⟨rfl, rfl⟩ := h
      simp
    | cons v values =>
      rw [bindSlots] at h
      split at h
      · cases h
      · rcases he : encodeFor slot v with e | text
        · rw [he] at h
          cases h
        · rcases hr : bindSlots slots values with e | ⟨texts', leftover'⟩
          · rw [he, hr] at h
            cases h
          · rw [he, hr] at h
            cases h
            obtain ⟨hl, hd⟩ := ih hr
            exact ⟨by simp [hl], by simpa using hd⟩

/-- Binds all values: the texts of the slots that got one. -/
def bindValues (slots : List Slot) (values : List Value) : Except LinkError (List Letters) := do
  let (texts, leftover) ← bindSlots slots values
  match leftover with
  | [] => return texts
  | v :: _ =>
    match extendLast (leftoverText leftover) slots texts with
    | some texts => do
      checkEncodings leftover
      return texts
    | none => throw (.noSlot v)

/-! ## Rendering -/

/-- A rendered template: its text, how many slots of it got a value and how many did not, and the texts that were not
used up. -/
structure Rendered where
  text : Letters
  bound : Nat
  unbound : Nat
  texts : List Letters
deriving DecidableEq, Repr

/-- Renders a slot with the first of the texts, or else as its marker, in front of the rest. -/
def Rendered.ofSlot (slot : Slot) (texts : List Letters) (rest : List Letters → Rendered) : Rendered :=
  match texts with
  | text :: texts => let r := rest texts; { r with text := text ++ r.text, bound := r.bound + 1 }
  | [] => let r := rest []; { r with text := slot.marker ++ r.text, unbound := r.unbound + 1 }

/-- Renders a template with texts for its first slots. -/
def render : Template → List Letters → Rendered
  | nil, texts => ⟨[], 0, 0, texts⟩
  | literal text rest, texts => let r := render rest texts; { r with text := text ++ r.text }
  | segment name rest, texts => .ofSlot (.segment name) texts (render rest)
  | wildcard rest, texts => .ofSlot .wildcard texts (render rest)
  | group inner rest, texts =>
    let i := render inner texts
    let r := render rest i.texts
    if i.bound = 0 ∧ 0 < i.unbound then r
    else ⟨i.text ++ r.text, i.bound + r.bound, i.unbound + r.unbound, r.texts⟩

/-- Links values: the path with the values in their slots. -/
def link (t : Template) (values : List Value) : Except LinkError Letters := do
  let texts ← bindValues t.slots values
  let r := t.render texts
  if r.unbound = 0 then return r.text else throw (.incomplete r.text)

/-- Links values, an error being a fault. -/
def link? (t : Template) (values : List Value) : Except Fault Letters :=
  (t.link values).mapError LinkError.fault

end Template

end HttpRouter
