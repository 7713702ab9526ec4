import HttpRouter.Text.Letter

/-!
# Route templates

A template describes the paths of a resource: literal text, segments such as `:name`, wildcards `*`, and groups in
parentheses that may be absent as a whole. Segments and wildcards are the *slots* of a template, numbered from left to
right; a value is bound to a slot by matching a path, and a path is linked by binding values to the slots.
-/

namespace HttpRouter

/-- A route template, from left to right. -/
inductive Template where
  | nil
  /-- Text that a path holds as it is. -/
  | literal (text : Letters) (rest : Template)
  /-- One or more letters other than `/` and `.`. -/
  | segment (name : Letters) (rest : Template)
  /-- Any text, as short as possible. -/
  | wildcard (rest : Template)
  /-- A part that may be absent. -/
  | group (inner rest : Template)
deriving DecidableEq, Repr, Inhabited

/-- What a value can be bound to. -/
inductive Slot where
  | segment (name : Letters)
  | wildcard
deriving DecidableEq, Repr

namespace Slot

/-- The name under which a wildcard is captured. -/
def wildcardName : Letters :=
  "rest"

/-- The name under which a slot is captured. -/
def name : Slot → Letters
  | segment name => name
  | wildcard => wildcardName

/-- How a slot is written in a template. -/
def marker : Slot → Letters
  | segment name => .char ':' :: name
  | wildcard => ['*']

/-- Whether a slot takes any text. -/
def isWildcard : Slot → Bool
  | segment _ => false
  | wildcard => true

end Slot

namespace Template

/-- Whether a letter may stand in the name of a segment. -/
def isNameChar (l : Letter) : Bool :=
  l.has fun c => ('a' ≤ c ∧ c ≤ 'z') ∨ ('A' ≤ c ∧ c ≤ 'Z') ∨ ('0' ≤ c ∧ c ≤ '9') ∨ c = '_'

/-- Whether a segment of a path may hold a letter. -/
def isSegmentChar (c : Letter) : Bool :=
  c != '/' && c != '.'

/-- The slots of a template, from left to right. -/
def slots : Template → List Slot
  | nil => []
  | literal _ rest => slots rest
  | segment name rest => .segment name :: slots rest
  | wildcard rest => .wildcard :: slots rest
  | group inner rest => slots inner ++ slots rest

/-- The names of the slots, from left to right. -/
def names (t : Template) : List (Letters) :=
  t.slots.map Slot.name

/-- Whether a template has a wildcard. -/
def hasWildcard (t : Template) : Bool :=
  t.slots.any Slot.isWildcard

/-- The written form of a template. -/
def write : Template → Letters
  | nil => []
  | literal text rest => text ++ write rest
  | segment name rest => Letter.char ':' :: name ++ write rest
  | wildcard rest => .char '*' :: write rest
  | group inner rest => Letter.char '(' :: write inner ++ Letter.char ')' :: write rest

end Template

end HttpRouter
