import HttpRouter.Fault
import HttpRouter.Template.Basic

/-!
# Reading templates

A text is a template if its parentheses balance. It is read from the right: each character is put in front of the
template to the right of it, a closing parenthesis sets that template aside, and an opening one makes the template read
since then a group in front of it. A colon takes the name characters behind it as the name of a segment; a colon without
any is text like every other character.
-/

namespace HttpRouter.Template

/-! ## Balance -/

/-- Why a text is no template. -/
inductive Imbalance where
  /-- A closing parenthesis, at this position, that closes nothing. -/
  | unopened (position : Nat)
  /-- An opening parenthesis that is never closed. -/
  | unclosed
deriving DecidableEq, Repr

/-- Looks for an imbalance in the rest of a text, from a position on at which `depth` groups are open. -/
def imbalanceFrom (position depth : Nat) : Letters → Option Imbalance
  | [] => if depth = 0 then none else some .unclosed
  | c :: rest =>
    if c = '(' then imbalanceFrom (position + 1) (depth + 1) rest
    else if c = ')' then
      match depth with
      | 0 => some (.unopened position)
      | depth + 1 => imbalanceFrom (position + 1) depth rest
    else imbalanceFrom (position + 1) depth rest

section Balance

variable {position depth : Nat} {rest : Letters}

theorem imbalanceFrom_opening :
    imbalanceFrom position depth ('(' :: rest) = imbalanceFrom (position + 1) (depth + 1) rest := by
  cases depth <;> rfl

theorem imbalanceFrom_unopened : imbalanceFrom position 0 (')' :: rest) = some (.unopened position) := rfl

theorem imbalanceFrom_closing :
    imbalanceFrom position (depth + 1) (')' :: rest) = imbalanceFrom (position + 1) depth rest := rfl

theorem imbalanceFrom_plain {c : Letter} (hopen : c ≠ '(') (hclose : c ≠ ')') :
    imbalanceFrom position depth (c :: rest) = imbalanceFrom (position + 1) depth rest := by
  cases depth <;> simp [imbalanceFrom, hopen, hclose]

end Balance

/-- The imbalance of a text: the first closing parenthesis without a partner, or else one that is left open. -/
def imbalance? (s : Letters) : Option Imbalance :=
  imbalanceFrom 0 0 s

/-! ## Reading -/

/-- Literal text in front of a template that starts with none. -/
def withText (text : Letters) (t : Template) : Template :=
  if text.isEmpty then t else literal text t

/-- A character in front of a template, part of its text if it starts with some. -/
def cons (c : Letter) : Template → Template
  | literal text rest => literal (c :: text) rest
  | t => literal [c] t

/-- A colon in front of a template: it starts a segment if name characters follow. -/
def consColon : Template → Template
  | literal text rest =>
    let name := text.takeWhile isNameChar
    if name.isEmpty then literal (':' :: text) rest else segment name (withText (text.dropWhile isNameChar) rest)
  | t => literal [':'] t

/-- What has been read from the right: the template of the innermost open group, and the templates to the right of the
open groups. -/
structure Reading where
  current : Template
  outer : List Template
deriving DecidableEq, Repr

/-- Reads one more character to the left. -/
def Reading.step (c : Letter) (r : Reading) : Reading :=
  if c = ')' then ⟨nil, r.current :: r.outer⟩
  else if c = '(' then
    match r.outer with
    | [] => ⟨group r.current nil, []⟩
    | after :: outer => ⟨group r.current after, outer⟩
  else if c = '*' then { r with current := wildcard r.current }
  else if c = ':' then { r with current := consColon r.current }
  else { r with current := cons c r.current }

/-- The template of a balanced text. -/
def ofBalanced (s : Letters) : Template :=
  (s.foldr Reading.step ⟨nil, []⟩).current

/-- Reads a template. -/
def parse (s : Letters) : Except Imbalance Template :=
  match imbalance? s with
  | some e => .error e
  | none => .ok (ofBalanced s)

/-- The message about a text that is no template. -/
def Imbalance.message (source : Letters) : Imbalance → String
  | unopened position =>
    "unbalanced ')' at position " ++ toString position ++ " in " ++ Text.Quoted.text source
  | unclosed => "unclosed '(' in " ++ Text.Quoted.text source

/-- Reads a template, an imbalance being a fault. -/
def ofString (source : Letters) : Except Fault Template :=
  (parse source).mapError fun e => .declare .invalidTemplate (e.message source)

end HttpRouter.Template
