import HttpRouter.Config
import HttpRouter.View.Subject

/-!
# View engines

An engine makes a page of the text of a view: it prints text of the view itself, and shows items such as the values that
the names in the view stand for. The engine is not the router's own. The router hands it the view, the files beside it
and the names that it can use, says by the file whether what is shown is to be escaped, and takes what is printed.
-/

namespace HttpRouter

/-- What a name can stand for in a view. -/
inductive Item where
  | value (v : Value)
  | subject (s : Subject)
  | failure (f : Failure)
  | request (r : Request)
  | status (s : Status)
  | family (f : Family)
  /-- Text that is shown as it is. -/
  | markup (text : Letters)

/-- The names that a view can use. -/
abbrev ViewContext := Fields String Item

namespace Page

/-- Whether what is shown in the page of a file is escaped. -/
def isEscaped (path : List Char) : Bool :=
  let path := Text.lower path
  ".html".toList.isSuffixOf path || ".xml".toList.isSuffixOf path

/-- A letter as HTML shows it. -/
def escapeLetter (l : Letter) : Letters :=
  if l = .char '&' then "&amp;"
  else if l = .char '<' then "&lt;"
  else if l = .char '>' then "&gt;"
  else if l = .char '\'' then "&#39;"
  else if l = .char '"' then "&#34;"
  else [l]

/-- A text as HTML shows it. -/
def escape (s : Letters) : Letters :=
  s.flatMap escapeLetter

end Page

namespace Item

/-- The text of an item. -/
def shown : Item → Letters
  | value v => v.shown
  | subject s => s.shown
  | failure f => f.text
  | request r => r.written
  | status s => toString s.code
  | family f => "Family." ++ f.constant
  | markup text => text

/-- The text of an item in a page that is escaped or not. -/
def shownIn (escaped : Bool) : Item → Letters
  | markup text => text
  | i => if escaped then Page.escape i.shown else i.shown

end Item

/-- A part of a page. -/
inductive Part where
  /-- Text of the view itself. -/
  | text (s : Letters)
  /-- What is shown of the item that an expression stands for, and whether escaping is in force there. -/
  | output (expression : String) (escaped : Bool) (i : Item) (shown : Letters)

namespace Part

/-- The text of a part. -/
def all : Part → Letters
  | text s => s
  | output _ _ _ shown => shown

end Part

/-- The text of a page. -/
def Page.all (parts : List Part) : Letters :=
  parts.flatMap Part.all

/-- An engine: it prints the page of a view, which is given by its path and its text, with other files beside it. -/
structure Engine where
  print : Fields String String → List Char → String → ViewContext → Except Fault (List Part)

end HttpRouter
