import HttpRouter.View.Path
import HttpRouter.View.Subject

/-!
# Finding views

Which files are tried for a subject. Its content is rendered by the view it names itself, or else by the view of its
class or the nearest ancestor that has one. The layout around it is looked for in the directory of the view and in those
above it.
-/

namespace HttpRouter

/-- How the names of views are made: what is appended to them, the file name of layouts, and the package whose modules
are directories. -/
structure Resolver where
  extension : String := ".html"
  layout : Option String := some "layout.html"
  package : Option String := none
deriving DecidableEq, Repr, Inhabited

namespace Resolver

/-- The view that a subject names itself. -/
def explicitView? (s : Subject) : Option Letters :=
  match s.attribute? "view" with
  | some (.text view) => if view.isEmpty then none else some view
  | _ => none

/-- Puts a name at the end unless it is there. -/
def addName (names : List Letters) (name : Letters) : List Letters :=
  if names.contains name then names else names ++ [name]

/-- The module whose classes have no views. -/
def viewless : String := "builtins"

/-- The files that are tried for the content, the nearest first. -/
def contentCandidates (r : Resolver) (s : Subject) : List Letters :=
  let extension : Letters := r.extension
  let explicit := (explicitView? s).toList.map (· ++ extension)
  let classes := s.lineage.filter fun c => c.module != viewless
  (classes.map fun c => Text.ofChars (ViewPath.ofClass r.package c) ++ extension).foldl addName explicit

/-- The file name of the layout of a subject, unless it has none. -/
def layoutName? (r : Resolver) (s : Subject) : Option Letters :=
  let name := match s.attribute? "layout" with
    | some (.bool false) => none
    | some (.text layout) => some layout
    | _ => r.layout.map Text.ofString
  name.bind fun name => if name.isEmpty then none else some name

/-- The path of the view of a subject, without extension. -/
def viewName (r : Resolver) (s : Subject) : Letters :=
  (explicitView? s).getD (Text.ofChars (ViewPath.ofClass r.package s.className))

/-- The files that are tried for the layout, the nearest first. -/
def layoutCandidates (r : Resolver) (s : Subject) : List Letters :=
  match r.layoutName? s with
  | none => []
  | some layout => (ViewPath.directories (r.viewName s)).map fun dir => ViewPath.file dir layout

end Resolver

end HttpRouter
