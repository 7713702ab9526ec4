import HttpRouter.Resource.Basic
import HttpRouter.Template.Link
import HttpRouter.Template.Matcher
import HttpRouter.Template.Parser

/-!
# The hierarchy of resources

Resources descend from each other, the first one from none. A resource is looked at as it is at that moment: when a
member of a class is set later on, its descendants that do not have it themselves change with it.
-/

namespace HttpRouter

/-- The identity of a resource class: its place in the hierarchy. -/
abbrev ClassId := Nat

/-- A class with the members it has itself, and its parent, which comes before it. -/
structure ResourceClass where
  name : ClassName
  parent : Option ClassId
  own : Fields String Member

/-- The classes in the order in which they were defined. -/
structure Hierarchy where
  classes : List ResourceClass

namespace Hierarchy

/-- The class that all others descend from. -/
def root : ClassId := 0

/-- The hierarchy of the first class alone. -/
def base : Hierarchy := ⟨[⟨Resource.rootName, none, Resource.rootMembers⟩]⟩

/-- A resource of at most `generations` generations. -/
def resourceFrom (h : Hierarchy) : Nat → ClassId → Resource
  | 0, _ => ⟨[], []⟩
  | generations + 1, id =>
    match h.classes[id]? with
    | none => ⟨[], []⟩
    | some c =>
      match c.parent with
      | none => ⟨[c.name], c.own⟩
      | some parent =>
        let r := resourceFrom h generations parent
        ⟨c.name :: r.lineage, c.own ++ r.members⟩

/-- A resource as it is now. -/
def resource (h : Hierarchy) (id : ClassId) : Resource :=
  h.resourceFrom h.classes.length id

/-- Defines a class. -/
def define (h : Hierarchy) (c : ResourceClass) : Hierarchy × ClassId :=
  (⟨h.classes ++ [c]⟩, h.classes.length)

/-- Sets a value of a class. -/
def setValue (h : Hierarchy) (id : ClassId) (name : String) (v : Value) : Hierarchy :=
  ⟨h.classes.modify id fun c => { c with own := c.own.set name (.value v) }⟩

end Hierarchy

namespace Resource

/-- Matches a path against the template of a resource. -/
def match? (r : Resource) (path : Letters) : Except Fault (Option Params) := do
  return (← Template.ofString r.template).match? path

/-- Links values to the template of a resource. -/
def link (r : Resource) (values : List Value) : Except Fault Letters := do
  (← Template.ofString r.template).link? values

end Resource

end HttpRouter
