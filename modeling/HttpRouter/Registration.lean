import HttpRouter.Resource.Hierarchy
import HttpRouter.RouteTable

/-!
# Registering resources

A resource is added to a table with its own path and base, or with others. Registering it under a path or a base sets
these for the class as well, before the route is added.
-/

namespace HttpRouter

namespace Hierarchy

/-- A resource with its path and base, as a table takes it. -/
def entry (h : Hierarchy) (id : ClassId) : ClassId × Letters × Letters :=
  let r := h.resource id
  (id, r.path, r.base)

/-- Adds a route to a resource, with its own path and base where no others are given. -/
def addTo (h : Hierarchy) (t : RouteTable ClassId) (id : ClassId) (path base : Option Letters) :
    Except Fault (RouteTable ClassId × Route ClassId) :=
  let r := h.resource id
  t.add id (path.getD r.path) (base.getD r.base)

/-- Sets a text of a class if one is given. -/
def setText (h : Hierarchy) (id : ClassId) (name : String) (text : Option Letters) : Hierarchy :=
  match text with
  | some text => h.setValue id name (.text text)
  | none => h

/-- Sets the path and the base of a class, then adds a route to it. The class stays changed if that fails. -/
def register (h : Hierarchy) (t : RouteTable ClassId) (id : ClassId) (path base : Option Letters) :
    Hierarchy × Except Fault (RouteTable ClassId × Route ClassId) :=
  let h := (h.setText id "path" path).setText id "base" base
  (h, h.addTo t id none none)

/-- A table of resources. -/
def tableOf (h : Hierarchy) (ids : List ClassId) : Except Fault (RouteTable ClassId) :=
  RouteTable.ofResources (ids.map h.entry)

end Hierarchy

end HttpRouter
