import HttpRouter.Application
import HttpRouter.CommandLine.Objects
import HttpRouter.Registration

/-!
# Catalogues

Modules that hold dispatchers, tables and lists of the resources of a hierarchy, and groups of these under further names.
-/

namespace HttpRouter.CommandLine

/-- What the name of an application can lead to. -/
inductive Target where
  | dispatcher (d : Dispatcher ClassId)
  | table (t : RouteTable ClassId)
  | resources (ids : List ClassId)
  | group (members : List (String × Target))

namespace Target

/-- The name of the sort of a target. -/
def sortName : Target → String
  | dispatcher _ => "Dispatcher"
  | table _ => "RouteTable"
  | resources _ => "list"
  | group _ => "SimpleNamespace"

/-- The name of the sort of a target in full, where it is not one of the router's own. -/
def fullSortName : Target → String
  | group _ => "types.SimpleNamespace"
  | t => t.sortName

/-- Whether a target is a dispatcher already. -/
def isDispatcher : Target → Bool
  | dispatcher _ => true
  | _ => false

/-- An attribute of a target. -/
def member? (name : String) : Target → Option Target
  | dispatcher d => if name = "routes" then some (table d.routes) else none
  | group members => members.lookup name
  | _ => none

/-- What a target is to the program. Resources are gone through one by one, and a group cannot be gone through. -/
def role : Target → Role
  | dispatcher d => .dispatcher d
  | table t => .table t
  | resources ids => .other (.ok ⟨ids, none⟩)
  | t@(group _) => .other (.error (.incidental .type ("'" ++ t.fullSortName ++ "' object is not iterable")))

/-- Targets as objects. -/
def objects (h : Hierarchy) (modules : List (String × Target)) : Objects Target where
  find name :=
    match modules.lookup name with
    | some t => .ok t
    | none => .error ("No module named " ++ Text.Quoted.text name)
  member t name :=
    match t.member? name with
    | some t => .ok t
    | none =>
      .error (.incidental .attribute ("'" ++ t.fullSortName ++ "' object has no attribute '" ++ name ++ "'"))
  role t := .ok t.role
  entry id := .ok (h.entry id).2
  name id := .ok (h.resource id).name

/-- The dispatcher of a target: itself, or one that is made with a configuration. -/
def toDispatcher (h : Hierarchy) (config : Config) (t : Target) : Except Fault (Dispatcher ClassId) :=
  (objects h []).toDispatcher config t

/-- Going through a list of resources is making a table of them. -/
theorem objects_tableOf (h : Hierarchy) (modules : List (String × Target)) (ids : List ClassId) :
    (objects h modules).tableOf ⟨ids, none⟩ = h.tableOf ids := by
  rw [Hierarchy.tableOf, RouteTable.ofResources, List.foldlM_map]
  exact bind_pure _

theorem toDispatcher_resources (h : Hierarchy) (config : Config) (ids : List ClassId) :
    toDispatcher h config (resources ids) = Objects.plainDispatcher config (h.tableOf ids) := by
  rw [← objects_tableOf h []]
  rfl

/-- A list of resources, the table of them, and its dispatcher, by these names. -/
def standard (h : Hierarchy) (ids : List ClassId) : Except Fault (List (String × Target)) := do
  let routes ← h.tableOf ids
  let d ← Objects.plainDispatcher {} (.ok routes)
  return [("RESOURCES", resources ids), ("routes", table routes), ("dispatcher", dispatcher d)]

end Target

/-- Modules by their names, and the resources that they hold. -/
structure Catalogue where
  hierarchy : Hierarchy
  modules : List (String × Target)

namespace Catalogue

/-- The objects of a catalogue. -/
def objects (c : Catalogue) : Objects Target :=
  Target.objects c.hierarchy c.modules

/-- Finds what the name of an application leads to. -/
def load (c : Catalogue) (name : String) : Except Fault Target :=
  c.objects.load name

end Catalogue

end HttpRouter.CommandLine
