import HttpRouter.Template.Link
import HttpRouter.Template.Matcher
import HttpRouter.Template.Parser

/-!
# Route tables

A route pairs a resource with the template of its paths, which is a base and a path put together. A table keeps routes in
the order in which they were added, and that order is their priority: the first route that matches a path is the one.
Templates are read when a route is added, and nothing is added to a frozen table.

* `routes_add`: a table only grows at its end.
* `lookup_eq_some_iff`: what is found is the first match.
* `lookup_append`: what is added later does not change what is found.
-/

namespace HttpRouter

variable {κ : Type}

/-- A route to a resource. -/
structure Route (κ : Type) where
  resource : κ
  path : Letters
  base : Letters
  template : Template
deriving Repr

namespace Route

/-- The template of a route as it is written. -/
def source (r : Route κ) : Letters := r.base ++ r.path

/-- A route, if its template can be read. -/
def make (resource : κ) (path base : Letters) : Except Fault (Route κ) := do
  return ⟨resource, path, base, ← Template.ofString (base ++ path)⟩

/-- Matches a path. -/
def match? (r : Route κ) (path : Letters) : Option Params :=
  r.template.match? path

/-- Links values. -/
def link (r : Route κ) (values : List Value) : Except Fault Letters :=
  r.template.link? values

end Route

/-- Routes in the order of their priority, and whether the table is frozen. -/
structure RouteTable (κ : Type) where
  routes : List (Route κ)
  frozen : Bool
deriving Repr

/-- A route that matched a path, and what its slots took. -/
structure RouteMatch (κ : Type) where
  route : Route κ
  params : Params
deriving Repr

namespace RouteTable

/-- The table without routes. -/
def empty : RouteTable κ := ⟨[], false⟩

/-- Adds a route at the end. -/
def add (t : RouteTable κ) (resource : κ) (path base : Letters) : Except Fault (RouteTable κ × Route κ) := do
  if t.frozen then throw (.declare .runtime "Cannot add routes to a frozen route table.")
  let route ← Route.make resource path base
  return ({ t with routes := t.routes ++ [route] }, route)

/-- A table of resources, each with a path and a base. -/
def ofResources (resources : List (κ × Letters × Letters)) : Except Fault (RouteTable κ) :=
  resources.foldlM (fun t (resource, path, base) => (·.1) <$> t.add resource path base) empty

/-- Freezes a table. -/
def freeze (t : RouteTable κ) : RouteTable κ :=
  { t with frozen := true }

/-- The first route that matches a path. -/
def lookup (t : RouteTable κ) (path : Letters) : Option (RouteMatch κ) :=
  t.routes.findSome? fun route => (route.match? path).map (RouteMatch.mk route)

@[simp] theorem routes_freeze (t : RouteTable κ) : t.freeze.routes = t.routes := rfl

@[simp] theorem frozen_freeze (t : RouteTable κ) : t.freeze.frozen = true := rfl

/-- **A table only grows at its end**, by the route that was added. -/
theorem routes_add {t t' : RouteTable κ} {resource : κ} {path base : Letters} {route : Route κ}
    (h : t.add resource path base = .ok (t', route)) : t'.routes = t.routes ++ [route] ∧ t'.frozen = t.frozen := by
  unfold add at h
  split at h
  · cases h
  · rcases hr : Route.make resource path base with e | r
    · rw [hr] at h
      cases h
    · rw [hr] at h
      cases h
      exact ⟨rfl, rfl⟩

/-- A match is that of the first route that matches a path: none in front of it does. -/
def IsFirst (t : RouteTable κ) (path : Letters) (m : RouteMatch κ) : Prop :=
  ∃ before after, t.routes = before ++ m.route :: after ∧ (∀ route ∈ before, route.match? path = none) ∧
    m.route.match? path = some m.params

theorem lookup_eq_some_iff {t : RouteTable κ} {path : Letters} {m : RouteMatch κ} :
    t.lookup path = some m ↔ t.IsFirst path m := by
  rw [lookup, IsFirst, List.findSome?_eq_some_iff]
  constructor
  · rintro ⟨before, route, after, hroutes, hmatch, hbefore⟩
    obtain ⟨params, hparams, rfl⟩ := Option.map_eq_some_iff.mp hmatch
    exact ⟨before, after, hroutes, fun route h => Option.map_eq_none_iff.mp (hbefore route h), hparams⟩
  · rintro ⟨before, after, hroutes, hbefore, hmatch⟩
    refine ⟨before, m.route, after, hroutes, ?_, fun route h => ?_⟩
    · rw [hmatch]
      rfl
    · rw [hbefore route h]
      rfl

/-- **Earlier routes win**: routes behind the one that was found do not matter. -/
theorem lookup_append {t : RouteTable κ} {path : Letters} {m : RouteMatch κ} (more : List (Route κ))
    (h : t.lookup path = some m) : lookup { t with routes := t.routes ++ more } path = some m := by
  unfold lookup at h ⊢
  rw [List.findSome?_append, h]
  rfl

/-- The first route to a resource. -/
def find? [BEq κ] (t : RouteTable κ) (resource : κ) : Option (Route κ) :=
  t.routes.find? fun route => route.resource == resource

/-- Links values to the first route to a resource, which goes by `name` if there is none. -/
def link [BEq κ] (t : RouteTable κ) (resource : κ) (name : String) (values : List Value) : Except Fault Letters :=
  match t.find? resource with
  | some route => route.link values
  | none => .error (.declare .lookup (name ++ " is not registered"))

/-- A text with blanks behind it up to a width. -/
def padded (width : Nat) (s : Letters) : Letters :=
  s ++ List.replicate (width - s.length) (.char ' ')

/-- The table as lines: the templates of the routes, and the names of their resources in a second column. -/
def describe (t : RouteTable κ) (name : κ → String) : Letters :=
  let width := (t.routes.map fun r => r.source.length).foldl max 0
  Text.joinWith "\n" (t.routes.map fun r => padded width r.source ++ "  " ++ name r.resource)

end RouteTable

end HttpRouter
