import HttpRouter.Proofs.Filling
import HttpRouter.Session

/-!
# What a table links, it serves

Values are linked by the first route to a resource, and a path is served by the first route that matches it. The path of
a link matches the route it was made by, so that the search ends there at the latest: the path is served by that route
or by one in front of it, and which of the two it is depends on the routes in front alone (`lookup_of_isSome`).

* `Session.link_serves`: how linking values to a resource goes, and who serves the path.
* `Session.link_misfit`: values that do not fit may be refused for their encoding alone.
-/

namespace HttpRouter

variable {κ : Type}

/-- **A path that a route links is one that it matches.** -/
theorem Route.isSome_match?_of_link {r : Route κ} {values : List Value} {path : Letters}
    (h : r.link values = .ok path) : (r.match? path).isSome := by
  obtain ⟨texts, -, hs⟩ := Template.spells_link (Template.link?_eq_ok h)
  exact Template.isSome_match?_of_spells hs

/-- How values are refused: with a link error, or because one of them has no encoding. -/
def Fault.Refuses (values : List Value) (f : Fault) : Prop :=
  (∃ text, f = .declare .link text) ∨ ∃ v ∈ values, v.isEncodable = false ∧ f = .unencodable v.shown

/-- A link error is one in its kind, unless it is that a value has no encoding. -/
theorem Template.refuses_of_link {t : Template} {values : List Value} {e : LinkError}
    (h : t.link values = .error e) : e.fault.Refuses values := by
  cases e with
  | emptyValue v | noSlot v | incomplete path => exact .inl ⟨_, rfl⟩
  | unencodable v =>
    obtain ⟨hv, hcode⟩ := mem_of_link_eq_error h
    exact .inr ⟨v, hv, hcode, rfl⟩

/-- A route links the values that fit its template, and refuses all others. -/
theorem Route.link_cases (r : Route κ) (values : List Value) :
    (r.template.Fits values ∧ ∃ path, r.link values = .ok path) ∨
      (¬ r.template.Fits values ∧ ∃ f, r.link values = .error f ∧ f.Refuses values) := by
  rw [link, Template.link?]
  rcases h : r.template.link values with e | path
  · right
    refine ⟨?_, e.fault, rfl, Template.refuses_of_link h⟩
    intro hfits
    obtain ⟨path, hpath⟩ := Template.exists_link_iff_fits.mpr hfits
    rw [h] at hpath
    cases hpath
  · exact .inl ⟨Template.exists_link_iff_fits.mp ⟨path, h⟩, _, rfl⟩

namespace RouteTable

/-- The route that is found for a resource is the first one to it. -/
theorem find?_eq_some_iff [BEq κ] [LawfulBEq κ] {t : RouteTable κ} {resource : κ} {route : Route κ} :
    t.find? resource = some route ↔
      ∃ before after, t.routes = before ++ route :: after ∧ route.resource = resource ∧
        ∀ other ∈ before, other.resource ≠ resource := by
  rw [find?, List.find?_eq_some_iff_append]
  constructor
  · rintro ⟨hroute, before, after, hroutes, hbefore⟩
    refine ⟨before, after, hroutes, eq_of_beq hroute, ?_⟩
    intro other hother he
    have hne := hbefore other hother
    rw [he, beq_self_eq_true] at hne
    cases hne
  · rintro ⟨before, after, hroutes, rfl, hbefore⟩
    refine ⟨beq_self_eq_true _, before, after, hroutes, ?_⟩
    intro other hother
    rw [Bool.not_eq_true', beq_eq_false_iff_ne]
    exact hbefore other hother

/-- Nothing is found for a resource that no route goes to. -/
theorem find?_eq_none_iff [BEq κ] [LawfulBEq κ] {t : RouteTable κ} {resource : κ} :
    t.find? resource = none ↔ ∀ route ∈ t.routes, route.resource ≠ resource := by
  rw [find?, List.find?_eq_none]
  refine forall₂_congr fun route _ => ?_
  rw [beq_iff_eq]

/-- **The search ends at a route that matches**, unless a route in front of it matches too. -/
theorem lookup_of_isSome {t : RouteTable κ} {before after : List (Route κ)} {first : Route κ} {path : Letters}
    (hroutes : t.routes = before ++ first :: after) (hfirst : (first.match? path).isSome) :
    ∃ m, t.lookup path = some m ∧
      ((m.route = first ∧ ∀ other ∈ before, other.match? path = none) ∨
        (m.route ∈ before ∧ (m.route.match? path).isSome)) := by
  obtain ⟨params, hparams⟩ := Option.isSome_iff_exists.mp hfirst
  rw [lookup, hroutes, List.findSome?_append]
  cases hbefore : before.findSome? fun route => (route.match? path).map (RouteMatch.mk route) with
  | some m =>
    obtain ⟨route, hroute, hm⟩ := List.exists_of_findSome?_eq_some hbefore
    obtain ⟨params', hparams', rfl⟩ := Option.map_eq_some_iff.mp hm
    refine ⟨_, rfl, .inr ⟨hroute, ?_⟩⟩
    rw [hparams']
    rfl
  | none =>
    refine ⟨⟨first, params⟩, ?_, .inl ⟨rfl, ?_⟩⟩
    · rw [Option.none_or, List.findSome?_cons, hparams]
      rfl
    · intro other hother
      exact Option.map_eq_none_iff.mp (List.findSome?_eq_none_iff.mp hbefore other hother)

end RouteTable

namespace Session

/-- How linking values to a resource goes. -/
structure Links (s : Session) (id : ClassId) (values : List Value) : Prop where
  /-- The session stays as it is, with its table. -/
  unchanged : (s.step (.link id values)).1 = s
  /-- A path that is linked is found again, at the first route to the resource or at one in front of it. It is the first
  route if no route in front of it matches, and only then. -/
  serves : ∀ path, (s.step (.link id values)).2 = .ok (.linked path) →
    ∃ before first after m, s.table.routes = before ++ first :: after ∧
      first.resource = id ∧ (∀ other ∈ before, other.resource ≠ id) ∧
      (s.step (.lookup path)).2 = .ok (.found (some m)) ∧ (m.route = first ∨ m.route ∈ before) ∧
      (m.route = first ↔ ∀ other ∈ before, other.match? path = none)
  /-- Nothing is linked to a resource without a route. -/
  unregistered : (∀ route ∈ s.table.routes, route.resource ≠ id) →
    (s.step (.link id values)).2 = .error (.fault (.declare .lookup (s.app.nameOf id ++ " is not registered")))
  /-- With a route, values that fit the template of the first one are linked. -/
  fits : ∀ before first after, s.table.routes = before ++ first :: after → first.resource = id →
    (∀ other ∈ before, other.resource ≠ id) → first.template.Fits values →
    ∃ path, (s.step (.link id values)).2 = .ok (.linked path)
  /-- All others are refused: with a link error, unless one of them has no encoding. -/
  unfit : ∀ before first after, s.table.routes = before ++ first :: after → first.resource = id →
    (∀ other ∈ before, other.resource ≠ id) → ¬ first.template.Fits values →
    ∃ f : Fault, (s.step (.link id values)).2 = .error (.fault f) ∧ f.Refuses values

section Linking

variable {s : Session} {id : ClassId} {values : List Value}

/-- With a route values are linked by it. -/
theorem answer_link_of_find {first : Route ClassId} (h : s.table.find? id = some first) :
    (s.step (.link id values)).2 = ((first.link values).map .linked).mapError .fault := by
  rw [step, RouteTable.link, h]

/-- Without one there is nothing to link them by. -/
theorem answer_link_of_none (h : s.table.find? id = none) :
    (s.step (.link id values)).2 =
      .error (.fault (.declare .lookup (s.app.nameOf id ++ " is not registered"))) := by
  rw [step, RouteTable.link, h]
  rfl

/-- What is linked was linked by the first route. -/
theorem exists_find_of_linked {path : Letters} (h : (s.step (.link id values)).2 = .ok (.linked path)) :
    ∃ first, s.table.find? id = some first ∧ first.link values = .ok path := by
  cases hfind : s.table.find? id with
  | none =>
    rw [answer_link_of_none hfind] at h
    cases h
  | some first =>
    rw [answer_link_of_find hfind] at h
    refine ⟨first, rfl, ?_⟩
    rcases hlink : first.link values with f | path'
    · rw [hlink] at h
      cases h
    · rw [hlink] at h
      cases h
      rfl

end Linking

/-- **What a table links, it serves**, in every session, for every resource and all values. -/
theorem link_serves (s : Session) (id : ClassId) (values : List Value) : s.Links id values := by
  refine ⟨rfl, ?_, ?_, ?_, ?_⟩
  · intro path hpath
    obtain ⟨first, hfind, hlink⟩ := exists_find_of_linked hpath
    obtain ⟨before, after, hroutes, hresource, hbefore⟩ := RouteTable.find?_eq_some_iff.mp hfind
    obtain ⟨m, hm, hwhere⟩ := RouteTable.lookup_of_isSome hroutes (Route.isSome_match?_of_link hlink)
    refine ⟨before, first, after, m, hroutes, hresource, hbefore, congrArg (Except.ok ∘ Answer.found) hm, ?_, ?_⟩
    · exact hwhere.imp And.left And.left
    · rcases hwhere with ⟨hfirst, hnone⟩ | ⟨hmem, hsome⟩
      · exact iff_of_true hfirst hnone
      · -- A route in front is one to another resource, and it does match.
        refine iff_of_false ?_ ?_
        · rintro rfl
          exact hbefore _ hmem hresource
        · intro hnone
          rw [hnone _ hmem] at hsome
          cases hsome
  · intro hroutes
    exact answer_link_of_none (RouteTable.find?_eq_none_iff.mpr hroutes)
  · intro before first after hroutes hresource hbefore hfits
    have hfind := RouteTable.find?_eq_some_iff.mpr ⟨before, after, hroutes, hresource, hbefore⟩
    rcases first.link_cases values with ⟨-, path, hpath⟩ | ⟨hunfit, -⟩
    · refine ⟨path, ?_⟩
      rw [answer_link_of_find hfind, hpath]
      rfl
    · exact absurd hfits hunfit
  · intro before first after hroutes hresource hbefore hunfit
    have hfind := RouteTable.find?_eq_some_iff.mpr ⟨before, after, hroutes, hresource, hbefore⟩
    rcases first.link_cases values with ⟨hfits, -⟩ | ⟨-, f, hf, hrefuses⟩
    · exact absurd hfits hunfit
    · refine ⟨f, ?_, hrefuses⟩
      rw [answer_link_of_find hfind, hf]
      rfl

/-- Two values do not fit a template with one slot, but if the first of them has no encoding, that is what they are
refused for, and by no link error. -/
theorem link_misfit :
    let page : ClassSpec := { name := .plain "Page" "pages", values := [("path", .text "/:a")] }
    let s := (start .base .empty).after [.define page, .add 1 none none]
    let values : List Value := [.text [.half], .text "x"]
    s.table.routes.map (fun route => (route.resource, route.source)) = [(1, Text.ofString "/:a")] ∧
      (∀ route ∈ s.table.routes, ¬ route.template.Fits values ∧ route.template.slots.length < values.length) ∧
      (s.step (.link 1 values)).2 = .error (.fault (.unencodable [.half])) ∧
      ∀ text, (s.step (.link 1 values)).2 ≠ .error (.fault (.declare .link text)) := by
  refine ⟨rfl, fun route hroute => ?_, rfl, nofun⟩
  obtain rfl := List.mem_singleton.mp hroute
  refine ⟨fun hfits => ?_, by decide⟩
  exact absurd hfits.room (by decide)

end Session

end HttpRouter
