import HttpRouter.Proofs.Dispatch.Following
import HttpRouter.Proofs.Dispatch.Reporting
import HttpRouter.Proofs.Dispatch.Settling

/-!
# Methods that are refused

Whether a method is served is asked for that method alone, and which methods a refusal names is computed from all that
are allowed. The two agree: there is one set of methods for a path, what is refused is what is not in it, and a refusal
names just that set. What is in it is told by the members of a class and its ancestors, of which the nearest counts.

This holds for absolute paths. Any other path is refused before routing, even if a route matches it.

* `Hierarchy.inherits_resource`: a class has what it has itself, and what its ancestors have;
* `Resource.implements_iff`: when a class answers to a known method;
* `Dispatcher.refuses_iff`: when the binding of a route refuses a request, and how;
* `Dispatcher.exists_allowSet`: the set of methods of a path.
-/

namespace HttpRouter

variable {κ : Type}

/-! ## Inheritance -/

namespace Member

/-- Whether a member can be run. -/
def isAction : Member → Bool
  | value _ => false
  | action _ | inheritedHead => true

/-- Whether a member is the action that all resources inherit for `HEAD`. -/
def isInheritedHead : Member → Bool
  | inheritedHead => true
  | value _ | action _ => false

end Member

/-- What a class and its ancestors have themselves, the nearest first. -/
abbrev Ancestry := List (Fields String Member)

namespace Ancestry

/-- The member of a name: the nearest class that has one provides it. -/
def member? (a : Ancestry) (name : String) : Option Member :=
  a.findSome? (Fields.get? name)

/-- The name of the action that answers to a method: its own, but that for `GET` where the action for `HEAD` is the one
that all resources inherit. -/
def answering (a : Ancestry) (method : String) : String :=
  if method = "HEAD" ∧ (a.member? "head").any Member.isInheritedHead then "get" else Text.lowerString method

/-- Whether a class with such members answers to a method. -/
def Answers (a : Ancestry) (method : String) : Prop :=
  (a.member? (a.answering method)).any Member.isAction = true

instance (a : Ancestry) (method : String) : Decidable (a.Answers method) :=
  inferInstanceAs (Decidable (_ = true))

end Ancestry

/-- A resource has the members of a class and its ancestors. -/
def Resource.Inherits (r : Resource) (a : Ancestry) : Prop :=
  r.members = a.flatten

namespace Hierarchy

/-- What a class and its ancestors have themselves, of at most `generations` generations. -/
def ancestryFrom (h : Hierarchy) : Nat → ClassId → Ancestry
  | 0, _ => []
  | generations + 1, id =>
    match h.classes[id]? with
    | none => []
    | some c =>
      match c.parent with
      | none => [c.own]
      | some parent => c.own :: ancestryFrom h generations parent

/-- What a class and its ancestors have themselves. -/
def ancestry (h : Hierarchy) (id : ClassId) : Ancestry :=
  h.ancestryFrom h.classes.length id

/-- **A class has what it has itself, and what its ancestors have.** -/
theorem inherits_resource (h : Hierarchy) (id : ClassId) : (h.resource id).Inherits (h.ancestry id) := by
  rw [resource, ancestry]
  generalize h.classes.length = generations
  induction generations generalizing id with
  | zero => rfl
  | succ generations ih =>
    rw [Resource.Inherits, resourceFrom, ancestryFrom]
    cases h.classes[id]? with
    | none => rfl
    | some c =>
      dsimp only
      cases c.parent with
      | none => exact (List.append_nil _).symm
      | some parent => exact congrArg (c.own ++ ·) (ih parent)

end Hierarchy

namespace Resource

variable {r : Resource} {a : Ancestry}

theorem isAction_eq (h : r.Inherits a) (name : String) : r.isAction name = (a.member? name).any Member.isAction := by
  rw [isAction, h, Fields.get?_flatten, Ancestry.member?]
  rcases a.findSome? (Fields.get? name) with _ | v | act | _ <;> rfl

theorem inheritsHead_eq (h : r.Inherits a) : r.inheritsHead = (a.member? "head").any Member.isInheritedHead := by
  rw [inheritsHead, h, Fields.get?_flatten, Ancestry.member?]
  rcases a.findSome? (Fields.get? "head") with _ | v | act | _ <;> rfl

theorem upperString_of_known : ∀ method ∈ knownMethods, Text.upperString method = method := by decide

/-- **When a class answers to a known method.** -/
theorem implements_iff (h : r.Inherits a) {method : String} (hknown : method ∈ knownMethods) :
    r.implements method = true ↔ a.Answers method := by
  rw [implements, upperString_of_known method hknown, List.contains_iff_mem.mpr hknown, Ancestry.Answers,
    Ancestry.answering, inheritsHead_eq h, isAction_eq h, isAction_eq h, if_neg (by decide)]
  split <;> rfl

end Resource

/-- The methods that a valid configuration allows are known. -/
theorem Config.known_of_validate {c : Config} (h : c.validate = .ok ()) : ∀ m ∈ c.allowedMethods, m ∈ knownMethods := by
  have herror : c.error? = none := by
    rw [validate] at h
    split at h
    · cases h
    · assumption
  rw [error?] at herror
  split at herror
  · cases herror
  · split at herror
    · cases herror
    · next hnone =>
      rw [Bool.not_eq_true', Bool.not_eq_false, List.isEmpty_iff, List.filter_eq_nil_iff] at hnone
      intro m hm
      simpa using hnone m hm

/-! ## Initialized instances -/

theorem Acts.inits_append (acts acts' : Acts κ) : (acts ++ acts').inits = acts.inits ++ acts'.inits :=
  List.filterMap_append

namespace Dispatcher

variable {d : Dispatcher κ} {w : World κ} {s : Surroundings} {request : Request} {m : RouteMatch κ} {c : κ}

theorem Served.serves {x : Exchange} (h : d.Served w x m c) : d.serves w (d.prepared x) c = true :=
  (Bool.and_eq_true _ _).mpr ⟨List.contains_iff_mem.mpr h.allowed, h.implemented⟩

/-- Initializers initialize no instance. -/
theorem inits_opened : (d.opened (start request s)).acts.inits = [] := by
  rw [Acts.inits, List.filterMap_eq_nil_iff]
  intro act hact
  obtain ⟨e, he, hact⟩ := List.mem_filterMap.mp hact
  obtain ⟨step, -, he⟩ := List.mem_flatMap.mp he
  rcases List.mem_cons.mp he with rfl | he
  · cases hact
    rfl
  · obtain ⟨record, -, rfl⟩ := List.mem_map.mp he
    obtain ⟨move, -, rfl⟩ := Option.map_eq_some_iff.mp hact
    rfl

/-- **An instance is initialized exactly if it answers to the method.** -/
theorem inits_of_course {r run : Run κ} {result : Except Failure Outcome} (hmade : d.Made r.exchange m c)
    (hopened : (d.opened r).acts.inits = []) (h : d.Course w r result run) :
    run.acts.inits = if d.serves w (d.prepared r.exchange) c then [(c, m.params)] else [] := by
  have hrouted : (d.routed r m).acts.inits = [] := by
    simp only [routed, Run.acts_moved, Run.acts_matched, Acts.inits_append, hopened]
    rfl
  cases h with
  | ended h => exact absurd hmade.opens h
  | unrouted _ hroute =>
    rw [hmade.route] at hroute
    cases hroute
  | unmade h hfactory =>
    obtain rfl := hmade.toRouted.unique h
    rw [hmade.made] at hfactory
    cases hfactory
  | refused h hserves =>
    obtain ⟨rfl, rfl⟩ := hmade.unique h
    rw [hserves, Run.acts_noted, Acts.inits_append, hrouted]
    rfl
  | uninitialized h =>
    obtain ⟨rfl, rfl⟩ := hmade.unique h.toMade
    rw [h.serves, Run.acts_noted, Run.acts_noted, Acts.inits_append, Acts.inits_append, hrouted]
    rfl
  | handled h =>
    obtain ⟨rfl, rfl⟩ := hmade.unique h.toMade
    simp only [h.serves, Run.acts_noted, Run.acts_moved, Acts.inits_append, hrouted]
    rfl

/-! ## Refusals -/

variable (d w s request m) in
/-- The binding of a route refuses a request with an error: the request got there, the error was returned by resolving,
and no instance was initialized. -/
structure Refuses (e : HttpError) : Prop where
  binds : d.Binds request.path m (d.dispatch w s request).2
  ended : (d.stages w (start request s)).1 = .ok (.error e)
  uninitialized : (d.dispatch w s request).2.acts.inits = []

/-- A request that goes on to routing is responded to, if it can be. -/
theorem exists_ending (hopens : d.Opens (.ofRequest request s.requestId)) : ∃ attempts,
    d.Ending w s (d.stages w (start request s)).1 (d.stages w (start request s)).2 attempts
      (d.dispatch w s request) := by
  refine d.dispatch_of_not_isClosing w ?_
  have hresolved : (d.resolve w (start request s)).2.exchange = (d.stages w (start request s)).2.exchange := by
    rw [d.resolve_eq w]
    rfl
  rw [hresolved, (d.course_stages w (start request s)).closing.1, Exchange.isClosing]
  exact congrArg Stage.isClosing hopens.idle

theorem stages_of_refused {r : Run κ} (hmade : d.Made r.exchange m c)
    (hserves : d.serves w (d.prepared r.exchange) c = false) :
    (d.stages w r).1 = .ok (.error ((w.resource c).refusal d.config.allowedMethods)) := by
  rw [stages_fst, settled, (d.opens_iff _).mp hmade.opens]
  dsimp only
  rw [hmade.route]
  dsimp only
  rw [settledAt, hmade.made]
  dsimp only
  rw [hserves]
  rfl

/-- **When the binding of a route refuses a request, and how**: if the class does not answer to the method or it is not
allowed, by naming the methods. -/
theorem refuses_iff (hmade : d.Made (.ofRequest request s.requestId) m c)
    (hpath : (d.prepared (.ofRequest request s.requestId)).path = request.path) {e : HttpError} :
    d.Refuses w s request m e ↔ d.serves w (d.prepared (.ofRequest request s.requestId)) c = false ∧
      e = (w.resource c).refusal d.config.allowedMethods := by
  obtain ⟨attempts, hending⟩ := d.exists_ending (w := w) hmade.opens
  have hcourse := d.course_stages w (start request s)
  have hinits : (d.dispatch w s request).2.acts.inits =
      if d.serves w (d.prepared (.ofRequest request s.requestId)) c then [(c, m.params)] else [] := by
    have hlast : (lastActs (d.dispatch w s request).1 : Acts κ).inits = [] := by
      cases (d.dispatch w s request).1 <;> rfl
    rw [hending.acts_eq.1, Acts.inits_append, Acts.inits_append, inits_of_course hmade inits_opened hcourse, hlast]
    exact (List.append_nil _).trans (List.append_nil _)
  constructor
  · intro h
    have hserves : d.serves w (d.prepared (.ofRequest request s.requestId)) c = false := by
      rw [← Bool.not_eq_true]
      intro hserves
      have hnil := h.uninitialized
      rw [hinits, if_pos hserves] at hnil
      cases hnil
    have hended := h.ended
    rw [stages_of_refused (r := start request s) hmade hserves] at hended
    cases hended
    exact ⟨hserves, rfl⟩
  · rintro ⟨hserves, rfl⟩
    have hbinds := d.binds_of_course w hcourse hmade.opens hmade.route
    refine ⟨?_, stages_of_refused (r := start request s) hmade hserves, ?_⟩
    · rw [← hpath]
      exact hbinds.ended d w hending
    · rw [hinits, hserves]
      rfl

/-! ## The set of methods of a path -/

variable (d) in
/-- No initializer interferes with an exchange: they let it pass as it is. -/
structure Undisturbed (x : Exchange) : Prop where
  passed : ∀ step ∈ d.executed x, (step.1.apply step.2).result = .ok none
  same : d.prepared x = x

/-- The default initializers do not interfere with an absolute path that ends in no slash, if there is no query. -/
theorem undisturbed_of_default (hdefault : d.initializers = ({} : Config).initializers) {x : Exchange}
    (habsolute : x.path.head? = some (.char '/')) (htrailing : ¬ Initializer.Trailing x.path)
    (hquery : x.request.query = "") (hidle : x.stage = .idle) : d.Undisturbed x := by
  obtain ⟨hopens, hsame⟩ := opens_of_default hdefault habsolute htrailing hquery hidle
  exact ⟨hopens.passed, hsame⟩

variable (d w) in
/-- The set of methods of a path whose route is `m`, for a class with the members `a`. -/
structure AllowSet (path : Letters) (m : RouteMatch κ) (a : Ancestry) (methods : List String) : Prop where
  ascending : methods.Pairwise (· < ·)
  mem_iff : ∀ method, method ∈ methods ↔ method ∈ d.config.allowedMethods ∧ a.Answers method
  /-- Whatever is not in the set is refused, and nothing else. -/
  refused_iff : ∀ (s : Surroundings) (request : Request), request.path = path →
    d.Undisturbed (.ofRequest request s.requestId) →
      ((∃ e, d.Refuses w s request m e ∧ e.code = 405) ↔ Text.upperString request.method ∉ methods)
  /-- A refusal names the set, and is answered as one. -/
  named : ∀ (s : Surroundings) (request : Request) (e : HttpError), request.path = path →
    d.Undisturbed (.ofRequest request s.requestId) → d.Refuses w s request m e →
      e.cls = .methodNotAllowed ∧ e.allowed = methods ∧
        ∃ response, (d.dispatch w s request).1 = .ok response ∧ response.status = 405

/-- **The set of methods of a path is exact.** For an absolute path there is one set of methods such that, as long as no
initializer interferes, the binding of its route refuses a request exactly if the method, in capitals, is not in the
set, and the refusal names the set, in order and without repetition. It is the set of those allowed methods that the
class answers to. -/
theorem exists_allowSet {d : Dispatcher κ} (hvalid : d.config.validate = .ok ()) (w : World κ) {path : Letters}
    (habsolute : path.head? = some (.char '/')) {m : RouteMatch κ} (hroute : d.routes.lookup path = some m) {c : κ}
    (hmade : d.factory m.route.resource = .ok c) {a : Ancestry} (hinherits : (w.resource c).Inherits a) :
    ∃ methods, d.AllowSet w path m a methods := by
  have mem_iff (method : String) : method ∈ (w.resource c).allowedMethods d.config.allowedMethods ↔
      method ∈ d.config.allowedMethods ∧ (w.resource c).implements method = true := by
    rw [Resource.allowedMethods, mem_sortedSet, List.mem_filter]
  have made {s : Surroundings} {request : Request} (hpath : request.path = path)
      (h : d.Undisturbed (.ofRequest request s.requestId)) : d.Made (.ofRequest request s.requestId) m c := by
    subst hpath
    refine ⟨⟨⟨habsolute, h.passed, ?_⟩, ?_⟩, hmade⟩
    · rw [h.same]
      rfl
    · rw [h.same]
      exact hroute
  -- What is refused is what is not in the set that is listed.
  have refuses {s : Surroundings} {request : Request} (hpath : request.path = path)
      (h : d.Undisturbed (.ofRequest request s.requestId)) (e : HttpError) : d.Refuses w s request m e ↔
        Text.upperString request.method ∉ (w.resource c).allowedMethods d.config.allowedMethods ∧
          e = (w.resource c).refusal d.config.allowedMethods := by
    rw [refuses_iff (made hpath h) (congrArg Exchange.path h.same), mem_iff, h.same, ← Bool.not_eq_true, serves,
      Bool.and_eq_true, List.contains_iff_mem]
    rfl
  refine ⟨(w.resource c).allowedMethods d.config.allowedMethods, pairwise_sortedSet _, ?_, ?_, ?_⟩
  · intro method
    rw [mem_iff]
    refine and_congr_right fun hallowed => ?_
    exact Resource.implements_iff hinherits (Config.known_of_validate hvalid method hallowed)
  · intro s request hpath h
    constructor
    · rintro ⟨e, he, -⟩
      exact ((refuses hpath h e).mp he).1
    · intro hmethod
      exact ⟨_, (refuses hpath h _).mpr ⟨hmethod, rfl⟩, rfl⟩
  · intro s request e hpath h he
    obtain ⟨-, rfl⟩ := (refuses hpath h e).mp he
    obtain ⟨attempts, hending⟩ := exists_ending (w := w) (made hpath h).opens
    have hanswer := hending.answer
    rw [he.ended] at hanswer
    refine ⟨rfl, mergeSort_sortedSet _, ?_⟩
    cases hresponse : (d.dispatch w s request).1 with
    | ok response =>
      rw [hresponse] at hanswer
      exact ⟨response, rfl, hanswer.status_error.1⟩
    | error f =>
      -- A refusal has the reason of its status.
      rw [hresponse] at hanswer
      obtain ⟨⟨e, hrefusal, -, hreason⟩, -⟩ := hanswer.of_error
      cases hrefusal
      cases hreason

end Dispatcher

namespace Session

/-- Documents, which can be read and written. -/
def documentClass : ClassSpec where
  name := .plain "Document" "documents"
  values := [("path", .text "/documents/:id")]
  actions := [("get", .result (.value (.text "Hello"))), ("put", .result (.value (.text "Thanks")))]

/-- Sealed documents, which cannot be read. -/
def sealedClass : ClassSpec where
  name := .plain "Sealed" "documents"
  parent := "Document"
  values := [("path", .text "/sealed/:id"), ("get", .null)]

/-- A session with sealed documents. -/
def vault : Session :=
  (start .base .empty).after [.define documentClass, .define sealedClass, .add 2 none none]

/-- What sealed documents have themselves, and what they inherit. -/
def sealedAncestry : Ancestry :=
  vault.app.hierarchy.ancestry 2

/-- The dispatcher for sealed documents. -/
def vaultDispatcher : Dispatcher ClassId :=
  { filesDispatcher with routes := vault.table.freeze }

/-- The set of methods of a sealed document, and a request that is held against it. -/
theorem exists_allowSet_sealed :
    vaultDispatcher.config.validate = .ok () ∧ (Text.ofString "/sealed/7").head? = some (.char '/') ∧
      vaultDispatcher.Undisturbed (.ofRequest (get "/sealed/7") "a1b2c3d4") ∧
      (vault.app.world.resource 2).Inherits sealedAncestry ∧
      ∃ m, vaultDispatcher.routes.lookup "/sealed/7" = some m ∧ vaultDispatcher.factory m.route.resource = .ok 2 ∧
        ∃ methods, vaultDispatcher.AllowSet vault.app.world "/sealed/7" m sealedAncestry methods := by
  have hvalid : vaultDispatcher.config.validate = .ok () := by decide
  have habsolute : (Text.ofString "/sealed/7").head? = some (.char '/') := rfl
  have hinherits : (vault.app.world.resource 2).Inherits sealedAncestry := Hierarchy.inherits_resource _ 2
  have hundisturbed : vaultDispatcher.Undisturbed (.ofRequest (get "/sealed/7") "a1b2c3d4") :=
    Dispatcher.undisturbed_of_default rfl rfl (by decide) rfl rfl
  exact ⟨hvalid, habsolute, hundisturbed, hinherits, _, rfl, rfl,
    Dispatcher.exists_allowSet hvalid vault.app.world habsolute rfl rfl hinherits⟩

/-- A member that is no action hides the one it is inherited in place of, also from the action for `HEAD`. -/
example : knownMethods.filter (sealedAncestry.Answers ·) = ["PUT"] := by decide

/-- A dispatcher with files for all paths. -/
def anyDispatcher : Dispatcher ClassId :=
  { filesDispatcher with routes := ⟨[⟨1, "*", "", .wildcard .nil⟩], true⟩ }

/-- A request that is not for a path. -/
def asterisk : Request :=
  { get "*" with method := "OPTIONS" }

/-- **A path that is not absolute has no such set.** A route may match it, but it is refused before routing. -/
theorem not_allowSet_asterisk :
    anyDispatcher.config.validate = .ok () ∧ anyDispatcher.Undisturbed (.ofRequest asterisk "a1b2c3d4") ∧
      (files.app.world.resource 1).Inherits (files.app.hierarchy.ancestry 1) ∧
      (∃ response, (anyDispatcher.dispatch files.app.world .forPage asterisk).1 = .ok response ∧
        response.status = 404) ∧
      ∃ m, anyDispatcher.routes.lookup "*" = some m ∧ anyDispatcher.factory m.route.resource = .ok 1 ∧
        ¬ ∃ methods, anyDispatcher.AllowSet files.app.world "*" m (files.app.hierarchy.ancestry 1) methods := by
  have hundisturbed : anyDispatcher.Undisturbed (.ofRequest asterisk "a1b2c3d4") := ⟨nofun, rfl⟩
  refine ⟨by decide, hundisturbed, Hierarchy.inherits_resource _ 1, ⟨_, rfl, rfl⟩, _, rfl, rfl, ?_⟩
  rintro ⟨methods, h⟩
  have hmethod : Text.upperString asterisk.method ∉ methods := by
    intro hmem
    exact absurd ((h.mem_iff _).mp hmem).1 (by decide)
  obtain ⟨e, he, -⟩ := (h.refused_iff .forPage asterisk rfl hundisturbed).mpr hmethod
  cases he.binds.found

end Session

end HttpRouter
