import HttpRouter.Proofs.Dispatch.Order
import HttpRouter.Proofs.Serving
import HttpRouter.Proofs.Sessions

/-!
# Links that are followed

A link is made by a template, and matches it. A dispatcher asks its initializers first, though, and one of them redirects
every path that ends in a slash. So a link that is followed either is such a path, because a wildcard took a text that is
empty or ends in a slash, or because the template ends in one; or it gets to a route, and an instance is asked for.

* `Dispatcher.opens_of_default`, `Dispatcher.stages_of_trailing`: what the default initializers make of a path;
* `Dispatcher.binds_of_course`: with a route for its path, a request gets to the binding of that route.
-/

namespace HttpRouter

variable {κ : Type}

/-! ## The default initializers -/

namespace Initializer

/-- Whether a path is longer than `/` and ends in a slash. -/
def Trailing (path : Letters) : Prop :=
  1 < path.length ∧ path.getLast? = some (.char '/')

instance (path : Letters) : Decidable (Trailing path) :=
  inferInstanceAs (Decidable (_ ∧ _))

theorem apply_noTrailingSlash_of_not {x : Exchange} (h : ¬ Trailing x.path) : noTrailingSlash.apply x = pass x := by
  rw [apply, applyNoTrailingSlash, if_pos]
  rw [Trailing, not_and_or, Nat.not_lt] at h
  exact h

theorem apply_noTrailingSlash_of_trailing {x : Exchange} (h : Trailing x.path) (hquery : x.query = "") :
    (noTrailingSlash.apply x).result = .ok (some (.redirect .movedPermanently (withoutTrailingSlash x.path) "")) := by
  rw [apply, applyNoTrailingSlash, if_neg, hquery]
  · rfl
  · rw [not_or, Nat.not_le, not_not]
    exact h

/-- Without a query there is nothing to take a method from. -/
theorem apply_methodOverride_of_empty {x : Exchange} (h : x.request.query = "") (param : String)
    (allowed : List String) : (methodOverride param allowed).apply x = pass x := by
  have hnamed : namedMethod param x.request = "" := by
    rw [namedMethod, Request.queryValue?, Request.params, h]
    rfl
  rw [apply, applyOverride, hnamed]
  exact if_neg fun hmethod => absurd hmethod.2 (by decide)

end Initializer

/-- The default initializers redirect trailing slashes, and let a query parameter stand in for the method. -/
theorem Config.initializers_default :
    ∃ allowed, ({} : Config).initializers = [.noTrailingSlash, .methodOverride "_method" allowed] :=
  ⟨_, rfl⟩

namespace Dispatcher

open Initializer (Trailing withoutTrailingSlash pass)

section Default

variable {d : Dispatcher κ} (hdefault : d.initializers = ({} : Config).initializers)
include hdefault

/-- None of the default initializers moves an exchange. -/
theorem still_of_default : ∀ i ∈ d.initializers, ∀ x, i.moves x = [] := by
  obtain ⟨allowed, hinitializers⟩ := Config.initializers_default
  rw [hdefault, hinitializers]
  intro i hi x
  rcases List.mem_cons.mp hi with rfl | hi
  · rfl
  · obtain rfl := List.mem_singleton.mp hi
    rfl

/-- **An absolute path without a slash at its end goes on to routing**, if there is no query. -/
theorem opens_of_default {x : Exchange} (habsolute : x.path.head? = some (.char '/')) (htrailing : ¬ Trailing x.path)
    (hquery : x.request.query = "") (hidle : x.stage = .idle) : d.Opens x ∧ d.prepared x = x := by
  obtain ⟨allowed, hinitializers⟩ := Config.initializers_default
  have hslash : Initializer.noTrailingSlash.apply x = pass x := Initializer.apply_noTrailingSlash_of_not htrailing
  have hmethod : (Initializer.methodOverride "_method" allowed).apply x = pass x :=
    Initializer.apply_methodOverride_of_empty hquery _ _
  have hexecuted : d.executed x = [(.noTrailingSlash, x), (.methodOverride "_method" allowed, x)] := by
    rw [executed, if_neg (not_not_intro habsolute), hdefault, hinitializers,
      Initializer.applied_of_passed (by rw [hslash]; rfl), hslash]
    show _ :: Initializer.applied [Initializer.methodOverride "_method" allowed] x = _
    rw [Initializer.applied_of_passed (by rw [hmethod]; rfl)]
    rfl
  have hprepared : d.prepared x = x := by
    rw [prepared, hexecuted]
    show ((Initializer.methodOverride "_method" allowed).apply x).exchange = x
    rw [hmethod]
    rfl
  refine ⟨⟨habsolute, ?_, (congrArg Exchange.stage hprepared).trans hidle⟩, hprepared⟩
  rw [hexecuted]
  intro step hstep
  rcases List.mem_cons.mp hstep with rfl | hstep
  · rw [hslash]
    rfl
  · obtain rfl := List.mem_singleton.mp hstep
    rw [hmethod]
    rfl

/-- **A path with a slash at its end is redirected**, whatever routes there are. -/
theorem stages_of_trailing (w : World κ) {r : Run κ} (habsolute : r.exchange.path.head? = some (.char '/'))
    (htrailing : Trailing r.exchange.path) (hquery : r.exchange.query = "") :
    (d.stages w r).1 = .ok (.error (.redirect .movedPermanently (withoutTrailingSlash r.exchange.path) "")) := by
  obtain ⟨allowed, hinitializers⟩ := Config.initializers_default
  have hresult := Initializer.apply_noTrailingSlash_of_trailing htrailing hquery
  have hall : applyAll d.initializers r =
      (.ok (some (.redirect .movedPermanently (withoutTrailingSlash r.exchange.path) "")),
        (applyOne .noTrailingSlash r).2) := by
    rw [hdefault, hinitializers, applyAll_of_ended (by rw [hresult]; nofun), ← hresult]
    rfl
  have hprepare : d.prepare r =
      (.ok (some (.redirect .movedPermanently (withoutTrailingSlash r.exchange.path) "")),
        (applyOne .noTrailingSlash r).2) := by
    rw [prepare, Step.bind_of_ok (s := Step.exchange) rfl, if_neg (not_not_intro habsolute), Step.bind_of_ok hall]
    rfl
  rw [stages, Step.bind_of_ok hprepare]
  rfl

end Default

/-! ## Binding -/

variable (d : Dispatcher κ) (w : World κ)

/-- A run got to binding: a route was found for the path, which is the first one that matches it, the exchange moved
there, and the factory was asked for an instance. -/
structure Binds (path : Letters) (m : RouteMatch κ) (r : Run κ) : Prop where
  first : d.routes.lookup path = some m
  found : r.found = some m
  moved : .move .matching .bound ∈ r.acts
  factory : .factory m.route.resource ∈ r.acts

/-- What is done behind it does not take anything back. -/
theorem Binds.followed {path : Letters} {m : RouteMatch κ} {r : Run κ} (h : d.Binds path m r) (j : Journal κ) :
    d.Binds path m (r.followed j) := by
  refine ⟨h.first, h.found, ?_, ?_⟩
  · rw [Run.acts_followed]
    exact List.mem_append_left _ h.moved
  · rw [Run.acts_followed]
    exact List.mem_append_left _ h.factory

theorem Binds.atStage {path : Letters} {m : RouteMatch κ} {r : Run κ} (h : d.Binds path m r) (stage : Stage) :
    d.Binds path m (r.moved stage) := by
  refine ⟨h.first, h.found, ?_, ?_⟩
  · rw [Run.acts_moved]
    exact List.mem_append_left _ h.moved
  · rw [Run.acts_moved]
    exact List.mem_append_left _ h.factory

/-- A run that found its route gets to binding when the factory is called. -/
theorem binds_routed {r : Run κ} {m : RouteMatch κ} (h : d.Routed r.exchange m) :
    d.Binds (d.prepared r.exchange).path m ((d.routed r m).noted (.factory m.route.resource)) := by
  refine ⟨h.route, rfl, ?_, ?_⟩
  · rw [Run.acts_noted, routed, Run.acts_moved]
    exact List.mem_append_left _ (List.mem_append_right _ List.mem_cons_self)
  · rw [Run.acts_noted]
    exact List.mem_append_right _ List.mem_cons_self

/-- **With a route for its path, a request gets to binding**, whatever course it takes then. -/
theorem binds_of_course {r run : Run κ} {result : Except Failure Outcome} {m : RouteMatch κ}
    (h : d.Course w r result run) (hopens : d.Opens r.exchange)
    (hroute : d.routes.lookup (d.prepared r.exchange).path = some m) :
    d.Binds (d.prepared r.exchange).path m run := by
  have same : ∀ {m' : RouteMatch κ}, d.Routed r.exchange m' → m' = m :=
    fun h' => Option.some.inj (h'.route.symm.trans hroute)
  have hbinds := d.binds_routed ⟨hopens, hroute⟩
  cases h with
  | ended h => exact absurd hopens h
  | unrouted _ hnone =>
    rw [hnone] at hroute
    cases hroute
  | unmade h =>
    obtain rfl := same h
    exact hbinds
  | refused h =>
    obtain rfl := same h.toRouted
    exact hbinds
  | uninitialized h =>
    obtain rfl := same h.toRouted
    exact hbinds.followed d _
  | handled h =>
    obtain rfl := same h.toRouted
    exact (((hbinds.followed d _).atStage d _).followed d _)

/-- So it is in the run of its whole dispatch. -/
theorem Binds.ended {path : Letters} {m : RouteMatch κ} {r : Run κ} (h : d.Binds path m r) {s : Surroundings}
    {result : Except Failure Outcome} {attempts : List Attempt} {ended : Except Failure Response × Run κ}
    (hending : d.Ending w s result r attempts ended) : d.Binds path m ended.2 := by
  have hresponded := ((h.followed d (d.endingEvents r.exchange result)).atStage d .responding).followed d
    (attempts.flatMap d.attemptEvents)
  cases hending with
  | answered => exact (hresponded.atStage d .done).followed d _
  | unanswered => exact hresponded

/-- The answer to a redirect, with its location if that has an encoding. -/
theorem answer_redirect {renderer : Renderer} {requestId : String} {location : Letters} {attempts : List Attempt}
    {answer : Except Failure Response}
    (h : renderer.Answer requestId (.error (.redirect .movedPermanently location "")) attempts answer) :
    ∃ response, answer = .ok response ∧ response.status = 301 ∧ response.reason = Status.movedPermanently.phrase ∧
      ((Text.plain? location).isSome → response.headers.get? "Location" = some location) := by
  cases answer with
  | error f =>
    obtain ⟨⟨e, he, -, hreason⟩, -⟩ := h.of_error
    cases he
    cases hreason
  | ok response =>
    refine ⟨response, rfl, h.status_error.1, h.status_error.2, fun hplain => ?_⟩
    obtain ⟨t, ht⟩ := Option.isSome_iff_exists.mp hplain
    obtain rfl := Text.plain?_eq_some_iff.mp ht
    have hbody : Text.encoded (HttpError.redirect .movedPermanently (Text.ofChars t) "").message =
        .ok (Text.Utf8.encode ("Redirecting to ".toList ++ t)) := by
      refine Text.encoded_eq_ok_iff.mpr ⟨_, ?_, rfl⟩
      rw [Text.ofChars_append]
      rfl
    obtain ⟨-, hresponse⟩ := h.unique (.redirected rfl hbody)
    cases hresponse
    rfl

end Dispatcher

/-! ## Following a link -/

namespace Session

open Initializer (Trailing withoutTrailingSlash)

/-- **What becomes of a link that is followed.** In every session that starts with an empty table, let a dispatcher with
the default configuration be made for the table, without initializers of its own. A request for a path that it links to
a resource, whose template starts with a slash, is redirected, if it has no query, to the path without the slashes at its
end if the path is longer than `/` and ends in one. Otherwise it gets to binding the first route that matches the path,
and is answered unless its outcome is an error that cannot be. -/
theorem dispatch_of_link (app : Application) (commands : List Command) {wiring : Wiring} {d : Dispatcher ClassId}
    (hconfig : wiring.config = {}) (hextra : wiring.initializers = [])
    (hmake : wiring.dispatcher ((start app .empty).after commands).table = .ok d) {id : ClassId}
    {first : Route ClassId} (hfirst : d.routes.find? id = some first) (hslash : first.source.head? = some (.char '/'))
    {name : String} {path : Letters} {values : List Value} (hlink : d.routes.link id name values = .ok path)
    {request : Request} (hpath : request.path = path) (hquery : request.query = "") (w : World ClassId)
    (s : Dispatcher.Surroundings) :
    (Trailing path ∧ ∃ response, (d.dispatch w s request).1 = .ok response ∧ response.status = 301 ∧
        ((Text.plain? (withoutTrailingSlash path)).isSome →
          response.headers.get? "Location" = some (withoutTrailingSlash path))) ∨
      (¬ Trailing path ∧ (∃ m, m.route ∈ d.routes.routes ∧ d.Binds path m (d.dispatch w s request).2) ∧
        ((∃ f, (d.dispatch w s request).1 = .error f) ↔
          d.renderer.Unanswerable (d.resolve w (Dispatcher.start request s)).1)) := by
  obtain ⟨hroutes, hinitializers⟩ := Wiring.dispatcher_eq_ok hmake
  have hdefault : d.initializers = ({} : Config).initializers := by
    rw [hinitializers, hconfig, hextra, List.append_nil]
  obtain ⟨before, after, hsplit, -, -⟩ := RouteTable.find?_eq_some_iff.mp hfirst
  -- The template of the route was read from its source, so that the link starts with a slash.
  have hwell : ((start app .empty).after commands).table.WellRead := by
    refine wellRead_after ?_ commands
    rintro route ⟨⟩
  have hread : Template.ofString first.source = .ok first.template := by
    refine hwell first ?_
    rw [← RouteTable.routes_freeze, ← hroutes, hsplit]
    exact List.mem_append_right _ List.mem_cons_self
  have hlinked : first.link values = .ok path := by
    rw [RouteTable.link, hfirst] at hlink
    exact hlink
  have habsolute : request.path.head? = some (.char '/') := by
    rw [hpath]
    exact Template.head?_of_link? hread hslash hlinked
  obtain ⟨attempts, hending⟩ :=
    d.dispatch_of_not_isClosing w
      (Dispatcher.isClosing_resolve (w := w) (Dispatcher.still_of_default hdefault) request s)
  have hanswer := hending.answer
  by_cases htrailing : Trailing path
  · have hstages := Dispatcher.stages_of_trailing hdefault w (r := Dispatcher.start request s) habsolute
      (show Trailing request.path from hpath ▸ htrailing) hquery
    rw [hstages] at hanswer
    obtain ⟨response, hresponse, hstatus, -, hlocation⟩ := Dispatcher.answer_redirect hanswer
    rw [← hpath]
    exact .inl ⟨hpath ▸ htrailing, response, hresponse, hstatus, hlocation⟩
  · -- The path matches the route of the link, so that some route is found for it.
    obtain ⟨m, hm, -⟩ := RouteTable.lookup_of_isSome hsplit (Route.isSome_match?_of_link hlinked)
    have hmem : m.route ∈ d.routes.routes := by
      obtain ⟨before, after, hrouted, -⟩ := RouteTable.lookup_eq_some_iff.mp hm
      rw [hrouted]
      exact List.mem_append_right _ List.mem_cons_self
    obtain ⟨hopens, hprepared⟩ := Dispatcher.opens_of_default (x := (Dispatcher.start request s : Run ClassId).exchange)
      hdefault habsolute (show ¬ Trailing request.path from hpath ▸ htrailing) hquery rfl
    have hroute : d.routes.lookup (d.prepared (Dispatcher.start request s : Run ClassId).exchange).path = some m := by
      rw [hprepared]
      show d.routes.lookup request.path = some m
      rw [hpath, hm]
    have hbinds := d.binds_of_course w (d.course_stages w (Dispatcher.start request s)) hopens hroute
    rw [hprepared] at hbinds
    refine .inr ⟨htrailing, ⟨m, hmem, ?_⟩, ?_⟩
    · rw [← hpath]
      exact hbinds.ended d w hending
    · rw [d.resolve_eq w]
      exact hanswer.unanswerable_iff

/-- A class whose paths are those of files. -/
def filesClass : ClassSpec where
  name := .plain "Files" "files"
  values := [("path", .text "/files/*")]
  actions := [("get", .result (.value (.text "Hello")))]

/-- What is done to have files only. -/
def filesOnly : List Command := [.define filesClass, .add 1 none none]

/-- A session with files only. -/
def files : Session := (start .base .empty).after filesOnly

/-- The default configuration, and nothing else. -/
def plain : Wiring where
  config := {}
  renderer := none
  views := .ofFiles []
  factory := Dispatcher.plainFactory
  observer := .log
  initializers := []

/-- The dispatcher for files only. -/
def filesDispatcher : Dispatcher ClassId where
  config := {}
  routes := files.table.freeze
  renderer := .text
  factory := Dispatcher.plainFactory
  observer := .log
  initializers := ({} : Config).initializers

/-- A request without a query. -/
def get (path : Letters) : Request where
  method := "GET"
  path
  query := ""
  headers := []
  body := []

/-- The link to a file is followed to its resource. -/
theorem dispatch_of_link_file :
    plain.dispatcher files.table = .ok filesDispatcher ∧
      filesDispatcher.routes.link 1 "Files" [.text "a b", .text "c.txt"] = .ok "/files/a%20b/c.txt" ∧
      ¬ Trailing "/files/a%20b/c.txt" ∧
      (∃ m, m.route ∈ filesDispatcher.routes.routes ∧ filesDispatcher.Binds "/files/a%20b/c.txt" m
        (filesDispatcher.dispatch files.app.world .forPage (get "/files/a%20b/c.txt")).2) ∧
      ((∃ f, (filesDispatcher.dispatch files.app.world .forPage (get "/files/a%20b/c.txt")).1 = .error f) ↔
        Renderer.text.Unanswerable
          (filesDispatcher.resolve files.app.world (Dispatcher.start (get "/files/a%20b/c.txt") .forPage)).1) := by
  have hmake : plain.dispatcher files.table = .ok filesDispatcher := rfl
  have hlink : filesDispatcher.routes.link 1 "Files" [.text "a b", .text "c.txt"] = .ok "/files/a%20b/c.txt" := rfl
  have hfirst : filesDispatcher.routes.find? 1 = some ⟨1, "/files/*", "", .literal "/files/" (.wildcard .nil)⟩ := rfl
  have hnot : ¬ Trailing "/files/a%20b/c.txt" := by decide
  have hpath : (get "/files/a%20b/c.txt").path = "/files/a%20b/c.txt" := rfl
  have hfollowed := dispatch_of_link .base filesOnly rfl rfl hmake hfirst rfl hlink hpath rfl files.app.world .forPage
  exact ⟨hmake, hlink, hfollowed.resolve_left fun h => hnot h.1⟩

/-- The link to the empty file is redirected before there is a route. -/
theorem redirect_of_link_empty :
    filesDispatcher.routes.link 1 "Files" [.text ""] = .ok "/files/" ∧
      (∃ response, (filesDispatcher.dispatch files.app.world .forPage (get "/files/")).1 = .ok response ∧
        response.status = 301 ∧ response.headers.get? "Location" = some (Text.ofString "/files")) ∧
      (filesDispatcher.dispatch files.app.world .forPage (get "/files/")).2.found = none :=
  ⟨rfl, ⟨_, rfl, rfl, rfl⟩, rfl⟩

end Session

end HttpRouter
