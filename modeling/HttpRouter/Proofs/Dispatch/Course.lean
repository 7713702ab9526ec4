import HttpRouter.Proofs.Dispatch.Resolving

/-!
# The course of resolving

Resolving a request goes through the initializers, the route table, the factory, `init` and the handler, and may end at
each of them. What it leaves is the run it started from, with a few events more: which ones follows from the stage that
it got to.

* `Initializer.leave_frame`: initializers change method, path and stage of an exchange only.
* `Dispatcher.course_stages`: the ways in which resolving may go, each with its result and the run that it leaves.
-/

namespace HttpRouter

variable {κ : Type}

/-! ## Runs that go on -/

/-- The record of a move from one stage to another. -/
def LogRecord.ofMove (requestId : String) (a b : Stage) : LogRecord :=
  .dispatcher .debug ("[" ++ requestId ++ "] " ++ (a.name ++ " -> " ++ b.name))

namespace Run

/-- A run in which events follow. -/
def followed (r : Run κ) (j : Journal κ) : Run κ :=
  { r with journal := r.journal ++ j }

/-- A run that notes an event. -/
def noted (r : Run κ) (e : Event κ) : Run κ :=
  r.followed [e]

/-- A run that moves on to a stage. -/
def moved (r : Run κ) (stage : Stage) : Run κ :=
  { r with
    exchange := { r.exchange with stage }
    journal := r.journal ++ [.logged (.ofMove r.exchange.requestId r.exchange.stage stage)] }

/-- A run that found its route. -/
def matched (r : Run κ) (m : RouteMatch κ) : Run κ :=
  { r with found := some m }

@[simp] theorem exchange_followed (r : Run κ) (j : Journal κ) : (r.followed j).exchange = r.exchange := rfl

@[simp] theorem followed_nil (r : Run κ) : r.followed [] = r := by
  simp [followed]

theorem followed_append (r : Run κ) (j j' : Journal κ) : r.followed (j ++ j') = (r.followed j).followed j' := by
  simp [followed]

@[simp] theorem exchange_noted (r : Run κ) (e : Event κ) : (r.noted e).exchange = r.exchange := rfl

@[simp] theorem exchange_matched (r : Run κ) (m : RouteMatch κ) : (r.matched m).exchange = r.exchange := rfl

@[simp] theorem exchange_moved (r : Run κ) (stage : Stage) :
    (r.moved stage).exchange = { r.exchange with stage } := rfl

end Run

namespace Step

theorem note_eq (e : Event κ) (r : Run κ) : note e r = (.ok (), r.noted e) := rfl

/-- A move that is possible is made. -/
theorem advance_eq_moved {stage : Stage} {r : Run κ} (h : r.exchange.stage.mayFollow stage = true) :
    advance stage r = (.ok (), r.moved stage) := by
  rw [advance, Exchange.advance, h]
  rfl

end Step

/-! ## The initializers -/

namespace Initializer

/-- What the initializers of a list do to an exchange. -/
def leave (steps : List (Initializer × Exchange)) (x : Exchange) : Exchange :=
  steps.foldl (fun _ step => (step.1.apply step.2).exchange) x

/-- What the journal shows of initializers: each of them, with what it logged. -/
def events (steps : List (Initializer × Exchange)) : Journal κ :=
  steps.flatMap fun step => .initializer step.1 :: (step.1.apply step.2).records.map .logged

/-- Effects change method, path and stage of an exchange only. -/
theorem applyEffects_frame (x : Exchange) (records : List LogRecord) (effects : List Effect) :
    ∃ method path stage, (applyEffects x records effects).exchange = { x with method, path, stage } := by
  induction effects generalizing x records with
  | nil => exact ⟨_, _, _, rfl⟩
  | cons effect rest ih =>
    cases effect with
    | setMethod method => exact ih { x with method } records
    | setPath path => exact ih { x with path } records
    | advance stage =>
      rw [applyEffects]
      cases h : x.advance stage with
      | ok moved =>
        obtain ⟨y, record⟩ := moved
        obtain ⟨-, rfl⟩ := Exchange.advance_eq_ok h
        exact ih { x with stage } _
      | error f => exact ⟨_, _, _, rfl⟩
    | stop e => exact ⟨_, _, _, rfl⟩
    | fail f => exact ⟨_, _, _, rfl⟩

/-- **An initializer changes method, path and stage of an exchange only.** -/
theorem apply_frame (i : Initializer) (x : Exchange) :
    ∃ method path stage, (i.apply x).exchange = { x with method, path, stage } := by
  cases i with
  | noTrailingSlash => exact ⟨_, _, _, applyNoTrailingSlash_exchange x⟩
  | methodOverride param allowed =>
    rw [apply, applyOverride]
    dsimp only
    split <;> exact ⟨_, _, _, rfl⟩
  | allowedMethods allowed =>
    rw [apply]
    split <;> exact ⟨_, _, _, rfl⟩
  | custom effects => exact applyEffects_frame x [] (effects x)

/-- Nor do initializers one after the other change anything else. -/
theorem leave_frame (is : List Initializer) (x : Exchange) :
    ∃ method path stage, leave (applied is x) x = { x with method, path, stage } := by
  induction is generalizing x with
  | nil => exact ⟨_, _, _, rfl⟩
  | cons i rest ih =>
    obtain ⟨method, path, stage, hone⟩ := i.apply_frame x
    by_cases hpass : (i.apply x).result = .ok none
    · obtain ⟨method', path', stage', hrest⟩ := ih (i.apply x).exchange
      rw [applied_of_passed hpass, leave, List.foldl_cons]
      refine ⟨method', path', stage', ?_⟩
      rw [leave] at hrest
      rw [hrest, hone]
    · rw [applied_of_ended hpass]
      exact ⟨_, _, _, hone⟩

end Initializer

namespace Dispatcher

open Initializer (applied leave events)

/-- Initializers leave behind what the last one of them made of the exchange, and the events of all of them. -/
theorem applyAll_run (is : List Initializer) (r : Run κ) :
    (applyAll is r).2 =
      { r with
        exchange := leave (applied is r.exchange) r.exchange
        journal := r.journal ++ events (applied is r.exchange) } := by
  induction is generalizing r with
  | nil =>
    show r = { r with journal := r.journal ++ [] }
    rw [List.append_nil]
  | cons i rest ih =>
    by_cases hpass : (i.apply r.exchange).result = .ok none
    · rw [applyAll_of_passed hpass, Initializer.applied_of_passed hpass, ih]
      simp [applyOne, leave, events]
    · rw [applyAll_of_ended hpass, Initializer.applied_of_ended hpass]
      simp [applyOne, leave, events]

/-- All of them were applied if each of them lets the exchange pass. -/
theorem applyAll_eq_none_iff (is : List Initializer) (r : Run κ) :
    (applyAll is r).1 = .ok none ↔ ∀ step ∈ applied is r.exchange, (step.1.apply step.2).result = .ok none := by
  induction is generalizing r with
  | nil => simp [applyAll, applied, Step.pure]
  | cons i rest ih =>
    by_cases hpass : (i.apply r.exchange).result = .ok none
    · rw [applyAll_of_passed hpass, Initializer.applied_of_passed hpass, ih]
      simp [applyOne, hpass]
    · rw [applyAll_of_ended hpass, Initializer.applied_of_ended hpass]
      simp [applyOne]

variable (d : Dispatcher κ) (w : World κ)

/-- The exchange as the initializers leave it. -/
def prepared (x : Exchange) : Exchange :=
  leave (d.executed x) x

theorem prepared_frame (x : Exchange) : ∃ method path stage, d.prepared x = { x with method, path, stage } := by
  rw [prepared, executed]
  split
  · exact ⟨_, _, _, rfl⟩
  · exact Initializer.leave_frame d.initializers x

/-- The run after the initializers. -/
def opened (r : Run κ) : Run κ :=
  { r with
    exchange := d.prepared r.exchange
    journal := r.journal ++ events (d.executed r.exchange) }

/-- Whether an exchange goes on to routing. -/
structure Opens (x : Exchange) : Prop where
  absolute : x.path.head? = some (.char '/')
  passed : ∀ step ∈ d.executed x, (step.1.apply step.2).result = .ok none
  idle : (d.prepared x).stage = .idle

theorem prepare_of_opens {r : Run κ} (h : d.Opens r.exchange) :
    d.prepare r = (.ok none, (d.opened r).moved .matching) := by
  have habsolute : ¬ r.exchange.path.head? ≠ some (.char '/') := not_not_intro h.absolute
  have hexecuted : d.executed r.exchange = applied d.initializers r.exchange := if_neg habsolute
  have hall : applyAll d.initializers r = (.ok none, d.opened r) := by
    refine Prod.ext ?_ ?_
    · rw [applyAll_eq_none_iff, ← hexecuted]
      exact h.passed
    · rw [applyAll_run, opened, prepared, hexecuted]
  have hmove : (d.opened r).exchange.stage.mayFollow .matching = true := by
    show (d.prepared r.exchange).stage.mayFollow .matching = true
    rw [h.idle]
    rfl
  rw [prepare, Step.bind_of_ok (s := Step.exchange) rfl, if_neg habsolute, Step.bind_of_ok hall]
  exact Step.bind_of_ok (Step.advance_eq_moved hmove) _

theorem prepare_of_not_opens {r : Run κ} (h : ¬ d.Opens r.exchange) :
    (d.prepare r).1 ≠ .ok none ∧ (d.prepare r).2 = d.opened r := by
  rw [prepare, Step.bind_of_ok (s := Step.exchange) rfl]
  by_cases habsolute : r.exchange.path.head? ≠ some (.char '/')
  · rw [if_pos habsolute]
    refine ⟨?_, ?_⟩
    · intro hended
      cases hended
    show r = d.opened r
    have hexecuted : d.executed r.exchange = [] := if_pos habsolute
    simp [opened, prepared, hexecuted, leave, events]
  · have hexecuted : d.executed r.exchange = applied d.initializers r.exchange := if_neg habsolute
    have hrun : (applyAll d.initializers r).2 = d.opened r := by
      rw [applyAll_run, opened, prepared, hexecuted]
    have hpassed := applyAll_eq_none_iff d.initializers r
    rw [if_neg habsolute]
    rcases hall : applyAll d.initializers r with ⟨f | ended, r'⟩
    · rw [hall] at hrun
      rw [Step.bind_of_error hall]
      refine ⟨?_, hrun⟩
      intro hended
      cases hended
    · rw [hall] at hrun hpassed
      rw [Step.bind_of_ok hall]
      cases ended with
      | some e =>
        refine ⟨?_, hrun⟩
        intro hended
        cases hended
      | none =>
        have hidle : (d.prepared r.exchange).stage ≠ .idle := by
          intro hidle
          exact h ⟨Decidable.not_not.mp habsolute, hexecuted ▸ hpassed.mp rfl, hidle⟩
        have hmove : r'.exchange.stage.mayFollow .matching = false := by
          rw [show r' = d.opened r from hrun]
          show (d.prepared r.exchange).stage.mayFollow .matching = false
          revert hidle
          cases (d.prepared r.exchange).stage <;> decide
        dsimp only
        rw [Step.bind_of_error (Step.advance_of_not_mayFollow hmove)]
        refine ⟨?_, hrun⟩
        intro hended
        cases hended

/-! ## Routing -/

theorem matchRoute_of_none {r : Run κ} (h : d.routes.lookup r.exchange.path = none) :
    d.matchRoute r = (.ok (.error (.notFound ("No resource matches " ++ r.exchange.path))), r) := by
  rw [matchRoute, Step.bind_of_ok (s := Step.exchange) rfl]
  simp only [h]
  rfl

theorem matchRoute_of_some {r : Run κ} {m : RouteMatch κ} (h : d.routes.lookup r.exchange.path = some m)
    (hstage : r.exchange.stage = .matching) :
    d.matchRoute r = (.ok (.ok m), (r.matched m).moved .bound) := by
  have hmove : (r.matched m).exchange.stage.mayFollow .bound = true := by
    rw [Run.exchange_matched, hstage]
    rfl
  rw [matchRoute, Step.bind_of_ok (s := Step.exchange) rfl]
  simp only [h]
  rw [Step.bind_of_ok (s := noteMatch m) rfl]
  exact Step.bind_of_ok (Step.advance_eq_moved hmove) _

/-! ## Binding -/

/-- The instance that answers, before it is initialized. -/
def bound (w : World κ) (x : Exchange) (m : RouteMatch κ) (c : κ) : Instance :=
  let fresh := Instance.fresh (w.resource c) w.directory
  { fresh with
    request := some x.request
    attributes := fresh.attributes.set "params" (paramsValue m.params) }

/-- Whether the method of an exchange is allowed and a class answers to it. -/
def serves (x : Exchange) (c : κ) : Bool :=
  d.config.allowedMethods.contains x.method && (w.resource c).implements x.method

theorem bindResource_of_unmade {m : RouteMatch κ} {f : Failure} (h : d.factory m.route.resource = .error f)
    (r : Run κ) : d.bindResource w m r = (.error f, r.noted (.factory m.route.resource)) := by
  rw [bindResource, Step.bind_of_ok (Step.note_eq _ _)]
  refine Step.bind_of_error ?_ _
  rw [h]
  rfl

section Made

variable {d w} {m : RouteMatch κ} {c : κ} {r : Run κ} (h : d.factory m.route.resource = .ok c)
include h

theorem bindResource_of_refused (hserves : d.serves w r.exchange c = false) :
    d.bindResource w m r =
      (.ok (.error ((w.resource c).refusal d.config.allowedMethods)), r.noted (.factory m.route.resource)) := by
  have hmade : Step.ofExcept (d.factory m.route.resource) (r.noted (.factory m.route.resource)) =
      (.ok c, r.noted (.factory m.route.resource)) := by rw [h]; rfl
  rw [bindResource, Step.bind_of_ok (Step.note_eq _ _), Step.bind_of_ok hmade, Step.bind_of_ok (s := Step.exchange) rfl]
  dsimp only
  rw [if_pos]
  · rfl
  · rw [Run.exchange_noted, ← Bool.not_and]
    show (!d.serves w r.exchange c) = true
    rw [hserves]
    rfl

/-- What is left to do when the method is served: the instance is initialized. -/
theorem bindResource_of_serves (hserves : d.serves w r.exchange c = true) :
    d.bindResource w m r =
      (Step.ofExcept ((bound w r.exchange m c).perform "init").1 >>= fun _ => Step.advance .executing >>= fun _ =>
        pure (.ok (c, ((bound w r.exchange m c).perform "init").2)))
        ((r.noted (.factory m.route.resource)).noted (.init c m.params)) := by
  have hmade : Step.ofExcept (d.factory m.route.resource) (r.noted (.factory m.route.resource)) =
      (.ok c, r.noted (.factory m.route.resource)) := by rw [h]; rfl
  rw [bindResource, Step.bind_of_ok (Step.note_eq _ _), Step.bind_of_ok hmade, Step.bind_of_ok (s := Step.exchange) rfl]
  dsimp only
  rw [if_neg]
  · rw [Step.bind_of_ok (Step.note_eq _ _)]
    rfl
  · rw [Run.exchange_noted, ← Bool.not_and]
    show ¬ (!d.serves w r.exchange c) = true
    rw [hserves]
    decide

theorem bindResource_of_uninitialized (hserves : d.serves w r.exchange c = true) {i : Instance}
    (hbound : bound w r.exchange m c = i) {f : Failure} (hinit : (i.perform "init").1 = .error f) :
    d.bindResource w m r = (.error f, (r.noted (.factory m.route.resource)).noted (.init c m.params)) := by
  rw [bindResource_of_serves h hserves, hbound, hinit]
  exact Step.bind_of_error rfl _

theorem bindResource_of_initialized (hserves : d.serves w r.exchange c = true) {i : Instance}
    (hbound : bound w r.exchange m c = i) {v : Value} (hinit : (i.perform "init").1 = .ok v)
    (hstage : r.exchange.stage = .bound) :
    d.bindResource w m r =
      (.ok (.ok (c, (i.perform "init").2)),
        ((r.noted (.factory m.route.resource)).noted (.init c m.params)).moved .executing) := by
  have hmove : ((r.noted (.factory m.route.resource)).noted (.init c m.params)).exchange.stage.mayFollow .executing =
      true := by
    rw [Run.exchange_noted, Run.exchange_noted, hstage]
    rfl
  rw [bindResource_of_serves h hserves, hbound, hinit, Step.bind_of_ok (s := Step.ofExcept (.ok v)) rfl]
  exact Step.bind_of_ok (Step.advance_eq_moved hmove) _

end Made

/-! ## Executing -/

/-- Executing notes the handler, and the error that it may give as a value is that nothing was modified. -/
theorem execute_spec (c : κ) (i : Instance) (r : Run κ) :
    (d.execute c i r).2 = r.noted (.handler c (Text.lowerString r.exchange.method)) ∧
      ∀ e, (d.execute c i r).1 = .ok (.error e) → e.status = .notModified := by
  rw [execute, Step.bind_of_ok (s := Step.exchange) rfl, Step.bind_of_ok (Step.note_eq _ _)]
  rcases i.answer r.exchange.method with ⟨f | data, i'⟩
  · refine ⟨rfl, ?_⟩
    intro e he
    cases he
  · dsimp only
    rw [Step.bind_of_ok (s := Step.ofExcept (.ok data)) rfl]
    rcases (LastModified.toHttpDate (lastModifiedValue d.config.lastModifiedAttribute i' data)).mapError Failure.fault
      with f | lastModified
    · refine ⟨rfl, ?_⟩
      intro e he
      cases he
    · rw [Step.bind_of_ok (s := Step.ofExcept (.ok lastModified)) rfl]
      split
      · refine ⟨rfl, ?_⟩
        intro e he
        cases he
        rfl
      · refine ⟨rfl, ?_⟩
        intro e he
        cases he

/-! ## The course of resolving -/

/-- An exchange goes on to routing, and there is a route for it. -/
structure Routed (x : Exchange) (m : RouteMatch κ) : Prop where
  opens : d.Opens x
  route : d.routes.lookup (d.prepared x).path = some m

/-- An instance is made for the route. -/
structure Made (x : Exchange) (m : RouteMatch κ) (c : κ) : Prop extends d.Routed x m where
  made : d.factory m.route.resource = .ok c

/-- The instance answers to the method of the exchange. -/
structure Served (x : Exchange) (m : RouteMatch κ) (c : κ) : Prop extends d.Made x m c where
  allowed : (d.prepared x).method ∈ d.config.allowedMethods
  implemented : (w.resource c).implements (d.prepared x).method = true

/-- The run when a route was found. -/
def routed (r : Run κ) (m : RouteMatch κ) : Run κ :=
  (((d.opened r).moved .matching).matched m).moved .bound

theorem exchange_routed (r : Run κ) (m : RouteMatch κ) :
    (d.routed r m).exchange = { d.prepared r.exchange with stage := .bound } := by
  simp only [routed, opened, Run.exchange_moved, Run.exchange_matched]

/-- The stage matters neither to the instance nor to whether the method is served. -/
theorem bound_routed (r : Run κ) (m : RouteMatch κ) (c : κ) :
    bound w (d.routed r m).exchange m c = bound w (d.prepared r.exchange) m c ∧
      d.serves w (d.routed r m).exchange c = d.serves w (d.prepared r.exchange) c := by
  rw [exchange_routed, bound, bound, serves, serves]
  exact ⟨rfl, rfl⟩

/-- The ways in which resolving a request may go, with its result and the run that it leaves. -/
inductive Course (r : Run κ) : Except Failure Outcome → Run κ → Prop
  | ended {result : Except Failure Outcome} (h : ¬ d.Opens r.exchange) : Course r result (d.opened r)
  | unrouted {e : HttpError} (h : d.Opens r.exchange)
      (hroute : d.routes.lookup (d.prepared r.exchange).path = none) :
      Course r (.ok (.error e)) ((d.opened r).moved .matching)
  | unmade {m : RouteMatch κ} {f : Failure} (h : d.Routed r.exchange m)
      (hfactory : d.factory m.route.resource = .error f) :
      Course r (.error f) ((d.routed r m).noted (.factory m.route.resource))
  | refused {m : RouteMatch κ} {c : κ} {e : HttpError} (h : d.Made r.exchange m c)
      (hserves : d.serves w (d.prepared r.exchange) c = false) :
      Course r (.ok (.error e)) ((d.routed r m).noted (.factory m.route.resource))
  | uninitialized {m : RouteMatch κ} {c : κ} {f : Failure} (h : d.Served w r.exchange m c)
      (hinit : ((bound w (d.prepared r.exchange) m c).perform "init").1 = .error f) :
      Course r (.error f) (((d.routed r m).noted (.factory m.route.resource)).noted (.init c m.params))
  | handled {m : RouteMatch κ} {c : κ} {v : Value} {result : Except Failure Outcome} (h : d.Served w r.exchange m c)
      (hinit : ((bound w (d.prepared r.exchange) m c).perform "init").1 = .ok v)
      (hresult : ∀ e, result = .ok (.error e) → e.status = .notModified) :
      Course r result
        (((((d.routed r m).noted (.factory m.route.resource)).noted (.init c m.params)).moved .executing).noted
          (.handler c (Text.lowerString (d.prepared r.exchange).method)))

/-- What is left of the course when there is a route. -/
theorem course_of_routed {r : Run κ} {m : RouteMatch κ} (h : d.Routed r.exchange m) :
    ∃ result run, d.Course w r result run ∧ d.stages w r = (result, run) := by
  have hmatch : d.matchRoute ((d.opened r).moved .matching) = (.ok (.ok m), d.routed r m) :=
    d.matchRoute_of_some h.route rfl
  -- What is left to do is to bind the route and to run the handler.
  rw [stages, Step.bind_of_ok (d.prepare_of_opens h.opens)]
  dsimp only
  rw [Step.bind_of_ok hmatch]
  dsimp only
  cases hfactory : d.factory m.route.resource with
  | error f => exact ⟨_, _, .unmade h hfactory, Step.bind_of_error (d.bindResource_of_unmade w hfactory _) _⟩
  | ok c =>
    have hmade : d.Made r.exchange m c := ⟨h, hfactory⟩
    obtain ⟨hbound, hserves⟩ := d.bound_routed w r m c
    cases hprepared : d.serves w (d.prepared r.exchange) c with
    | false =>
      rw [hprepared] at hserves
      exact ⟨_, _, .refused hmade hprepared, Step.bind_of_ok (bindResource_of_refused hfactory hserves) _⟩
    | true =>
      have hserved : d.Served w r.exchange m c := by
        rw [serves, Bool.and_eq_true, List.contains_iff_mem] at hprepared
        exact ⟨hmade, hprepared.1, hprepared.2⟩
      rw [hprepared] at hserves
      rcases hinit : ((bound w (d.prepared r.exchange) m c).perform "init").1 with f | v
      · exact ⟨_, _, .uninitialized hserved hinit,
          Step.bind_of_error (bindResource_of_uninitialized hfactory hserves hbound hinit) _⟩
      · rw [Step.bind_of_ok (bindResource_of_initialized hfactory hserves hbound hinit rfl)]
        obtain ⟨hafter, hresult⟩ := d.execute_spec c ((bound w (d.prepared r.exchange) m c).perform "init").2
          ((((d.routed r m).noted (.factory m.route.resource)).noted (.init c m.params)).moved .executing)
        rw [Run.exchange_moved, Run.exchange_noted, Run.exchange_noted, exchange_routed] at hafter
        refine ⟨_, _, .handled hserved hinit hresult, ?_⟩
        rw [← hafter]

/-- Behind the initializers an exchange changes its stage only. -/
theorem Course.exchange_eq {r run : Run κ} {result : Except Failure Outcome} (h : d.Course w r result run) :
    run.exchange = { d.prepared r.exchange with stage := run.exchange.stage } := by
  cases h <;> rfl

/-- **Resolving takes one of these courses.** -/
theorem course_stages (r : Run κ) : d.Course w r (d.stages w r).1 (d.stages w r).2 := by
  by_cases hopens : d.Opens r.exchange
  · cases hroute : d.routes.lookup (d.prepared r.exchange).path with
    | none =>
      rw [stages, Step.bind_of_ok (d.prepare_of_opens hopens)]
      dsimp only
      rw [Step.bind_of_ok (d.matchRoute_of_none (r := (d.opened r).moved .matching) hroute)]
      exact .unrouted hopens hroute
    | some m =>
      obtain ⟨result, run, hcourse, hstages⟩ := d.course_of_routed w ⟨hopens, hroute⟩
      rw [hstages]
      exact hcourse
  · obtain ⟨hended, hrun⟩ := d.prepare_of_not_opens hopens
    rw [stages]
    rcases hprepare : d.prepare r with ⟨f | e, r'⟩
    · rw [hprepare] at hrun
      rw [Step.bind_of_error hprepare, show r' = d.opened r from hrun]
      exact .ended hopens
    · rw [hprepare] at hended hrun
      rw [Step.bind_of_ok hprepare, show r' = d.opened r from hrun]
      cases e with
      | some e => exact .ended hopens
      | none => exact absurd rfl hended

end Dispatcher
end HttpRouter
