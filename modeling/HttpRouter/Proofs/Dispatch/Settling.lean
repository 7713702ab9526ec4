import HttpRouter.Proofs.Dispatch.Responding

/-!
# What an exchange settles

What comes of a request depends on its exchange alone, and not on what else a run holds. So resolving is told once more
here, as a function of the exchange: the initializers give a verdict, the path has a route or has none, an instance of
the class is made and asked, and what its handler gives is concluded to an outcome. The one question that the condition
of a request decides stands at the very end (`Dispatcher.conclude`).

* `Dispatcher.stages_fst`: resolving gives what the exchange settles.
* `Dispatcher.finishes_or_declines`: a handler finishes, or the request is declined with an error.
* `Dispatcher.settled_eq_success_iff`: a resource answers exactly if its handler finished, and the client has no current
  copy.
* `Dispatcher.dispatch_settled`: what a dispatch returns is told by that, too.
-/

namespace HttpRouter

variable {κ : Type}

/-! ## The verdict of the initializers -/

namespace Initializer

/-- What initializers make of an exchange, one after the other: nothing, or what the first one gives that does not let
it pass. -/
def verdict : List Initializer → Exchange → Except Failure (Option HttpError)
  | [], _ => .ok none
  | i :: rest, x =>
    match (i.apply x).result with
    | .ok none => verdict rest (i.apply x).exchange
    | ended => ended

theorem verdict_of_passed {i : Initializer} {x : Exchange} (h : (i.apply x).result = .ok none)
    (rest : List Initializer) : verdict (i :: rest) x = verdict rest (i.apply x).exchange := by
  rw [verdict, h]

theorem verdict_of_ended {i : Initializer} {x : Exchange} (h : (i.apply x).result ≠ .ok none)
    (rest : List Initializer) : verdict (i :: rest) x = (i.apply x).result := by
  rw [verdict]
  split
  · next hpass => exact absurd hpass h
  · rfl

/-- A verdict is that of an initializer that was applied. -/
theorem exists_of_verdict {is : List Initializer} {x : Exchange} (h : verdict is x ≠ .ok none) :
    ∃ step ∈ applied is x, (step.1.apply step.2).result = verdict is x := by
  induction is generalizing x with
  | nil => exact absurd rfl h
  | cons i rest ih =>
    by_cases hpass : (i.apply x).result = .ok none
    · rw [verdict_of_passed hpass] at h ⊢
      obtain ⟨step, hstep, hresult⟩ := ih h
      rw [applied_of_passed hpass]
      exact ⟨step, List.mem_cons_of_mem _ hstep, hresult⟩
    · rw [verdict_of_ended hpass, applied_of_ended hpass]
      exact ⟨_, List.mem_cons_self, rfl⟩

end Initializer

namespace Dispatcher

open Initializer (applied verdict)

/-- Applying initializers gives their verdict. -/
theorem applyAll_fst (is : List Initializer) (r : Run κ) : (applyAll is r).1 = verdict is r.exchange := by
  induction is generalizing r with
  | nil => rfl
  | cons i rest ih =>
    by_cases hpass : (i.apply r.exchange).result = .ok none
    · rw [applyAll_of_passed hpass, Initializer.verdict_of_passed hpass, ih]
      rfl
    · rw [applyAll_of_ended hpass, Initializer.verdict_of_ended hpass]
      rfl

variable (d : Dispatcher κ) (w : World κ)

/-! ## What is settled -/

/-- The outcome for a client whose condition is known, when a handler finished. -/
def conclude (condition : Option String) (i : Instance) (data : Value) (lastModified : Option String) : Outcome :=
  if lastModified.isSome ∧ condition = lastModified then .error (.plain .notModified "" "")
  else .success i data lastModified

/-- What an instance settles that was initialized. -/
def settledBy (x : Exchange) (i : Instance) : Except Failure Outcome :=
  match i.answer x.method with
  | (.error f, _) => .error f
  | (.ok data, i) =>
    match LastModified.toHttpDate (lastModifiedValue d.config.lastModifiedAttribute i data) with
    | .error f => .error (.fault f)
    | .ok lastModified => .ok (conclude x.ifModifiedSince i data lastModified)

/-- What an exchange settles that has a route. -/
def settledAt (x : Exchange) (m : RouteMatch κ) : Except Failure Outcome :=
  match d.factory m.route.resource with
  | .error f => .error f
  | .ok c =>
    if d.serves w x c then
      match (bound w x m c).perform "init" with
      | (.error f, _) => .error f
      | (.ok _, i) => d.settledBy x i
    else .ok (.error ((w.resource c).refusal d.config.allowedMethods))

/-- What becomes of an exchange before routing: nothing, or what ends it. -/
def admission (x : Exchange) : Except Failure (Option HttpError) :=
  if x.path.head? ≠ some (.char '/') then .ok (some (.notFound ("Not an absolute path: " ++ Text.Quoted.text x.path)))
  else
    match verdict d.initializers x with
    | .ok none =>
      if (d.prepared x).stage = .idle then .ok none
      else .error (.fault (Exchange.illegalMove (d.prepared x).stage .matching))
    | ended => ended

/-- What an exchange settles. -/
def settled (x : Exchange) : Except Failure Outcome :=
  match d.admission x with
  | .error f => .error f
  | .ok (some e) => .ok (.error e)
  | .ok none =>
    match d.routes.lookup (d.prepared x).path with
    | none => .ok (.error (.notFound ("No resource matches " ++ (d.prepared x).path)))
    | some m => d.settledAt w (d.prepared x) m

/-! ## Resolving -/

/-- A handler gives what its instance settles. -/
theorem execute_fst (c : κ) (i : Instance) (r : Run κ) : (d.execute c i r).1 = d.settledBy r.exchange i := by
  rw [execute, Step.bind_of_ok (s := Step.exchange) rfl, Step.bind_of_ok (Step.note_eq _ _), settledBy]
  rcases i.answer r.exchange.method with ⟨f | data, i'⟩
  · rfl
  · dsimp only
    rw [Step.bind_of_ok (s := Step.ofExcept (.ok data)) rfl]
    rcases LastModified.toHttpDate (lastModifiedValue d.config.lastModifiedAttribute i' data) with f | lastModified
    · rfl
    · rw [Step.bind_of_ok (s := Step.ofExcept ((Except.ok lastModified).mapError Failure.fault)) rfl]
      dsimp only
      unfold conclude
      split <;> rfl

variable {d} in
/-- Binding and executing give what the class settles. -/
theorem bindResource_fst {m : RouteMatch κ} {r : Run κ} (hstage : r.exchange.stage = .bound) :
    ((d.bindResource w m >>= fun
        | .error e => pure (.error e)
        | .ok (c, i) => d.execute c i) r).1 = d.settledAt w r.exchange m := by
  rw [settledAt]
  cases hfactory : d.factory m.route.resource with
  | error f => rw [Step.bind_of_error (d.bindResource_of_unmade w hfactory _)]
  | ok c =>
    dsimp only
    cases hserves : d.serves w r.exchange c with
    | false =>
      rw [Step.bind_of_ok (bindResource_of_refused hfactory hserves)]
      rfl
    | true =>
      rw [if_pos rfl]
      rcases hinit : (bound w r.exchange m c).perform "init" with ⟨f | v, i⟩
      · have hfails : ((bound w r.exchange m c).perform "init").1 = .error f := by rw [hinit]
        rw [Step.bind_of_error (bindResource_of_uninitialized hfactory hserves rfl hfails)]
      · have hgives : ((bound w r.exchange m c).perform "init").1 = .ok v := by rw [hinit]
        rw [Step.bind_of_ok (bindResource_of_initialized hfactory hserves rfl hgives hstage), hinit]
        dsimp only
        rw [execute_fst]
        rfl

/-- The stage of an exchange does not matter to what its class settles. -/
theorem settledAt_atStage (x : Exchange) (stage : Stage) (m : RouteMatch κ) :
    d.settledAt w { x with stage } m = d.settledAt w x m := rfl

/-- Preparing an exchange tells whether it goes on to routing. -/
theorem prepare_fst (r : Run κ) : (d.prepare r).1 = d.admission r.exchange := by
  rw [prepare, Step.bind_of_ok (s := Step.exchange) rfl, admission]
  split
  · rfl
  · next habsolute =>
    have hexecuted : d.executed r.exchange = applied d.initializers r.exchange := if_neg habsolute
    have hstage : (applyAll d.initializers r).2.exchange.stage = (d.prepared r.exchange).stage := by
      rw [applyAll_run, prepared, hexecuted]
    have hverdict := applyAll_fst d.initializers r
    rcases hall : applyAll d.initializers r with ⟨f | e, r'⟩
    · rw [hall] at hverdict
      rw [Step.bind_of_error hall, ← hverdict]
    · rw [hall] at hverdict hstage
      rw [Step.bind_of_ok hall, ← hverdict]
      cases e with
      | some e => rfl
      | none =>
        dsimp only at hstage ⊢
        rw [← hstage]
        split
        · next hidle =>
          have hmove : r'.exchange.stage.mayFollow .matching = true := by rw [hidle]; rfl
          rw [Step.bind_of_ok (Step.advance_eq_moved hmove)]
          rfl
        · next hidle =>
          have hmove : r'.exchange.stage.mayFollow .matching = false := by
            revert hidle
            cases r'.exchange.stage <;> decide
          rw [Step.bind_of_error (Step.advance_of_not_mayFollow hmove)]

/-- An exchange that is not ended before goes on to routing. -/
theorem opens_iff (x : Exchange) : d.Opens x ↔ d.admission x = .ok none := by
  constructor
  · intro h
    have hprepare := d.prepare_of_opens (r := ⟨x, none, []⟩) h
    rw [← d.prepare_fst ⟨x, none, []⟩, hprepare]
  · intro h
    refine Classical.byContradiction fun hended => ?_
    exact (d.prepare_of_not_opens (r := ⟨x, none, []⟩) hended).1 ((d.prepare_fst _).trans h)

/-- **Resolving gives what the exchange settles**, whatever else the run holds. -/
theorem stages_fst (r : Run κ) : (d.stages w r).1 = d.settled w r.exchange := by
  rw [settled]
  cases hadmission : d.admission r.exchange with
  | error f =>
    have hprepare : d.prepare r = (.error f, (d.prepare r).2) :=
      Prod.ext ((d.prepare_fst r).trans hadmission) rfl
    rw [stages, Step.bind_of_error hprepare]
  | ok e =>
    cases e with
    | some e =>
      have hprepare : d.prepare r = (.ok (some e), (d.prepare r).2) :=
        Prod.ext ((d.prepare_fst r).trans hadmission) rfl
      rw [stages, Step.bind_of_ok hprepare]
      rfl
    | none =>
      rw [stages, Step.bind_of_ok (d.prepare_of_opens ((d.opens_iff _).mpr hadmission))]
      dsimp only
      cases hroute : d.routes.lookup (d.prepared r.exchange).path with
      | none =>
        rw [Step.bind_of_ok (d.matchRoute_of_none (r := (d.opened r).moved .matching) hroute)]
        rfl
      | some m =>
        have hmatch : d.matchRoute ((d.opened r).moved .matching) = (.ok (.ok m), d.routed r m) :=
          d.matchRoute_of_some hroute rfl
        rw [Step.bind_of_ok hmatch]
        dsimp only
        rw [← d.settledAt_atStage w _ .bound, ← exchange_routed]
        exact bindResource_fst w rfl

/-! ## Handlers that finish -/

/-- The handler of an exchange finishes: it gives data, and the last-modified value is one, or none. -/
inductive Finishes (x : Exchange) : Instance → Value → Option String → Prop
  | intro {m : RouteMatch κ} {c : κ} {v data : Value} {fresh i : Instance} {lastModified : Option String}
      (hserved : d.Served w x m c) (hinit : (bound w (d.prepared x) m c).perform "init" = (.ok v, fresh))
      (hanswer : fresh.answer (d.prepared x).method = (.ok data, i))
      (hdate : LastModified.toHttpDate (lastModifiedValue d.config.lastModifiedAttribute i data) = .ok lastModified) :
      Finishes x i data lastModified

theorem conclude_eq_success_iff {condition lastModified lastModified' : Option String} {i i' : Instance}
    {data data' : Value} :
    conclude condition i data lastModified = .success i' data' lastModified' ↔
      (i, data, lastModified) = (i', data', lastModified') ∧ ¬ (lastModified.isSome ∧ condition = lastModified) := by
  rw [conclude]
  split
  · next hhit => simp [hhit]
  · next hmiss => simp [hmiss]

variable {d w} {x : Exchange} {i : Instance} {data : Value} {lastModified : Option String}

/-- The condition of an exchange is that of its request all along. -/
theorem ifModifiedSince_prepared : (d.prepared x).ifModifiedSince = x.ifModifiedSince := by
  obtain ⟨method, path, stage, hprepared⟩ := d.prepared_frame x
  rw [hprepared]

/-- **What a handler that finished gives is concluded**, by the condition of the request. -/
theorem settled_of_finishes (h : d.Finishes w x i data lastModified) :
    d.settled w x = .ok (conclude x.ifModifiedSince i data lastModified) := by
  obtain ⟨hserved, hinit, hanswer, hdate⟩ := h
  have hserves : d.serves w (d.prepared x) _ = true :=
    (Bool.and_eq_true _ _).mpr ⟨List.contains_iff_mem.mpr hserved.allowed, hserved.implemented⟩
  rw [settled, (d.opens_iff x).mp hserved.opens]
  dsimp only
  rw [hserved.route]
  dsimp only
  rw [settledAt, hserved.made]
  dsimp only
  rw [if_pos hserves, hinit]
  dsimp only
  rw [settledBy, hanswer]
  dsimp only
  rw [hdate]
  dsimp only
  rw [ifModifiedSince_prepared]

/-! ## Errors that are raised -/

variable (d w) in
/-- An error that an initializer, the factory, `init` or the handler itself produces for an exchange. -/
inductive Raises (x : Exchange) : HttpError → Prop
  | initializer {step : Initializer × Exchange} {e : HttpError} (hstep : step ∈ d.executed x)
      (h : (step.1.apply step.2).result = .ok (some e) ∨ (step.1.apply step.2).result = .error (.http e)) : Raises x e
  | factory {m : RouteMatch κ} {e : HttpError} (hrouted : d.Routed x m)
      (h : d.factory m.route.resource = .error (.http e)) : Raises x e
  | init {m : RouteMatch κ} {c : κ} {e : HttpError} (hserved : d.Served w x m c)
      (h : ((bound w (d.prepared x) m c).perform "init").1 = .error (.http e)) : Raises x e
  | handler {m : RouteMatch κ} {c : κ} {v : Value} {fresh : Instance} {e : HttpError} (hserved : d.Served w x m c)
      (hinit : (bound w (d.prepared x) m c).perform "init" = (.ok v, fresh))
      (h : (fresh.answer (d.prepared x).method).1 = .error (.http e)) : Raises x e

/-- The statuses that a dispatcher answers with on its own, if no handler finished. -/
def ownStatuses : List Status :=
  [.notFound, .methodNotAllowed, .internalServerError]

variable (d w x) in
/-- Whether an outcome declines a request: with an error that was raised, or with one of the dispatcher's own. -/
def Declines (outcome : Outcome) : Prop :=
  ∃ e, outcome = .error e ∧ (d.Raises w x e ∨ e.status ∈ ownStatuses)

/-- A fault is answered by an internal server error. -/
theorem declines_of_fault (f : Fault) : d.Declines w x (outcomeOf (.error (.fault f))) :=
  ⟨_, rfl, .inr (by decide : Status.internalServerError ∈ ownStatuses)⟩

/-- A failure is answered with the error that it is, or by an internal server error. -/
theorem declines_of_failure {f : Failure} (h : ∀ e, f = .http e → d.Raises w x e) :
    d.Declines w x (outcomeOf (.error f)) := by
  cases f with
  | fault f => exact declines_of_fault f
  | http e => exact ⟨e, rfl, .inl (h e rfl)⟩

/-- What ends an exchange before routing declines it. -/
theorem declines_of_admission :
    (∀ f, d.admission x = .error f → d.Declines w x (outcomeOf (.error f))) ∧
      ∀ e, d.admission x = .ok (some e) → d.Declines w x (.error e) := by
  rw [admission]
  split
  · refine ⟨nofun, ?_⟩
    rintro e ⟨⟩
    exact ⟨_, rfl, .inr (by decide : Status.notFound ∈ ownStatuses)⟩
  · next habsolute =>
    have hexecuted : d.executed x = applied d.initializers x := if_neg habsolute
    split
    · split
      · exact ⟨nofun, nofun⟩
      · refine ⟨?_, nofun⟩
        rintro f ⟨⟩
        exact declines_of_fault _
    · next hended =>
      -- Some initializer gave this.
      obtain ⟨step, hstep, hresult⟩ := Initializer.exists_of_verdict (fun h => hended h)
      rw [← hexecuted] at hstep
      refine ⟨?_, ?_⟩
      · intro f hf
        exact declines_of_failure fun e he => .initializer hstep (.inr (hresult.trans (hf.trans (by rw [he]))))
      · intro e he
        exact ⟨e, rfl, .inl (.initializer hstep (.inl (hresult.trans he)))⟩

/-- **A handler finishes, or the request is declined.** -/
theorem finishes_or_declines (x : Exchange) :
    (∃ i data lastModified, d.Finishes w x i data lastModified) ∨ d.Declines w x (outcomeOf (d.settled w x)) := by
  rw [settled]
  cases hadmission : d.admission x with
  | error f => exact .inr (declines_of_admission.1 f hadmission)
  | ok e =>
    cases e with
    | some e => exact .inr (declines_of_admission.2 e hadmission)
    | none =>
      have hopens : d.Opens x := (d.opens_iff x).mpr hadmission
      dsimp only
      cases hroute : d.routes.lookup (d.prepared x).path with
      | none => exact .inr ⟨_, rfl, .inr (by decide : Status.notFound ∈ ownStatuses)⟩
      | some m =>
        have hrouted : d.Routed x m := ⟨hopens, hroute⟩
        dsimp only
        rw [settledAt]
        cases hfactory : d.factory m.route.resource with
        | error f => exact .inr (declines_of_failure fun e he => .factory hrouted (he ▸ hfactory))
        | ok c =>
          dsimp only
          split
          · next hserves =>
            have hserved : d.Served w x m c := by
              rw [serves, Bool.and_eq_true, List.contains_iff_mem] at hserves
              exact ⟨⟨hrouted, hfactory⟩, hserves.1, hserves.2⟩
            rcases hinit : (bound w (d.prepared x) m c).perform "init" with ⟨f | v, fresh⟩
            · exact .inr (declines_of_failure fun e he => .init hserved (by rw [hinit, he]))
            · dsimp only
              rw [settledBy]
              rcases hanswer : fresh.answer (d.prepared x).method with ⟨f | data, i⟩
              · exact .inr (declines_of_failure fun e he => .handler hserved hinit (by rw [hanswer, he]))
              · dsimp only
                cases hdate : LastModified.toHttpDate (lastModifiedValue d.config.lastModifiedAttribute i data) with
                | error f => exact .inr (declines_of_fault f)
                | ok lastModified => exact .inl ⟨i, data, lastModified, .intro hserved hinit hanswer hdate⟩
          · exact .inr ⟨_, rfl, .inr (by decide : Status.methodNotAllowed ∈ ownStatuses)⟩

/-- An exchange has one route at most. -/
theorem Routed.unique {m m' : RouteMatch κ} (h : d.Routed x m) (h' : d.Routed x m') : m' = m :=
  Option.some.inj (h'.route.symm.trans h.route)

/-- Instances of one class at most are made for it. -/
theorem Made.unique {m m' : RouteMatch κ} {c c' : κ} (h : d.Made x m c) (h' : d.Made x m' c') : m' = m ∧ c' = c := by
  obtain rfl := h.toRouted.unique h'.toRouted
  exact ⟨rfl, Except.ok.inj (h'.made.symm.trans h.made)⟩

/-- **If a handler finishes, no error was raised** on the way. -/
theorem not_raises_of_finishes (h : d.Finishes w x i data lastModified) (e : HttpError) : ¬ d.Raises w x e := by
  obtain ⟨hserved, hinit, hanswer, -⟩ := h
  intro hraises
  cases hraises with
  | initializer hstep h =>
    rw [hserved.opens.passed _ hstep] at h
    rcases h with h | h <;> cases h
  | factory hrouted h =>
    obtain rfl := hserved.toRouted.unique hrouted
    rw [hserved.made] at h
    cases h
  | init hserved' h =>
    obtain ⟨rfl, rfl⟩ := hserved.toMade.unique hserved'.toMade
    rw [hinit] at h
    cases h
  | handler hserved' hinit' h =>
    obtain ⟨rfl, rfl⟩ := hserved.toMade.unique hserved'.toMade
    rw [hinit] at hinit'
    cases hinit'
    rw [hanswer] at h
    cases h

/-- **A resource answers exactly if its handler finished**, and the client has no current copy. -/
theorem settled_eq_success_iff :
    d.settled w x = .ok (.success i data lastModified) ↔
      d.Finishes w x i data lastModified ∧ ¬ (lastModified.isSome ∧ x.ifModifiedSince = lastModified) := by
  constructor
  · intro h
    rcases finishes_or_declines (d := d) (w := w) x with ⟨i', data', lastModified', hfinishes⟩ | ⟨e, he, -⟩
    · rw [settled_of_finishes hfinishes, Except.ok.injEq, conclude_eq_success_iff] at h
      obtain ⟨heq, hmiss⟩ := h
      cases heq
      exact ⟨hfinishes, hmiss⟩
    · rw [h] at he
      cases he
  · rintro ⟨hfinishes, hmiss⟩
    rw [settled_of_finishes hfinishes, conclude_eq_success_iff.mpr ⟨rfl, hmiss⟩]

/-- Behind the initializers no exchange is closed. -/
theorem Course.closing {r run : Run κ} {result : Except Failure Outcome} (h : d.Course w r result run) :
    run.exchange.isClosing = (d.prepared r.exchange).isClosing ∧
      (run.exchange.isClosing = true → run.exchange.stage = (d.prepared r.exchange).stage) := by
  have hidle (hopens : d.Opens r.exchange) : (d.prepared r.exchange).isClosing = false := by
    rw [Exchange.isClosing, hopens.idle]
    rfl
  cases h with
  | ended => exact ⟨rfl, fun _ => rfl⟩
  | unrouted hopens => exact ⟨(hidle hopens).symm, fun h => absurd h Bool.false_ne_true⟩
  | unmade h => exact ⟨(hidle h.opens).symm, fun h => absurd h Bool.false_ne_true⟩
  | refused h => exact ⟨(hidle h.opens).symm, fun h => absurd h Bool.false_ne_true⟩
  | uninitialized h => exact ⟨(hidle h.opens).symm, fun h => absurd h Bool.false_ne_true⟩
  | handled h => exact ⟨(hidle h.opens).symm, fun h => absurd h Bool.false_ne_true⟩

/-- A response of a dispatch answers what its exchange settles. -/
theorem answer_settled {s : Surroundings} {request : Request} {response : Response}
    (h : (d.dispatch w s request).1 = .ok response) :
    ∃ attempts, d.renderer.Answer s.requestId (outcomeOf (d.settled w (.ofRequest request s.requestId))) attempts
        (.ok response) ∧
      (d.dispatch w s request).2.journal.renders = attempts.filterMap Attempt.rendering? := by
  obtain ⟨attempts, hanswer, hrenders, -⟩ := answer_dispatch h
  rw [d.stages_fst w] at hanswer
  exact ⟨attempts, hanswer, hrenders⟩

variable (d w) in
/-- **What a dispatch gives is told by what its exchange settles**: the answer to that, unless the initializers left an
exchange that cannot get an answer. -/
theorem dispatch_settled (s : Surroundings) (request : Request) :
    let x := Exchange.ofRequest request s.requestId
    ((d.prepared x).isClosing = true ∧
        (d.dispatch w s request).1 = .error (.fault (Exchange.illegalMove (d.prepared x).stage .responding))) ∨
      ((d.prepared x).isClosing = false ∧ ∃ attempts,
        d.renderer.Answer s.requestId (outcomeOf (d.settled w x)) attempts (d.dispatch w s request).1) := by
  intro x
  obtain ⟨hclosing, hstage⟩ := (d.course_stages w (start request s)).closing
  have hresolved : (d.resolve w (start request s)).2.exchange = (d.stages w (start request s)).2.exchange := by
    rw [d.resolve_eq w]
    rfl
  cases h : (d.prepared x).isClosing with
  | true =>
    have hclosed : (d.stages w (start request s)).2.exchange.isClosing = true := hclosing.trans h
    refine .inl ⟨rfl, ?_⟩
    rw [d.dispatch_of_isClosing w (by rw [hresolved, hclosed]), hresolved, hstage hclosed]
    rfl
  | false =>
    have hopen : (d.resolve w (start request s)).2.exchange.isClosing = false := by
      rw [hresolved]
      exact hclosing.trans h
    obtain ⟨attempts, hending⟩ := d.dispatch_of_not_isClosing w hopen
    rw [d.stages_fst w] at hending
    exact .inr ⟨rfl, attempts, hending.answer⟩

end Dispatcher

end HttpRouter
