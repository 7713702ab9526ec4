import HttpRouter.Proofs.Dispatch.Answering
import Mathlib.Data.List.Basic

/-!
# The order of a dispatch

A dispatch goes from stage to stage in order, and runs the code of the application at certain stages only: initializers
before everything else, the factory for the first route that matches, `init` for an instance that answers to the method,
and the handler of the method once `init` went well. The last stage is `done`, unless there was no way to respond: then
it is `responding`. What a dispatch does is read off its journal, where the moves from stage to stage are written as they
are logged.

* `Initializer.inTurn_applied`: initializers take their turns, up to the first one that ends the exchange.
* `Dispatcher.staged_of_course`: on every course that resolving may take, the acts behind them are in order.
* `Dispatcher.dispatch_inOrder`: so they are in a dispatch whose initializers do not move the exchange themselves.
-/

namespace HttpRouter

variable {κ : Type}

/-! ## Moves as they are logged -/

namespace Stage

/-- Every pair of stages. -/
def pairs : List (Stage × Stage) :=
  all.flatMap fun a => all.map fun b => (a, b)

/-- A move from one stage to another as it is written. -/
def moveText (p : Stage × Stage) : String :=
  p.1.name ++ " -> " ++ p.2.name

theorem find?_moveText (p : Stage × Stage) : (pairs.find? fun q => moveText p == moveText q) = some p := by
  obtain ⟨a, b⟩ := p
  cases a <;> cases b <;> rfl

theorem notMem_name (s : Stage) : .char '(' ∉ Text.ofString s.name := by
  cases s <;> decide

theorem notMem_moveText (p : Stage × Stage) : .char '(' ∉ Text.ofString (moveText p) := by
  have harrow : .char '(' ∉ Text.ofString " -> " := by decide
  simp only [moveText, Text.ofString_append, List.mem_append, not_or]
  exact ⟨⟨notMem_name _, harrow⟩, notMem_name _⟩

/-- The moves that lead through stages, one after the other. -/
def steps (stages : List Stage) : List (Stage × Stage) :=
  stages.zip stages.tail

end Stage

namespace LogRecord

theorem ofMove_eq (requestId : String) (p : Stage × Stage) :
    ofMove requestId p.1 p.2 = .dispatcher .debug ("[" ++ requestId ++ "] " ++ (Stage.moveText p : Letters)) := by
  rw [ofMove, Stage.moveText, Text.ofString_append, Text.ofString_append]

/-- A record with a text that is marked with the request shows a move exactly if it is that of the move. -/
theorem dispatcher_eq_ofMove_iff {requestId : String} {text : Letters} {p : Stage × Stage} :
    dispatcher .debug ("[" ++ requestId ++ "] " ++ text) = ofMove requestId p.1 p.2 ↔
      text = Stage.moveText p := by
  rw [ofMove_eq]
  simp [dispatcher]

/-- The move that a record shows, if it is one of a request's. -/
def move? (requestId : String) (record : LogRecord) : Option (Stage × Stage) :=
  Stage.pairs.find? fun p => record == ofMove requestId p.1 p.2

theorem move?_ofMove (requestId : String) (a b : Stage) : (ofMove requestId a b).move? requestId = some (a, b) := by
  have h : (fun p : Stage × Stage => ofMove requestId a b == ofMove requestId p.1 p.2) =
      fun p => Stage.moveText (a, b) == Stage.moveText p := by
    funext p
    rw [Bool.eq_iff_iff, beq_iff_eq, beq_iff_eq, ofMove_eq requestId (a, b), dispatcher_eq_ofMove_iff]
    exact ⟨Text.ofString_injective, congrArg Text.ofString⟩
  rw [move?, h]
  exact Stage.find?_moveText (a, b)

/-- A record shows a move only if it stands in the dispatcher's log, at the lowest level. -/
theorem move?_of_ne {requestId : String} {record : LogRecord}
    (h : ∀ text : Letters, record ≠ .dispatcher .debug ("[" ++ requestId ++ "] " ++ text)) :
    record.move? requestId = none := by
  rw [move?, List.find?_eq_none]
  intro p _ hp
  exact h _ (beq_iff_eq.mp hp)

/-- What is written with a bracket is no move. -/
theorem move?_of_mem {requestId : String} {text : Letters} (h : .char '(' ∈ text) :
    (dispatcher .debug ("[" ++ requestId ++ "] " ++ text)).move? requestId = none := by
  rw [move?, List.find?_eq_none]
  intro p _ hp
  have htext : text = Stage.moveText p := dispatcher_eq_ofMove_iff.mp (beq_iff_eq.mp hp)
  exact Stage.notMem_moveText p (htext ▸ h)

theorem move?_initializer (requestId : String) (message : Letters) :
    (initializer message).move? requestId = none := by
  refine move?_of_ne fun text h => ?_
  have hlog : "httpresource.initializers" = "httpresource.dispatcher" := congrArg LogRecord.log h
  exact absurd hlog (by decide)

end LogRecord

/-! ## Acts -/

/-- What the order of a dispatch is about: the moves from stage to stage, and the code of an application that is run. -/
inductive Act (κ : Type) where
  | move (a b : Stage)
  | initializer (i : Initializer)
  | factory (c : κ)
  | init (c : κ) (params : Params)
  | handler (c : κ) (method : String)

/-- Acts in order. -/
abbrev Acts (κ : Type) := List (Act κ)

namespace Acts

/-- The moves from stage to stage. -/
def moves (acts : Acts κ) : List (Stage × Stage) :=
  acts.filterMap fun
    | .move a b => some (a, b)
    | _ => none

/-- The initializers that were run. -/
def initializers (acts : Acts κ) : List Initializer :=
  acts.filterMap fun
    | .initializer i => some i
    | _ => none

/-- The classes that the factory was called for. -/
def factories (acts : Acts κ) : List κ :=
  acts.filterMap fun
    | .factory c => some c
    | _ => none

/-- The classes whose instances were initialized, with the parameters. -/
def inits (acts : Acts κ) : List (κ × Params) :=
  acts.filterMap fun
    | .init c params => some (c, params)
    | _ => none

/-- The handlers that were run: the class and the name of each. -/
def handlers (acts : Acts κ) : List (κ × String) :=
  acts.filterMap fun
    | .handler c method => some (c, method)
    | _ => none

end Acts

/-- The act that an event is. -/
def Event.act? (requestId : String) : Event κ → Option (Act κ)
  | .logged record => (record.move? requestId).map fun p => .move p.1 p.2
  | .initializer i => some (.initializer i)
  | .factory c => some (.factory c)
  | .init c params => some (.init c params)
  | .handler c method => some (.handler c method)
  | .render _ _ | .reported _ => none

namespace Journal

/-- The acts that a journal shows. -/
def acts (requestId : String) (j : Journal κ) : Acts κ :=
  j.filterMap (Event.act? requestId)

theorem acts_append (requestId : String) (j j' : Journal κ) :
    (j ++ j').acts requestId = j.acts requestId ++ j'.acts requestId :=
  List.filterMap_append

theorem acts_logged {requestId : String} {records : List LogRecord}
    (h : ∀ record ∈ records, record.move? requestId = none) :
    Journal.acts requestId (records.map (.logged : LogRecord → Event κ)) = [] := by
  rw [acts, List.filterMap_eq_nil_iff]
  intro e he
  obtain ⟨record, hrecord, rfl⟩ := List.mem_map.mp he
  rw [Event.act?, h record hrecord]
  rfl

end Journal

namespace Run

/-- The acts of a run. -/
def acts (r : Run κ) : Acts κ := r.journal.acts r.exchange.requestId

theorem acts_followed (r : Run κ) (j : Journal κ) : (r.followed j).acts = r.acts ++ j.acts r.exchange.requestId :=
  Journal.acts_append _ _ _

@[simp] theorem acts_noted (r : Run κ) (e : Event κ) :
    (r.noted e).acts = r.acts ++ (e.act? r.exchange.requestId).toList := by
  rw [noted, acts_followed]
  cases h : e.act? r.exchange.requestId <;> simp [Journal.acts, h]

@[simp] theorem acts_matched (r : Run κ) (m : RouteMatch κ) : (r.matched m).acts = r.acts := rfl

@[simp] theorem acts_moved (r : Run κ) (stage : Stage) :
    (r.moved stage).acts = r.acts ++ [.move r.exchange.stage stage] := by
  rw [acts, moved, Journal.acts_append]
  simp [acts, Journal.acts, Event.act?, LogRecord.move?_ofMove]

end Run

/-! ## Initializers that do not move -/

namespace Initializer

/-- Effects without moves leave the stage, and log nothing. -/
theorem applyEffects_of_movesOf {x : Exchange} {effects : List Effect} (h : movesOf x.stage effects = [])
    (records : List LogRecord) :
    (applyEffects x records effects).exchange.stage = x.stage ∧ (applyEffects x records effects).records = records := by
  induction effects generalizing x with
  | nil => exact ⟨rfl, rfl⟩
  | cons effect rest ih =>
    cases effect with
    | setMethod method => exact ih (x := { x with method }) h
    | setPath path => exact ih (x := { x with path }) h
    | advance stage =>
      rw [movesOf] at h
      split at h
      · cases h
      · next hm =>
        rw [applyEffects, Exchange.advance, if_neg hm]
        exact ⟨rfl, rfl⟩
    | stop e => exact ⟨rfl, rfl⟩
    | fail f => exact ⟨rfl, rfl⟩

/-- **An initializer without moves leaves the stage**, and no move shows in what it logs. -/
theorem apply_of_moves {i : Initializer} {x : Exchange} (h : i.moves x = []) (requestId : String) :
    (i.apply x).exchange.stage = x.stage ∧ ∀ record ∈ (i.apply x).records, record.move? requestId = none := by
  cases i with
  | noTrailingSlash =>
    rw [apply]
    refine ⟨congrArg _ (applyNoTrailingSlash_exchange x), ?_⟩
    rw [applyNoTrailingSlash]
    dsimp only
    split
    · intro record hrecord
      cases hrecord
    · simp [LogRecord.move?_initializer]
  | methodOverride param allowed =>
    rw [apply]
    refine ⟨applyOverride_stage param allowed x, ?_⟩
    rw [applyOverride]
    dsimp only
    split
    · simp [LogRecord.move?_initializer]
    · intro record hrecord
      cases hrecord
  | allowedMethods allowed =>
    have hrecords : ((allowedMethods allowed).apply x).records = [] := by
      rw [apply]
      split <;> rfl
    refine ⟨?_, ?_⟩
    · rw [apply]
      split <;> rfl
    · rw [hrecords]
      intro record hrecord
      cases hrecord
  | custom effects =>
    obtain ⟨hstage, hrecords⟩ := applyEffects_of_movesOf h []
    refine ⟨hstage, ?_⟩
    show ∀ record ∈ (applyEffects x [] (effects x)).records, _
    rw [hrecords]
    intro record hrecord
    cases hrecord

/-- Initializers without moves leave the stage, one after the other. -/
theorem stage_leave {is : List Initializer} (h : ∀ i ∈ is, ∀ x, i.moves x = []) (x : Exchange) :
    (leave (applied is x) x).stage = x.stage := by
  induction is generalizing x with
  | nil => rfl
  | cons i rest ih =>
    obtain ⟨hstage, -⟩ := apply_of_moves (h i List.mem_cons_self x) ""
    by_cases hpass : (i.apply x).result = .ok none
    · have hrest := ih (fun j hj => h j (List.mem_cons_of_mem i hj)) (i.apply x).exchange
      rw [applied_of_passed hpass, leave, List.foldl_cons]
      exact hrest.trans hstage
    · rw [applied_of_ended hpass]
      exact hstage

/-- The initializers that are applied are the first ones of the list. -/
theorem applied_inOrder (is : List Initializer) (x : Exchange) : (applied is x).map (·.1) <+: is := by
  induction is generalizing x with
  | nil => exact List.prefix_rfl
  | cons i rest ih =>
    by_cases hpass : (i.apply x).result = .ok none
    · rw [applied_of_passed hpass, List.map_cons]
      exact (List.cons_prefix_cons).mpr ⟨rfl, ih _⟩
    · rw [applied_of_ended hpass]
      exact (List.cons_prefix_cons).mpr ⟨rfl, List.nil_prefix⟩

/-- All of them are applied if they let the exchange pass. -/
theorem applied_complete {is : List Initializer} {x : Exchange}
    (h : ∀ step ∈ applied is x, (step.1.apply step.2).result = .ok none) : (applied is x).map (·.1) = is := by
  induction is generalizing x with
  | nil => rfl
  | cons i rest ih =>
    by_cases hpass : (i.apply x).result = .ok none
    · rw [applied_of_passed hpass] at h ⊢
      rw [List.map_cons, ih fun step hstep => h step (List.mem_cons_of_mem _ hstep)]
    · rw [applied_of_ended hpass] at h
      exact absurd (h _ List.mem_cons_self) hpass

/-- Each initializer finds the exchange as those in front of it left it, and lets it pass if another one follows. -/
theorem applied_handover {is : List Initializer} {x y : Exchange} {i : Initializer}
    {before after : List (Initializer × Exchange)} (h : applied is x = before ++ (i, y) :: after) :
    y = leave before x ∧ (after ≠ [] → (i.apply y).result = .ok none) := by
  induction is generalizing x before with
  | nil => cases before <;> cases h
  | cons j rest ih =>
    by_cases hpass : (j.apply x).result = .ok none
    · rw [applied_of_passed hpass] at h
      cases before with
      | nil =>
        obtain ⟨hstep, -⟩ := List.cons.inj h
        obtain ⟨rfl, rfl⟩ := Prod.mk.inj hstep
        exact ⟨rfl, fun _ => hpass⟩
      | cons step before =>
        obtain ⟨rfl, hrest⟩ := List.cons.inj h
        have hfollows := ih hrest
        exact hfollows
    · rw [applied_of_ended hpass] at h
      cases before with
      | nil =>
        obtain ⟨hstep, rfl⟩ := List.cons.inj h
        obtain ⟨rfl, rfl⟩ := Prod.mk.inj hstep
        exact ⟨rfl, fun hne => absurd rfl hne⟩
      | cons step before => cases before <;> cases h

/-- The acts of initializers that do not move are that they were run. -/
theorem acts_events {steps : List (Initializer × Exchange)} (h : ∀ step ∈ steps, step.1.moves step.2 = [])
    (requestId : String) :
    Journal.acts requestId (events steps : Journal κ) = steps.map fun step => .initializer step.1 := by
  induction steps with
  | nil => rfl
  | cons step rest ih =>
    obtain ⟨-, hrecords⟩ := apply_of_moves (h step List.mem_cons_self) requestId
    have hstep : Journal.acts requestId
        (.initializer step.1 :: (step.1.apply step.2).records.map .logged : Journal κ) = [.initializer step.1] :=
      congrArg (Act.initializer step.1 :: ·) (Journal.acts_logged hrecords)
    rw [events, List.flatMap_cons, Journal.acts_append, hstep]
    exact congrArg (Act.initializer step.1 :: ·) (ih fun step hs => h step (List.mem_cons_of_mem _ hs))

end Initializer

/-- Initializers that take their turns with an exchange: they are the first ones of a list, each finds the exchange as
those in front of it left it, and another one follows only if it let the exchange pass. -/
structure InTurn (is : List Initializer) (x : Exchange) (steps : List (Initializer × Exchange)) : Prop where
  inOrder : steps.map (·.1) <+: is
  handover : ∀ before i y after, steps = before ++ (i, y) :: after →
    y = Initializer.leave before x ∧ (after ≠ [] → (i.apply y).result = .ok none)
  complete : (∀ step ∈ steps, (step.1.apply step.2).result = .ok none) → steps.map (·.1) = is

theorem Initializer.inTurn_applied (is : List Initializer) (x : Exchange) : InTurn is x (applied is x) :=
  ⟨applied_inOrder is x, fun _ _ _ _ h => applied_handover h, applied_complete⟩

/-! ## The acts of a run -/

namespace Dispatcher

variable (d : Dispatcher κ) (w : World κ)

theorem acts_reportEvents (requestId : String) (f : Failure) : (d.reportEvents f).acts requestId = [] := by
  have hrecords : ∀ record ∈ d.observed f, record.move? requestId = none := by
    intro record hrecord
    refine LogRecord.move?_of_ne fun text htext => ?_
    have hlevel : record.level = .debug := congrArg LogRecord.level htext
    rw [observed] at hrecord
    split at hrecord
    · rw [List.mem_singleton.mp hrecord] at hlevel
      cases hlevel
    · split at hrecord
      · rw [List.mem_singleton.mp hrecord] at hlevel
        cases hlevel
      · cases hrecord
  exact Journal.acts_logged hrecords

/-- Nothing at the end of resolving is an act. -/
theorem acts_endingEvents (x : Exchange) (result : Except Failure Outcome) :
    (d.endingEvents x result).acts x.requestId = [] := by
  rcases result with (f | e) | outcome
  · exact d.acts_reportEvents x.requestId (.fault f)
  · have hraised : .char '(' ∈ Text.ofString e.written ++ Text.ofString " raised in " ++ Text.ofString x.stage.name := by
      simp [HttpError.written, Text.ofString, Text.ofChars]
    have hrecord : LogRecord.move? x.requestId
        (.dispatcher .debug (x.marked (e.written ++ " raised in " ++ x.stage.name))) = none :=
      LogRecord.move?_of_mem hraised
    have hevent : (Event.logged (.dispatcher .debug
        (x.marked (e.written ++ " raised in " ++ x.stage.name))) : Event κ).act? x.requestId = none := by
      rw [Event.act?, hrecord]
      rfl
    exact List.filterMap_cons_none hevent
  · rfl

/-- Nor is an attempt to build a response. -/
theorem acts_attemptEvents (requestId : String) (a : Attempt) :
    Journal.acts requestId (d.attemptEvents a) = [] := by
  have hevents : Journal.acts requestId (a.events : Journal κ) = [] := by cases a <;> rfl
  rw [attemptEvents, Journal.acts_append, hevents]
  cases d.renderer.failure? a with
  | none => rfl
  | some f =>
    rw [Option.toList_some, List.flatMap_singleton]
    exact d.acts_reportEvents requestId f

theorem acts_flatMap_attemptEvents (requestId : String) (attempts : List Attempt) :
    Journal.acts requestId (attempts.flatMap d.attemptEvents) = [] := by
  induction attempts with
  | nil => rfl
  | cons a rest ih => rw [List.flatMap_cons, Journal.acts_append, ih, acts_attemptEvents, List.append_nil]

/-- The stage that a dispatch ends at: without a response it is not done. -/
def lastStage : Except Failure Response → Stage
  | .ok _ => .done
  | .error _ => .responding

/-- The last move of a dispatch that has a response. -/
def lastActs : Except Failure Response → Acts κ
  | .ok _ => [.move .responding .done]
  | .error _ => []

theorem acts_responded (result : Except Failure Outcome) (attempts : List Attempt) (r : Run κ) :
    (d.responded result attempts r).acts = r.acts ++ [.move r.exchange.stage .responding] := by
  simp [responded, Run.acts_followed, acts_endingEvents, acts_flatMap_attemptEvents]

theorem acts_answered {result : Except Failure Outcome} {attempts : List Attempt} {line : LogRecord}
    (h : line.log = "httpresource.access") (r : Run κ) :
    (d.answered result attempts line r).acts =
      r.acts ++ [.move r.exchange.stage .responding] ++ [.move .responding .done] := by
  have hline : (Event.logged line : Event κ).act? r.exchange.requestId = none := by
    have hmove : line.move? r.exchange.requestId = none := by
      refine LogRecord.move?_of_ne fun text htext => ?_
      have hlog : "httpresource.access" = "httpresource.dispatcher" := h.symm.trans (congrArg LogRecord.log htext)
      exact absurd hlog (by decide)
    rw [Event.act?, hmove]
    rfl
  have hid : ((d.responded result attempts r).moved .done).exchange.requestId = r.exchange.requestId := rfl
  have hstage : (d.responded result attempts r).exchange.stage = .responding := rfl
  rw [answered, Run.acts_noted, hid, hline, Run.acts_moved, hstage, acts_responded]
  exact List.append_nil _

/-- **Whatever the outcome, the exchange moves on** to `responding`, and with a response it is done. -/
theorem Ending.acts_eq {s : Surroundings} {result : Except Failure Outcome} {r : Run κ} {attempts : List Attempt}
    {ended : Except Failure Response × Run κ} (h : d.Ending w s result r attempts ended) :
    ended.2.acts = r.acts ++ [.move r.exchange.stage .responding] ++ lastActs ended.1 ∧
      ended.2.exchange = { r.exchange with stage := lastStage ended.1 } := by
  cases h with
  | answered _ hline => exact ⟨d.acts_answered (AccessRecord.log_logRecord hline) r, rfl⟩
  | unanswered => exact ⟨(d.acts_responded result attempts r).trans (List.append_nil _).symm, rfl⟩

/-! ## The order of a dispatch -/

/-- An exchange is admitted to an instance of a class: its route is the first one that matches, the instance made for
the route is of that class, and the method is allowed and implemented. -/
structure Admits (y : Exchange) (m : RouteMatch κ) (c : κ) : Prop where
  first : d.routes.IsFirst y.path m
  made : d.factory m.route.resource = .ok c
  allowed : y.method ∈ d.config.allowedMethods
  implemented : (w.resource c).implements y.method = true

/-- The order of the acts behind the initializers, up to `responding`, when the stages gave a result for an exchange. -/
structure Staged (y : Exchange) (result : Except Failure Outcome) (acts : Acts κ) : Prop where
  initializers : acts.initializers = []
  stages : ∃ n, acts.moves = Stage.steps (.idle :: [.matching, .bound, .executing].take n ++ [.responding])
  factory : acts.factories = [] ∨ ∃ m, d.routes.IsFirst y.path m ∧ acts.factories = [m.route.resource]
  init : acts.inits = [] ∨ ∃ m c, d.Admits w y m c ∧ acts.inits = [(c, m.params)]
  handler : acts.handlers.length ≤ 1
  /-- A handler is run by an instance whose `init` went well, and is that of the method, which the instance does not
  refuse. -/
  handled : ∀ before c name after, acts = before ++ .handler c name :: after →
    name = Text.lowerString y.method ∧ ∃ m v i, d.Admits w y m c ∧ .init c m.params ∈ before ∧
      (bound w y m c).perform "init" = (.ok v, i) ∧ i.resource.implements y.method = true ∧
      i.answer y.method = i.perform name
  /-- No code of a resource is run if a stage gave an HTTP error, unless it is that nothing was modified. -/
  refused : ∀ e, result = .ok (.error e) → e.status ≠ .notModified → acts.inits = [] ∧ acts.handlers = []

/-- The order of a run that began with an exchange, whose stages gave a result and which gave an answer: the initializers
take their turns, and the other acts follow. Path and method are then the effective ones, as the initializers left them.
-/
structure InOrder (x : Exchange) (result : Except Failure Outcome) (answer : Except Failure Response) (r : Run κ)
    (steps : List (Initializer × Exchange)) (behind : Acts κ) : Prop where
  acts : r.acts = steps.map (fun step => .initializer step.1) ++ behind ++ lastActs answer
  relative : x.path.head? ≠ some (.char '/') → steps = []
  absolute : x.path.head? = some (.char '/') → InTurn d.initializers x steps
  exchange : r.exchange = { Initializer.leave steps x with stage := lastStage answer }
  staged : d.Staged w r.exchange result behind

/-- Acts without a handler are in order if those before it are. -/
theorem staged_of_unhandled {y : Exchange} {result : Except Failure Outcome} {acts : Acts κ} {n : Nat}
    (hinitializers : acts.initializers = [])
    (hstages : acts.moves = Stage.steps (.idle :: [.matching, .bound, .executing].take n ++ [.responding]))
    (hfactory : acts.factories = [] ∨ ∃ m, d.routes.IsFirst y.path m ∧ acts.factories = [m.route.resource])
    (hinit : acts.inits = [] ∨ ∃ m c, d.Admits w y m c ∧ acts.inits = [(c, m.params)])
    (hhandlers : acts.handlers = []) (hrefused : ∀ e, result = .ok (.error e) → acts.inits = []) :
    d.Staged w y result acts where
  initializers := hinitializers
  stages := ⟨n, hstages⟩
  factory := hfactory
  init := hinit
  handler := by simp [hhandlers]
  handled := by
    rintro before c name after rfl
    simp [Acts.handlers] at hhandlers
  refused e he _ := ⟨hrefused e he, hhandlers⟩

theorem Served.admits {x : Exchange} {m : RouteMatch κ} {c : κ} (h : d.Served w x m c) (stage : Stage) :
    d.Admits w { d.prepared x with stage } m c :=
  ⟨RouteTable.lookup_eq_some_iff.mp h.route, h.made, h.allowed, h.implemented⟩

/-- With a route the factory is called; then the acts may end without an instance that answers. -/
theorem staged_of_routed {x : Exchange} {m : RouteMatch κ} (h : d.Routed x m) (stage : Stage)
    (result : Except Failure Outcome) :
    d.Staged w { d.prepared x with stage } result
      [.move .idle .matching, .move .matching .bound, .factory m.route.resource, .move .bound .responding] := by
  refine d.staged_of_unhandled w (n := 2) rfl rfl (.inr ⟨m, ?_, rfl⟩) (.inl rfl) rfl fun _ _ => rfl
  exact RouteTable.lookup_eq_some_iff.mp h.route

section Still

variable {d w} (hstill : ∀ i ∈ d.initializers, ∀ x, i.moves x = []) (request : Request) (s : Surroundings)
include hstill

theorem moves_of_mem_executed {x : Exchange} {step : Initializer × Exchange} (h : step ∈ d.executed x) :
    step.1.moves step.2 = [] := by
  have hmem : step.1 ∈ d.initializers := by
    rw [executed] at h
    split at h
    · cases h
    · exact (Initializer.applied_inOrder d.initializers x).subset (List.mem_map_of_mem h)
  exact hstill _ hmem _

theorem acts_opened : (d.opened (start request s)).acts =
    (d.executed (.ofRequest request s.requestId)).map fun step => .initializer step.1 :=
  Initializer.acts_events (fun _ h => moves_of_mem_executed hstill h) _

theorem stage_prepared (x : Exchange) : (d.prepared x).stage = x.stage := by
  rw [prepared, executed]
  split
  · rfl
  · exact Initializer.stage_leave hstill x

/-- **The acts behind the initializers are in order**, whatever course resolving takes. -/
theorem staged_of_course {result : Except Failure Outcome} {run : Run κ} (h : d.Course w (start request s) result run)
    (stage : Stage) :
    ∃ acts : Acts κ, run.acts ++ [.move run.exchange.stage .responding] =
        (d.executed (.ofRequest request s.requestId)).map (fun step => .initializer step.1) ++ acts ∧
      d.Staged w { d.prepared (.ofRequest request s.requestId) with stage } result acts := by
  have hopened := acts_opened hstill request s
  have hstage : (d.opened (start request s)).exchange.stage = .idle := stage_prepared hstill _
  cases h with
  | ended h =>
    refine ⟨[.move .idle .responding], ?_, ?_⟩
    · rw [hopened, hstage]
    · exact d.staged_of_unhandled w (n := 0) rfl rfl (.inl rfl) (.inl rfl) rfl fun _ _ => rfl
  | unrouted h hroute =>
    refine ⟨[.move .idle .matching, .move .matching .responding], ?_, ?_⟩
    · simp [hopened, hstage]
    · exact d.staged_of_unhandled w (n := 1) rfl rfl (.inl rfl) (.inl rfl) rfl fun _ _ => rfl
  | unmade h hfactory =>
    exact ⟨_, by simp [routed, hopened, hstage, Event.act?], d.staged_of_routed w h _ _⟩
  | refused h hserves =>
    exact ⟨_, by simp [routed, hopened, hstage, Event.act?], d.staged_of_routed w h.toRouted _ _⟩
  | @uninitialized m c f h hinit =>
    refine ⟨[.move .idle .matching, .move .matching .bound, .factory m.route.resource, .init c m.params,
      .move .bound .responding], ?_, ?_⟩
    · simp [routed, hopened, hstage, Event.act?]
    · refine d.staged_of_unhandled w (n := 2) rfl rfl (.inr ⟨m, ?_, rfl⟩) (.inr ⟨m, c, h.admits d w _, rfl⟩) rfl ?_
      · exact RouteTable.lookup_eq_some_iff.mp h.route
      · intro e he
        cases he
  | @handled m c v result h hinit hresult =>
    refine ⟨[.move .idle .matching, .move .matching .bound, .factory m.route.resource, .init c m.params,
      .move .bound .executing, .handler c (Text.lowerString (d.prepared (.ofRequest request s.requestId)).method),
      .move .executing .responding], ?_, ?_⟩
    · simp [routed, hopened, hstage, Event.act?]
      rfl
    · have hadmits := h.admits d w stage
      refine ⟨rfl, ⟨3, rfl⟩, .inr ⟨m, hadmits.first, rfl⟩, .inr ⟨m, c, hadmits, rfl⟩, Nat.le_refl 1, ?_, ?_⟩
      · -- There is one handler only, so that what stands before it is known.
        intro before c' name after hacts
        have hsplit : [.move .idle .matching, .move .matching .bound, .factory m.route.resource, .init c m.params,
            .move .bound .executing] ++
              .handler c (Text.lowerString (d.prepared (.ofRequest request s.requestId)).method) ::
                [.move .executing .responding] = before ++ .handler c' name :: after := hacts
        obtain ⟨rfl, hhandler, -⟩ := (List.append_cons_inj_of_notMem (by simp) (by simp)).mp hsplit
        obtain ⟨rfl, rfl⟩ := Act.handler.inj hhandler
        exact ⟨rfl, m, v, _, hadmits, by simp, Prod.ext hinit rfl, hadmits.implemented,
          if_pos hadmits.implemented⟩
      · intro e he hne
        exact absurd (hresult e he) hne

/-- Then resolving leaves the exchange open for a response. -/
theorem isClosing_resolve : (d.resolve w (start request s)).2.exchange.isClosing = false := by
  rw [(d.leftBy_resolve w request s).closing]
  cases h : d.preempted (.ofRequest request s.requestId) with
  | false => rfl
  | true =>
    obtain ⟨step, hstep, stage, hmove, -⟩ := (d.preempted_iff _).mp h
    rw [moves_of_mem_executed hstill hstep] at hmove
    cases hmove

end Still

/-- **The stages of a dispatch come in order**, if none of the initializers moves the exchange itself: the initializers
take their turns, the first route that matches is bound, and only then is the handler of the method run. The exchange is
done at last, unless its outcome is an error that cannot be answered. -/
theorem dispatch_inOrder {d : Dispatcher κ} (hstill : ∀ i ∈ d.initializers, ∀ x, i.moves x = []) (w : World κ)
    (request : Request) (s : Surroundings) :
    (∃ steps behind, d.InOrder w (.ofRequest request s.requestId) (d.stages w (start request s)).1
      (d.dispatch w s request).1 (d.dispatch w s request).2 steps behind) ∧
    ((∃ f, (d.dispatch w s request).1 = .error f) ↔ d.renderer.Unanswerable (d.resolve w (start request s)).1) := by
  have hcourse := d.course_stages w (start request s)
  obtain ⟨attempts, hending⟩ := d.dispatch_of_not_isClosing w (isClosing_resolve (w := w) hstill request s)
  refine ⟨?_, ?_⟩
  · obtain ⟨hrun, hlast⟩ := hending.acts_eq
    obtain ⟨behind, hacts, hstaged⟩ := staged_of_course hstill request s hcourse (lastStage (d.dispatch w s request).1)
    have hexchange : (d.dispatch w s request).2.exchange =
        { d.prepared (.ofRequest request s.requestId) with stage := lastStage (d.dispatch w s request).1 } := by
      rw [hlast, hcourse.exchange_eq]
      rfl
    refine ⟨d.executed (.ofRequest request s.requestId), behind, ?_, ?_, ?_, hexchange, hexchange ▸ hstaged⟩
    · rw [hrun, hacts]
    · exact fun hrelative => if_pos hrelative
    · intro habsolute
      rw [executed, if_neg (not_not_intro habsolute)]
      exact Initializer.inTurn_applied d.initializers _
  · rw [d.resolve_eq w]
    exact hending.answer.unanswerable_iff

/-- The handler that is run is that of the method which the query asks for. -/
theorem dispatch_inOrder_page :
    (∀ i ∈ (onePage .text).initializers, ∀ x, i.moves x = []) ∧
      ((onePage .text).dispatch .onePage .forPage (.forPage "POST" "_method=get")).2.acts.handlers = [((), "get")] ∧
      (∃ steps behind, (onePage .text).InOrder .onePage
        (.ofRequest (.forPage "POST" "_method=get") Surroundings.forPage.requestId)
        ((onePage .text).stages .onePage (start (.forPage "POST" "_method=get") .forPage)).1
        ((onePage .text).dispatch .onePage .forPage (.forPage "POST" "_method=get")).1
        ((onePage .text).dispatch .onePage .forPage (.forPage "POST" "_method=get")).2 steps behind) ∧
      ((∃ f, ((onePage .text).dispatch .onePage .forPage (.forPage "POST" "_method=get")).1 = .error f) ↔
        Renderer.text.Unanswerable
          ((onePage .text).resolve .onePage (start (.forPage "POST" "_method=get") .forPage)).1) :=
  ⟨moves_onePage .text, rfl,
    dispatch_inOrder (moves_onePage .text) .onePage (.forPage "POST" "_method=get") .forPage⟩

/-- An exchange that gets no response is never done. -/
theorem dispatch_undone :
    (∀ i ∈ (onePage .text).initializers, ∀ x, i.moves x = []) ∧
      ((onePage .text).dispatch (.raising .garbled) .forPage (.forPage "GET" "")).2.acts.moves =
        Stage.steps [.idle, .matching, .bound, .executing, .responding] :=
  ⟨moves_onePage .text, rfl⟩

end Dispatcher

end HttpRouter
