import HttpRouter.Dispatch.Run

/-!
# What resolving leaves behind

Custom initializers may move an exchange themselves. Once one of them has moved it to `responding` or `done`, nothing
that follows can undo that, and nothing but an initializer can do it: the stages of resolving go to `matching`, `bound`
and `executing` only. So the stage in which an exchange is left by resolving tells what the initializers did.

* `closing_apply`: what an initializer leaves closing was closing before, or was made so by its own moves.
* `leftBy_resolve`: after resolving, an exchange is closing exactly if an initializer that was applied made it so; and
  those that were applied are those that the journal shows.
-/

namespace HttpRouter

variable {κ : Type}

/-! ## Closing stages -/

namespace Stage

/-- Whether an exchange in this stage is on its way out: it cannot move to `responding` any more. -/
def isClosing : Stage → Bool
  | responding | done => true
  | _ => false

theorem isClosing_iff (s : Stage) : s.isClosing = true ↔ s = responding ∨ s = done := by
  cases s <;> decide

theorem mayFollow_responding (s : Stage) : s.mayFollow responding = !s.isClosing := by
  cases s <;> rfl

/-- A closing stage is followed by closing stages only. -/
theorem isClosing_of_mayFollow {a b : Stage} (h : a.mayFollow b = true) : (a.isClosing || b.isClosing) = b.isClosing := by
  revert h
  cases a <;> cases b <;> decide

end Stage

namespace Exchange

/-- Whether an exchange is in a closing stage. -/
def isClosing (x : Exchange) : Bool := x.stage.isClosing

/-- A move makes an exchange closing if it leads to a closing stage, and never undoes that. -/
theorem isClosing_of_advance {x y : Exchange} {stage : Stage} {record : LogRecord}
    (h : x.advance stage = .ok (y, record)) : y.isClosing = (x.isClosing || stage.isClosing) := by
  obtain ⟨hm, rfl⟩ := advance_eq_ok h
  exact (Stage.isClosing_of_mayFollow hm).symm

end Exchange

/-! ## What initializers do -/

namespace Initializer

/-- The stages that effects move an exchange to, which is in a given one at first. An impossible move is none, and ends
them. -/
def movesOf : Stage → List Effect → List Stage
  | _, [] => []
  | s, .setMethod _ :: rest => movesOf s rest
  | s, .setPath _ :: rest => movesOf s rest
  | s, .advance stage :: rest => if s.mayFollow stage then stage :: movesOf stage rest else []
  | _, .stop _ :: _ => []
  | _, .fail _ :: _ => []

/-- The stages that an initializer moves an exchange to. -/
def moves (i : Initializer) (x : Exchange) : List Stage :=
  match i with
  | noTrailingSlash | methodOverride _ _ | allowedMethods _ => []
  | custom effects => movesOf x.stage (effects x)

/-- The initializers of a list that are applied to an exchange, each with the exchange as it finds it: those up to the
first one that ends it or fails. -/
def applied : List Initializer → Exchange → List (Initializer × Exchange)
  | [], _ => []
  | i :: rest, x =>
    (i, x) :: match (i.apply x).result with
      | .ok none => applied rest (i.apply x).exchange
      | _ => []

theorem applied_of_passed {i : Initializer} {x : Exchange} (h : (i.apply x).result = .ok none)
    (rest : List Initializer) : applied (i :: rest) x = (i, x) :: applied rest (i.apply x).exchange := by
  rw [applied, h]

theorem applied_of_ended {i : Initializer} {x : Exchange} (h : (i.apply x).result ≠ .ok none)
    (rest : List Initializer) : applied (i :: rest) x = [(i, x)] := by
  rw [applied]
  split
  · next hpass => exact absurd hpass h
  · rfl

theorem closing_applyEffects (x : Exchange) (records : List LogRecord) (effects : List Effect) :
    (applyEffects x records effects).exchange.isClosing =
      (x.isClosing || (movesOf x.stage effects).any Stage.isClosing) := by
  induction effects generalizing x records with
  | nil => exact (Bool.or_false _).symm
  | cons effect rest ih =>
    cases effect with
    | setMethod method => exact ih { x with method } records
    | setPath path => exact ih { x with path } records
    | advance stage =>
      rw [applyEffects, movesOf]
      cases h : x.advance stage with
      | ok moved =>
        obtain ⟨y, record⟩ := moved
        obtain ⟨hm, hy⟩ := Exchange.advance_eq_ok h
        have hstage : y.stage = stage := by rw [hy]
        show (applyEffects y (records ++ [record]) rest).exchange.isClosing = _
        rw [ih, Exchange.isClosing_of_advance h, if_pos hm, hstage, List.any_cons, Bool.or_assoc]
      | error f =>
        -- The effects end with the impossible move, and so do the moves.
        obtain ⟨hm, -⟩ := Exchange.advance_eq_error h
        rw [hm]
        exact (Bool.or_false _).symm
    | stop e => exact (Bool.or_false _).symm
    | fail f => exact (Bool.or_false _).symm

theorem applyNoTrailingSlash_exchange (x : Exchange) : (applyNoTrailingSlash x).exchange = x := by
  rw [applyNoTrailingSlash]
  dsimp only
  split <;> rfl

theorem applyOverride_stage (param : String) (allowed : List String) (x : Exchange) :
    (applyOverride param allowed x).exchange.stage = x.stage := by
  rw [applyOverride]
  dsimp only
  split <;> rfl

/-- **An initializer makes an exchange closing by its own moves only.** -/
theorem closing_apply (i : Initializer) (x : Exchange) :
    (i.apply x).exchange.isClosing = (x.isClosing || (i.moves x).any Stage.isClosing) := by
  cases i with
  | noTrailingSlash =>
    rw [apply, applyNoTrailingSlash_exchange, moves, List.any_nil, Bool.or_false]
  | methodOverride param allowed =>
    rw [apply, Exchange.isClosing, applyOverride_stage, moves, List.any_nil, Bool.or_false, Exchange.isClosing]
  | allowedMethods allowed =>
    have hx : ((allowedMethods allowed).apply x).exchange = x := by
      rw [apply]
      split <;> rfl
    rw [hx, moves, List.any_nil, Bool.or_false]
  | custom effects => exact closing_applyEffects x [] (effects x)

end Initializer

/-! ## Steps that keep a property -/

namespace Step

variable {α β : Type} {P : Run κ → Prop}

/-- Whether a step keeps a property of the run, whether it goes well or fails. -/
def Keeps (P : Run κ → Prop) (s : Step κ α) : Prop :=
  ∀ r, P r → P (s r).2

theorem keeps_pure (a : α) : Keeps P (Pure.pure a : Step κ α) := fun _ h => h

theorem keeps_exchange : Keeps P (exchange : Step κ Exchange) := fun _ h => h

theorem keeps_ofExcept (e : Except Failure α) : Keeps P (ofExcept e : Step κ α) := fun _ h => h

/-- A move that is not possible fails. -/
theorem advance_of_not_mayFollow {stage : Stage} {r : Run κ} (h : r.exchange.stage.mayFollow stage = false) :
    advance stage r = (.error (.fault (Exchange.illegalMove r.exchange.stage stage)), r) := by
  rw [advance, Exchange.advance, h]
  rfl

/-- Steps that each keep a property keep it one after the other. -/
theorem Keeps.bind {s : Step κ α} {f : α → Step κ β} (hs : s.Keeps P) (hf : ∀ a, (f a).Keeps P) :
    Keeps P (s >>= f) := by
  intro r h
  have hr := hs r h
  rcases hrun : s r with ⟨e | a, r'⟩
  · rw [hrun] at hr
    rw [bind_of_error hrun]
    exact hr
  · rw [hrun] at hr
    rw [bind_of_ok hrun]
    exact hf a r' hr

end Step

/-! ## What initializers leave behind -/

namespace Journal

/-- The initializers that were applied. -/
def initializers (j : Journal κ) : List Initializer :=
  j.filterMap fun
    | .initializer i => some i
    | _ => none

theorem initializers_append (j j' : Journal κ) : (j ++ j').initializers = j.initializers ++ j'.initializers :=
  List.filterMap_append

theorem initializers_logged (records : List LogRecord) :
    Journal.initializers (records.map (.logged : LogRecord → Event κ)) = [] := by
  induction records with
  | nil => rfl
  | cons record records ih => exact ih

end Journal

/-- What the initializers left behind in a run: whether its exchange is closing, and which of them were applied. -/
structure LeftBy (closing : Bool) (applied : List Initializer) (r : Run κ) : Prop where
  closing : r.exchange.isClosing = closing
  applied : r.journal.initializers = applied

namespace LeftBy

variable {closing : Bool} {applied : List Initializer}

/-- Events that are not about initializers do not change what these left behind. -/
theorem append {r : Run κ} (h : LeftBy closing applied r) {j : Journal κ} (hj : j.initializers = []) :
    LeftBy closing applied { r with journal := r.journal ++ j } := by
  refine ⟨h.closing, ?_⟩
  show (r.journal ++ j).initializers = applied
  rw [Journal.initializers_append, hj, List.append_nil, h.applied]

theorem keeps_note {e : Event κ} (he : Journal.initializers [e] = []) :
    Step.Keeps (LeftBy closing applied) (Step.note e) :=
  fun _ h => h.append he

/-- Neither does a move to a stage that is not closing. -/
theorem keeps_advance {stage : Stage} (hs : stage.isClosing = false) :
    Step.Keeps (κ := κ) (LeftBy closing applied) (Step.advance stage) := by
  intro r h
  rw [Step.advance]
  cases hm : r.exchange.advance stage with
  | ok moved =>
    obtain ⟨y, record⟩ := moved
    have hy := Exchange.isClosing_of_advance hm
    rw [hs, Bool.or_false, h.closing] at hy
    exact ⟨hy, (h.append (j := [.logged record]) rfl).applied⟩
  | error f => exact h

end LeftBy

namespace Dispatcher

open Initializer (applied)

/-- An initializer that lets an exchange pass hands it over to the next one. -/
theorem applyAll_of_passed {i : Initializer} {r : Run κ} (h : (i.apply r.exchange).result = .ok none)
    (rest : List Initializer) : applyAll (i :: rest) r = applyAll rest (applyOne i r).2 := by
  have hrun : applyOne i r = (.ok none, (applyOne i r).2) := by rw [← h]; rfl
  exact Step.bind_of_ok hrun _

/-- After an initializer that ends an exchange or fails, none is applied. -/
theorem applyAll_of_ended {i : Initializer} {r : Run κ} (h : (i.apply r.exchange).result ≠ .ok none)
    (rest : List Initializer) : applyAll (i :: rest) r = applyOne i r := by
  cases hresult : (i.apply r.exchange).result with
  | error f =>
    have hrun : applyOne i r = (.error f, (applyOne i r).2) := by rw [← hresult]; rfl
    rw [hrun]
    exact Step.bind_of_error hrun _
  | ok ended =>
    cases ended with
    | none => exact absurd hresult h
    | some e =>
      have hrun : applyOne i r = (.ok (some e), (applyOne i r).2) := by rw [← hresult]; rfl
      rw [hrun]
      exact Step.bind_of_ok hrun _

theorem leftBy_applyOne (i : Initializer) (r : Run κ) :
    LeftBy (r.exchange.isClosing || (i.moves r.exchange).any Stage.isClosing) (r.journal.initializers ++ [i])
      (applyOne i r).2 := by
  refine ⟨Initializer.closing_apply i r.exchange, ?_⟩
  show Journal.initializers (r.journal ++ ([.initializer i] ++ (i.apply r.exchange).records.map .logged)) = _
  rw [Journal.initializers_append, Journal.initializers_append, Journal.initializers_logged]
  rfl

/-- **Initializers leave an exchange closing if one that was applied made it so.** -/
theorem leftBy_applyAll (is : List Initializer) (r : Run κ) :
    LeftBy (r.exchange.isClosing || (applied is r.exchange).any fun step => (step.1.moves step.2).any Stage.isClosing)
      (r.journal.initializers ++ (applied is r.exchange).map (·.1)) (applyAll is r).2 := by
  induction is generalizing r with
  | nil => exact ⟨(Bool.or_false _).symm, (List.append_nil _).symm⟩
  | cons i rest ih =>
    have hone := leftBy_applyOne i r
    by_cases hpass : (i.apply r.exchange).result = .ok none
    · -- The rest is applied to what this initializer left behind, and adds to it.
      have hrest := ih (applyOne i r).2
      rw [hone.closing, hone.applied, Bool.or_assoc, List.append_assoc] at hrest
      rw [applyAll_of_passed hpass, Initializer.applied_of_passed hpass, List.any_cons, List.map_cons]
      exact hrest
    · rw [applyAll_of_ended hpass, Initializer.applied_of_ended hpass, List.any_cons, List.any_nil, Bool.or_false]
      exact hone

/-! ## Resolving -/

/-- The initializers that are applied to an exchange, each with the exchange as it finds it: none if the path is not
absolute. -/
def executed (d : Dispatcher κ) (x : Exchange) : List (Initializer × Exchange) :=
  if x.path.head? ≠ some (.char '/') then [] else applied d.initializers x

/-- Whether an initializer that is applied to an exchange moves it to a closing stage. -/
def preempted (d : Dispatcher κ) (x : Exchange) : Bool :=
  (d.executed x).any fun step => (step.1.moves step.2).any Stage.isClosing

theorem preempted_iff (d : Dispatcher κ) (x : Exchange) :
    d.preempted x = true ↔
      ∃ step ∈ d.executed x, ∃ stage ∈ step.1.moves step.2, stage = .responding ∨ stage = .done := by
  simp only [preempted, List.any_eq_true, Stage.isClosing_iff]

variable (d : Dispatcher κ) (w : World κ)

theorem leftBy_prepare {r : Run κ} (hr : LeftBy false [] r) :
    LeftBy (d.preempted r.exchange) ((d.executed r.exchange).map (·.1)) (d.prepare r).2 := by
  have hall := leftBy_applyAll d.initializers r
  rw [hr.closing, hr.applied, Bool.false_or, List.nil_append] at hall
  rw [preempted, executed, prepare, Step.bind_of_ok (s := Step.exchange) rfl]
  split
  · exact hr
  · rcases hrun : applyAll d.initializers r with ⟨f | ended, r'⟩
    · rw [hrun] at hall
      rw [Step.bind_of_error hrun]
      exact hall
    · rw [hrun] at hall
      rw [Step.bind_of_ok hrun]
      cases ended with
      | some e => exact hall
      | none =>
      -- Only the move to `matching` follows.
      exact (LeftBy.keeps_advance rfl).bind (fun _ => Step.keeps_pure _) r' hall

variable {closing : Bool} {is : List Initializer}

theorem keeps_matchRoute : d.matchRoute.Keeps (LeftBy closing is) := by
  rw [matchRoute]
  refine Step.keeps_exchange.bind fun x => ?_
  split
  · exact Step.keeps_pure _
  · refine Step.Keeps.bind (fun r h => ⟨h.closing, h.applied⟩) fun _ => ?_
    exact (LeftBy.keeps_advance rfl).bind fun _ => Step.keeps_pure _

theorem keeps_bindResource (m : RouteMatch κ) : (d.bindResource w m).Keeps (LeftBy closing is) := by
  rw [bindResource]
  refine (LeftBy.keeps_note rfl).bind fun _ => ?_
  refine (Step.keeps_ofExcept _).bind fun c => ?_
  refine Step.keeps_exchange.bind fun x => ?_
  dsimp only
  split
  · exact Step.keeps_pure _
  · refine (LeftBy.keeps_note rfl).bind fun _ => ?_
    refine (Step.keeps_ofExcept _).bind fun _ => ?_
    exact (LeftBy.keeps_advance rfl).bind fun _ => Step.keeps_pure _

theorem keeps_execute (c : κ) (i : Instance) : (d.execute c i).Keeps (LeftBy closing is) := by
  rw [execute]
  refine Step.keeps_exchange.bind fun x => ?_
  refine (LeftBy.keeps_note rfl).bind fun _ => ?_
  refine (Step.keeps_ofExcept _).bind fun data => ?_
  refine (Step.keeps_ofExcept _).bind fun lastModified => ?_
  split
  · exact Step.keeps_pure _
  · exact Step.keeps_pure _

/-- **The stages behind the initializers do not change what these left behind.** -/
theorem leftBy_stages {r : Run κ} (hr : LeftBy false [] r) :
    LeftBy (d.preempted r.exchange) ((d.executed r.exchange).map (·.1)) (d.stages w r).2 := by
  have hprepare := d.leftBy_prepare hr
  rw [stages]
  rcases hrun : d.prepare r with ⟨f | ended, r'⟩
  · rw [hrun] at hprepare
    rw [Step.bind_of_error hrun]
    exact hprepare
  · rw [hrun] at hprepare
    rw [Step.bind_of_ok hrun]
    cases ended with
    | some e => exact hprepare
    | none =>
      refine d.keeps_matchRoute.bind (fun found => ?_) r' hprepare
      split
      · exact Step.keeps_pure _
      · refine (d.keeps_bindResource w _).bind fun bound => ?_
        split
        · exact Step.keeps_pure _
        · exact d.keeps_execute _ _

/-- Telling the observer about a failure changes nothing but the journal, and adds no initializer to it. -/
theorem leftBy_report {r : Run κ} (h : LeftBy closing is r) (f : Failure) : LeftBy closing is (d.report f r) :=
  h.append (Journal.initializers_logged _)

/-- **Resolving leaves an exchange closing if an initializer made it so**, and shows in its journal which initializers
were applied. -/
theorem leftBy_resolve (request : Request) (s : Surroundings) :
    LeftBy (d.preempted (.ofRequest request s.requestId))
      ((d.executed (.ofRequest request s.requestId)).map (·.1)) (d.resolve w (start request s)).2 := by
  have hstages : LeftBy _ _ (d.stages w (start request s)).2 := d.leftBy_stages w ⟨rfl, rfl⟩
  rw [resolve]
  split
  · next hrun =>
    rw [hrun] at hstages
    exact hstages
  · next hrun =>
    rw [hrun] at hstages
    exact hstages.append rfl
  · next hrun =>
    rw [hrun] at hstages
    exact d.leftBy_report hstages _

end Dispatcher

end HttpRouter
