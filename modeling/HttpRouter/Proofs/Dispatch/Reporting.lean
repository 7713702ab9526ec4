import HttpRouter.Proofs.Dispatch.Responding

/-!
# Reporting faults

The observer of a dispatcher is told about every fault once: about the one that resolving ended with, and about every
failure to build the response. HTTP errors are answers, not faults, and are not reported, wherever they were raised.
What the observer does changes nothing about the answer.

* `Dispatcher.build_error_iff`: building a response fails with the failure of what is attempted for it.
* `Renderer.Answer.reported`: the failures on the way to a response, by the outcome.
* `Dispatcher.dispatch_reports`: what is reported in a dispatch, and the status that the answer has all the same.
-/

namespace HttpRouter

variable {κ : Type}

/-! ## Failures to build a response -/

namespace Renderer

variable (renderer : Renderer)

/-- The failures to build the response to an outcome: its own, and if it is that of a resource, then the one to build
the response to the error that takes its place. -/
def failures : Outcome → List Failure
  | .error e => (renderer.buildFailure? (.error e)).toList
  | .success i data lastModified =>
    match renderer.buildFailure? (.success i data lastModified) with
    | none => []
    | some f => f :: (renderer.buildFailure? (.error (.ofFailure f))).toList

theorem length_failures_error (e : HttpError) : (renderer.failures (.error e)).length ≤ 1 :=
  Option.length_toList_le

/-- There are two attempts at most, and one only to respond to an error. -/
theorem length_failures (outcome : Outcome) : (renderer.failures outcome).length ≤ 2 := by
  cases outcome with
  | error e => exact Nat.le_succ_of_le (renderer.length_failures_error e)
  | success i data lastModified =>
    rw [failures]
    split
    · exact Nat.zero_le 2
    · exact Nat.succ_le_succ Option.length_toList_le

variable {renderer} {requestId : String} {attempts : List Attempt}

theorem Answer.reported_error {e : HttpError} {answer : Except Failure Response}
    (h : renderer.Answer requestId (.error e) attempts answer) :
    attempts.filterMap renderer.failure? = (renderer.buildFailure? (.error e)).toList := by
  rw [h.attempts_error, buildFailure?]
  cases Outcome.attempt? (.error e) with
  | none => rfl
  | some a =>
    rw [Option.toList_some, List.filterMap_cons, List.filterMap_nil, Option.bind_some]
    cases renderer.failure? a <;> rfl

/-- **The failures on the way to a response** are those that its outcome and the renderer lead to. -/
theorem Answer.reported {outcome : Outcome} {answer : Except Failure Response}
    (h : renderer.Answer requestId outcome attempts answer) :
    attempts.filterMap renderer.failure? = renderer.failures outcome := by
  cases outcome with
  | error e => exact h.reported_error
  | success i data lastModified =>
    cases h with
    | shown hbody => simp [failures, buildFailure?, Outcome.attempt?, failure?, hbody]
    | @replaced _ _ _ f _ _ hfails h =>
      have hfailure := renderer.failure?_render_eq_some_iff.mpr hfails
      have hbuild : renderer.buildFailure? (.success i data lastModified) = some f := hfailure
      rw [List.filterMap_cons_some hfailure, h.reported_error, failures, hbuild]

/-- A resource that cannot be rendered is a fault of the server. -/
theorem Answer.status_success {i : Instance} {data : Value} {lastModified : Option String} {response : Response}
    (h : renderer.Answer requestId (.success i data lastModified) attempts (.ok response)) :
    response.status = if (renderer.buildFailure? (.success i data lastModified)).isNone then 200 else 500 := by
  cases h with
  | shown hbody =>
    have hbuild : renderer.buildFailure? (.success i data lastModified) = none :=
      renderer.failure?_render_eq_none_iff.mpr ⟨_, hbody⟩
    rw [hbuild]
    rfl
  | replaced hfails h =>
    have hbuild : renderer.buildFailure? (.success i data lastModified) = some _ :=
      renderer.failure?_render_eq_some_iff.mpr hfails
    rw [hbuild]
    exact h.status_error.1

end Renderer

namespace Dispatcher

variable {d : Dispatcher κ} {w : World κ}

/-- **Building a response fails with the failure of what is attempted for it**, if at all. -/
theorem build_error_iff {outcome : Outcome} {f : Failure} (r : Run κ) :
    (d.build outcome r).1 = .error f ↔ d.renderer.buildFailure? outcome = some f := by
  cases outcome with
  | error e =>
    rw [build, buildError, Renderer.buildFailure?, Outcome.attempt?]
    cases e.family with
    | noRender => constructor <;> intro h <;> cases h
    | redirect =>
      dsimp only
      rw [Option.bind_some, Renderer.failure?, Response.setText]
      cases Text.encoded e.message with
      | ok body => constructor <;> intro h <;> cases h
      | error fault =>
        exact ⟨fun h => congrArg some (Except.error.inj h), fun h => congrArg Except.error (Option.some.inj h)⟩
    | render =>
      dsimp only
      rw [renderInto, Option.bind_some, Renderer.failure?]
      cases d.renderer.render (.ofError e) .itself <;> simp
  | success i data lastModified =>
    rw [build_success, renderInto, Renderer.buildFailure?, Outcome.attempt?, Option.bind_some, Renderer.failure?]
    cases d.renderer.render (.resource i) (.data data) <;> simp

/-! ## Reports of a dispatch -/

/-- What is reported in a dispatch whose resolving ended with a result, and what the answer to the client says in spite
of it. -/
structure Reported (d : Dispatcher κ) (result : Except Failure Outcome) (response : Response)
    (reports : List Failure) : Prop where
  inOrder : reports = unhandled result ++ d.renderer.failures (outcomeOf result)
  twice : reports.length ≤ 2
  raised : ∀ e, result = .error (.http e) → reports = (d.renderer.buildFailure? (.error e)).toList
  error : ∀ e, result = .error (.http e) ∨ result = .ok (.error e) →
    response.status = e.code ∧ response.reason = e.reason
  fault : ∀ f, result = .error (.fault f) → response.status = 500 ∧ response.reason = "Internal Server Error"
  success : ∀ i data lastModified, result = .ok (.success i data lastModified) →
    response.status = if (d.renderer.buildFailure? (.success i data lastModified)).isNone then 200 else 500

/-- An outcome that is answered was reported if it was a fault. -/
theorem reported_of_answer {requestId : String} {result : Except Failure Outcome}
    {attempts : List Attempt} {response : Response}
    (h : d.renderer.Answer requestId (outcomeOf result) attempts (.ok response)) :
    d.Reported result response (unhandled result ++ attempts.filterMap d.renderer.failure?) := by
  rw [h.reported]
  refine ⟨rfl, ?_, ?_, ?_, ?_, ?_⟩
  · rcases result with (f | e) | outcome
    · exact Nat.succ_le_succ (d.renderer.length_failures_error (.ofFailure (.fault f)))
    · exact d.renderer.length_failures (.error e)
    · exact d.renderer.length_failures outcome
  · rintro e rfl
    rfl
  · rintro e (rfl | rfl)
    · exact h.status_error
    · exact h.status_error
  · rintro f rfl
    exact h.status_error
  · rintro i data lastModified rfl
    exact h.status_success

/-- The answer is the same with any other observer. -/
theorem dispatch_of_observer {s : Surroundings} {request : Request} {response : Response}
    (h : (d.dispatch w s request).1 = .ok response) (observer : Observer) :
    ({ d with observer }.dispatch w s request).1 = .ok response := by
  cases hclosing : (d.resolve w (start request s)).2.exchange.isClosing with
  | true =>
    rw [d.dispatch_of_isClosing w hclosing] at h
    cases h
  | false =>
    rw [d.resolve_eq w] at hclosing
    have hclosing' : ({ d with observer }.resolve w (start request s)).2.exchange.isClosing = false := by
      rw [resolve_eq]
      exact hclosing
    obtain ⟨_, _, -, hanswer, -⟩ := d.answered_dispatch w h
    obtain ⟨attempts, hending⟩ := dispatch_of_not_isClosing _ w hclosing'
    generalize { d with observer }.dispatch w s request = ended at hending ⊢
    -- Both answer the same outcome with the same renderer.
    cases hending with
    | answered hanswer' =>
      obtain ⟨-, hsame⟩ := hanswer.unique hanswer'
      exact hsame.symm
    | unanswered hanswer' =>
      obtain ⟨-, hsame⟩ := hanswer.unique hanswer'
      cases hsame

/-- **Faults are reported once, and change nothing about the answer.** If a dispatch returns, its observer was told about
the fault that resolving ended with, if any, and then about the failures to build the response; and the answer is the
same with any other observer. -/
theorem dispatch_reports {s : Surroundings} {request : Request} {response : Response}
    (h : (d.dispatch w s request).1 = .ok response) :
    d.Reported (d.stages w (start request s)).1 response (d.dispatch w s request).2.journal.reports ∧
      ∀ observer, ({ d with observer }.dispatch w s request).1 = .ok response := by
  obtain ⟨attempts, hanswer, -, hreports⟩ := answer_dispatch h
  rw [hreports]
  exact ⟨reported_of_answer hanswer, dispatch_of_observer h⟩

/-- A page that cannot be rendered is reported twice: once for itself, and once for the error in its place. -/
theorem dispatch_reports_broken :
    ((onePage .broken).dispatch .onePage .forPage (.forPage "GET" "")).2.journal.reports = [.exploded, .exploded] ∧
      ∃ response, ((onePage .broken).dispatch .onePage .forPage (.forPage "GET" "")).1 = .ok response ∧
        response.status = 500 ∧
        (onePage .broken).Reported ((onePage .broken).stages .onePage (start (.forPage "GET" "") .forPage)).1 response
          ((onePage .broken).dispatch .onePage .forPage (.forPage "GET" "")).2.journal.reports ∧
        ∀ observer, ({ onePage .broken with observer }.dispatch .onePage .forPage (.forPage "GET" "")).1 =
          .ok response := by
  have h : ((onePage .broken).dispatch .onePage .forPage (.forPage "GET" "")).1 = .ok
      ⟨500, "Internal Server Error", [("X-Request-ID", "a1b2c3d4"), ("Content-Type", TextRenderer.contentType)],
        Text.Utf8.ofString "500 Internal Server Error"⟩ := rfl
  exact ⟨rfl, _, h, rfl, dispatch_reports h⟩

end Dispatcher

end HttpRouter
