import HttpRouter.Proofs.Dispatch.Course

/-!
# Responding

Whatever the outcome of resolving is, there are few ways to answer it, by the family of the error and by what comes of
the attempt to build its response. Everything that a dispatch does behind resolving is told by its outcome and by what
was attempted. An error whose response cannot be built is answered with its status line, as a last resort; if that has no
encoding either, there is no response.

* `Renderer.Answer`: the ways to answer an outcome, each with what is attempted and with the whole response.
* `Dispatcher.answer_respond`: every outcome is answered in one of these ways.
* `Dispatcher.dispatch_of_isClosing`, `Dispatcher.dispatch_of_not_isClosing`: what becomes of a dispatch, by the stage in
  which resolving left the exchange.
* `Dispatcher.answered_dispatch`: what a dispatch returns answers the outcome of resolving, and its run goes on from
  there.
* `Dispatcher.Course.quiet`: nothing is rendered or reported before there is an outcome.
-/

namespace HttpRouter

variable {κ : Type}

/-! ## Access records -/

namespace AccessRecord

/-- An access record can be written as JSON: its keys are texts. -/
theorem toJson_eq_ok (r : AccessRecord) : ∃ line, r.toJson = .ok line := by
  rw [toJson, toValue]
  simp only [Json.writeWith, Json.writeEntries, Json.keyWith, Json.wholeText]
  exact ⟨_, rfl⟩

/-- **An answer with a known status can be recorded**, whatever the format of the log is. -/
theorem logRecord_eq_ok {r : AccessRecord} {status : Status} (h : r.status = status.code) (format : String) :
    ∃ record, r.logRecord format = .ok record := by
  obtain ⟨line, hline⟩ := r.toJson_eq_ok
  rw [logRecord]
  rw [h, Status.ofCode?_code]
  dsimp only
  split
  · rw [hline]
    exact ⟨_, rfl⟩
  · exact ⟨_, rfl⟩

/-- What is logged of an access record has a known status, and its text in the format. -/
theorem logRecord_eq_ok_inv {r : AccessRecord} {format : String} {line : LogRecord}
    (h : r.logRecord format = .ok line) :
    ∃ status message, Status.ofCode? r.status = some status ∧
      (if format = "json" then r.toJson.map Text.ofString else .ok r.toText) = .ok message ∧
      line = ⟨"httpresource.access", if status.isServerError then .error else .info, message⟩ := by
  rw [logRecord] at h
  split at h
  · next status hstatus =>
    dsimp only at h
    split at h
    · next hjson =>
      obtain ⟨message, hmessage⟩ := r.toJson_eq_ok
      rw [hmessage] at h
      cases h
      exact ⟨status, message, hstatus, by rw [if_pos hjson, hmessage]; rfl, rfl⟩
    · next htext =>
      cases h
      exact ⟨status, r.toText, hstatus, if_neg htext, rfl⟩
  · cases h

/-- An access record goes to its own log. -/
theorem log_logRecord {r : AccessRecord} {format : String} {line : LogRecord}
    (h : r.logRecord format = .ok line) : line.log = "httpresource.access" := by
  obtain ⟨status, message, -, -, rfl⟩ := logRecord_eq_ok_inv h
  rfl

end AccessRecord

/-! ## Attempts -/

/-- What is attempted on the way to a response: something is rendered, or a text is written as it is. -/
inductive Attempt where
  | render (s : Subject) (p : Payload)
  | write (text : Letters)

namespace Attempt

/-- What is rendered, if anything is. -/
def rendering? : Attempt → Option (Subject × Payload)
  | render s p => some (s, p)
  | write _ => none

/-- The events of an attempt, whatever comes of it. -/
def events (a : Attempt) : Journal κ :=
  (a.rendering?.map fun p => .render p.1 p.2).toList

end Attempt

/-- What is attempted to build the response to an outcome. A bare status line takes no attempt. -/
def Outcome.attempt? : Outcome → Option Attempt
  | .error e =>
    match e.family with
    | .noRender => none
    | .redirect => some (.write e.message)
    | .render => some (.render (.ofError e) .itself)
  | .success i data _ => some (.render (.resource i) (.data data))

namespace Renderer

variable (renderer : Renderer)

/-- The failure of an attempt, if it fails. -/
def failure? : Attempt → Option Failure
  | .render s p =>
    match renderer.render s p with
    | .ok _ => none
    | .error f => some f
  | .write text =>
    match Text.encoded text with
    | .ok _ => none
    | .error f => some (.fault f)

/-- The failure to build the response to an outcome, if it cannot be built. -/
def buildFailure? (outcome : Outcome) : Option Failure :=
  outcome.attempt?.bind renderer.failure?

theorem failure?_render_eq_none_iff {s : Subject} {p : Payload} :
    renderer.failure? (.render s p) = none ↔ ∃ body, renderer.render s p = .ok body := by
  rw [failure?]
  cases renderer.render s p <;> simp

theorem failure?_render_eq_some_iff {s : Subject} {p : Payload} {f : Failure} :
    renderer.failure? (.render s p) = some f ↔ renderer.render s p = .error f := by
  rw [failure?]
  cases renderer.render s p <;> simp

end Renderer

/-! ## Answers -/

namespace HttpError

/-- None of the headers of an error is one that a response has anyway. -/
theorem notMem_headers (e : HttpError) {name : String} (h : name ∈ reservedHeaders) : name ∉ e.headers.map (·.1) := by
  intro hmem
  obtain ⟨p, hp, rfl⟩ := List.mem_map.mp hmem
  exact e.headers_spec.2 p hp h

/-- The headers of a response to an error: its own stand between those that every response has. -/
def responseHeaders (e : HttpError) (requestId contentType : String) : Fields String Letters :=
  ("X-Request-ID", (requestId : Letters)) :: e.headers ++ [("Content-Type", (contentType : Letters))]

/-- The response of last resort to an error: its status line as text, if that has an encoding. -/
def lastResort (e : HttpError) (requestId : String) : Except Failure Response :=
  match Text.encoded (TextRenderer.errorLine e) with
  | .ok body =>
    .ok ⟨e.code, e.reason, [("X-Request-ID", requestId), ("Content-Type", TextRenderer.contentType)], body⟩
  | .error f => .error (.fault f)

/-- It has no headers but those that every response has. -/
theorem eq_of_lastResort {e : HttpError} {requestId : String} {response : Response}
    (h : e.lastResort requestId = .ok response) :
    ∃ body, response =
      ⟨e.code, e.reason, [("X-Request-ID", requestId), ("Content-Type", TextRenderer.contentType)], body⟩ := by
  rw [lastResort] at h
  split at h
  · exact ⟨_, (Except.ok.inj h).symm⟩
  · cases h

end HttpError

namespace Renderer

/-- How outcomes are answered: what is attempted on the way, and the response, if there is one. -/
inductive Answer (renderer : Renderer) (requestId : String) : Outcome → List Attempt → Except Failure Response → Prop
  | bare {e : HttpError} (h : e.family = .noRender) :
      Answer renderer requestId (.error e) [] (.ok ⟨e.code, e.reason, [], []⟩)
  | redirected {e : HttpError} {body : List UInt8} (h : e.family = .redirect)
      (hbody : Text.encoded e.message = .ok body) :
      Answer renderer requestId (.error e) [.write e.message] (.ok
        ⟨e.code, e.reason, e.responseHeaders requestId TextRenderer.contentType, body⟩)
  | rendered {e : HttpError} {body : List UInt8} (h : e.family = .render)
      (hbody : renderer.render (.ofError e) .itself = .ok body) :
      Answer renderer requestId (.error e) [.render (.ofError e) .itself] (.ok
        ⟨e.code, e.reason, e.responseHeaders requestId (renderer.mediaType (.ofError e) .itself), body⟩)
  | unbuilt {e : HttpError} {f : Failure} (h : renderer.buildFailure? (.error e) = some f) :
      Answer renderer requestId (.error e) (Outcome.attempt? (.error e)).toList (e.lastResort requestId)
  | shown {i : Instance} {data : Value} {lastModified : Option String} {body : List UInt8}
      (hbody : renderer.render (.resource i) (.data data) = .ok body) :
      Answer renderer requestId (.success i data lastModified) [.render (.resource i) (.data data)] (.ok
        ⟨Status.ok.code, Status.ok.phrase,
          ("X-Request-ID", (requestId : Letters)) ::
            (lastModified.map fun date : String => ("Last-Modified", (date : Letters))).toList ++
              [("Content-Type", (renderer.mediaType (.resource i) (.data data) : Letters))],
          body⟩)
  | replaced {i : Instance} {data : Value} {lastModified : Option String} {f : Failure}
      {attempts : List Attempt} {result : Except Failure Response}
      (hfails : renderer.render (.resource i) (.data data) = .error f)
      (h : Answer renderer requestId (.error (.ofFailure f)) attempts result) :
      Answer renderer requestId (.success i data lastModified) (.render (.resource i) (.data data) :: attempts) result

variable {renderer : Renderer} {requestId : String}

/-- An error is answered with its bare status line, or by the one attempt that its family calls for. -/
theorem Answer.attempts_error {e : HttpError} {attempts : List Attempt} {result : Except Failure Response}
    (h : renderer.Answer requestId (.error e) attempts result) : attempts = (Outcome.attempt? (.error e)).toList := by
  cases h with
  | bare hfamily | redirected hfamily | rendered hfamily => simp [Outcome.attempt?, hfamily]
  | unbuilt => rfl

/-- An error keeps its status, whatever it is answered with. -/
theorem Answer.status_error {e : HttpError} {attempts : List Attempt} {response : Response}
    (h : renderer.Answer requestId (.error e) attempts (.ok response)) :
    response.status = e.code ∧ response.reason = e.reason := by
  generalize hresult : (.ok response : Except Failure Response) = result at h
  cases h with
  | bare | redirected | rendered =>
    cases hresult
    exact ⟨rfl, rfl⟩
  | unbuilt =>
    obtain ⟨body, rfl⟩ := HttpError.eq_of_lastResort hresult.symm
    exact ⟨rfl, rfl⟩

/-- **An answer has one of the known statuses.** -/
theorem Answer.exists_status {outcome : Outcome} {attempts : List Attempt} {response : Response}
    (h : renderer.Answer requestId outcome attempts (.ok response)) :
    ∃ status : Status, response.status = status.code := by
  cases outcome with
  | error e => exact ⟨e.status, h.status_error.1⟩
  | success i data lastModified =>
    cases h with
    | shown => exact ⟨.ok, rfl⟩
    | replaced _ h => exact ⟨.internalServerError, h.status_error.1⟩

/-- There is one way only to answer an outcome. -/
theorem Answer.unique {outcome : Outcome} {attempts attempts' : List Attempt}
    {result result' : Except Failure Response} (h : renderer.Answer requestId outcome attempts result)
    (h' : renderer.Answer requestId outcome attempts' result') : attempts = attempts' ∧ result = result' := by
  induction h generalizing attempts' result' with
  | bare hfamily | redirected hfamily hbody | rendered hfamily hbody =>
    cases h' <;> simp_all [buildFailure?, Outcome.attempt?, failure?]
  | unbuilt hfails => cases h' <;> simp_all [buildFailure?, Outcome.attempt?, failure?]
  | shown hbody => cases h' <;> simp_all
  | replaced hfails h ih =>
    cases h' with
    | shown hbody => simp_all
    | replaced hfails' h' =>
      rw [hfails] at hfails'
      cases hfails'
      obtain ⟨rfl, rfl⟩ := ih h'
      exact ⟨rfl, rfl⟩

end Renderer

namespace Dispatcher

variable (d : Dispatcher κ) (w : World κ)

/-! ## Reporting -/

/-- What the log shows of telling the observer about a failure. -/
def observed (f : Failure) : List LogRecord :=
  match d.observer with
  | .log => [.ofFailure f]
  | .custom fails =>
    if fails f then [.dispatcher .error ("Error observer failed while reporting " ++ f.written)] else []

/-- The events of telling the observer about a failure. -/
def reportEvents (f : Failure) : Journal κ :=
  .reported f :: (d.observed f).map .logged

/-! ## The end of resolving -/

/-- The outcome of resolving that ended with a result. -/
def outcomeOf : Except Failure Outcome → Outcome
  | .ok outcome => outcome
  | .error (.http e) => .error e
  | .error f => .error (.ofFailure f)

/-- The events at the end of resolving: a fault is reported, and an HTTP error that was raised is logged. -/
def endingEvents (x : Exchange) : Except Failure Outcome → Journal κ
  | .ok _ => []
  | .error (.http e) => [.logged (.dispatcher .debug (x.marked (e.written ++ " raised in " ++ x.stage.name)))]
  | .error f => d.reportEvents f

theorem resolve_eq (r : Run κ) :
    d.resolve w r = (outcomeOf (d.stages w r).1,
      (d.stages w r).2.followed (d.endingEvents (d.stages w r).2.exchange (d.stages w r).1)) := by
  rw [resolve]
  rcases d.stages w r with ⟨(f | e) | outcome, r'⟩
  · rfl
  · rfl
  · exact Prod.ext rfl (Run.followed_nil r').symm

/-! ## Attempts to build a response -/

/-- The events of an attempt: it is reported if it fails. -/
def attemptEvents (a : Attempt) : Journal κ :=
  a.events ++ (d.renderer.failure? a).toList.flatMap d.reportEvents

theorem followed_attemptEvents_of_none {a : Attempt} (h : d.renderer.failure? a = none) (r : Run κ) :
    r.followed (d.attemptEvents a) = r.followed a.events := by
  rw [attemptEvents, h, Option.toList_none, List.flatMap_nil, List.append_nil]

/-- After an attempt that fails the failure is reported. -/
theorem followed_attemptEvents_of_some {a : Attempt} {f : Failure} (h : d.renderer.failure? a = some f) (r : Run κ) :
    r.followed (d.attemptEvents a) = d.report f (r.followed a.events) := by
  rw [attemptEvents, h, Option.toList_some, List.flatMap_singleton, Run.followed_append]
  rfl

theorem setHeaders_headers (e : HttpError) (requestId contentType : String) :
    ((((Response.empty.setHeader "X-Request-ID" requestId).setStatus e.code e.reason).setHeaders
        e.headers).setHeader "Content-Type" contentType) =
      ⟨e.code, e.reason, e.responseHeaders requestId contentType, []⟩ := by
  have hheaders : Response.headers ((Response.empty.setHeader "X-Request-ID" requestId).setStatus e.code e.reason) =
      [("X-Request-ID", (requestId : Letters))] := rfl
  rw [Response.setHeaders_of_nodup, Response.setHeader, Fields.set_of_notMem]
  · rfl
  · rw [hheaders]
    have hne : "Content-Type" ≠ "X-Request-ID" := by decide
    exact List.not_mem_cons_of_ne_of_not_mem hne (e.notMem_headers (by decide))
  · rw [hheaders]
    have hid : "X-Request-ID" ∈ reservedHeaders := by decide
    exact List.nodup_cons.mpr ⟨e.notMem_headers hid, e.headers_spec.1⟩

theorem fallback_eq (e : HttpError) (r : Run κ) : fallback e r = (e.lastResort r.exchange.requestId, r) := by
  rw [fallback, Response.setText, HttpError.lastResort]
  cases Text.encoded (TextRenderer.errorLine e) <;> rfl

/-- An error whose response cannot be built is reported and answered as a last resort. -/
theorem answer_of_unbuilt {e : HttpError} {a : Attempt} {f : Failure} (h : Outcome.attempt? (.error e) = some a)
    (hfails : d.renderer.failure? a = some f) {r : Run κ} (hbuild : d.buildError e r = (.error f, r.followed a.events)) :
    d.renderer.Answer r.exchange.requestId (.error e) [a] (d.respond (.error e) r).1 ∧
      (d.respond (.error e) r).2 = r.followed ([a].flatMap d.attemptEvents) := by
  have hbuildFailure : d.renderer.buildFailure? (.error e) = some f := by
    rw [Renderer.buildFailure?, h]
    exact hfails
  have hanswer : d.renderer.Answer r.exchange.requestId _ _ _ := .unbuilt hbuildFailure
  rw [h] at hanswer
  rw [List.flatMap_singleton, d.followed_attemptEvents_of_some hfails, respond, build, hbuild]
  dsimp only
  rw [fallback_eq]
  exact ⟨hanswer, rfl⟩

/-- **An error is answered by its family.** -/
theorem answer_error (e : HttpError) (r : Run κ) :
    ∃ attempts, d.renderer.Answer r.exchange.requestId (.error e) attempts (d.respond (.error e) r).1 ∧
      (d.respond (.error e) r).2 = r.followed (attempts.flatMap d.attemptEvents) := by
  have hattempt : Outcome.attempt? (.error e) = match e.family with
    | .noRender => none
    | .redirect => some (.write e.message)
    | .render => some (.render (.ofError e) .itself) := rfl
  cases hfamily : e.family with
  | noRender =>
    rw [respond, build, buildError, hfamily]
    exact ⟨[], .bare hfamily, (Run.followed_nil r).symm⟩
  | redirect =>
    rw [hfamily] at hattempt
    refine ⟨[.write e.message], ?_⟩
    cases hbody : Text.encoded e.message with
    | ok body =>
      have hfailure : d.renderer.failure? (.write e.message) = none := by rw [Renderer.failure?, hbody]
      rw [List.flatMap_singleton, d.followed_attemptEvents_of_none hfailure, respond, build, buildError, hfamily]
      dsimp only
      rw [setHeaders_headers, Response.setText, hbody]
      exact ⟨.redirected hfamily hbody, (Run.followed_nil r).symm⟩
    | error f =>
      have hfailure : d.renderer.failure? (.write e.message) = some (.fault f) := by rw [Renderer.failure?, hbody]
      refine d.answer_of_unbuilt hattempt hfailure ?_
      rw [buildError, hfamily]
      dsimp only
      rw [Response.setText, hbody]
      exact Prod.ext rfl (Run.followed_nil r).symm
  | render =>
    rw [hfamily] at hattempt
    refine ⟨[.render (.ofError e) .itself], ?_⟩
    cases hbody : d.renderer.render (.ofError e) .itself with
    | ok body =>
      have hfailure := d.renderer.failure?_render_eq_none_iff.mpr ⟨body, hbody⟩
      rw [List.flatMap_singleton, d.followed_attemptEvents_of_none hfailure, respond, build, buildError, hfamily]
      dsimp only
      rw [renderInto, hbody]
      dsimp only
      rw [setHeaders_headers]
      exact ⟨.rendered hfamily hbody, rfl⟩
    | error f =>
      refine d.answer_of_unbuilt hattempt (d.renderer.failure?_render_eq_some_iff.mpr hbody) ?_
      rw [buildError, hfamily]
      dsimp only
      rw [renderInto, hbody]
      rfl

/-- What is rendered for a resource goes into a response with the last-modified time, if there is one. -/
theorem build_success (i : Instance) (data : Value) (lastModified : Option String) (r : Run κ) :
    d.build (.success i data lastModified) r =
      d.renderInto
        ⟨Status.ok.code, Status.ok.phrase,
          ("X-Request-ID", (r.exchange.requestId : Letters)) ::
            (lastModified.map fun date : String => ("Last-Modified", (date : Letters))).toList, []⟩
        (.resource i) (.data data) r := by
  cases lastModified with
  | none => rfl
  | some date => rfl

/-- A resource that cannot be rendered is answered like the error that takes its place. -/
theorem respond_of_unrendered {i : Instance} {data : Value} {f : Failure}
    (h : d.renderer.render (.resource i) (.data data) = .error f) (lastModified : Option String) (r : Run κ) :
    d.respond (.success i data lastModified) r =
      d.respond (.error (.ofFailure f)) (r.followed (d.attemptEvents (.render (.resource i) (.data data)))) := by
  have hbuild : d.build (.success i data lastModified) r = (.error f, r.noted (.render (.resource i) (.data data))) := by
    rw [build_success, renderInto, h]
    rfl
  rw [d.followed_attemptEvents_of_some (d.renderer.failure?_render_eq_some_iff.mpr h), respond, hbuild, respond, build]
  rfl

/-- **Every outcome is answered**, and the run goes on with the attempts to build a response. -/
theorem answer_respond (outcome : Outcome) (r : Run κ) :
    ∃ attempts, d.renderer.Answer r.exchange.requestId outcome attempts (d.respond outcome r).1 ∧
      (d.respond outcome r).2 = r.followed (attempts.flatMap d.attemptEvents) := by
  cases outcome with
  | error e => exact d.answer_error e r
  | success i data lastModified =>
    cases hbody : d.renderer.render (.resource i) (.data data) with
    | ok body =>
      refine ⟨[.render (.resource i) (.data data)], ?_⟩
      rw [List.flatMap_singleton,
        d.followed_attemptEvents_of_none (d.renderer.failure?_render_eq_none_iff.mpr ⟨body, hbody⟩), respond,
        build_success, renderInto, hbody]
      refine ⟨?_, rfl⟩
      cases lastModified with
      | none => exact .shown hbody
      | some date => exact .shown hbody
    | error f =>
      obtain ⟨attempts, hanswer, hrun⟩ :=
        d.answer_error (.ofFailure f) (r.followed (d.attemptEvents (.render (.resource i) (.data data))))
      rw [d.respond_of_unrendered hbody]
      refine ⟨_, .replaced hbody hanswer, ?_⟩
      rw [hrun, List.flatMap_cons, Run.followed_append]

/-! ## The whole run -/

theorem requestId_stages (request : Request) (s : Surroundings) :
    (d.stages w (start request s)).2.exchange.requestId = s.requestId := by
  obtain ⟨method, path, stage, hprepared⟩ := d.prepared_frame (start request s).exchange
  rw [(d.course_stages w (start request s)).exchange_eq, hprepared]
  rfl

/-- Recording an answer with a known status goes well: what is logged of its access record is noted. -/
theorem record_of_status {s : Surroundings} {response : Response} {status : Status} (h : response.status = status.code)
    (r : Run κ) :
    ∃ line : LogRecord, (accessRecord w s response r).logRecord d.config.logFormat = .ok line ∧
      d.record w s response r = (.ok response, r.noted (.logged line)) := by
  obtain ⟨line, hline⟩ := AccessRecord.logRecord_eq_ok
    (show (accessRecord w s response r).status = status.code from h) d.config.logFormat
  refine ⟨line, hline, ?_⟩
  rw [record, Step.bind_of_ok (s := fun r => (.ok (accessRecord w s response r), r)) rfl, hline]
  rfl

/-- The run of a request that is responded to: the stages of resolving, the end of resolving, and the attempts to build a
response. -/
def responded (result : Except Failure Outcome) (attempts : List Attempt) (r : Run κ) : Run κ :=
  ((r.followed (d.endingEvents r.exchange result)).moved .responding).followed (attempts.flatMap d.attemptEvents)

/-- The run of a request that is answered: it is done, and the answer is recorded. -/
def answered (result : Except Failure Outcome) (attempts : List Attempt) (line : LogRecord) (r : Run κ) : Run κ :=
  ((d.responded result attempts r).moved .done).noted (.logged line)

/-- How a dispatch ends whose stages gave a result: with an answer that is recorded, or with the failure to give one. -/
inductive Ending (s : Surroundings) (result : Except Failure Outcome) (r : Run κ) (attempts : List Attempt) :
    Except Failure Response × Run κ → Prop
  | answered {response : Response} {line : LogRecord}
      (hanswer : d.renderer.Answer s.requestId (outcomeOf result) attempts (.ok response))
      (hline : (accessRecord w s response (d.answered result attempts line r)).logRecord d.config.logFormat = .ok line) :
      Ending s result r attempts (.ok response, d.answered result attempts line r)
  | unanswered {f : Failure} (hanswer : d.renderer.Answer s.requestId (outcomeOf result) attempts (.error f)) :
      Ending s result r attempts (.error f, d.responded result attempts r)

/-- Either way the outcome is answered. -/
theorem Ending.answer {d : Dispatcher κ} {w : World κ} {s : Surroundings} {result : Except Failure Outcome} {r : Run κ}
    {attempts : List Attempt} {ended : Except Failure Response × Run κ} (h : d.Ending w s result r attempts ended) :
    d.renderer.Answer s.requestId (outcomeOf result) attempts ended.1 := by
  cases h with
  | answered hanswer | unanswered hanswer => exact hanswer

/-- **An exchange that is closing before there was a response gets none.** -/
theorem dispatch_of_isClosing {s : Surroundings} {request : Request}
    (h : (d.resolve w (start request s)).2.exchange.isClosing = true) :
    d.dispatch w s request = (.error (.fault
      (Exchange.illegalMove (d.resolve w (start request s)).2.exchange.stage .responding)),
      (d.resolve w (start request s)).2) := by
  have hmove : (d.resolve w (start request s)).2.exchange.stage.mayFollow .responding = false := by
    rw [Stage.mayFollow_responding]
    exact congrArg (!·) h
  rw [dispatch]
  dsimp only
  rw [finish]
  exact Step.bind_of_error (Step.advance_of_not_mayFollow hmove) _

/-- **The outcome of any other exchange is answered**, if it can be. -/
theorem dispatch_of_not_isClosing {s : Surroundings} {request : Request}
    (h : (d.resolve w (start request s)).2.exchange.isClosing = false) :
    ∃ attempts, d.Ending w s (d.stages w (start request s)).1 (d.stages w (start request s)).2 attempts
      (d.dispatch w s request) := by
  have hid := d.requestId_stages w request s
  have hresponding : (d.resolve w (start request s)).2.exchange.stage.mayFollow .responding = true := by
    rw [Stage.mayFollow_responding]
    exact congrArg (!·) h
  rw [dispatch]
  rw [d.resolve_eq w] at hresponding ⊢
  generalize d.stages w (start request s) = ended at hid hresponding ⊢
  obtain ⟨result, r⟩ := ended
  dsimp only at hid hresponding ⊢
  obtain ⟨attempts, hanswer, hrun⟩ := d.answer_respond (outcomeOf result)
    ((r.followed (d.endingEvents r.exchange result)).moved .responding)
  rw [Run.exchange_moved, Run.exchange_followed, hid] at hanswer
  rw [finish, Step.bind_of_ok (Step.advance_eq_moved hresponding)]
  refine ⟨attempts, ?_⟩
  rcases hrespond : d.respond (outcomeOf result) ((r.followed (d.endingEvents r.exchange result)).moved .responding) with
    ⟨f | response, r'⟩
  · rw [hrespond] at hanswer hrun
    rw [Step.bind_of_error hrespond, show r' = d.responded result attempts r from hrun]
    exact .unanswered hanswer
  · rw [hrespond] at hanswer hrun
    obtain ⟨status, hstatus⟩ := hanswer.exists_status
    have hdone : r'.exchange.stage.mayFollow .done = true := by
      rw [show r' = d.responded result attempts r from hrun]
      rfl
    obtain ⟨line, hline, hrecord⟩ := d.record_of_status w (s := s) hstatus (r'.moved .done)
    rw [Step.bind_of_ok hrespond, Step.bind_of_ok (Step.advance_eq_moved hdone), hrecord,
      show r' = d.responded result attempts r from hrun]
    rw [show r' = d.responded result attempts r from hrun] at hline
    exact .answered hanswer hline

/-- **A dispatch that returns answers the outcome of resolving**, and its run goes on from there, up to the record of
that answer. -/
theorem answered_dispatch {s : Surroundings} {request : Request} {response : Response}
    (h : (d.dispatch w s request).1 = .ok response) :
    ∃ attempts line, (accessRecord w s response (d.dispatch w s request).2).logRecord d.config.logFormat = .ok line ∧
      d.renderer.Answer s.requestId (outcomeOf (d.stages w (start request s)).1) attempts (.ok response) ∧
      (d.dispatch w s request).2 =
        d.answered (d.stages w (start request s)).1 attempts line (d.stages w (start request s)).2 := by
  cases hclosing : (d.resolve w (start request s)).2.exchange.isClosing with
  | true =>
    rw [d.dispatch_of_isClosing w hclosing] at h
    cases h
  | false =>
    obtain ⟨attempts, hending⟩ := d.dispatch_of_not_isClosing w hclosing
    generalize d.dispatch w s request = ended at h hending ⊢
    cases hending with
    | answered hanswer hline =>
      obtain rfl := Except.ok.inj h
      exact ⟨attempts, _, hline, hanswer, rfl⟩
    | unanswered => cases h

/-- The last record of such a run goes to the access log. -/
theorem dispatch_eq_ok {s : Surroundings} {request : Request} {response : Response}
    (h : (d.dispatch w s request).1 = .ok response) :
    ∃ attempts line, line.log = "httpresource.access" ∧
      d.renderer.Answer s.requestId (outcomeOf (d.stages w (start request s)).1) attempts (.ok response) ∧
      (d.dispatch w s request).2 =
        d.answered (d.stages w (start request s)).1 attempts line (d.stages w (start request s)).2 := by
  obtain ⟨attempts, line, hline, hanswer, hrun⟩ := d.answered_dispatch w h
  exact ⟨attempts, line, AccessRecord.log_logRecord hline, hanswer, hrun⟩

end Dispatcher

/-! ## What is rendered and reported -/

namespace Journal

theorem reports_append (j j' : Journal κ) : (j ++ j').reports = j.reports ++ j'.reports :=
  List.filterMap_append

theorem renders_append (j j' : Journal κ) : (j ++ j').renders = j.renders ++ j'.renders :=
  List.filterMap_append

theorem reports_logged (records : List LogRecord) :
    Journal.reports (records.map (.logged : LogRecord → Event κ)) = [] := by
  induction records with
  | nil => rfl
  | cons record records ih => exact ih

theorem renders_logged (records : List LogRecord) :
    Journal.renders (records.map (.logged : LogRecord → Event κ)) = [] := by
  induction records with
  | nil => rfl
  | cons record records ih => exact ih

end Journal

/-- A run in which nothing was rendered or reported yet. -/
structure Run.Quiet (r : Run κ) : Prop where
  reports : r.journal.reports = []
  renders : r.journal.renders = []

namespace Run.Quiet

variable {r : Run κ} (h : r.Quiet)
include h

theorem followed {j : Journal κ} (hreports : j.reports = []) (hrenders : j.renders = []) : (r.followed j).Quiet := by
  refine ⟨?_, ?_⟩
  · show (r.journal ++ j).reports = []
    rw [Journal.reports_append, h.reports, hreports, List.append_nil]
  · show (r.journal ++ j).renders = []
    rw [Journal.renders_append, h.renders, hrenders, List.append_nil]

theorem moved (stage : Stage) : (r.moved stage).Quiet :=
  have hfollowed := h.followed (j := [.logged (.ofMove r.exchange.requestId r.exchange.stage stage)]) rfl rfl
  ⟨hfollowed.reports, hfollowed.renders⟩

theorem matched (m : RouteMatch κ) : (r.matched m).Quiet := ⟨h.reports, h.renders⟩

end Run.Quiet

namespace Initializer

theorem quiet_events (steps : List (Initializer × Exchange)) :
    (events steps : Journal κ).reports = [] ∧ (events steps : Journal κ).renders = [] := by
  induction steps with
  | nil => exact ⟨rfl, rfl⟩
  | cons step rest ih =>
    obtain ⟨hreports, hrenders⟩ := ih
    rw [events, List.flatMap_cons, Journal.reports_append, Journal.renders_append, ← events, hreports, hrenders]
    simp only [List.append_nil]
    exact ⟨Journal.reports_logged _, Journal.renders_logged _⟩

end Initializer

namespace Dispatcher

variable {d : Dispatcher κ} {w : World κ}

theorem quiet_opened {r : Run κ} (h : r.Quiet) : (d.opened r).Quiet := by
  obtain ⟨hreports, hrenders⟩ := Initializer.quiet_events (κ := κ) (d.executed r.exchange)
  have hfollowed := h.followed hreports hrenders
  exact ⟨hfollowed.reports, hfollowed.renders⟩

/-- **Nothing is rendered or reported** before there is an outcome. -/
theorem Course.quiet {r run : Run κ} {result : Except Failure Outcome} (h : d.Course w r result run) (hr : r.Quiet) :
    run.Quiet := by
  have hopened : (d.opened r).Quiet := quiet_opened hr
  have hrouted (m : RouteMatch κ) : (d.routed r m).Quiet := ((hopened.moved _).matched m).moved _
  cases h with
  | ended => exact hopened
  | unrouted => exact hopened.moved _
  | unmade | refused => exact (hrouted _).followed rfl rfl
  | uninitialized => exact ((hrouted _).followed rfl rfl).followed rfl rfl
  | handled => exact ((((hrouted _).followed rfl rfl).followed rfl rfl).moved _).followed rfl rfl

/-- The fault that resolving ended with, if it ended with one. An HTTP error is none. -/
def unhandled : Except Failure Outcome → List Failure
  | .error (.fault f) => [.fault f]
  | _ => []

theorem reports_reportEvents (f : Failure) : (d.reportEvents f).reports = [f] :=
  congrArg (f :: ·) (Journal.reports_logged _)

theorem renders_reportEvents (f : Failure) : (d.reportEvents f).renders = [] :=
  Journal.renders_logged _

theorem reports_endingEvents (x : Exchange) (result : Except Failure Outcome) :
    (d.endingEvents x result).reports = unhandled result := by
  rcases result with (f | e) | outcome
  · exact reports_reportEvents _
  · rfl
  · rfl

theorem renders_endingEvents (x : Exchange) (result : Except Failure Outcome) :
    (d.endingEvents x result).renders = [] := by
  rcases result with (f | e) | outcome
  · exact renders_reportEvents _
  · rfl
  · rfl

theorem quiet_events (a : Attempt) :
    (a.events : Journal κ).reports = [] ∧ (a.events : Journal κ).renders = a.rendering?.toList := by
  cases a <;> exact ⟨rfl, rfl⟩

/-- An attempt is reported if it fails, -/
theorem reports_attemptEvents (a : Attempt) : (d.attemptEvents a).reports = (d.renderer.failure? a).toList := by
  rw [attemptEvents, Journal.reports_append, (quiet_events a).1]
  cases d.renderer.failure? a with
  | none => rfl
  | some f =>
    rw [Option.toList_some, List.flatMap_singleton]
    exact reports_reportEvents f

/-- and shows what was rendered, whether it fails or not. -/
theorem renders_attemptEvents (a : Attempt) : (d.attemptEvents a).renders = a.rendering?.toList := by
  rw [attemptEvents, Journal.renders_append, (quiet_events a).2]
  cases d.renderer.failure? a with
  | none => exact List.append_nil _
  | some f =>
    rw [Option.toList_some, List.flatMap_singleton, renders_reportEvents, List.append_nil]

theorem reports_flatMap_attemptEvents (attempts : List Attempt) :
    Journal.reports (attempts.flatMap d.attemptEvents) = attempts.filterMap d.renderer.failure? := by
  induction attempts with
  | nil => rfl
  | cons a rest ih =>
    rw [List.flatMap_cons, Journal.reports_append, ih, reports_attemptEvents, List.filterMap_cons]
    cases d.renderer.failure? a <;> rfl

theorem renders_flatMap_attemptEvents (attempts : List Attempt) :
    Journal.renders (attempts.flatMap d.attemptEvents) = attempts.filterMap Attempt.rendering? := by
  induction attempts with
  | nil => rfl
  | cons a rest ih =>
    rw [List.flatMap_cons, Journal.renders_append, ih, renders_attemptEvents, List.filterMap_cons]
    cases a.rendering? <;> rfl

theorem reports_answered {r : Run κ} (hr : r.Quiet) (result : Except Failure Outcome) (attempts : List Attempt)
    (line : LogRecord) :
    (d.answered result attempts line r).journal.reports =
      unhandled result ++ attempts.filterMap d.renderer.failure? := by
  simp only [answered, responded, Run.noted, Run.moved, Run.followed, Journal.reports_append, hr.reports,
    reports_endingEvents, reports_flatMap_attemptEvents]
  simp [Journal.reports]

theorem renders_answered {r : Run κ} (hr : r.Quiet) (result : Except Failure Outcome) (attempts : List Attempt)
    (line : LogRecord) :
    (d.answered result attempts line r).journal.renders = attempts.filterMap Attempt.rendering? := by
  simp only [answered, responded, Run.noted, Run.moved, Run.followed, Journal.renders_append, hr.renders,
    renders_endingEvents, renders_flatMap_attemptEvents]
  simp [Journal.renders]

/-- **A dispatch that returns answers the outcome of resolving.** Its journal shows what was rendered for that, and as
reported the fault that resolving ended with and the attempts that failed. -/
theorem answer_dispatch {s : Surroundings} {request : Request} {response : Response}
    (h : (d.dispatch w s request).1 = .ok response) :
    ∃ attempts, d.renderer.Answer s.requestId (outcomeOf (d.stages w (start request s)).1) attempts (.ok response) ∧
      (d.dispatch w s request).2.journal.renders = attempts.filterMap Attempt.rendering? ∧
      (d.dispatch w s request).2.journal.reports = unhandled (d.stages w (start request s)).1 ++
        attempts.filterMap d.renderer.failure? := by
  have hquiet := (d.course_stages w (start request s)).quiet ⟨rfl, rfl⟩
  obtain ⟨attempts, line, -, hanswer, hrun⟩ := d.dispatch_eq_ok w h
  rw [hrun, renders_answered hquiet, reports_answered hquiet]
  exact ⟨attempts, hanswer, rfl, rfl⟩

end Dispatcher

/-! ## A single page -/

/-- A page that answers to `GET` with a text. -/
def Resource.page : Resource where
  lineage := [.plain "Page" "pages"]
  members := ("get", .action fun _ attributes => (.ok (.text "Hello"), attributes)) :: rootMembers

/-- A world with a single page. -/
def World.onePage : World Unit where
  resource _ := .page
  directory := ⟨fun _ _ => .ok "/page", fun _ => none⟩

/-- A world with a single page that raises an error. -/
def World.raising (e : HttpError) : World Unit where
  resource _ := { Resource.page with
    members := ("get", .action fun _ attributes => (.error (.http e), attributes)) :: Resource.rootMembers }
  directory := ⟨fun _ _ => .ok "/page", fun _ => none⟩

/-- That nothing is found, for a reason that holds half of a surrogate pair alone. -/
def HttpError.garbled : HttpError := .plain .notFound "" [.half]

/-- A dispatcher with a single page at `/page`. -/
def Dispatcher.onePage (renderer : Renderer) : Dispatcher Unit where
  config := {}
  routes := ⟨[⟨(), "/page", "", .literal "/page" .nil⟩], true⟩
  renderer
  factory := plainFactory
  observer := .log
  initializers := [.noTrailingSlash, .methodOverride "_method" ["GET", "POST"]]

/-- Its initializers do not move an exchange. -/
theorem Dispatcher.moves_onePage (renderer : Renderer) : ∀ i ∈ (onePage renderer).initializers, ∀ x, i.moves x = [] := by
  intro i hi x
  rcases List.mem_cons.mp hi with rfl | hi
  · rfl
  · obtain rfl := List.mem_singleton.mp hi
    rfl

/-- The failure of a renderer that is broken. -/
def Failure.exploded : Failure := .fault (.declare .runtime "template exploded")

/-- A renderer that can render nothing. -/
def Renderer.broken : Renderer where
  render _ _ := .error .exploded
  mediaType _ _ := TextRenderer.contentType

/-- A request for the page. -/
def Request.forPage (method : String) (query : Letters) : Request where
  method
  path := "/page"
  query
  headers := []
  body := []

/-- What a run for the page takes from outside. -/
def Dispatcher.Surroundings.forPage : Surroundings where
  requestId := "a1b2c3d4"
  timestamp := "10/Jun/2026:10:55:36 +0000"
  duration := 0

end HttpRouter
