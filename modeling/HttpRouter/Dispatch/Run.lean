import HttpRouter.Dispatch.Dispatcher
import HttpRouter.LastModified

/-!
# Dispatching

A request is resolved to an outcome, a resource that answered or an HTTP error, and the outcome is responded to. Faults
on the way become an internal server error, and the observer is told; a failure to render becomes one too, and what
cannot be rendered at all is answered with its status line as text, if that has an encoding.

A run keeps a journal of what it did, in order: what it logged, which initializers, factories and handlers it ran, what
it rendered, and whom it told about faults.
-/

namespace HttpRouter

variable {κ : Type}

/-! ## Runs -/

/-- What happens in a run. -/
inductive Event (κ : Type) where
  | logged (r : LogRecord)
  | initializer (i : Initializer)
  | factory (c : κ)
  | init (c : κ) (params : Params)
  | handler (c : κ) (method : String)
  | render (s : Subject) (p : Payload)
  | reported (f : Failure)

/-- What happened in a run, in order. -/
abbrev Journal (κ : Type) := List (Event κ)

namespace Journal

/-- What was logged. -/
def records (j : Journal κ) : List LogRecord :=
  j.filterMap fun
    | .logged record => some record
    | _ => none

/-- The failures that were reported. -/
def reports (j : Journal κ) : List Failure :=
  j.filterMap fun
    | .reported f => some f
    | _ => none

/-- What was rendered. -/
def renders (j : Journal κ) : List (Subject × Payload) :=
  j.filterMap fun
    | .render s p => some (s, p)
    | _ => none

end Journal

/-- The state of a run. -/
structure Run (κ : Type) where
  exchange : Exchange
  found : Option (RouteMatch κ)
  journal : Journal κ

/-- A step of a run: it gives a value or fails, and the run goes on from where it left it. -/
abbrev Step (κ α : Type) := Run κ → Except Failure α × Run κ

namespace Step

variable {α β : Type}

/-- The step that gives a value. -/
def pure (a : α) : Step κ α := fun r => (.ok a, r)

/-- One step after another. -/
def bind (s : Step κ α) (f : α → Step κ β) : Step κ β := fun r =>
  match s r with
  | (.ok a, r) => f a r
  | (.error e, r) => (.error e, r)

instance : Monad (Step κ) where
  pure := pure
  bind := bind

@[simp] theorem pure_apply (a : α) (r : Run κ) : (Pure.pure a : Step κ α) r = (.ok a, r) := rfl

/-- A step that goes well hands over its value and the run as it left it. -/
theorem bind_of_ok {s : Step κ α} {r r' : Run κ} {a : α} (h : s r = (.ok a, r')) (f : α → Step κ β) :
    (s >>= f) r = f a r' := by
  show Step.bind s f r = _
  rw [Step.bind, h]

/-- After a step that fails nothing more is done. -/
theorem bind_of_error {s : Step κ α} {r r' : Run κ} {e : Failure} (h : s r = (.error e, r')) (f : α → Step κ β) :
    (s >>= f) r = (.error e, r') := by
  show Step.bind s f r = _
  rw [Step.bind, h]

/-- The step that fails. -/
def fail (f : Failure) : Step κ α := fun r => (.error f, r)

/-- The exchange of the run. -/
def exchange : Step κ Exchange := fun r => (.ok r.exchange, r)

/-- Notes an event. -/
def note (e : Event κ) : Step κ Unit := fun r => (.ok (), { r with journal := r.journal ++ [e] })

/-- Moves the exchange to a stage. -/
def advance (stage : Stage) : Step κ Unit := fun r =>
  match r.exchange.advance stage with
  | .ok (x, record) => (.ok (), { r with exchange := x, journal := r.journal ++ [.logged record] })
  | .error f => (.error (.fault f), r)

/-- Takes over a result. -/
def ofExcept (e : Except Failure α) : Step κ α := fun r => (e, r)

end Step

/-! ## Resolving -/

/-- How a request was resolved. -/
inductive Outcome where
  | success (i : Instance) (data : Value) (lastModified : Option String)
  | error (e : HttpError)

namespace Dispatcher

/-- Applies an initializer. -/
def applyOne (i : Initializer) : Step κ (Option HttpError) := fun r =>
  let done := i.apply r.exchange
  (done.result,
    { r with exchange := done.exchange, journal := r.journal ++ .initializer i :: done.records.map .logged })

/-- Applies initializers one after the other, up to the first one that ends the exchange. -/
def applyAll : List Initializer → Step κ (Option HttpError)
  | [] => Step.pure none
  | i :: rest => Step.bind (applyOne i) fun
    | some e => Step.pure (some e)
    | none => applyAll rest

/-- Refuses a path that is not absolute, and applies the initializers. -/
def prepare (d : Dispatcher κ) : Step κ (Option HttpError) := do
  let x ← Step.exchange
  if x.path.head? ≠ some (.char '/') then
    return some (.notFound ("Not an absolute path: " ++ Text.Quoted.text x.path))
  match ← applyAll d.initializers with
  | some e => return some e
  | none =>
    Step.advance .matching
    return none

/-- Notes the route that matched. -/
def noteMatch (m : RouteMatch κ) : Step κ Unit := fun r => (.ok (), { r with found := some m })

/-- Looks for the route of the path. -/
def matchRoute (d : Dispatcher κ) : Step κ (Except HttpError (RouteMatch κ)) := do
  let x ← Step.exchange
  match d.routes.lookup x.path with
  | none => return .error (.notFound ("No resource matches " ++ x.path))
  | some m =>
    noteMatch m
    Step.advance .bound
    return .ok m

/-- Parameters as a value. -/
def paramsValue (params : Params) : Value :=
  .mapping (params.map fun (name, v) => (.text name, .text v))

/-- Makes an instance and checks that it answers to the method, then initializes it. -/
def bindResource (d : Dispatcher κ) (w : World κ) (m : RouteMatch κ) : Step κ (Except HttpError (κ × Instance)) := do
  Step.note (.factory m.route.resource)
  let c ← Step.ofExcept (d.factory m.route.resource)
  let x ← Step.exchange
  let resource := w.resource c
  if !d.config.allowedMethods.contains x.method || !resource.implements x.method then
    return .error (resource.refusal d.config.allowedMethods)
  let fresh := Instance.fresh resource w.directory
  let i := { fresh with
    request := some x.request
    attributes := fresh.attributes.set "params" (paramsValue m.params) }
  Step.note (.init c m.params)
  let (result, i) := i.perform "init"
  let _ ← Step.ofExcept result
  Step.advance .executing
  return .ok (c, i)

/-- The value of the last-modified attribute: of the instance, or else of its data. -/
def lastModifiedValue (name : String) (i : Instance) (data : Value) : Value :=
  match i.attribute? name with
  | none | some .null => (data.get? name).getD .null
  | some v => v

/-- Runs the handler of the method. The answer to a client that has the current copy is that it is not modified. -/
def execute (d : Dispatcher κ) (c : κ) (i : Instance) : Step κ Outcome := do
  let x ← Step.exchange
  Step.note (.handler c (Text.lowerString x.method))
  let (result, i) := i.answer x.method
  let data ← Step.ofExcept result
  let value := lastModifiedValue d.config.lastModifiedAttribute i data
  let lastModified ← Step.ofExcept ((LastModified.toHttpDate value).mapError .fault)
  if lastModified.isSome ∧ x.ifModifiedSince = lastModified then
    return .error (.plain .notModified "" "")
  return .success i data lastModified

/-- Takes a request through the stages. -/
def stages (d : Dispatcher κ) (w : World κ) : Step κ Outcome := do
  match ← d.prepare with
  | some e => return .error e
  | none =>
    match ← d.matchRoute with
    | .error e => return .error e
    | .ok m =>
      match ← d.bindResource w m with
      | .error e => return .error e
      | .ok (c, i) => d.execute c i

/-- Tells the observer about a failure. An observer that fails is only logged. -/
def report (d : Dispatcher κ) (f : Failure) (r : Run κ) : Run κ :=
  let records := match d.observer with
    | .log => [LogRecord.ofFailure f]
    | .custom fails =>
      if fails f then [.dispatcher .error ("Error observer failed while reporting " ++ f.written)] else []
  { r with journal := r.journal ++ .reported f :: records.map .logged }

/-- Resolves a request: an HTTP error that was raised is the outcome, and so is the answer to any other failure. -/
def resolve (d : Dispatcher κ) (w : World κ) (r : Run κ) : Outcome × Run κ :=
  match d.stages w r with
  | (.ok outcome, r) => (outcome, r)
  | (.error (.http e), r) =>
    let text := r.exchange.marked (e.written ++ " raised in " ++ r.exchange.stage.name)
    (.error e, { r with journal := r.journal ++ [.logged (.dispatcher .debug text)] })
  | (.error f, r) => (.error (.ofFailure f), d.report f r)

/-! ## Responding -/

/-- Renders a body into a response. -/
def renderInto (d : Dispatcher κ) (response : Response) (s : Subject) (p : Payload) : Step κ Response := fun r =>
  let r := { r with journal := r.journal ++ [.render s p] }
  match d.renderer.render s p with
  | .ok body => (.ok ((response.setHeader "Content-Type" (d.renderer.mediaType s p)).setBody body), r)
  | .error f => (.error f, r)

/-- Builds the response to an error by its family. -/
def buildError (d : Dispatcher κ) (e : HttpError) : Step κ Response := fun r =>
  match e.family with
  | .noRender => (.ok (Response.empty.setStatus e.code e.reason), r)
  | .redirect =>
    let response := (Response.empty.setHeader "X-Request-ID" r.exchange.requestId).setStatus e.code e.reason
    let response := (response.setHeaders e.headers).setHeader "Content-Type" TextRenderer.contentType
    ((response.setText e.message).mapError .fault, r)
  | .render =>
    let response := (Response.empty.setHeader "X-Request-ID" r.exchange.requestId).setStatus e.code e.reason
    d.renderInto (response.setHeaders e.headers) (.ofError e) .itself r

/-- Builds the response to an outcome. -/
def build (d : Dispatcher κ) (outcome : Outcome) : Step κ Response := fun r =>
  match outcome with
  | .error e => d.buildError e r
  | .success i data lastModified =>
    let response := (Response.empty.setHeader "X-Request-ID" r.exchange.requestId).setStatus
      Status.ok.code Status.ok.phrase
    let response := match lastModified with
      | some date => response.setHeader "Last-Modified" date
      | none => response
    d.renderInto response (.resource i) (.data data) r

/-- The response to an error that cannot be rendered: its status line as text. That text may have no encoding either. -/
def fallback (e : HttpError) : Step κ Response := fun r =>
  let response := ((Response.empty.setHeader "X-Request-ID" r.exchange.requestId).setStatus e.code e.reason).setHeader
    "Content-Type" TextRenderer.contentType
  ((response.setText (TextRenderer.errorLine e)).mapError .fault, r)

/-- Responds to an outcome. If it cannot be rendered, the observer is told; a resource is then answered with an error,
and an error that cannot be rendered either with its status line. -/
def respond (d : Dispatcher κ) (outcome : Outcome) : Step κ Response := fun r =>
  match d.build outcome r with
  | (.ok response, r) => (.ok response, r)
  | (.error f, r) =>
    let r := d.report f r
    match outcome with
    | .error e => fallback e r
    | .success _ _ _ =>
      let e := HttpError.ofFailure f
      match d.buildError e r with
      | (.ok response, r) => (.ok response, r)
      | (.error f, r) => fallback e (d.report f r)

/-! ## The whole run -/

/-- What a run takes from outside: the identity of the request, the time, and how long it takes. -/
structure Surroundings where
  requestId : String
  timestamp : String
  duration : Float

/-- The access record of a run. -/
def accessRecord (w : World κ) (s : Surroundings) (response : Response) (r : Run κ) : AccessRecord :=
  { requestId := r.exchange.requestId
    method := r.exchange.method
    path := r.exchange.path
    query := r.exchange.query
    resource := (r.found.map fun m => (w.resource m.route.resource).name).getD "-"
    status := response.status
    contentLength := response.body.length
    duration := s.duration
    timestamp := s.timestamp }

/-- A run at its start. -/
def start (request : Request) (s : Surroundings) : Run κ :=
  { exchange := .ofRequest request s.requestId, found := none, journal := [] }

/-- Records a request that was answered. -/
def record (d : Dispatcher κ) (w : World κ) (s : Surroundings) (response : Response) : Step κ Response := do
  let access : AccessRecord ← fun r => (.ok (accessRecord w s response r), r)
  let line ← Step.ofExcept ((access.logRecord d.config.logFormat).mapError .fault)
  Step.note (.logged line)
  return response

/-- Answers an outcome, and records the answer. -/
def finish (d : Dispatcher κ) (w : World κ) (s : Surroundings) (outcome : Outcome) : Step κ Response := do
  Step.advance .responding
  let response ← d.respond outcome
  Step.advance .done
  d.record w s response

/-- Answers a request, unless a move of the exchange is impossible or not even the status line of an error can be
written. -/
def dispatch (d : Dispatcher κ) (w : World κ) (s : Surroundings) (request : Request) : Except Failure Response × Run κ :=
  let (outcome, r) := d.resolve w (start request s)
  d.finish w s outcome r

end Dispatcher

end HttpRouter
