import HttpRouter.HttpError
import HttpRouter.Log
import HttpRouter.Request

/-!
# Exchanges

An exchange is one request on its way to a response. It moves from stage to stage: from `idle` over `matching`, `bound`
and `executing`, any of which may be the last one before `responding`, to `done`. No other move is possible, and a move
changes nothing but the stage (`advance_eq_ok`).
-/

namespace HttpRouter

/-- The stages of an exchange. -/
inductive Stage where
  | idle
  | matching
  | bound
  | executing
  | responding
  | done
deriving DecidableEq, Repr, Inhabited

namespace Stage

/-- Every stage, in order. -/
def all : List Stage := [idle, matching, bound, executing, responding, done]

/-- The name of a stage. -/
def name : Stage → String
  | idle => "IDLE"
  | matching => "MATCHING"
  | bound => "BOUND"
  | executing => "EXECUTING"
  | responding => "RESPONDING"
  | done => "DONE"

/-- The stage of a name. -/
def ofName? (name : String) : Option Stage :=
  all.find? fun s => s.name == name

/-- The stage of a name, which has to be one. -/
def named (name : String) : Except Fault Stage :=
  match ofName? name with
  | some s => .ok s
  | none => .error (.incidental .key (Text.Quoted.text name))

theorem ofName?_name (s : Stage) : ofName? s.name = some s := by
  cases s <;> decide

/-- Whether one stage may follow another. -/
def mayFollow : Stage → Stage → Bool
  | idle, matching | matching, bound | bound, executing | responding, done => true
  | idle, responding | matching, responding | bound, responding | executing, responding => true
  | _, _ => false

theorem not_mayFollow_done (s : Stage) : done.mayFollow s = false := by
  cases s <;> rfl

end Stage

/-- One request on its way to a response. Method and path are the effective ones, which may have been changed since the
request came. -/
structure Exchange where
  request : Request
  method : String
  path : Letters
  query : Letters
  ifModifiedSince : Option String
  requestId : String
  stage : Stage
deriving Repr, Inhabited

namespace Exchange

/-- The exchange of a request that just came. -/
def ofRequest (request : Request) (requestId : String) : Exchange :=
  { request
    method := Text.upperString request.method
    path := request.path
    query := request.query
    ifModifiedSince := request.header? "If-Modified-Since"
    requestId
    stage := .idle }

/-- The fault of an impossible move. -/
def illegalMove (a b : Stage) : Fault :=
  .declare .runtime ("Illegal dispatch transition " ++ a.name ++ " -> " ++ b.name)

/-- A text that is marked with the request. -/
def marked (x : Exchange) (text : Letters) : Letters :=
  "[" ++ x.requestId ++ "] " ++ text

/-- Moves to a stage, with the record of that move. -/
def advance (x : Exchange) (stage : Stage) : Except Fault (Exchange × LogRecord) :=
  if x.stage.mayFollow stage then
    .ok ({ x with stage }, .dispatcher .debug (x.marked (x.stage.name ++ " -> " ++ stage.name)))
  else .error (illegalMove x.stage stage)

/-- A move changes nothing but the stage. -/
theorem advance_eq_ok {x y : Exchange} {stage : Stage} {record : LogRecord}
    (h : x.advance stage = .ok (y, record)) : x.stage.mayFollow stage = true ∧ y = { x with stage } := by
  unfold advance at h
  split at h
  · next hm =>
    cases h
    exact ⟨hm, rfl⟩
  · cases h

/-- A move fails if it is impossible. -/
theorem advance_eq_error {x : Exchange} {stage : Stage} {f : Fault} (h : x.advance stage = .error f) :
    x.stage.mayFollow stage = false ∧ f = illegalMove x.stage stage := by
  unfold advance at h
  split at h
  · cases h
  · next hm =>
    cases h
    exact ⟨Bool.eq_false_iff.mpr hm, rfl⟩

/-- Moves to the stage of a name. -/
def advanceTo (x : Exchange) (name : String) : Except Fault (Exchange × LogRecord) := do
  x.advance (← Stage.named name)

end Exchange

end HttpRouter
