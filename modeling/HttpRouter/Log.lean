import HttpRouter.Decimal.Fixed
import HttpRouter.HttpError
import HttpRouter.Json.Writer

/-!
# Logs

What is written to the logs: one access record per dispatched request, faults, and what the dispatcher does. A record
goes to one of the logs below `httpresource` with a level.
-/

namespace HttpRouter

/-- How important a record is. -/
inductive Level where
  | debug
  | info
  | error
deriving DecidableEq, Repr

namespace Level

/-- The name of a level. -/
def name : Level → String
  | debug => "DEBUG"
  | info => "INFO"
  | error => "ERROR"

/-- The number of a level. -/
def number : Level → Nat
  | debug => 10
  | info => 20
  | error => 40

end Level

/-- The levels that a threshold can be set to. -/
def thresholds : List (String × Nat) :=
  [("CRITICAL", 50), ("FATAL", 50), ("ERROR", 40), ("WARNING", 30), ("WARN", 30), ("INFO", 20), ("DEBUG", 10),
   ("NOTSET", 0)]

/-- One line of a log. -/
structure LogRecord where
  log : String
  level : Level
  message : Letters
deriving DecidableEq, Repr

namespace LogRecord

/-- A record of what the dispatcher does. -/
def dispatcher (level : Level) (message : Letters) : LogRecord :=
  ⟨"httpresource.dispatcher", level, message⟩

/-- A record of what an initializer does. -/
def initializer (message : Letters) : LogRecord :=
  ⟨"httpresource.initializers", .debug, message⟩

/-- A record of a fault that nobody handled. -/
def ofFailure (f : Failure) : LogRecord :=
  ⟨"httpresource.errors", .error, "Unhandled " ++ f.kindName ++ ": " ++ f.text⟩

end LogRecord

/-! ## Access records -/

/-- What is recorded about a request. The method is the effective one, and the resource is `-` if none matched. -/
structure AccessRecord where
  requestId : String
  method : String
  path : Letters
  query : Letters
  resource : String
  status : Int
  contentLength : Int
  duration : Float
  timestamp : String

namespace AccessRecord

/-- The record as fields, the duration rounded to two places. -/
def toValue (r : AccessRecord) : Value :=
  .mapping [(.text "request_id", .text r.requestId), (.text "method", .text r.method), (.text "path", .text r.path),
    (.text "query", .text r.query), (.text "resource", .text r.resource), (.text "status_code", .int r.status),
    (.text "content_length", .int r.contentLength),
    (.text "duration_ms", .float (Decimal.roundedToHundredths r.duration)),
    (.text "timestamp", .text r.timestamp)]

/-- The record as a line. -/
def toText (r : AccessRecord) : Letters :=
  let target := if r.query.isEmpty then r.path else r.path ++ "?" ++ r.query
  r.requestId ++ " [" ++ r.timestamp ++ "] \"" ++ r.method ++ " " ++ target ++ "\" " ++ toString r.status ++ " " ++
    toString r.contentLength ++ " " ++ Decimal.twoPlaces r.duration ++ "ms"

/-- The record as JSON. Its whole numbers are a code and a size, which never have too many digits. -/
def toJson (r : AccessRecord) : Except Fault String := do
  return String.ofList (← Json.writeWith Json.wholeText r.toValue)

/-- The line for the access log in a format; faults of the server are errors. -/
def logRecord (r : AccessRecord) (format : String) : Except Fault LogRecord := do
  let some status := Status.ofCode? r.status | throw (.incidental .value (toString r.status ++ " is not a valid HTTPStatus"))
  let message ← if format = "json" then Text.ofString <$> r.toJson else pure r.toText
  return ⟨"httpresource.access", if status.isServerError then .error else .info, message⟩

end AccessRecord

end HttpRouter
