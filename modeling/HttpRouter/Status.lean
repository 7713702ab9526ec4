/-!
# Status codes

The status codes that a router answers with, with their reason phrases. A status is known by its code (`ofCode?_code`).
-/

namespace HttpRouter

/-- A status code. -/
inductive Status where
  | ok
  | created
  | accepted
  | noContent
  | movedPermanently
  | found
  | seeOther
  | notModified
  | temporaryRedirect
  | permanentRedirect
  | badRequest
  | unauthorized
  | forbidden
  | notFound
  | methodNotAllowed
  | notAcceptable
  | conflict
  | gone
  | preconditionFailed
  | unsupportedMediaType
  | unprocessableEntity
  | internalServerError
  | notImplemented
  | serviceUnavailable
deriving DecidableEq, Repr, Inhabited

namespace Status

/-- Every status code, in ascending order. -/
def all : List Status :=
  [ok, created, accepted, noContent, movedPermanently, found, seeOther, notModified, temporaryRedirect,
   permanentRedirect, badRequest, unauthorized, forbidden, notFound, methodNotAllowed, notAcceptable, conflict, gone,
   preconditionFailed, unsupportedMediaType, unprocessableEntity, internalServerError, notImplemented,
   serviceUnavailable]

/-- The code. -/
def code : Status → Nat
  | ok => 200
  | created => 201
  | accepted => 202
  | noContent => 204
  | movedPermanently => 301
  | found => 302
  | seeOther => 303
  | notModified => 304
  | temporaryRedirect => 307
  | permanentRedirect => 308
  | badRequest => 400
  | unauthorized => 401
  | forbidden => 403
  | notFound => 404
  | methodNotAllowed => 405
  | notAcceptable => 406
  | conflict => 409
  | gone => 410
  | preconditionFailed => 412
  | unsupportedMediaType => 415
  | unprocessableEntity => 422
  | internalServerError => 500
  | notImplemented => 501
  | serviceUnavailable => 503

/-- The reason phrase, as words. -/
def phrase : Status → String
  | ok => "OK"
  | created => "Created"
  | accepted => "Accepted"
  | noContent => "No Content"
  | movedPermanently => "Moved Permanently"
  | found => "Found"
  | seeOther => "See Other"
  | notModified => "Not Modified"
  | temporaryRedirect => "Temporary Redirect"
  | permanentRedirect => "Permanent Redirect"
  | badRequest => "Bad Request"
  | unauthorized => "Unauthorized"
  | forbidden => "Forbidden"
  | notFound => "Not Found"
  | methodNotAllowed => "Method Not Allowed"
  | notAcceptable => "Not Acceptable"
  | conflict => "Conflict"
  | gone => "Gone"
  | preconditionFailed => "Precondition Failed"
  | unsupportedMediaType => "Unsupported Media Type"
  | unprocessableEntity => "Unprocessable Entity"
  | internalServerError => "Internal Server Error"
  | notImplemented => "Not Implemented"
  | serviceUnavailable => "Service Unavailable"

/-- The name: the phrase in capitals, joined by low lines. -/
def name (s : Status) : String :=
  String.ofList (s.phrase.toList.map fun c => if c = ' ' then '_' else c.toUpper)

/-- The status of a code. -/
def ofCode? (code : Int) : Option Status :=
  all.find? fun s => (s.code : Int) == code

/-- **Every status is the status of its code.** -/
theorem ofCode?_code (s : Status) : ofCode? s.code = some s := by
  cases s <;> decide

theorem code_injective {s t : Status} (h : s.code = t.code) : s = t := by
  have hs := ofCode?_code s
  rw [h, ofCode?_code t] at hs
  exact (Option.some.inj hs).symm

/-- Whether a code reports a fault of the server. -/
def isServerError (s : Status) : Bool :=
  500 ≤ s.code && s.code < 600

end Status

end HttpRouter
