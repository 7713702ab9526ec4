import HttpRouter.ClassName
import HttpRouter.Fault
import HttpRouter.Fields
import HttpRouter.Status
import HttpRouter.Value

/-!
# HTTP errors

Every way for a request to end other than with a rendered resource is an HTTP error. Its class gives it a status and a
family; the family alone decides what becomes of it: a redirect with a short text, a bare status line, or a rendered
page. Applications add classes of their own and may combine status, family, headers and arguments as they like.
-/

namespace HttpRouter

/-! ## Classes -/

/-- What becomes of an HTTP error. -/
inductive Family where
  /-- A location and a short text. -/
  | redirect
  /-- The status line only. -/
  | noRender
  /-- A rendered page. -/
  | render
deriving DecidableEq, Repr, Inhabited

/-- The name of a family. -/
def Family.name : Family → String
  | redirect => "redirect"
  | noRender => "no-render"
  | render => "render"

/-- The name of a family as a constant. -/
def Family.constant : Family → String
  | redirect => "REDIRECT"
  | noRender => "NO_RENDER"
  | render => "RENDER"

/-- What an error is made from and what it carries. -/
inductive ErrorForm where
  /-- A message and a reason. -/
  | plain
  /-- A location and a message. -/
  | redirection
  /-- The methods that are allowed, and a message. -/
  | methodNotAllowed
  /-- A message and a cause. -/
  | internal
deriving DecidableEq, Repr, Inhabited

/-- The headers that a response has anyway: the dispatcher or the gateway sets them. -/
def reservedHeaders : List String :=
  ["X-Request-ID", "Content-Type", "Content-Length", "Server"]

/-- Headers that a class of errors has of its own: each of them once, and none that a response has anyway. -/
structure OwnHeaders where
  fields : Fields String Letters
  nodup : (fields.map (·.1)).Nodup
  free : ∀ p ∈ fields, p.1 ∉ reservedHeaders

/-- A class of HTTP errors. The names are those of the class and its ancestors, its own first. -/
structure ErrorClass where
  lineage : List ClassName
  form : ErrorForm
  status : Status
  family : Family
  members : Fields String Value
  /-- Headers in place of those that follow from the form. -/
  headers : Option OwnHeaders
deriving Inhabited

namespace ErrorClass

/-- The module of the classes that come with the router. -/
def ownModule : String := "httpresource.errors"

/-- The name of a class. -/
def name (c : ErrorClass) : String :=
  (c.lineage.head?.map (·.name)).getD ""

/-- The class that all others descend from. -/
def root : ErrorClass :=
  ⟨[.plain "HTTPError" ownModule], .plain, .internalServerError, .render, [], none⟩

/-- A class below another one that comes with the router. -/
def child (parent : ErrorClass) (name : String) (status : Status) : ErrorClass :=
  { parent with lineage := .plain name ownModule :: parent.lineage, status }

/-- Redirects. -/
def redirection : ErrorClass :=
  { root.child "Redirection" .found with form := .redirection, family := .redirect }

/-- The path has moved for good. -/
def movedPermanently : ErrorClass := redirection.child "MovedPermanently" .movedPermanently

/-- The copy that the client has is current. -/
def notModified : ErrorClass :=
  { root.child "NotModified" .notModified with family := .noRender }

/-- Mistakes of the client. -/
def clientError : ErrorClass := root.child "ClientError" .badRequest

/-- The request makes no sense. -/
def badRequest : ErrorClass := clientError.child "BadRequest" .badRequest

/-- There is no such resource. -/
def notFound : ErrorClass := clientError.child "NotFound" .notFound

/-- The resource does not answer to the method. -/
def methodNotAllowed : ErrorClass :=
  { clientError.child "MethodNotAllowed" .methodNotAllowed with form := .methodNotAllowed }

/-- Faults of the server. -/
def serverError : ErrorClass := root.child "ServerError" .internalServerError

/-- A fault of a handler. -/
def internalServerError : ErrorClass :=
  { serverError.child "InternalServerError" .internalServerError with form := .internal }

/-- The classes that come with the router. -/
def builtin : List ErrorClass :=
  [root, redirection, movedPermanently, redirection.child "Found" .found, redirection.child "SeeOther" .seeOther,
   redirection.child "TemporaryRedirect" .temporaryRedirect, redirection.child "PermanentRedirect" .permanentRedirect,
   notModified, clientError, badRequest, clientError.child "Forbidden" .forbidden, notFound, methodNotAllowed,
   clientError.child "NotAcceptable" .notAcceptable, clientError.child "Conflict" .conflict,
   clientError.child "Gone" .gone, serverError, internalServerError,
   serverError.child "ServiceUnavailable" .serviceUnavailable]

end ErrorClass

/-! ## Errors -/

mutual

/-- An HTTP error. -/
structure HttpError where
  cls : ErrorClass
  reason : Letters
  message : Letters
  location : Option Letters
  allowed : List String
  cause : Option Failure

/-- What can be raised: a fault or an HTTP error. -/
inductive Failure where
  | fault (f : Fault)
  | http (e : HttpError)

end

namespace HttpError

/-- The status of an error. -/
def status (e : HttpError) : Status := e.cls.status

/-- The code of an error. -/
def code (e : HttpError) : Nat := e.status.code

/-- The family of an error. -/
def family (e : HttpError) : Family := e.cls.family

/-- The headers that an error contributes: those of its class, or else those that follow from its form. -/
def headers (e : HttpError) : Fields String Letters :=
  match e.cls.headers with
  | some own => own.fields
  | none =>
    match e.cls.form with
    | .redirection => [("Location", e.location.getD "")]
    | .methodNotAllowed => if e.allowed.isEmpty then [] else [("Allow", ", ".intercalate e.allowed)]
    | _ => []

/-- **The headers of an error come once each**, and none of them is one that a response has anyway. -/
theorem headers_spec (e : HttpError) : (e.headers.map (·.1)).Nodup ∧ ∀ p ∈ e.headers, p.1 ∉ reservedHeaders := by
  have hlocation : "Location" ∉ reservedHeaders := by decide
  have hallow : "Allow" ∉ reservedHeaders := by decide
  rw [headers]
  split
  · next own _ => exact ⟨own.nodup, own.free⟩
  · split
    · exact ⟨List.pairwise_singleton _ _, List.forall_mem_singleton.mpr hlocation⟩
    · split
      · exact ⟨.nil, nofun⟩
      · exact ⟨List.pairwise_singleton _ _, List.forall_mem_singleton.mpr hallow⟩
    · exact ⟨.nil, nofun⟩

/-- An error as it is written in a message. -/
def written (e : HttpError) : String :=
  e.cls.name ++ "(" ++ toString e.code ++ ", " ++ Text.Quoted.text e.reason ++ ")"

end HttpError

namespace Failure

/-- The text of a failure. -/
def text : Failure → Letters
  | fault f => f.text
  | http e => e.message

/-- A failure as it is written in a message. -/
def written : Failure → String
  | fault f => f.written
  | http e => e.written

/-- The name of the kind of a failure. -/
def kindName : Failure → String
  | fault f => f.kind.name
  | http e => e.cls.name

end Failure

/-! ## Making errors -/

/-- A text, or another one instead of an empty one. -/
def orElse (s other : Letters) : Letters :=
  if s.isEmpty then other else s

namespace HttpError

/-- An error of a class with a reason; without a message the reason serves. -/
def plain (cls : ErrorClass) (message reason : Letters) : HttpError :=
  let reason := orElse reason cls.status.phrase
  { cls, reason, message := orElse message reason, location := none, allowed := [], cause := none }

/-- A redirect. -/
def redirect (cls : ErrorClass) (location message : Letters) : HttpError :=
  { plain cls (orElse message ("Redirecting to " ++ location)) "" with location := some location }

/-- A refusal that names the methods that are allowed. -/
def notAllowed (cls : ErrorClass) (allowed : List String) (message : Letters) : HttpError :=
  { plain cls message "" with allowed := allowed.mergeSort fun a b => a ≤ b }

/-- An error with a cause, whose text serves as the message if there is none. -/
def internal (cls : ErrorClass) (message : Letters) (cause : Option Failure) : HttpError :=
  { plain cls (orElse message ((cause.map (·.text)).getD "")) "" with cause }

/-- There is no such resource. -/
def notFound (message : Letters) : HttpError :=
  plain .notFound message ""

/-- The answer to a fault. -/
def ofFailure (cause : Failure) : HttpError :=
  internal .internalServerError "" (some cause)

end HttpError

/-- The named arguments that an error is made from; which ones apply is up to the form of its class. -/
structure ErrorArguments where
  message : Option Letters := none
  reason : Option Letters := none
  location : Option Letters := none
  allowed : Option (List String) := none
  cause : Option Failure := none

namespace ErrorArguments

/-- The names of the arguments that are given. -/
def given (a : ErrorArguments) : List String :=
  (a.message.map fun _ => "message").toList ++ (a.reason.map fun _ => "reason").toList ++
    (a.location.map fun _ => "location").toList ++ (a.allowed.map fun _ => "allowed").toList ++
    (a.cause.map fun _ => "cause").toList

end ErrorArguments

namespace ErrorForm

/-- The arguments that a form takes. -/
def takes : ErrorForm → List String
  | plain => ["message", "reason"]
  | redirection => ["location", "message"]
  | methodNotAllowed => ["allowed", "message"]
  | internal => ["message", "cause"]

/-- The name of the class that brings a form in. -/
def owner : ErrorForm → String
  | plain => "HTTPError"
  | redirection => "Redirection"
  | methodNotAllowed => "MethodNotAllowed"
  | internal => "InternalServerError"

end ErrorForm

/-- Makes an error from named arguments. An argument that the class does not take and a missing location are faults. -/
def HttpError.make (cls : ErrorClass) (a : ErrorArguments) : Except Fault HttpError :=
  let mistake := fun text : Letters => Except.error (Fault.incidental .type (cls.form.owner ++ ".__init__() " ++ text))
  match a.given.find? fun name => !cls.form.takes.contains name with
  | some name => mistake ("got an unexpected keyword argument '" ++ name ++ "'")
  | none =>
    let message := a.message.getD ""
    match cls.form with
    | .plain => .ok (.plain cls message (a.reason.getD ""))
    | .redirection =>
      match a.location with
      | some location => .ok (.redirect cls location message)
      | none => mistake "missing 1 required positional argument: 'location'"
    | .methodNotAllowed => .ok (.notAllowed cls (a.allowed.getD []) message)
    | .internal => .ok (.internal cls message a.cause)

end HttpRouter
