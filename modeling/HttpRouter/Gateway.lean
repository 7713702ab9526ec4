import HttpRouter.Dispatch.Run
import HttpRouter.Text.Digit
import HttpRouter.Words

/-!
# The gateway to a server

A server describes a request by variables such as `PATH_INFO` and `HTTP_HOST`, with an input to read the body from. The
path comes decoded, as characters that stand for octets; here it is encoded again, because routes match encoded paths.
Responses go back with a status line, their headers and a body; a location inside the application becomes an absolute
one.
-/

namespace HttpRouter

/-- What a server says about a request. -/
structure Environ where
  entries : Fields String String
  input : Option (List UInt8)

namespace Environ

/-- The value of a variable. -/
def get? (env : Environ) (name : String) : Option String :=
  env.entries.get? name

/-- The characters besides letters, digits and `-._~` that stay as they are in paths. -/
def pathSafe : List Char :=
  "/:@!$&'()*+,;=".toList

/-! ## Requests -/

/-- The octets that the characters of a text stand for, if all of them stand for one. -/
def octets? (s : String) : Option (List UInt8) :=
  s.toList.mapM fun c => if c.toNat < 256 then some (UInt8.ofNat c.toNat) else none

/-- The root instead of an empty path. -/
def orRoot (path : String) : String :=
  if path.isEmpty then "/" else path

theorem orRoot_of_ne {path : String} (h : path ≠ "") : orRoot path = path :=
  if_neg fun hempty => h (String.isEmpty_iff.mp hempty)

/-- The path, encoded. -/
def path (env : Environ) : Except Fault String :=
  match octets? (orRoot ((env.get? "PATH_INFO").getD "")) with
  | some octets => .ok (String.ofList (Text.Percent.encode pathSafe (Text.Utf8.decode octets)))
  | none => .error (.incidental .encoding "characters of the path are out of range")

/-- The variables with headers that are not named by `HTTP_`. -/
def plainHeaders : List (String × String) :=
  [("CONTENT_TYPE", "Content-Type"), ("CONTENT_LENGTH", "Content-Length")]

/-- The name of a header from the variable that holds it. -/
def headerName (name : List Char) : String :=
  String.ofList (Text.title (name.map fun c => if c = '_' then '-' else c))

/-- The header that a variable holds, if it holds one. -/
def header? (name value : String) : Option (String × String) :=
  if "HTTP_".toList.isPrefixOf name.toList then some (headerName (name.toList.drop 5), value)
  else if value.isEmpty then none
  else (plainHeaders.lookup name).map (·, value)

/-- The headers. -/
def headers (env : Environ) : List (String × String) :=
  env.entries.filterMap fun (name, value) => header? name value

/-- The length of the body; what is no number counts as zero. -/
def contentLength (env : Environ) : Int :=
  (Text.integer? ((env.get? "CONTENT_LENGTH").getD "").toList).getD 0

/-- The body: as much of the input as the length says. -/
def body (env : Environ) : Except Fault (List UInt8) :=
  match env.input with
  | none => .ok []
  | some input =>
    if env.contentLength ≤ 0 then .ok []
    else if !Words.fits Words.limit64 env.contentLength then
      .error (.incidental .overflow "cannot fit 'int' into an index-sized integer")
    else .ok (input.take env.contentLength.toNat)

/-- The request. -/
def request (env : Environ) : Except Fault Request := do
  let path ← env.path
  let body ← env.body
  return .make ((env.get? "REQUEST_METHOD").getD "GET") path ((env.get? "QUERY_STRING").getD "") env.headers body

/-! ## Absolute locations -/

/-- The ports that go without saying. -/
def defaultPorts : List (String × String) :=
  [("http", "80"), ("https", "443")]

/-- Splits a text at the last of a separator. -/
def cutLast (sep : Char) (s : List Char) : Option (List Char × List Char) :=
  match Text.cut sep s.reverse with
  | (after, some before) => some (before.reverse, after.reverse)
  | (_, none) => none

/-- A host without a port that goes without saying. -/
def shortHost (scheme host : String) : String :=
  match cutLast ':' host.toList with
  | some (name, port) => if defaultPorts.lookup scheme = some (String.ofList port) then String.ofList name else host
  | none => host

/-- The host, with its port unless that goes without saying. -/
def host (env : Environ) (scheme : String) : String :=
  match (env.get? "HTTP_HOST").bind Config.nonempty with
  | some host => shortHost scheme host
  | none =>
    let name := (env.get? "SERVER_NAME").getD "localhost"
    let port := (env.get? "SERVER_PORT").getD ""
    if port.isEmpty ∨ defaultPorts.lookup scheme = some port then name else name ++ ":" ++ port

/-- The path that the application is mounted at, encoded and without slashes at its end. -/
def mount (env : Environ) : String :=
  let script := ((env.get? "SCRIPT_NAME").getD "").toList
  String.ofList (Text.Percent.encode pathSafe (Text.dropEndWhile (· == '/') script))

/-- A path of the application as the client sees it. -/
def absolute (env : Environ) (path : Letters) : Letters :=
  let scheme := (env.get? "wsgi.url_scheme").getD "http"
  scheme ++ "://" ++ env.host scheme ++ env.mount ++ path

end Environ

/-! ## Replies -/

/-- What goes back to the server. -/
structure Reply where
  status : Letters
  headers : Fields String Letters
  body : List UInt8

namespace Reply

/-- Whether a location is a path of the application. -/
def isLocalPath : Letters → Bool
  | .char '/' :: .char '/' :: _ => false
  | .char '/' :: _ => true
  | _ => false

/-- The headers with an absolute location. -/
def absoluteLocation (env : Environ) (headers : Fields String Letters) : Fields String Letters :=
  match headers.get? "Location" with
  | some location => if isLocalPath location then headers.set "Location" (env.absolute location) else headers
  | none => headers

/-- The reply with a response. The length is that of the whole body, which is left out in answer to `HEAD`. -/
def ofResponse (env : Environ) (server : String) (request : Request) (r : Response) : Reply where
  status := r.statusText
  headers := ((absoluteLocation env r.headers).setDefault "Content-Length" (toString r.body.length : Letters)).setDefault
    "Server" (server : Letters)
  body := if request.method = "HEAD" then [] else r.body

end Reply

/-- Answers a request of a server through a dispatcher. -/
def Dispatcher.serve {κ : Type} (d : Dispatcher κ) (w : World κ) (s : Dispatcher.Surroundings) (env : Environ) :
    Except Failure Reply × Journal κ :=
  match env.request with
  | .error f => (.error (.fault f), [])
  | .ok request =>
    let (result, run) := d.dispatch w s request
    (result.map (Reply.ofResponse env d.config.serverName request), run.journal)

namespace Dispatcher

variable {κ : Type} {d : Dispatcher κ} {w : World κ} {s : Surroundings} {env : Environ}

/-- The reply is that with the response of a dispatch. -/
theorem serve_of_ok {request : Request} (h : env.request = .ok request) :
    (d.serve w s env).1 = (d.dispatch w s request).1.map (Reply.ofResponse env d.config.serverName request) := by
  rw [serve, h]

end Dispatcher

end HttpRouter
