import HttpRouter.Json.Reader
import HttpRouter.Target
import HttpRouter.Text.Case
import HttpRouter.Text.Percent

/-!
# Requests

A request as a router sees it: a method in capitals, a path and a query as they were sent, headers by lower-case names,
and a body.
-/

namespace HttpRouter

open Text (cut splitOn lowerString upperString)

/-- A request. -/
structure Request where
  method : String
  path : Letters
  query : Letters
  headers : Fields String String
  body : List UInt8
deriving Repr, Inhabited

namespace Request

/-- Headers by lower-case names. A name that comes twice counts with its last value, names that differ in case only
counting as one after that. -/
def headersOf (pairs : List (String × String)) : Fields String String :=
  Fields.ofPairs ((Fields.ofPairs pairs).map fun (name, value) => (lowerString name, value))

/-- A request from its parts. -/
def make (method : String) (path query : Letters) (headers : List (String × String)) (body : List UInt8) : Request :=
  { method := upperString method, path, query, headers := headersOf headers, body }

/-- A request from a target that holds path and query. -/
def ofTarget (method target : String) (headers : List (String × String)) (body : List UInt8) : Except Fault Request :=
  match Target.split? target.toList with
  | some (path, query) =>
    .ok (make method (if path.isEmpty then "/" else Text.ofChars path) (Text.ofChars query) headers body)
  | none => .error (.incidental .value "Invalid URL")

/-- The value of a header, whatever the case of its name. -/
def header? (r : Request) (name : String) : Option String :=
  r.headers.get? (lowerString name)

/-- A name or a value of a query, decoded. -/
def decodeField (s : Letters) : Letters :=
  Text.Percent.decodeLetters (s.map fun l => if l = .char '+' then .char ' ' else l)

/-- One field of a query, unless it is empty. -/
def queryField? (s : Letters) : Option (Letters × Letters) :=
  if s.isEmpty then none
  else let (name, value) := cut (.char '=') s; some (decodeField name, decodeField (value.getD []))

/-- The fields of a query in order. -/
def queryFields (query : Letters) : List (Letters × Letters) :=
  (splitOn (.char '&') query).filterMap queryField?

/-- The values of every name of the query. -/
def params (r : Request) : Fields Letters (List Letters) :=
  (queryFields r.query).foldl
    (fun fields (name, value) => fields.set name ((fields.get? name).getD [] ++ [value])) []

/-- The first value of a name of the query. -/
def queryValue? (r : Request) (name : String) : Option Letters :=
  (r.params.get? (name : Letters)).bind (·.head?)

/-- The content type without parameters. -/
def contentType? (r : Request) : Option String :=
  let value := Text.lower (Text.trim (cut ';' ((r.headers.get? "content-type").getD "").toList).1)
  if value.isEmpty then none else some (String.ofList value)

/-- Reads a body that is not empty as JSON. -/
def parsed (r : Request) : Except Fault Value :=
  match Text.Utf8.decode? r.body with
  | none => .error (.incidental .decoding "invalid UTF-8")
  | some s =>
    match Json.read s with
    | .ok v => .ok v
    | .error .form => .error (.incidental .json "invalid JSON")
    | .error .tooManyDigits => .error (.incidental .value "too many digits")

/-- The body as JSON, and what is remembered of it from then on, null standing for nothing. What is remembered is not
read again; null and what cannot be read are not remembered, and an empty body is null. -/
def access (r : Request) (memory : Value) : Except Fault Value × Value :=
  match memory with
  | .null =>
    if r.body.isEmpty then (.ok .null, .null)
    else match r.parsed with
      | .ok v => (.ok v, v)
      | .error f => (.error f, .null)
  | v => (.ok v, v)

/-- What is remembered of the body after several accesses. -/
def remembered (r : Request) : Nat → Value
  | 0 => .null
  | accesses + 1 => (r.access (r.remembered accesses)).2

/-- The body read as JSON; an empty body is null. -/
def json (r : Request) : Except Fault Value :=
  (r.access (r.remembered 0)).1

/-- A request as it is written in a message. -/
def written (r : Request) : String :=
  let quoted := Text.Quoted.text
  let headers := ", ".intercalate (r.headers.map fun (name, value) => quoted name ++ ": " ++ quoted value)
  "HTTPRequest(method=" ++ quoted r.method ++ ", path=" ++ quoted r.path ++ ", query_string=" ++ quoted r.query ++
    ", headers=\x7b" ++ headers ++ "\x7d, body=" ++ String.ofList (Text.Quoted.encodeOctets r.body) ++ ")"

end Request

end HttpRouter
