import HttpRouter.Resource.Basic

/-!
# Subjects of views

What is rendered: an instance of a resource that answered, or an HTTP error. Both have a line of classes, by which their
view is found, and attributes, which the view can show.
-/

namespace HttpRouter

/-- What is rendered. An error may have attributes set on it besides those it is made with. -/
inductive Subject where
  | resource (i : Instance)
  | error (e : HttpError) (attributes : Attributes)

/-- What goes to a view along with its subject: what the resource answered, or the subject itself under the name
`error`. -/
inductive Payload where
  | data (v : Value)
  | itself

namespace Subject

/-- An error as it is. -/
def ofError (e : HttpError) : Subject :=
  .error e []

/-- The text of a subject. -/
def shown : Subject → Letters
  | resource i =>
    let c := i.resource.lineage.headD default
    "<" ++ c.module ++ "." ++ c.qualified ++ " object>"
  | error e _ => e.message

/-- Whether the subject is an error. -/
def isError : Subject → Bool
  | resource _ => false
  | error _ _ => true

/-- The names of the class of a subject and of its ancestors. -/
def lineage : Subject → List ClassName
  | resource i => i.resource.lineage
  | error e _ => e.cls.lineage

/-- The class of a subject. -/
def className (s : Subject) : ClassName :=
  s.lineage.headD default

/-- The attributes that were set. -/
def own : Subject → Attributes
  | resource i => i.attributes
  | error _ attributes => attributes

/-- Sets an attribute. The code and the message of an error follow from the rest of it and cannot be set, nor can its
headers unless its class has its own. -/
def setAttribute (name : String) (v : Value) : Subject → Except Fault Subject
  | resource i => .ok (resource { i with attributes := i.attributes.set name v })
  | error e attributes =>
    if name ∈ ["code", "message"] ∨ name = "headers" ∧ e.cls.headers.isNone then
      .error (.incidental .attribute
        ("property '" ++ name ++ "' of '" ++ e.cls.name ++ "' object has no setter"))
    else .ok (error e (attributes.set name v))

/-- The headers of an error as a value. -/
def headersValue (e : HttpError) : Value :=
  .mapping (e.headers.map fun (name, value) => (.text name, .text value))

/-- What an error is made with, as far as it is a value. -/
def errorFields (e : HttpError) : Attributes :=
  [("code", .int e.code), ("reason", .text e.reason), ("message", .text e.message),
    ("headers", headersValue e), ("args", .tuple [.text e.message])] ++
  (match e.cls.form with
    | .redirection => [("location", .text (e.location.getD ""))]
    | .methodNotAllowed => [("allowed", .tuple (e.allowed.map fun method : String => .text method))]
    | _ => [])

/-- The value of an attribute. The request of an instance and the status, the family and the cause of an error are not
values. -/
def attribute? (s : Subject) (name : String) : Option Value :=
  match s with
  | resource i => i.attribute? name
  | error e attributes =>
    match attributes.get? name with
    | some v => some v
    | none =>
      match Fields.get? name (errorFields e) with
      | some v => some v
      | none => e.cls.members.get? name

end Subject

end HttpRouter
