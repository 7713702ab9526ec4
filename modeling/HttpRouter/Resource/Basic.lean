import HttpRouter.HttpError
import HttpRouter.Method
import HttpRouter.Request

/-!
# Resources

A resource is a class of things that a path can name. Its members are values, such as its path and its layout, and
actions, such as its methods; a member that it does not have itself it has from its parent. For every request an
instance is made, which has attributes of its own on top.

A resource answers to a method if it has an action of that name. It also answers to `HEAD` whenever it answers to `GET`,
because the action that all resources inherit for `HEAD` runs that for `GET`.
-/

namespace HttpRouter

/-- The attributes of an instance. -/
abbrev Attributes := Fields String Value

/-- What the code of a resource can refer to by name: other resources, to link to them, and classes of errors. -/
structure Directory where
  link : String → List Value → Except Fault Letters
  errorClass? : String → Option ErrorClass

/-- What an action can look at. -/
structure Call where
  /-- The name of the class. -/
  className : String
  /-- The request being answered. -/
  request : Option Request
  /-- The values that the class has under a name. -/
  inherited : String → Option Value
  /-- Runs the inherited action for `HEAD`. -/
  head : Attributes → Except Failure Value × Attributes
  /-- What the action can refer to by name. -/
  directory : Directory

/-- What an instance does: it gives a value or fails, and may change the attributes on the way. -/
abbrev Action := Call → Attributes → Except Failure Value × Attributes

/-- A member of a resource. -/
inductive Member where
  | value (v : Value)
  | action (run : Action)
  /-- The action that all resources inherit for `HEAD`. -/
  | inheritedHead

/-- A resource: the names of the class and its ancestors, its own first, and all its members, its own before those that
it inherits. -/
structure Resource where
  lineage : List ClassName
  members : Fields String Member

namespace Resource

/-- The name of a resource. -/
def name (r : Resource) : String :=
  (r.lineage.head?.map (·.name)).getD ""

/-- The value of a member. -/
def value? (r : Resource) (name : String) : Option Value :=
  match r.members.get? name with
  | some (.value v) => some v
  | _ => none

/-- The text of a member. -/
def text (r : Resource) (name : String) : Letters :=
  ((r.value? name).map (·.shown)).getD []

/-- The path of a resource. -/
def path (r : Resource) : Letters := r.text "path"

/-- What is put in front of the path. -/
def base (r : Resource) : Letters := r.text "base"

/-- The template of a resource as it is written. -/
def template (r : Resource) : Letters := r.base ++ r.path

/-- Whether a member is an action. -/
def isAction (r : Resource) (name : String) : Bool :=
  match r.members.get? name with
  | some (.action _) | some .inheritedHead => true
  | _ => false

/-- Whether the action for `HEAD` is the one that all resources inherit. -/
def inheritsHead (r : Resource) : Bool :=
  match r.members.get? "head" with
  | some .inheritedHead => true
  | _ => false

/-- Whether a resource answers to a method. -/
def implements (r : Resource) (method : String) : Bool :=
  let method := Text.upperString method
  if !knownMethods.contains method then false
  else if method = "HEAD" ∧ r.inheritsHead then r.isAction "get"
  else r.isAction (Text.lowerString method)

/-- Those of the given methods that a resource answers to, in order. -/
def allowedMethods (r : Resource) (allowed : List String) : List String :=
  sortedSet (allowed.filter r.implements)

/-- The refusal of a method, which names those that the resource answers to. -/
def refusal (r : Resource) (allowed : List String) : HttpError :=
  .notAllowed .methodNotAllowed (r.allowedMethods allowed) ""

/-- The names of the resource that all others descend from. -/
def rootName : ClassName :=
  .plain "Resource" "httpresource.resource"

/-- The members that all resources inherit. -/
def rootMembers : Fields String Member :=
  [("path", .value (.text "/")), ("base", .value (.text "")), ("layout", .value .null), ("view", .value .null),
    ("last_modified", .value .null), ("init", .action fun _ attributes => (.ok .null, attributes)),
    ("head", .inheritedHead)]

end Resource

/-! ## Instances -/

/-- An instance of a resource. -/
structure Instance where
  resource : Resource
  request : Option Request
  attributes : Attributes
  /-- What its actions can refer to by name. -/
  directory : Directory

namespace Instance

/-- A fresh instance. -/
def fresh (resource : Resource) (directory : Directory) : Instance :=
  { resource, request := none, attributes := [("params", .mapping [])], directory }

/-- A request as a value. -/
def requestValue : Option Request → Value
  | none => .null
  | some r => .object r.written r.written

/-- The value of an attribute: of the instance, or else of its class. -/
def attribute? (i : Instance) (name : String) : Option Value :=
  match i.attributes.get? name with
  | some v => some v
  | none => if name = "request" then some (requestValue i.request) else i.resource.value? name

/-- The fault of running something that is no action. -/
def notAnAction (v : Value) : Failure :=
  .fault (.incidental .type ("'" ++ v.fullSortName ++ "' object is not callable"))

/-- The fault of an attribute that is missing. -/
def noAttribute (className name : String) : Failure :=
  .fault (.incidental .attribute ("'" ++ className ++ "' object has no attribute '" ++ name ++ "'"))

/-- The most actions that may run inside an action. -/
def depthLimit : Nat := 999

/-- The fault of actions running inside each other without end. -/
def tooDeep : Failure :=
  .fault (.incidental .recursion "maximum recursion depth exceeded")

/-- What an action of an instance can look at, with what the inherited action for `HEAD` does. -/
def call (i : Instance) (head : Attributes → Except Failure Value × Attributes) : Call :=
  { className := i.resource.name, request := i.request, inherited := i.resource.value?, head, directory := i.directory }

/-- What the inherited action for `HEAD` does: it runs the action for `GET`, or refuses. At most `depth` actions may run
inside each other then. -/
def runGet (depth : Nat) (i : Instance) : Except Failure Value × Attributes :=
  match i.attributes.get? "get", i.resource.members.get? "get", depth with
  | some .null, _, _ | none, none, _ | none, some (.value .null), _ =>
    (.error (.http (i.resource.refusal knownMethods)), i.attributes)
  | some v, _, _ | none, some (.value v), _ => (.error (notAnAction v), i.attributes)
  | none, some .inheritedHead, _ | none, some (.action _), 0 => (.error tooDeep, i.attributes)
  | none, some (.action act), depth + 1 =>
    act (i.call fun attributes => runGet depth { i with attributes }) i.attributes

/-- Runs the action of a name. -/
def run (i : Instance) (name : String) : Except Failure Value × Attributes :=
  match i.attributes.get? name, i.resource.members.get? name with
  | some v, _ | none, some (.value v) => (.error (notAnAction v), i.attributes)
  | none, none => (.error (noAttribute i.resource.name name), i.attributes)
  | none, some .inheritedHead => i.runGet (depthLimit + 1)
  | none, some (.action act) =>
    act (i.call fun attributes => runGet depthLimit { i with attributes }) i.attributes

/-- Runs the action of a name, with the instance as that leaves it. -/
def perform (i : Instance) (name : String) : Except Failure Value × Instance :=
  let (result, attributes) := i.run name
  (result, { i with attributes })

/-- Answers to a method, or refuses it. -/
def answer (i : Instance) (method : String) : Except Failure Value × Instance :=
  if i.resource.implements method then i.perform (Text.lowerString method)
  else (.error (.http (i.resource.refusal knownMethods)), i)

end Instance

end HttpRouter
