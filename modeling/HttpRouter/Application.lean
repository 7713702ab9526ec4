import HttpRouter.Dispatch.Dispatcher
import HttpRouter.Script.Basic

/-!
# Applications

An application is a hierarchy of resources together with classes of errors, all of them known by name. Classes are
defined one after the other, each below one that is already there; a name that is defined again stands for the new class
from then on, while routes and descendants keep the old one.
-/

namespace HttpRouter

/-- What a name stands for. -/
inductive Named where
  | resource (id : ClassId)
  | error (c : ErrorClass)

/-- The definition of a class of resources or errors. -/
structure ClassSpec where
  name : ClassName
  parent : String := "Resource"
  values : Fields String Value := []
  actions : Fields String Script := []
  /-- The code of a class of errors. -/
  status : Option Int := none
  /-- The family of a class of errors. -/
  family : Option Family := none
  /-- The headers of a class of errors, in place of its parent's. -/
  headers : Option OwnHeaders := none

/-- An application. -/
structure Application where
  hierarchy : Hierarchy
  names : Fields String Named

namespace Application

/-- The application that has only the classes that come with the router. -/
def base : Application where
  hierarchy := .base
  names := (Resource.rootName.name, .resource Hierarchy.root) :: ErrorClass.builtin.map fun c => (c.name, .error c)

/-- The class of errors of a name. -/
def errorClass? (app : Application) (name : String) : Option ErrorClass :=
  match app.names.get? name with
  | some (.error c) => some c
  | _ => none

/-- The fault of taking a class of errors for a resource. -/
def notAResource (name wanted : String) : Fault :=
  .incidental .attribute ("type object '" ++ name ++ "' has no attribute '" ++ wanted ++ "'")

/-- The resource of a name, of which something that goes by `wanted` is wanted. -/
def resourceId (app : Application) (name wanted : String) : Except Fault ClassId :=
  match app.names.get? name with
  | some (.resource id) => .ok id
  | some (.error c) => .error (notAResource c.name wanted)
  | none => .error (Script.unknownClass name)

/-- A resource as it is now. -/
def resource (app : Application) (id : ClassId) : Resource :=
  app.hierarchy.resource id

/-- The name of a resource. -/
def nameOf (app : Application) (id : ClassId) : String :=
  (app.resource id).name

/-- The names of the class of a name. -/
def className (app : Application) (name : String) : Except Fault ClassName :=
  match app.names.get? name with
  | some (.resource id) => .ok ((app.resource id).lineage.headD default)
  | some (.error c) => .ok (c.lineage.headD default)
  | none => .error (Script.unknownClass name)

/-- Links values to the template of a resource. -/
def link (app : Application) (name : String) (values : List Value) : Except Fault Letters := do
  (app.resource (← app.resourceId name "link")).link values

/-- What handlers can refer to. -/
def directory (app : Application) : Directory where
  link := app.link
  errorClass? := app.errorClass?

/-- The resources and what their handlers can refer to. -/
def world (app : Application) : World ClassId where
  resource := app.resource
  directory := app.directory

/-- A fresh instance of a resource. -/
def fresh (app : Application) (id : ClassId) : Instance :=
  .fresh (app.resource id) app.directory

/-- A fresh instance of the class of a name, or an error that is made without arguments. -/
def subject (app : Application) (name : String) : Except Fault Subject :=
  match app.names.get? name with
  | some (.resource id) => .ok (.resource (app.fresh id))
  | some (.error c) => .ofError <$> HttpError.make c {}
  | none => .error (Script.unknownClass name)

/-! ## Definitions -/

/-- The status of a code, which has to be a known one. -/
def statusOf (code : Int) : Except Fault Status :=
  match Status.ofCode? code with
  | some s => .ok s
  | none => .error (.incidental .value (toString code ++ " is not a valid HTTPStatus"))

/-- A class of errors below another one. -/
def errorBelow (parent : ErrorClass) (spec : ClassSpec) : Except Fault ErrorClass := do
  let status ← match spec.status with
    | some code => statusOf code
    | none => pure parent.status
  return { parent with
    lineage := spec.name :: parent.lineage
    status
    family := spec.family.getD parent.family
    headers := spec.headers.or parent.headers
    members := spec.values ++ parent.members }

/-- A class of resources below another one. -/
def resourceBelow (parent : ClassId) (spec : ClassSpec) : ResourceClass where
  name := spec.name
  parent := some parent
  own := Fields.ofPairs (spec.values.map (fun (name, v) => (name, Member.value v)) ++
    spec.actions.map fun (name, s) => (name, .action s.action))

/-- Defines a class. -/
def define (app : Application) (spec : ClassSpec) : Except Fault Application := do
  match app.names.get? spec.parent with
  | none => throw (Script.unknownClass spec.parent)
  | some (.error parent) =>
    let c ← errorBelow parent spec
    return { app with names := app.names.set spec.name.name (.error c) }
  | some (.resource parent) =>
    let (hierarchy, id) := app.hierarchy.define (resourceBelow parent spec)
    return { hierarchy, names := app.names.set spec.name.name (.resource id) }

/-- Defines classes one after the other. -/
def defineAll (app : Application) (specs : List ClassSpec) : Except Fault Application :=
  specs.foldlM define app

end Application

end HttpRouter
