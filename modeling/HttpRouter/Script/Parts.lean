import HttpRouter.Dispatch.Dispatcher
import HttpRouter.Script.Raised

/-!
# Scripted parts of a dispatcher

Initializers, factories and renderers that are given as data: an initializer that adjusts the exchange and may end it, a
factory that fails or makes instances of other classes, and a renderer that shows the name of what it is given.
-/

namespace HttpRouter.Script

/-! ## Initializers -/

/-- What a scripted initializer does, in this order. -/
structure Adjustment where
  method : Option String := none
  path : Option Letters := none
  /-- The names of the stages that the exchange is moved to. -/
  stages : List String := []
  raised : Option Raised := none
  answer : Option Raised := none

namespace Adjustment

/-- The move to a stage, which has to exist. -/
def move (name : String) : Effect :=
  match Stage.named name with
  | .ok stage => .advance stage
  | .error f => .fail (.fault f)

/-- Ending the exchange with an HTTP error; anything else fails. -/
def stop : Failure → Effect
  | .http e => .stop e
  | f => .fail f

/-- The steps of an adjustment. -/
def effects (a : Adjustment) (errorClass? : String → Option ErrorClass) : List Effect :=
  (a.method.map Effect.setMethod).toList ++ (a.path.map Effect.setPath).toList ++ a.stages.map move ++
    (a.raised.map fun r => Effect.fail (r.failure errorClass?)).toList ++
    (match a.answer.map fun r => r.make errorClass? with
      | some (.ok f) => [stop f]
      | some (.error f) => [.fail (.fault f)]
      | none => [])

/-- An adjustment as an initializer. -/
def initializer (a : Adjustment) (errorClass? : String → Option ErrorClass) : Initializer :=
  .custom fun _ => a.effects errorClass?

end Adjustment

/-! ## Factories -/

/-- How instances are made. -/
inductive Production (κ : Type) where
  /-- Of the class itself. -/
  | plain
  /-- Not at all. -/
  | failing (f : Failure)
  /-- Of other classes, for those that are listed. -/
  | substituting (others : Fields κ κ)

/-- A production as a factory. -/
def Production.factory {κ : Type} [BEq κ] : Production κ → κ → Except Failure κ
  | plain, c => .ok c
  | failing f, _ => .error f
  | substituting others, c => .ok ((others.get? c).getD c)

/-! ## Renderers -/

/-- What a scripted renderer fails at. -/
inductive Mishap where
  | never
  | always
  | onError
  | onSuccess
deriving DecidableEq, Repr

namespace Mishap

/-- Whether a subject is one that the renderer fails at. -/
def strikes : Mishap → Subject → Bool
  | never, _ => false
  | always, _ => true
  | onError, s => s.isError
  | onSuccess, s => !s.isError

/-- What the renderer fails with. -/
def failure : Failure :=
  .fault (.declare .runtime "template exploded")

/-- A renderer that shows the class of its subject, or fails. -/
def renderer (m : Mishap) : Renderer where
  render s _ := if m.strikes s then .error failure else .ok (Text.Utf8.ofString ("rendered " ++ s.className.name))
  mediaType _ _ := TwoStep.contentType

end Mishap

/-- What a scripted observer fails with. -/
def brokenObserver : Fault :=
  .declare .value "observer broke"

end HttpRouter.Script
