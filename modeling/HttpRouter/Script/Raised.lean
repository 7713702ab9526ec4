import HttpRouter.HttpError
import HttpRouter.Resource.Basic

/-!
# What scripts raise

A script, or a part of an application that is given as data, raises a fault or an HTTP error. The class of an error is
named and looked up when the error is made; making it may itself be a fault.
-/

namespace HttpRouter.Script

/-- What is to be raised. -/
inductive Raised where
  | fault (kind : FaultKind) (text : Letters)
  | http (cls : String) (message reason location : Option Letters) (allowed : Option (List String))
    (cause : Option Raised)
deriving Inhabited

/-- The fault of a name that no class has. -/
def unknownClass (name : String) : Fault :=
  .incidental .key (Text.Quoted.text name)

namespace Raised

/-- Makes what is to be raised. -/
def make (errorClass? : String → Option ErrorClass) : Raised → Except Fault Failure
  | fault kind text => .ok (.fault (.declare kind text))
  | http name message reason location allowed cause =>
    match errorClass? name with
    | none => .error (unknownClass name)
    | some cls => do
      let cause ← match cause with
        | none => pure none
        | some cause => some <$> cause.make errorClass?
      return .http (← HttpError.make cls { message, reason, location, allowed, cause })

/-- What comes of raising it: what was to be raised, or the fault of making that. -/
def failure (errorClass? : String → Option ErrorClass) (r : Raised) : Failure :=
  match r.make errorClass? with
  | .ok f => f
  | .error f => .fault f

end Raised

end HttpRouter.Script
