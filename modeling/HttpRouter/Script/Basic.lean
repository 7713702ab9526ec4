import HttpRouter.Script.Expr
import HttpRouter.Script.Raised

/-!
# Scripts

A script says step by step what an action of a resource does: it sets attributes of the instance, raises something, or
ends with a value. A script that runs to its end gives null.
-/

namespace HttpRouter

/-- A script. -/
inductive Script where
  | done
  /-- Sets an attribute of the instance. -/
  | set (name : String) (value : Script.Expr) (rest : Script)
  /-- Ends with a value. -/
  | result (value : Script.Expr)
  /-- Raises something. -/
  | raise (r : Script.Raised)
  /-- Runs the body if two values are equal. -/
  | ifSame (a b : Script.Expr) (body rest : Script)
deriving Inhabited

namespace Script

/-- Runs a script; none if it came to its end. -/
def exec : Script → Eval (Option Value)
  | done => return none
  | set name value rest => do
    let v ← value.eval
    modify (·.set name v)
    rest.exec
  | result value => some <$> value.eval
  | raise r => do throw (r.failure (← read).directory.errorClass?)
  | ifSame a b body rest => do
    let v ← a.eval
    if v.same (← b.eval) then
      match ← body.exec with
      | some v => return some v
      | none => rest.exec
    else rest.exec

/-- A script as an action. -/
def action (s : Script) : Action := fun call attributes =>
  match s.exec call attributes with
  | (.ok v, attributes) => (.ok (v.getD .null), attributes)
  | (.error f, attributes) => (.error f, attributes)

end Script

end HttpRouter
