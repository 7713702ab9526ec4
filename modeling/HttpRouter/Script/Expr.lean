import HttpRouter.Resource.Basic

/-!
# Expressions

The data that scripted handlers compute with: values put together from the parameters and the request, from attributes
of the instance, and from links to other resources. Evaluating an expression may fail, and running the inherited action
for `HEAD` inside one may change the instance.
-/

namespace HttpRouter.Script

/-- An expression. -/
inductive Expr where
  | value (v : Value)
  | list (items : List Expr)
  | mapping (entries : List (Expr × Expr))
  /-- A captured parameter, or another value instead of it. -/
  | param (name : String) (default : Value)
  | params
  /-- The first value of a name of the query, or another value instead of it. -/
  | query (name : String) (default : Value)
  | header (name : String)
  | method
  /-- The body of the request as JSON. -/
  | json
  | link (cls : String) (values : List Expr)
  /-- The texts of values, one after the other. -/
  | concat (parts : List Expr)
  /-- An attribute of the instance. -/
  | field (name : String)
  /-- What the inherited action for `HEAD` answers. -/
  | head
deriving Inhabited

/-- What an evaluation does: it looks at the call, may change the attributes of the instance, and may fail. -/
abbrev Eval := ReaderT Call (ExceptT Failure (StateM Attributes))

namespace Eval

/-- The evaluation that fails with a fault. -/
def fault {α : Type} (f : Fault) : Eval α :=
  throw (.fault f)

/-- The fault of a value that has no attribute of a name. -/
def noAttribute {α : Type} (sort name : String) : Eval α :=
  fault (.incidental .attribute ("'" ++ sort ++ "' object has no attribute '" ++ name ++ "'"))

/-- The request, of which something that goes by `name` is wanted. -/
def request (name : String) : Eval Request := do
  match (← get).get? "request", (← read).request with
  | some v, _ => noAttribute v.sortName name
  | none, some r => return r
  | none, none => noAttribute "NoneType" name

/-- The entries of the parameters, of which something that goes by `name` is wanted. -/
def params (name : String) : Eval (List (Value × Value)) := do
  match (← get).get? "params" with
  | some (.mapping entries) => return entries
  | some v => noAttribute v.sortName name
  | none => noAttribute (← read).className "params"

/-- An attribute of the instance, or of its class. -/
def field (name : String) : Eval Value := do
  let call ← read
  match (← get).get? name with
  | some v => return v
  | none =>
    if name = "request" then return Instance.requestValue call.request
    else match call.inherited name with
      | some v => return v
      | none => noAttribute call.className name

/-- The body of the request as JSON; one that cannot be read is a mistake of the client. -/
def json : Eval Value := do
  match (← request "json").json with
  | .ok v => return v
  | .error f => if f.kind.isValue then throw (.http (.plain .badRequest "malformed JSON" "")) else fault f

/-- What the inherited action for `HEAD` answers. -/
def head : Eval Value := fun call attributes =>
  call.head attributes

end Eval

namespace Expr

mutual

/-- Evaluates an expression. -/
def eval : Expr → Eval Value
  | value v => return v
  | list items => return .list (← evalItems items)
  | mapping entries => return .mapping (Fields.ofPairs (← evalEntries entries))
  | param name default => return (Fields.get? (.text name) (← Eval.params "get")).getD default
  | params => return .mapping (← Eval.params "keys")
  | query name default => return ((← Eval.request "get_query").queryValue? name).elim default .text
  | header name => return ((← Eval.request "header").header? name).elim .null fun value => .text (Text.ofString value)
  | method => return .text (← Eval.request "method").method
  | json => Eval.json
  | link cls values => do
    match (← read).directory.link cls (← evalItems values) with
    | .ok path => return .text path
    | .error f => Eval.fault f
  | concat parts => return .text ((← evalItems parts).flatMap (·.shown))
  | field name => Eval.field name
  | head => Eval.head

/-- Evaluates expressions from left to right. -/
def evalItems : List Expr → Eval (List Value)
  | [] => return []
  | item :: rest => return (← eval item) :: (← evalItems rest)

/-- Evaluates the entries of a mapping in order, the key of each before its value. -/
def evalEntries : List (Expr × Expr) → Eval (List (Value × Value))
  | [] => return []
  | (k, v) :: rest => return (← eval k, ← eval v) :: (← evalEntries rest)

end

end Expr

end HttpRouter.Script
