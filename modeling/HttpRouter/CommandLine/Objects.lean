import HttpRouter.Dispatch.Dispatcher

/-!
# Objects

What the program finds out about the objects that an application is made of. An application is named by a module and an
attribute, `module:attribute`, and the attribute may lead through others by dots. What it leads to is a dispatcher, or
something that a dispatcher is made for: a table of routes, or anything else that yields resources when it is gone through.

The objects are not the program's own: when it reads an attribute, asks what an object is, or goes through one, the code
of the application may run, and may raise any fault.
-/

namespace HttpRouter.CommandLine

/-! ## Names -/

/-- The fault of a name that does not have both parts. -/
def malformedName (name : String) : Fault :=
  .declare .value ("Expected 'module:attribute', got " ++ Text.Quoted.text name)

/-- Splits the name of an application into module and attributes. -/
def splitName (name : String) : Except Fault (String × List String) :=
  match Text.cut ':' name.toList with
  | (module, some path) =>
    if module.isEmpty ∨ path.isEmpty then .error (malformedName name)
    else .ok (String.ofList module, (Text.splitOn '.' path).map String.ofList)
  | (_, none) => .error (malformedName name)

/-- The fault of a module that is not there, for a reason. -/
def missingModule (reason : String) : Fault :=
  .incidental .missingModule reason

/-- The fault of a module with a relative name: there is nothing that it could be relative to. -/
def relativeModule (name : String) : Fault :=
  .incidental .type ("the 'package' argument is required to perform a relative import for " ++ Text.Quoted.text name)

/-! ## What objects are -/

/-- What an object yields: items, which are known by numbers as classes are, and the fault that breaks it off, if one
does. Where there is no end to them, the items up to the first one without a route are enough. -/
structure Yield where
  items : List ClassId
  fault : Option Fault

/-- What an object is to the program. -/
inductive Role where
  | dispatcher (d : Dispatcher ClassId)
  | table (t : RouteTable ClassId)
  /-- Anything else, and what comes of starting to go through it. -/
  | other (start : Except Fault Yield)

/-- Objects, as far as the program looks at them. -/
structure Objects (ω : Type) where
  /-- The module of a name, or why there is none. -/
  find : String → Except String ω
  /-- Reads an attribute. -/
  member : ω → String → Except Fault ω
  /-- Asks what an object is. -/
  role : ω → Except Fault Role
  /-- The path and the base of an item, or the fault of reading them, of putting them together, or of a template that is
  nested too deeply for the machine. Whether its parentheses balance is not asked here. -/
  entry : ClassId → Except Fault (Letters × Letters)
  /-- The name of an item in a list of routes. -/
  name : ClassId → Except Fault String

namespace Objects

variable {ω : Type} (o : Objects ω)

/-! ## Finding objects -/

/-- Imports a module. A name that starts with a dot is relative. -/
def importModule (name : String) : Except Fault ω :=
  if name.toList.head? = some '.' then .error (relativeModule name)
  else (o.find name).mapError missingModule

/-- Follows attributes. -/
def follow (t : ω) : List String → Except Fault ω
  | [] => .ok t
  | name :: rest => do follow (← o.member t name) rest

/-- Finds what the name of an application leads to. -/
def load (name : String) : Except Fault ω := do
  let (module, path) ← splitName name
  o.follow (← o.importModule module) path

/-! ## Making dispatchers -/

/-- Adds a route to an item at the end of a table. -/
def addItem (t : RouteTable ClassId) (item : ClassId) : Except Fault (RouteTable ClassId) := do
  let (path, base) ← o.entry item
  (·.1) <$> t.add item path base

/-- The table of what an object yields. A route is added for each item before the next one is asked for. -/
def tableOf (y : Yield) : Except Fault (RouteTable ClassId) := do
  let t ← y.items.foldlM o.addItem .empty
  match y.fault with
  | some f => throw f
  | none => return t

/-- A dispatcher with nothing else than its configuration and its routes. -/
def plainDispatcher (config : Config) (routes : Except Fault (RouteTable ClassId)) :
    Except Fault (Dispatcher ClassId) :=
  Dispatcher.make config routes none default Dispatcher.plainFactory .log []

/-- The dispatcher of an object: itself, or one that is made with a configuration. -/
def toDispatcher (config : Config) (t : ω) : Except Fault (Dispatcher ClassId) := do
  match ← o.role t with
  | .dispatcher d => return d
  | .table t => plainDispatcher config (.ok t)
  | .other start => plainDispatcher config (start >>= o.tableOf)

/-- The dispatcher that the name of an application leads to. -/
def loadDispatcher (config : Config) (name : String) : Except Fault (Dispatcher ClassId) := do
  o.toDispatcher config (← o.load name)

/-- The lines that list a table, for which every item has to have a name. -/
def listing (t : RouteTable ClassId) : Except Fault Letters := do
  t.routes.forM fun r => discard (o.name r.resource)
  return t.describe fun item => (o.name item).toOption.getD ""

end Objects

end HttpRouter.CommandLine
