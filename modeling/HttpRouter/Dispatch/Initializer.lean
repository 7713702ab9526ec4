import HttpRouter.Dispatch.Exchange
import HttpRouter.Method

/-!
# Initializers

Initializers look at an exchange before routing. They let it pass, change its method or its path, or end it with an HTTP
error. Two of them belong to every dispatcher unless its configuration says otherwise: one redirects paths that end in a
slash, the other lets a query parameter stand in for the method.
-/

namespace HttpRouter

/-- What a custom initializer does, step by step. -/
inductive Effect where
  | setMethod (method : String)
  | setPath (path : Letters)
  | advance (stage : Stage)
  /-- Ends the exchange with an error. -/
  | stop (e : HttpError)
  /-- Fails. -/
  | fail (f : Failure)

/-- A policy that is applied before routing. -/
inductive Initializer where
  | noTrailingSlash
  | methodOverride (param : String) (allowed : List String)
  | allowedMethods (allowed : List String)
  | custom (effects : Exchange → List Effect)

/-- What an initializer made of an exchange: the exchange afterwards, what was logged, and the error that ends it, if
any, unless the initializer failed. -/
structure Initialized where
  exchange : Exchange
  records : List LogRecord
  result : Except Failure (Option HttpError)

namespace Initializer

/-- The name of an initializer. -/
def name : Initializer → String
  | noTrailingSlash => "NoTrailingSlash"
  | methodOverride _ _ => "MethodOverride"
  | allowedMethods _ => "AllowedRequestMethods"
  | custom _ => "custom"

/-- An override by a parameter, for methods that are named in any case. -/
def override (param : String) (allowed : List String) : Initializer :=
  .methodOverride param (sortedSet (allowed.map Text.upperString))

/-- A refusal of all other methods, these being named in any case. -/
def onlyMethods (allowed : List String) : Initializer :=
  .allowedMethods (sortedSet (allowed.map Text.upperString))

/-- Lets an exchange pass. -/
def pass (x : Exchange) : Initialized :=
  ⟨x, [], .ok none⟩

/-- The path without slashes at its end, except for one that is all of it. -/
def withoutTrailingSlash (path : Letters) : Letters :=
  let kept := Text.dropEndWhile (· == .char '/') path
  if kept.isEmpty then "/" else kept

/-- Redirects a path longer than `/` that ends in `/`, keeping the query. -/
def applyNoTrailingSlash (x : Exchange) : Initialized :=
  if x.path.length ≤ 1 ∨ x.path.getLast? ≠ some (.char '/') then pass x
  else
    let short := withoutTrailingSlash x.path
    let location := if x.query.isEmpty then short else short ++ "?" ++ x.query
    let record := LogRecord.initializer (x.marked ("trailing slash: " ++ x.path ++ " -> " ++ location))
    ⟨x, [record], .ok (some (.redirect .movedPermanently location ""))⟩

/-- The method that a query parameter names, in capitals; none if it is not a text of characters. -/
def namedMethod (param : String) (r : Request) : String :=
  String.ofList (Text.upper ((Text.plain? ((r.queryValue? param).getD [])).getD []))

/-- Takes the method from a query parameter, if that is an allowed one. -/
def applyOverride (param : String) (allowed : List String) (x : Exchange) : Initialized :=
  let method := namedMethod param x.request
  if allowed.contains method ∧ !method.isEmpty then
    let record := LogRecord.initializer (x.marked ("method override: " ++ x.method ++ " -> " ++ method))
    ⟨{ x with method }, [record], .ok none⟩
  else pass x

/-- Carries out the steps of a custom initializer. -/
def applyEffects (x : Exchange) (records : List LogRecord) : List Effect → Initialized
  | [] => ⟨x, records, .ok none⟩
  | .setMethod method :: rest => applyEffects { x with method } records rest
  | .setPath path :: rest => applyEffects { x with path } records rest
  | .advance stage :: rest =>
    match x.advance stage with
    | .ok (x, record) => applyEffects x (records ++ [record]) rest
    | .error f => ⟨x, records, .error (.fault f)⟩
  | .stop e :: _ => ⟨x, records, .ok (some e)⟩
  | .fail f :: _ => ⟨x, records, .error f⟩

/-- Applies an initializer. -/
def apply (i : Initializer) (x : Exchange) : Initialized :=
  match i with
  | noTrailingSlash => applyNoTrailingSlash x
  | methodOverride param allowed => applyOverride param allowed x
  | allowedMethods allowed =>
    if allowed.contains x.method then pass x
    else ⟨x, [], .ok (some (.notAllowed .methodNotAllowed allowed ""))⟩
  | custom effects => applyEffects x [] (effects x)

end Initializer

end HttpRouter
