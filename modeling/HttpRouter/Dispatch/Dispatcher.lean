import HttpRouter.Dispatch.Initializer
import HttpRouter.Resource.Hierarchy
import HttpRouter.RouteTable
import HttpRouter.View.Renderer

/-!
# Dispatchers

A dispatcher answers requests with the resources of a route table, which it freezes. It knows how instances are made,
how bodies are rendered, who is told about faults, and which initializers run before routing.
-/

namespace HttpRouter

variable {κ : Type}

/-- Who is told about faults that nobody handled. -/
inductive Observer where
  /-- The log. -/
  | log
  /-- The application, which may itself fail. -/
  | custom (fails : Failure → Bool)

/-- The resources as they are now, and what their handlers can refer to by name. -/
structure World (κ : Type) where
  resource : κ → Resource
  directory : Directory

/-- A dispatcher. The factory says which class an instance is made of, or fails. -/
structure Dispatcher (κ : Type) where
  config : Config
  routes : RouteTable κ
  renderer : Renderer
  factory : κ → Except Failure κ
  observer : Observer
  initializers : List Initializer

namespace Config

/-- The initializers that a configuration asks for. -/
def initializers (c : Config) : List Initializer :=
  (if c.trailingSlashRedirect then [.noTrailingSlash] else []) ++
    (match c.overrideParam with
      | some param => if param.isEmpty then [] else [.override param c.allowedMethods]
      | none => [])

end Config

namespace Dispatcher

/-- The factory that makes instances of the class itself. -/
def plainFactory (c : κ) : Except Failure κ := .ok c

/-- A dispatcher, if its configuration is valid and its routes can be had. Without a renderer the configuration says how
to render. -/
def make (config : Config) (routes : Except Fault (RouteTable κ)) (renderer : Option Renderer) (views : Views)
    (factory : κ → Except Failure κ) (observer : Observer) (extra : List Initializer) :
    Except Fault (Dispatcher κ) := do
  config.validate
  let routes ← routes
  return {
    config
    routes := routes.freeze
    renderer := renderer.getD (config.renderer views)
    factory
    observer
    initializers := config.initializers ++ extra }

end Dispatcher

end HttpRouter
