import HttpRouter.Application
import HttpRouter.Dispatch.Run
import HttpRouter.Registration

/-!
# Sessions

What is done with one route table over time: resources are added and registered, the table is frozen, dispatchers are
made for it, paths are looked up, values are linked and requests are dispatched, while classes are defined and their
paths and bases are set. Every command is answered, with an error if it fails, and the next one goes on from what it
left behind.
-/

namespace HttpRouter

/-- What a dispatcher is made of besides its routes. -/
structure Wiring where
  config : Config
  renderer : Option Renderer
  views : Views
  factory : ClassId → Except Failure ClassId
  observer : Observer
  initializers : List Initializer

/-- A dispatcher for a table, if the configuration is valid. -/
def Wiring.dispatcher (w : Wiring) (t : RouteTable ClassId) : Except Fault (Dispatcher ClassId) :=
  Dispatcher.make w.config (.ok t) w.renderer w.views w.factory w.observer w.initializers

/-- A table, the application whose resources it routes to, and the dispatchers that it was handed to. -/
structure Session where
  app : Application
  table : RouteTable ClassId
  dispatchers : List (Dispatcher ClassId)

namespace Session

/-- What can be done in a session. -/
inductive Command where
  /-- Adds a resource, with its own path and base where no others are given. -/
  | add (id : ClassId) (path base : Option Letters)
  /-- Registers a resource under a path and a base, which are set for its class. -/
  | register (id : ClassId) (path base : Option Letters)
  /-- Sets the path and the base of a class. -/
  | assign (id : ClassId) (path base : Option Letters)
  /-- Defines a class. -/
  | define (spec : ClassSpec)
  | freeze
  /-- Makes a dispatcher for the table. -/
  | construct (w : Wiring)
  | lookup (path : Letters)
  | link (id : ClassId) (values : List Value)
  /-- Dispatches a request with the dispatcher of a number, if there is one. -/
  | dispatch (number : Nat) (s : Dispatcher.Surroundings) (request : Request)

/-- What a command is answered with. -/
inductive Answer where
  | done
  | registered (route : Route ClassId)
  | found (m : Option (RouteMatch ClassId))
  | linked (path : Letters)
  | responded (r : Response)

/-- A session before its first command. -/
def start (app : Application) (t : RouteTable ClassId) : Session :=
  ⟨app, t, []⟩

/-- Takes over the table and the route of a registration, if it went well. -/
def take (s : Session) : Except Fault (RouteTable ClassId × Route ClassId) → Session × Except Failure Answer
  | .ok (table, route) => ({ s with table }, .ok (.registered route))
  | .error f => (s, .error (.fault f))

/-- Carries out a command: the session afterwards, and the answer. -/
def step (s : Session) : Command → Session × Except Failure Answer
  | .add id path base => s.take (s.app.hierarchy.addTo s.table id path base)
  | .register id path base =>
    let (hierarchy, result) := s.app.hierarchy.register s.table id path base
    take { s with app.hierarchy := hierarchy } result
  | .assign id path base =>
    ({ s with app.hierarchy := (s.app.hierarchy.setText id "path" path).setText id "base" base }, .ok .done)
  | .define spec =>
    match s.app.define spec with
    | .ok app => ({ s with app }, .ok .done)
    | .error f => (s, .error (.fault f))
  | .freeze => ({ s with table := s.table.freeze }, .ok .done)
  | .construct w =>
    match w.dispatcher s.table with
    | .ok d => ({ s with table := d.routes, dispatchers := s.dispatchers ++ [d] }, .ok .done)
    | .error f => (s, .error (.fault f))
  | .lookup path => (s, .ok (.found (s.table.lookup path)))
  | .link id values => (s, ((s.table.link id (s.app.nameOf id) values).map .linked).mapError .fault)
  | .dispatch number surroundings request =>
    match s.dispatchers[number]? with
    | some d => (s, (d.dispatch s.app.world surroundings request).1.map .responded)
    | none => (s, .ok .done)

/-- The session after commands, whether they went well or not. -/
def after (s : Session) (commands : List Command) : Session :=
  commands.foldl (fun s c => (s.step c).1) s

/-- The route that an answer reports, if it is that of a registration. -/
def Answer.route? : Answer → Option (Route ClassId)
  | registered route => some route
  | _ => none

/-- The routes that commands register, in order. -/
def registered (s : Session) : List Command → List (Route ClassId)
  | [] => []
  | c :: commands =>
    let (next, answer) := s.step c
    (answer.toOption.bind Answer.route?).toList ++ next.registered commands

end Session

end HttpRouter
