import HttpRouter.CommandLine.Arguments
import HttpRouter.CommandLine.Catalogue

/-!
# The program

The program lists the routes of an application or serves it. Its configuration comes from the environment, and the
arguments may set the threshold of the logs. An application that cannot be loaded is reported; a configuration that is
not valid is a fault.
-/

namespace HttpRouter.CommandLine

/-- What the program is to do after its arguments were read. -/
inductive Task where
  /-- Report that the application cannot be loaded. -/
  | report (app : String) (f : Fault)
  /-- List the routes. -/
  | list (routes : Letters)
  /-- Serve the application. -/
  | serve (host : String) (port : Int) (d : Dispatcher ClassId)

/-- A task, and the threshold of the logs. -/
structure Plan where
  threshold : Nat
  task : Task

/-- The version of the program. -/
def version : String := "1.0.0"

/-- The line that tells the version. -/
def versionLine : String := "httpresource " ++ version

/-- Whether a fault means that an application cannot be loaded. -/
def isLoadFault (f : Fault) : Bool :=
  f.kind.isValue || f.kind == .missingModule || f.kind == .attribute

namespace Objects

variable {ω : Type} (o : Objects ω)

/-- What is to be done with an application. -/
def taskOf (config : Config) (s : Settings) (app : String) : Except Fault Task :=
  match o.loadDispatcher config app with
  | .ok d => if s.routes then .list <$> o.listing d.routes else .ok (.serve s.host s.port d)
  | .error f => if isLoadFault f then .ok (.report app f) else .error f

/-- What is to be done with arguments that make sense. -/
def plan (env : Fields String String) (s : Settings) : Except Fault Plan := do
  let base := Config.ofEnvironment env
  let config := { base with logLevel := s.logLevel.getD base.logLevel }
  config.validate
  return ⟨config.threshold, ← o.taskOf config s (s.app.getD "")⟩

/-- The program: how it ends at once, or what is to be done. -/
def program (env : Fields String String) (args : List String) : Except Stop (Except Fault Plan) := do
  return o.plan env (← Settings.ofArguments args)

end Objects

/-- The program for the objects of a catalogue. -/
def program (c : Catalogue) (env : Fields String String) (args : List String) : Except Stop (Except Fault Plan) :=
  c.objects.program env args

/-! ## Ends -/

/-- The code that the program exits with when it ends at once. -/
def Stop.exitCode : Stop → Nat
  | usage => 2
  | help | version => 0

/-- The code that the program exits with. -/
def Task.exitCode : Task → Nat
  | report _ _ => 1
  | list _ | serve _ _ _ => 0

/-- What the program says about an application that cannot be loaded. -/
def loadMessage (app : String) (reason : Letters) : Letters :=
  "Error: cannot load " ++ app ++ ": " ++ reason

/-- What is written to the error output. -/
def Task.complaint? : Task → Option Letters
  | report app f => some (loadMessage app f.text)
  | list _ | serve _ _ _ => none

/-- What is logged before and after serving. -/
def servingRecords (host : String) (port : Int) (routes : Nat) : List LogRecord :=
  [⟨"httpresource.__main__", .info, "Serving " ++ toString routes ++ " routes on http://" ++ host ++ ":" ++ toString port⟩,
   ⟨"httpresource.__main__", .info, "Shutting down"⟩]

/-- What is logged. -/
def Plan.records (p : Plan) : List LogRecord :=
  match p.task with
  | .serve host port d =>
    (servingRecords host port d.routes.routes.length).filter fun r => p.threshold ≤ r.level.number
  | _ => []

end HttpRouter.CommandLine
