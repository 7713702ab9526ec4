import HttpRouter.CommandLine.Demo
import HttpRouter.CommandLine.Program
import HttpRouter.Dispatch.Run

/-!
# The command line

Lists the routes of an application, or serves it: requests come from standard input, one a line, as a method and a
target, and their responses go to standard output.
-/

namespace HttpRouter.Main

open CommandLine

/-- The environment variables that configure the program. -/
def variableNames : List String :=
  ["METHODS", "METHOD_OVERRIDE", "TRAILING_SLASH_REDIRECT", "LAST_MODIFIED_ATTRIBUTE", "VIEWS_DIR", "VIEWS_PACKAGE",
   "VIEW_EXTENSION", "LAYOUT", "LOG_LEVEL", "LOG_FORMAT"].map ("HTTPRESOURCE_" ++ ·)

/-- The environment variables that are set. -/
def environment : IO (List (String × String)) := do
  variableNames.filterMapM fun name => return (← IO.getEnv name).map (name, ·)

/-- A text as it is printed: a letter that is no character is written as an escape. -/
def printed (s : Letters) : String :=
  String.ofList (s.flatMap fun
    | .char c => [c]
    | l => '\\' :: 'u' :: Text.Quoted.hex 4 l.toNat)

/-- Writes records to the error output. -/
def log (records : List LogRecord) : IO Unit :=
  records.forM fun r => IO.eprintln ("[" ++ r.level.name ++ "] " ++ r.log ++ ": " ++ printed r.message)

/-- What is known about the request of a number. -/
def surroundings (number : Nat) : Dispatcher.Surroundings where
  requestId := String.ofList (Text.Quoted.hex 8 number)
  timestamp := "-"
  duration := 0.0

/-- The request of a line. -/
def requestOf (line : String) : Except Fault Request :=
  match Text.words line.toList with
  | [method, target] => Request.ofTarget (String.ofList method) (String.ofList target) [] []
  | _ => .error (.declare .value "Expected a method and a target")

/-- A response as text. -/
def responseText (r : Response) : String :=
  "\n".intercalate (printed r.statusText :: r.headers.map fun (name, value) => name ++ ": " ++ printed value) ++
    "\n\n" ++ String.ofList (Text.Utf8.decode r.body)

/-- Answers one line. -/
def answerLine (d : Dispatcher ClassId) (w : World ClassId) (threshold number : Nat) (line : String) : IO Unit := do
  match requestOf line with
  | .error f => IO.eprintln (printed f.text)
  | .ok request =>
    let (result, run) := d.dispatch w (surroundings number) request
    log (run.journal.records.filter fun r => threshold ≤ r.level.number)
    match result with
    | .ok response => IO.println (responseText response)
    | .error f => IO.eprintln (printed f.text)

/-- Answers lines until there are no more. -/
partial def serve (d : Dispatcher ClassId) (w : World ClassId) (threshold number : Nat) : IO Unit := do
  let line ← (← IO.getStdin).getLine
  if !line.isEmpty then
    answerLine d w threshold number line
    serve d w threshold (number + 1)

/-- Carries out what is to be done. -/
def carryOut (app : Application) (p : Plan) : IO UInt32 := do
  if let some complaint := p.task.complaint? then
    IO.eprintln (printed complaint)
  match p.task with
  | .report _ _ => pure ()
  | .list routes => IO.println (printed routes)
  | .serve _ _ d =>
    log (p.records.take 1)
    serve d app.world p.threshold 1
    log (p.records.drop 1)
  return p.task.exitCode.toUInt32

end HttpRouter.Main

open HttpRouter HttpRouter.Main HttpRouter.CommandLine in
/-- Runs the program. -/
def main (args : List String) : IO UInt32 := do
  match Demo.load with
  | .error f => IO.eprintln (printed f.text); return 1
  | .ok (app, catalogue) =>
    match program catalogue (← environment) args with
    | .ok (.ok p) => carryOut app p
    | .ok (.error f) => IO.eprintln (f.kind.name ++ ": " ++ printed f.text); return 1
    | .error stop =>
      if stop = .version then IO.println versionLine
      return stop.exitCode.toUInt32
