import HttpRouter.Text.Blank
import HttpRouter.Text.Digit

/-!
# Arguments

The arguments of the command line: one application, and options in front of it or behind. An option may be shortened as
long as no other one starts alike; one with a single dash may be followed at once by its value or by further such
options. Behind `--` there are no more options.
-/

namespace HttpRouter.CommandLine

/-! ## Options -/

/-- The options. -/
inductive Switch where
  | help
  | host
  | port
  | routes
  | logLevel
  | version
deriving DecidableEq, Repr

/-- The spellings of the options. -/
def spellings : List (String × Switch) :=
  [("-h", .help), ("--help", .help), ("--host", .host), ("-H", .host), ("--port", .port), ("-p", .port),
   ("--routes", .routes), ("--log-level", .logLevel), ("-l", .logLevel), ("--version", .version), ("-v", .version)]

/-- Whether an option has a value. -/
def Switch.takesValue : Switch → Bool
  | host | port | logLevel => true
  | help | routes | version => false

/-- The levels that the threshold of the logs can be set to. -/
def levels : List String :=
  ["DEBUG", "INFO", "WARNING", "ERROR"]

/-- What the arguments ask for. -/
structure Settings where
  app : Option String := none
  host : String := "127.0.0.1"
  port : Int := 8080
  routes : Bool := false
  logLevel : Option String := none
deriving DecidableEq, Repr

/-- What ends the program at once. -/
inductive Stop where
  /-- The arguments make no sense. -/
  | usage
  | help
  | version
deriving DecidableEq, Repr

/-- Applies an option with its value. -/
def Settings.apply (s : Settings) (switch : Switch) (value : String) : Except Stop Settings :=
  match switch with
  | .help => .error .help
  | .version => .error .version
  | .routes => .ok { s with routes := true }
  | .host => .ok { s with host := value }
  | .port =>
    match Text.integer? value.toList with
    | some port => .ok { s with port }
    | none => .error .usage
  | .logLevel => if levels.contains value then .ok { s with logLevel := some value } else .error .usage

/-! ## Words -/

/-- What an argument is. An option may bring a text along: a value behind `=`, or what follows a single letter. -/
inductive Word where
  | operand (text : String)
  | separator
  | option (switch : Switch) (long : Bool) (text : Option (Bool × List Char))
  | unknown
deriving DecidableEq, Repr

/-- Whether a spelling has two dashes. -/
def isLong (spelling : List Char) : Bool :=
  ['-', '-'].isPrefixOf spelling

/-- Whether a text is a negative number, and so no option. -/
def isNegativeNumber (s : List Char) : Bool :=
  match s with
  | '-' :: s =>
    let s := if s.getLast? = some '\n' then s.dropLast else s
    let (whole, fraction) := Text.cut '.' s
    match fraction with
    | none => !whole.isEmpty && whole.all Text.isDigit
    | some fraction => !fraction.isEmpty && whole.all Text.isDigit && fraction.all Text.isDigit
  | _ => false

/-- The option of a spelling. -/
def ofSpelling? (s : List Char) : Option Switch :=
  spellings.lookup (String.ofList s)

/-- The options that an argument with two dashes may be short for. -/
def longMatches (s : List Char) : List Word :=
  let (name, text) := Text.cut '=' s
  (spellings.filter fun (spelling, _) => name.isPrefixOf spelling.toList).map fun (_, switch) =>
    .option switch true (text.map (true, ·))

/-- The options that an argument with one dash may be. -/
def shortMatches (s : List Char) : List Word :=
  spellings.filterMap fun (spelling, switch) =>
    if spelling.toList = s.take 2 then some (.option switch false (some (false, s.drop 2))) else none

/-- What an argument is that is not spelled like an option; one that may be several options is a mistake. -/
def inexactWord (s : List Char) : Except Stop Word :=
  match if isLong s then longMatches s else shortMatches s with
  | [w] => .ok w
  | [] =>
    if isNegativeNumber s ∨ s.contains ' ' then .ok (.operand (String.ofList s)) else .ok .unknown
  | _ => .error .usage

/-- What an argument is. -/
def word (arg : String) : Except Stop Word :=
  let s := arg.toList
  if s.head? ≠ some '-' then .ok (.operand arg)
  else match ofSpelling? s with
    | some switch => .ok (.option switch (isLong s) none)
    | none =>
      if s.length = 1 then .ok (.operand arg)
      else match Text.cut '=' s with
        | (name, some text) =>
          match ofSpelling? name with
          | some switch => .ok (.option switch (isLong name) (some (true, text)))
          | none => inexactWord s
        | (_, none) => inexactWord s

/-- What the arguments are. -/
def words : List String → Except Stop (List Word)
  | [] => .ok []
  | arg :: rest =>
    if arg = "--" then .ok (.separator :: rest.map .operand)
    else do
      let w ← word arg
      return w :: (← words rest)

/-! ## Reading -/

/-- What was read so far: the settings, and whether anything was left over. -/
structure Progress where
  settings : Settings := {}
  leftover : Bool := false
deriving DecidableEq, Repr

/-- The options that a text behind a single letter stands for, up to one that has a value. Of each the value is given if
it is part of the text; the flag says that the text does not end with an option. -/
def bundle (switch : Switch) (marked : Bool) : List Char → Except Stop (List (Switch × Option (List Char)) × Bool)
  | [] => if switch.takesValue then .ok ([(switch, some [])], false) else .error .usage
  | c :: rest =>
    if switch.takesValue then .ok ([(switch, some (c :: rest))], false)
    else if marked ∨ c = '-' then .error .usage
    else
      match ofSpelling? ['-', c] with
      | none => .ok ([(switch, none)], true)
      | some next =>
        match rest with
        | [] => .ok ([(switch, none), (next, none)], false)
        | '=' :: text => do
          let (more, left) ← bundle next true text
          return ((switch, none) :: more, left)
        | text => do
          let (more, left) ← bundle next false text
          return ((switch, none) :: more, left)

/-- The options of an argument. -/
def optionsOf (switch : Switch) (long : Bool) (text : Option (Bool × List Char)) :
    Except Stop (List (Switch × Option (List Char)) × Bool) :=
  match text with
  | none => .ok ([(switch, none)], false)
  | some (marked, text) =>
    if long then (if switch.takesValue then .ok ([(switch, some text)], false) else .error .usage)
    else bundle switch marked text

/-- The value of an option that has one, from the text of its argument or from the arguments that follow. -/
def valueOf (switch : Switch) (text : Option (List Char)) (rest : List Word) : Except Stop (String × List Word) :=
  match text, rest with
  | some text, _ => .ok (String.ofList text, rest)
  | none, .operand value :: rest => if switch.takesValue then .ok (value, rest) else .ok ("", .operand value :: rest)
  | none, _ => if switch.takesValue then .error .usage else .ok ("", rest)

/-- Applies the options of one argument. The values are found before any of them is applied. -/
def applyOptions (p : Progress) (options : List (Switch × Option (List Char))) (rest : List Word) :
    Except Stop (Progress × List Word) := do
  let values ← options.mapM fun (switch, text) => do
    let (value, rest) ← valueOf switch text rest
    return (switch, value, rest)
  let settings ← values.foldlM (fun (s : Settings) (switch, value, _) => s.apply switch value) p.settings
  return ({ p with settings }, (values.getLast?.map (·.2.2)).getD rest)

/-- Reads words, of which there are at most `fuel`. -/
def readFrom : Nat → Progress → List Word → Except Stop Progress
  | 0, p, _ => .ok p
  | _, p, [] => .ok p
  | fuel + 1, p, w :: rest =>
    match w, rest with
    | .option switch long text, rest => do
      let (options, left) ← optionsOf switch long text
      let (p, rest) ← applyOptions p options rest
      readFrom fuel { p with leftover := p.leftover || left } rest
    | .unknown, rest => readFrom fuel { p with leftover := true } rest
    | .operand app, rest =>
      if p.settings.app.isSome then readFrom fuel { p with leftover := true } rest
      else
        let rest := match rest with
          | .separator :: rest => rest
          | rest => rest
        readFrom fuel { p with settings := { p.settings with app := some app } } rest
    | .separator, .operand app :: rest =>
      if p.settings.app.isSome then readFrom fuel { p with leftover := true } rest
      else readFrom fuel { p with settings := { p.settings with app := some app } } rest
    | .separator, rest => readFrom fuel { p with leftover := true } rest

/-- Reads the arguments. An application is needed, and nothing may be left over. -/
def Settings.ofArguments (args : List String) : Except Stop Settings := do
  let ws ← words args
  let p ← readFrom ws.length {} ws
  if p.settings.app.isNone ∨ p.leftover then throw .usage
  return p.settings

end HttpRouter.CommandLine
