import HttpRouter.View.Engine

/-!
# An engine for outputs

Views that are literal text with outputs such as `{{ name }}` and `{{ error.cause.code }}`, and the engine that prints
them. An output shows what a name stands for, or an attribute of it. What is missing shows as nothing, but has no
attributes. In views with anything else between delimiters, that is literal text to this engine.
-/

namespace HttpRouter

namespace Item

/-- What an item is called when an attribute of it is missing. -/
def description : Item → String
  | value .null => "None"
  | value v => v.fullSortName ++ " object"
  | subject s => s.className.module ++ "." ++ s.className.name ++ " object"
  | failure (.http e) => (Subject.ofError e).className.module ++ "." ++ e.cls.name ++ " object"
  | failure (.fault f) => f.kind.name ++ " object"
  | request _ => "httpresource.http.request.HTTPRequest object"
  | status _ => "httpresource.http.status_codes.HTTPStatus object"
  | family _ => "httpresource.errors.Family object"
  | markup _ => "markupsafe.Markup object"

/-- What a subject has under a name without having set it: the request of an instance, and the status, the family and
the cause of an error. -/
def given? (name : String) : Subject → Option Item
  | .resource i => if name = "request" then i.request.map request else none
  | .error e _ =>
    if name = "status" then some (status e.status)
    else if name = "family" then some (family e.family)
    else if name = "cause" ∧ e.cls.form = .internal then some ((e.cause.map failure).getD (value .null))
    else none

/-- An attribute of a subject. -/
def ofSubject? (s : Subject) (name : String) : Option Item :=
  (((s.own.get? name).map value).or (given? name s)).or ((s.attribute? name).map value)

/-- An attribute of a request. -/
def ofRequest? (r : Request) : String → Option Item
  | "method" => some (value (.text r.method))
  | "path" => some (value (.text r.path))
  | "query_string" => some (value (.text r.query))
  | "headers" => some (value (.mapping (r.headers.map fun (name, v) => (.text name, .text v))))
  | "body" => some (value (.bytes r.body))
  | _ => none

/-- An attribute of a status. -/
def ofStatus? (s : Status) : String → Option Item
  | "value" => some (value (.int s.code))
  | "name" => some (value (.text s.name))
  | "phrase" => some (value (.text s.phrase))
  | "is_server_error" => some (value (.bool s.isServerError))
  | _ => none

/-- An attribute of a family. -/
def ofFamily? (f : Family) : String → Option Item
  | "value" => some (value (.text f.name))
  | "name" => some (value (.text f.constant))
  | _ => none

/-- An attribute of an item, or the value of a key. -/
def attribute? (name : String) : Item → Option Item
  | value v => (v.get? name).map value
  | subject s => ofSubject? s name
  | failure (.http e) => ofSubject? (.ofError e) name
  | failure (.fault f) => if name = "args" then some (value (.tuple [.text f.text])) else none
  | request r => ofRequest? r name
  | status s => ofStatus? s name
  | family f => ofFamily? f name
  | markup _ => none

end Item

/-- A part of a view: literal text, or the output of a name and attributes of it. -/
inductive Piece where
  | text (s : List Char)
  | output (name : String) (attributes : List String)
deriving DecidableEq, Repr

namespace Page

/-! ## Reading -/

/-- Line ends of any sort become line feeds. -/
def unifyLineEnds : List Char → List Char
  | '\r' :: '\n' :: s => '\n' :: unifyLineEnds s
  | '\r' :: s => '\n' :: unifyLineEnds s
  | c :: s => c :: unifyLineEnds s
  | [] => []

/-- The text of a file, without one line end at its end. -/
def content (file : List Char) : List Char :=
  let s := unifyLineEnds file
  if s.getLast? = some '\n' then s.dropLast else s

/-- The text before the first of two equal characters in a row, and the text after them. -/
def cutPair (mark : Char) : List Char → Option (List Char × List Char)
  | c :: d :: s =>
    if c = mark ∧ d = mark then some ([], s)
    else (cutPair mark (d :: s)).map fun (before, after) => (c :: before, after)
  | _ => none

/-- Whether a text is a name. -/
def isName (s : List Char) : Bool :=
  !s.isEmpty && s.all fun c => c == '_' || !Text.inRanges [(0, 0x2f), (0x3a, 0x40), (0x5b, 0x60), (0x7b, 0x7f)] c.toNat

/-- The output that stands between braces. -/
def output? (s : List Char) : Option Piece :=
  let names := (Text.splitOn '.' (Text.trim s)).map Text.trim
  if names.all isName then
    match names.map String.ofList with
    | name :: attributes => some (.output name attributes)
    | [] => none
  else none

/-- Reads a view of at most `fuel` outputs. -/
def piecesFrom : Nat → List Char → List Piece
  | 0, s => [.text s]
  | fuel + 1, s =>
    match cutPair '\x7b' s with
    | none => [.text s]
    | some (before, inner) =>
      match cutPair '\x7d' inner with
      | none => [.text s]
      | some (inner, after) =>
        match output? inner with
        | some piece => .text before :: piece :: piecesFrom fuel after
        | none => .text (before ++ ['\x7b', '\x7b'] ++ inner ++ ['\x7d', '\x7d']) :: piecesFrom fuel after

/-- Reads the text of a file as a view. -/
def pieces (file : List Char) : List Piece :=
  let s := content file
  piecesFrom s.length s

/-! ## Showing -/

/-- What a name stands for, or what is to be said about its absence. -/
inductive Found where
  | item (i : Item)
  | missing (text : String)

/-- What a name stands for. -/
def find (context : ViewContext) (name : String) : Found :=
  match context.get? name with
  | some i => .item i
  | none => .missing (Text.Quoted.text name ++ " is undefined")

/-- An attribute of what was found. -/
def Found.attribute (name : String) : Found → Except Fault Found
  | item i =>
    match i.attribute? name with
    | some i => .ok (item i)
    | none => .ok (missing (Text.Quoted.text i.description ++ " has no attribute " ++ Text.Quoted.text name))
  | missing text => .error (.incidental .undefined text)

/-- How an output is written. -/
def expression (name : String) (attributes : List String) : String :=
  ".".intercalate (name :: attributes)

/-- Prints a part of a view. What is missing is not printed. -/
def printPiece (escaped : Bool) (context : ViewContext) : Piece → Except Fault (Option Part)
  | .text s => .ok (some (.text (Text.ofChars s)))
  | .output name attributes => do
    match ← attributes.foldlM (fun found name => found.attribute name) (find context name) with
    | .item i => return some (.output (expression name attributes) escaped i (i.shownIn escaped))
    | .missing _ => return none

/-- Prints the parts of a view. -/
def printPieces (escaped : Bool) (context : ViewContext) (pieces : List Piece) : Except Fault (List Part) := do
  return (← pieces.mapM (printPiece escaped context)).filterMap id

/-- The engine for views that are literal text with outputs. -/
def engine : Engine where
  print _ path text context := printPieces (isEscaped path) context (pieces text.toList)

end Page

end HttpRouter
