import HttpRouter.Json.Writer
import HttpRouter.Response
import HttpRouter.View.Page
import HttpRouter.View.Resolver

/-!
# Renderers

A renderer turns a subject and its data into the body of a response. The text renderer writes data as it is, collections
as JSON, and an error as its status line. The two-step renderer shows the data in the view of the subject, and the
result in the nearest layout.
-/

namespace HttpRouter

/-- Makes bodies, and says what their media type is. -/
structure Renderer where
  render : Subject → Payload → Except Failure (List UInt8)
  mediaType : Subject → Payload → String

/-! ## Text -/

namespace TextRenderer

/-- The media type of text. -/
def contentType : String := "text/plain; charset=utf-8"

/-- Whether data is written as JSON. -/
def isCollection : Value → Bool
  | .mapping _ | .proxy _ _ _ | .list _ | .tuple _ => true
  | _ => false

/-- The line that stands for an error. -/
def errorLine (e : HttpError) : Letters :=
  toString e.code ++ " " ++ e.reason

/-- Writes data. -/
def renderData (v : Value) : Except Fault (List UInt8) :=
  match v with
  | .null => .ok []
  | .bytes octets => .ok octets
  | v =>
    if isCollection v then (Json.write v).map Text.Utf8.encode
    else Text.encoded v.shown

/-- Writes a subject with its data. -/
def render (s : Subject) (p : Payload) : Except Fault (List UInt8) :=
  match s, p with
  | .error e _, _ => Text.encoded (errorLine e)
  | .resource _, .data v => renderData v
  | s, .itself => renderData (.mapping [(.text "error", .text s.shown)])

/-- The media type of what is written. -/
def mediaType (s : Subject) (p : Payload) : String :=
  match s, p with
  | .error _ _, _ => contentType
  | .resource _, .data v => if isCollection v then "application/json" else contentType
  | .resource _, .itself => "application/json"

end TextRenderer

/-- The renderer that needs no views. -/
def Renderer.text : Renderer where
  render s p := (TextRenderer.render s p).mapError .fault
  mediaType := TextRenderer.mediaType

/-! ## Views -/

/-- The files of a directory of views, by their paths, and the engine that prints them. -/
structure Views where
  files : Fields String String
  engine : Engine

instance : Inhabited Views := ⟨⟨[], Page.engine⟩⟩

namespace Views

/-- A path without empty parts; none if it leads upwards. -/
def normalize? (path : List Char) : Option String :=
  let parts := Text.splitOn '/' path
  if parts.contains ['.', '.'] then none
  else some (String.ofList (Text.joinWith ['/'] (parts.filter fun p => !p.isEmpty && p != ['.'])))

/-- A directory with files written to it one after the other. -/
def ofFiles (files : List (String × String)) : Views :=
  ⟨Fields.ofPairs (files.filterMap fun (name, text) => (normalize? name.toList).map (·, text)), Page.engine⟩

/-- The text of a file. -/
def file? (v : Views) (path : List Char) : Option String :=
  (normalize? path).bind fun path => v.files.get? path

/-- The file of a name, by its path and its text. A name that has no encoding is not that of a file. -/
def named? (v : Views) (name : Letters) : Option (List Char × String) :=
  (Text.plain? name).bind fun path => (v.file? path).map (path, ·)

/-- The first of some files that exists. -/
def first? (v : Views) (names : List Letters) : Option (List Char × String) :=
  names.findSome? v.named?

/-- The page of a file. -/
def page (v : Views) (path : List Char) (text : String) (context : ViewContext) : Except Fault Letters :=
  Page.all <$> v.engine.print v.files path text context

end Views

namespace TwoStep

/-- The media type of pages. -/
def contentType : String := "text/html; charset=utf-8"

/-- A text key of a mapping that a view can name, with its value. -/
def nameable? : Value × Value → Option (String × Item)
  | (.text name, v) => (Text.plain? name).map fun name => (String.ofList name, .value v)
  | _ => none

/-- The names that data brings along. -/
def dataContext (s : Subject) : Payload → ViewContext
  | .data v =>
    match v.entries? with
    | some entries => entries.filterMap nameable?
    | none => [("data", .value v)]
  | .itself => [("error", .subject s)]

/-- The names that the views of a subject can use. -/
def context (s : Subject) (p : Payload) : ViewContext :=
  let key := if s.isError then "error" else "resource"
  ((dataContext s p).setDefault key (.subject s)).set "subject" (.subject s)

/-- Renders the first of some files that exists. -/
def renderFirst (v : Views) (names : List Letters) (context : ViewContext) : Except Fault (Option Letters) :=
  match v.first? names with
  | none => .ok none
  | some (path, text) => some <$> v.page path text context

/-- Renders a subject: its content first, then the layout around it. -/
def render (v : Views) (r : Resolver) (s : Subject) (p : Payload) : Except Fault Letters := do
  let context := context s p
  let content := (← renderFirst v (r.contentCandidates s) context).getD []
  let wrapped ← renderFirst v (r.layoutCandidates s) (context.set "content" (.markup content))
  return wrapped.getD content

end TwoStep

/-- The renderer of a directory of views. -/
def Renderer.twoStep (v : Views) (r : Resolver) : Renderer where
  render s p := (TwoStep.render v r s p >>= Text.encoded).mapError .fault
  mediaType _ _ := TwoStep.contentType

namespace Config

/-- How the views of a configuration are named. -/
def resolver (c : Config) : Resolver :=
  { extension := c.viewExtension, layout := c.layout, package := c.viewsPackage }

/-- Whether a configuration has views. -/
def hasViews (c : Config) : Bool :=
  c.viewsDir.any (!·.isEmpty)

/-- The renderer of a configuration: the views in its directory, or text. -/
def renderer (c : Config) (views : Views) : Renderer :=
  if c.hasViews then .twoStep views c.resolver else .text

end Config

end HttpRouter
