import HttpRouter.Fault
import HttpRouter.Fields
import HttpRouter.Log
import HttpRouter.Method

/-!
# Configuration

What a dispatcher needs to know besides its routes: the methods it runs at all, what it does before routing, where
last-modified times are found, how views are looked up, and how it logs. A configuration comes from code or from
environment variables, and is checked before it is used.
-/

namespace HttpRouter

open Text (trim lower)

/-- The configuration of a dispatcher. -/
structure Config where
  /-- The methods that are run at all. -/
  allowedMethods : List String := defaultMethods
  /-- The query parameter that overrides the method of a request. -/
  overrideParam : Option String := some "_method"
  /-- Whether paths that end in a slash are redirected. -/
  trailingSlashRedirect : Bool := true
  /-- The attribute of a resource, or the key of its data, that holds the last-modified time. -/
  lastModifiedAttribute : String := "last_modified"
  /-- The directory of the views; without one, data is answered as text. -/
  viewsDir : Option String := none
  /-- The file name of layouts. -/
  layout : Option String := some "layout.html"
  /-- What is appended to the names of views. -/
  viewExtension : String := ".html"
  /-- The package whose modules are directories of views. -/
  viewsPackage : Option String := none
  /-- The threshold of the logs. -/
  logLevel : String := "INFO"
  /-- The format of access records. -/
  logFormat : String := "text"
  /-- The name in the `Server` header. -/
  serverName : String := "httpresource/1.0"
deriving DecidableEq, Repr, Inhabited

namespace Config

/-! ## Environment -/

/-- The words that switch something off. -/
def offWords : List String :=
  ["", "0", "false", "no", "off"]

/-- Whether a text switches something on. -/
def isOn (text : String) : Bool :=
  let word := String.ofList (lower (trim text.toList))
  !offWords.contains word

/-- A text, unless it is empty. -/
def nonempty (text : String) : Option String :=
  if text.isEmpty then none else some text

/-- The configuration that environment variables give. -/
def ofEnvironment (env : Fields String String) : Config :=
  let base : Config := {}
  let get? := fun name => env.get? ("HTTPRESOURCE_" ++ name)
  { base with
    allowedMethods := ((get? "METHODS").map methodsOf).getD base.allowedMethods
    overrideParam := ((get? "METHOD_OVERRIDE").map nonempty).getD base.overrideParam
    trailingSlashRedirect := ((get? "TRAILING_SLASH_REDIRECT").map isOn).getD base.trailingSlashRedirect
    lastModifiedAttribute := (get? "LAST_MODIFIED_ATTRIBUTE").getD base.lastModifiedAttribute
    viewsDir := (get? "VIEWS_DIR").bind nonempty
    layout := ((get? "LAYOUT").map nonempty).getD base.layout
    viewExtension := (get? "VIEW_EXTENSION").getD base.viewExtension
    viewsPackage := (get? "VIEWS_PACKAGE").bind nonempty
    logLevel := (get? "LOG_LEVEL").getD base.logLevel
    logFormat := (get? "LOG_FORMAT").getD base.logFormat }

/-! ## Validation -/

/-- What can be wrong with a configuration. -/
inductive ConfigError where
  | noMethods
  | unknownMethods (methods : List String)
  | noLastModifiedAttribute
  | logFormat (format : String)
  | logLevel (level : String)
deriving DecidableEq, Repr

/-- The text of a configuration error. -/
def ConfigError.message : ConfigError → String
  | noMethods => "allowed_methods must not be empty"
  | unknownMethods methods => "Unknown HTTP methods: " ++ ", ".intercalate methods
  | noLastModifiedAttribute => "last_modified_attribute must not be empty"
  | logFormat format => "Invalid log_format: " ++ Text.Quoted.text format ++ ". Must be 'text' or 'json'."
  | logLevel level => "Invalid log_level: " ++ Text.Quoted.text level

/-- The first thing that is wrong with a configuration. -/
def error? (c : Config) : Option ConfigError :=
  let unknown := c.allowedMethods.filter fun m => !knownMethods.contains m
  if c.allowedMethods.isEmpty then some .noMethods
  else if !unknown.isEmpty then some (.unknownMethods unknown)
  else if c.lastModifiedAttribute.isEmpty then some .noLastModifiedAttribute
  else if c.logFormat ≠ "text" ∧ c.logFormat ≠ "json" then some (.logFormat c.logFormat)
  else if (thresholds.lookup (Text.upperString c.logLevel)).isNone then some (.logLevel c.logLevel)
  else none

/-- Checks a configuration. -/
def validate (c : Config) : Except Fault Unit :=
  match c.error? with
  | some e => .error (.declare .value e.message)
  | none => .ok ()

/-- The threshold that the logs are set to; a name without one counts as `INFO`. -/
def threshold (c : Config) : Nat :=
  (thresholds.lookup (Text.upperString c.logLevel)).getD 20

end Config

end HttpRouter
