import HttpRouter.ClassName
import HttpRouter.Text.Blank
import HttpRouter.Text.Case
import HttpRouter.Text.Letter

/-!
# View paths

A class is rendered by a view whose path follows from its name: `Admin.FooBar` has the view `admin/foo_bar`. The modules
below a given package are directories too, and what a class is defined inside of is left out if that is a function.
-/

namespace HttpRouter.ViewPath

open Text (splitOn joinWith lower)

/-! ## Names of classes -/

/-- Whether a character is a lower-case ASCII letter or a digit. -/
def isLowerOrDigit (c : Char) : Bool :=
  ('a' ≤ c ∧ c ≤ 'z') ∨ ('0' ≤ c ∧ c ≤ '9')

/-- Whether a character is an upper-case ASCII letter. -/
def isUpper (c : Char) : Bool :=
  'A' ≤ c ∧ c ≤ 'Z'

/-- Whether a character is a lower-case ASCII letter. -/
def isLower (c : Char) : Bool :=
  'a' ≤ c ∧ c ≤ 'z'

/-- Whether a word ends between two characters: before a capital that follows a small letter or a digit, and before the
last of several capitals if a small letter follows it. -/
def endsWord (a b : Char) (rest : List Char) : Bool :=
  isUpper b && (isLowerOrDigit a || (isUpper a && rest.head?.any isLower))

/-- Puts a low line between the words of a name. -/
def separated : List Char → List Char
  | a :: b :: rest => if endsWord a b rest then a :: '_' :: separated (b :: rest) else a :: separated (b :: rest)
  | s => s

/-- A name in small letters, with low lines between its words. -/
def snakeCase (s : List Char) : List Char :=
  lower (separated s)

/-- What stands in a qualified name for the inside of a function. -/
def localMark : List Char :=
  "<locals>".toList

/-- The parts of a qualified name behind the last function in it. -/
def visibleParts (parts : List (List Char)) : List (List Char) :=
  (parts.reverse.takeWhile (· != localMark)).reverse

/-- The modules below a package that lead to a module. -/
def moduleParts (package : Option String) (module : String) : List (List Char) :=
  match package with
  | none => []
  | some package =>
    let start := package.toList ++ ['.']
    if !package.isEmpty ∧ start.isPrefixOf module.toList then splitOn '.' (module.toList.drop start.length) else []

/-- The path of the view of a class. -/
def ofClass (package : Option String) (c : ClassName) : List Char :=
  let parts := moduleParts package c.module ++ visibleParts (splitOn '.' c.qualified.toList)
  joinWith ['/'] (parts.map snakeCase)

/-! ## Directories -/

/-- The directory of a path: what precedes its last slash, without slashes at the end unless there is nothing else. -/
def directory (path : Letters) : Letters :=
  let head := (path.reverse.dropWhile (· != .char '/')).reverse
  if head.all (· == .char '/') then head else Text.dropEndWhile (· == .char '/') head

theorem directory_nil : directory [] = [] := rfl

/-- A file of a directory; a file that starts with a slash is not in it. -/
def file (dir name : Letters) : Letters :=
  if name.head? = some (.char '/') ∨ dir.isEmpty then name
  else if dir.getLast? = some (.char '/') then dir ++ name
  else dir ++ .char '/' :: name

/-- A directory and those above it, up to the one at the root, which has no name; at most `fuel` of them. -/
def upwards : Nat → Letters → List Letters
  | 0, dir => [dir]
  | fuel + 1, dir => if dir.isEmpty then [dir] else dir :: upwards fuel (directory dir)

/-- The directory of a path and those above it. -/
def directories (path : Letters) : List Letters :=
  upwards path.length (directory path)

end HttpRouter.ViewPath
