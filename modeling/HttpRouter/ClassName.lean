/-!
# Class names

Resources and errors come in classes, each with a parent. A class is known by its own name, by its qualified name, which
shows where it was defined, and by its module. Views are found by these names.
-/

namespace HttpRouter

/-- The names of a class. -/
structure ClassName where
  name : String
  qualified : String
  module : String
deriving DecidableEq, Repr, Inhabited

/-- The names of a class that is defined at the top of its module. -/
def ClassName.plain (name module : String) : ClassName :=
  ⟨name, name, module⟩

end HttpRouter
