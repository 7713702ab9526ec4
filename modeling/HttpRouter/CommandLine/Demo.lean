import HttpRouter.CommandLine.Catalogue

/-!
# A demonstration

A small application that the program can be tried with: a front page, and products with names, one of which has moved.
-/

namespace HttpRouter.CommandLine.Demo

/-- The front page. -/
def home : ClassSpec where
  name := .plain "Home" "demo"
  values := [("path", .text "/")]
  actions := [("get", .result (.value (.text "Hello!")))]

/-- A product by its name. -/
def product : ClassSpec where
  name := .plain "Product" "demo"
  values := [("path", .text "/products/:name(.:format)")]
  actions := [("get",
    .ifSame (.param "name" .null) (.value (.text "old"))
      (.raise (.http "MovedPermanently" none none (some "/products/new") none none))
      (.result (.mapping [(.value (.text "name"), .param "name" .null)])))]

/-- The application, and the catalogue that holds it as the module `demo`. -/
def load : Except Fault (Application × Catalogue) := do
  let app ← Application.base.defineAll [home, product]
  let ids := [← app.resourceId "Home" "path", ← app.resourceId "Product" "path"]
  return (app,
    { hierarchy := app.hierarchy, modules := [("demo", .group (← Target.standard app.hierarchy ids))] })

end HttpRouter.CommandLine.Demo
