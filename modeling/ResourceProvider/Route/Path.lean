import ResourceProvider.Text.Blank
/-!
# Paths and locators

A path is its non-empty segments. The canonical form of a configured path joins them with single
slashes; a locator keeps the text it came as, next to its segments.
-/
namespace ResourceProvider.Route

/-- The non-empty parts of a path between its slashes. -/
def segments (path : String) : List String :=
  ((Text.split '/' path.toList).filter fun part => part ≠ []).map String.ofList

/-- The form of a configured path by which paths are compared. -/
def canonicalPath (path : String) : String :=
  Text.join "/" (segments (Text.trim path))

/-- An incoming resource locator. -/
structure Locator where
  raw : String
deriving DecidableEq, Repr

/-- The segments of a locator. -/
def Locator.segments (l : Locator) : List String :=
  Route.segments l.raw

end ResourceProvider.Route
