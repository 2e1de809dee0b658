import ResourceProvider.Error
import ResourceProvider.Route.Pattern
/-!
# Route tables

Patterns in the order of their registration; the position of a pattern is its code. A path is
registered once, and a locator belongs to the first pattern that accepts it.
-/
namespace ResourceProvider.Route

/-- The routes registered so far: each canonical path with its pattern. -/
structure Table where
  routes : List (String × Pattern)
deriving DecidableEq, Repr

namespace Table

/-- No routes. -/
def empty : Table := ⟨[]⟩

/-- How many routes there are. -/
def size (t : Table) : Nat :=
  t.routes.length

/-- Adds a route under its path; gives its code with the new table. -/
def register (t : Table) (endpoint path : String) (pattern : Pattern) :
    Except RouteError (Nat × Table) :=
  let path := canonicalPath path
  if path = "" then .error (.emptyPath endpoint)
  else if path ∈ t.routes.map Prod.fst then .error (.duplicatePath path)
  else .ok (t.size, ⟨t.routes ++ [(path, pattern)]⟩)

/-- The code of the first route that accepts a locator. -/
def find (t : Table) (l : Locator) : Except RouteError Nat :=
  match t.routes.findIdx? fun r => r.2.accepts l.segments with
  | some code => .ok code
  | none => .error (.unknown l.raw)

end Table

end ResourceProvider.Route
