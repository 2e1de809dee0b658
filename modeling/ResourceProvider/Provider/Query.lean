import ResourceProvider.Dispatch.Compile
import ResourceProvider.Session
/-!
# Queries

A locator leads to a plan, which may not allow the operation. A query answers with the records it
selects and with the locator whose signals make them out of date.
-/
namespace ResourceProvider

open Route (Locator)

/-- What a caller asks for. -/
structure Lookup where
  projection : List String
  condition : Option String
  args : List String
  sort : Option String

/-- The records that were asked for. -/
structure Found where
  records : List Record
  /-- A signal at this locator says that the records may have changed. -/
  watch : String

namespace Dispatch

/-- The plan that serves an operation at a locator. -/
def planFor (d : Dispatch) (op : Operation) (l : Locator) : Except ProviderError Plan :=
  match d.resolve l with
  | .error e => .error (.route e)
  | .ok p => if p.endpoint.allows op then .ok p else .error (.notAllowed op p.endpoint.path)

/-- The type of what a locator stands for. -/
def typeOf (d : Dispatch) (l : Locator) : Except ProviderError String :=
  match d.resolve l with
  | .error e => .error (.route e)
  | .ok p => .ok p.endpoint.type

end Dispatch

namespace Plan

/-- How the rows of a query are grouped, sorted and cut. -/
def shape (p : Plan) (sort : Option String) : Sql.Selection.Shape :=
  ⟨p.endpoint.groupBy, p.endpoint.having, p.effectiveSort sort, p.endpoint.limit⟩

/-- The locator that a query at `l` reports to watch. -/
def watched (p : Plan) (l : Locator) : String :=
  p.notificationUri.getD l.raw

end Plan

/-- A statement, unless it could not be composed. -/
def Action.composed {α : Type} (r : Except CompositionError α) : Action α :=
  ofExcept (r.mapError .composition)

namespace Dispatch

/-- Looks up records. -/
def query (d : Dispatch) (l : Locator) (q : Lookup) : Action Found := do
  let p ← Action.ofExcept (d.planFor .query l)
  let selection ← Action.ofExcept (p.selection .query l q.condition q.args)
  Action.reach
  let statement ← Action.composed (selection.query q.projection (p.shape q.sort))
  let outcome ← Action.issue statement
  return ⟨outcome.rows.map Sql.recordOfRow, p.watched l⟩

end Dispatch

end ResourceProvider
