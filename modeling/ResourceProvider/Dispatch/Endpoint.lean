import ResourceProvider.Document.Basic
import ResourceProvider.Route.Table
import ResourceProvider.Schema.Basic
/-!
# Endpoints

An endpoint as it is served: its path in canonical form with the pattern it stands for, the table
it reads and writes, and the texts that shape its queries, blank ones left out.
-/
namespace ResourceProvider

open Document (Binding)

/-- A served endpoint. -/
structure Endpoint where
  name : String
  group : String
  path : String
  pattern : Route.Pattern
  type : String
  table : String
  operations : List Operation
  filters : List String
  join : Option String
  defaultSort : Option String
  groupBy : Option String
  having : Option String
  limit : Option String
  bindings : List Binding
deriving DecidableEq

namespace Endpoint

/-- The path stands for more than one locator. -/
def isPattern (e : Endpoint) : Bool :=
  e.pattern.any Route.Segment.isWildcard

/-- Callers may do `op` at the endpoint. -/
def allows (e : Endpoint) (op : Operation) : Bool :=
  op ∈ e.operations

/-! ## Resolution -/

/-- What is wrong with a binding to a segment of a pattern. -/
def bindingFault (path : String) (pattern : Route.Pattern) (b : Binding) : Option RouteError :=
  let segment := "segment " ++ toString b.segment
  match pattern[b.segment]? with
  | none =>
    some (.invalidBinding path
      (segment ++ " out of range (" ++ toString pattern.length ++ " segments)"))
  | some s =>
    if !s.isWildcard then some (.invalidBinding path (segment ++ " is not a wildcard"))
    else if Text.isBlank b.column then
      some (.invalidBinding path (segment ++ " bound to an empty column"))
    else none

/-- The table that an endpoint names, or else the one of its group. -/
def effectiveTable (g : Document.Group) (e : Document.Endpoint) : String :=
  (e.table.bind Text.visible?).getD g.table

/-- What keeps an endpoint of a group from being served. -/
def fault (g : Document.Group) (s : Schema) (e : Document.Endpoint) : Option DocumentError :=
  let path := Route.canonicalPath e.path
  let table := effectiveTable g e
  if path = "" then some (.route (.emptyPath (g.name ++ "." ++ e.name)))
  else if Text.isBlank e.type then
    some (.validation ("endpoint " ++ inQuotes path ++ " has no type"))
  else if (s.table? table).isNone then some (.schema (.missingTable table))
  else (e.bindings.findSome? (bindingFault path (.ofPath path))).map .route

/-- The endpoint as it is served. -/
def ofDocument (g : Document.Group) (e : Document.Endpoint) : Endpoint where
  name := e.name
  group := g.name
  path := Route.canonicalPath e.path
  pattern := .ofPath (Route.canonicalPath e.path)
  type := e.type
  table := effectiveTable g e
  operations := e.operations
  filters := e.filters.filterMap Text.visible?
  join := e.join.bind Text.visible?
  defaultSort := e.defaultSort.bind Text.visible?
  groupBy := e.groupBy.bind Text.visible?
  having := e.having.bind Text.visible?
  limit := e.limit.bind Text.visible?
  bindings := e.bindings.map fun b => { b with column := Text.trim b.column }

/-- Every endpoint of a provider with its group, in the order of the document. -/
def declared (p : Document.Provider) : List (Document.Group × Document.Endpoint) :=
  p.groups.flatMap fun g => g.endpoints.map fun e => (g, e)

/-- The endpoints of a provider, or what keeps the first unfit one from being served. -/
def ofProvider (p : Document.Provider) (s : Schema) : Except DocumentError (List Endpoint) :=
  match (declared p).findSome? fun d => fault d.1 s d.2 with
  | some e => .error e
  | none => .ok ((declared p).map fun d => ofDocument d.1 d.2)

end Endpoint

end ResourceProvider
