import ResourceProvider.Dispatch.Endpoint
import ResourceProvider.Dispatch.Hooks
import ResourceProvider.Sql.Selection
/-!
# Plans

A plan is an endpoint with everything its requests need: its table, the aliases of its group, and
the hook of each slot. `selection` composes what a request selects by.
-/
namespace ResourceProvider

open Route (Locator)
open Sql (Selection)

/-- How the slot of a hook is filled. -/
inductive Assigned (α : Type) where
  | none
  | byPath (hook : α)
  | byDefault (hook : α)

/-- The hook in the slot. -/
def Assigned.hook? {α : Type} : Assigned α → Option α
  | .none => Option.none
  | .byPath h => some h
  | .byDefault h => some h

/-- How requests at one endpoint are served. -/
structure Plan where
  code : Nat
  endpoint : Endpoint
  table : Table
  aliases : List (String × String)
  filterHook : Option SelectionHook
  joinHook : Option SelectionHook
  insertUriHook : Option InsertUriHook
  notify : Mutation → Assigned NotifyHook
  notificationUri : Option String

namespace Plan

/-! ## Selections -/

/-- The table with the joins of the endpoint and of its hook. -/
def joinedTable (p : Plan) (op : Operation) (l : Locator) : String :=
  let joins := p.endpoint.join.toList ++ match p.joinHook with
    | some hook => hook op l
    | none => []
  Text.join " " (p.endpoint.table :: joins)

/-- Adds a condition for each bound segment of the locator. -/
def bindSegments (l : Locator) : List Document.Binding → Selection → Except ProviderError Selection
  | [], s => .ok s
  | b :: rest, s =>
    match l.segments[b.segment]? with
    | none => .error (.route (.unknown l.raw))
    | some value =>
      match s.filter (b.column ++ "=?") [value] with
      | .error e => .error (.composition e)
      | .ok s => bindSegments l rest s

/-- Selects by the aliases of the group, the bound segments, the filters of the endpoint, the
caller's condition and the filter hook, in this order. Only queries join other tables. -/
def selection (p : Plan) (op : Operation) (l : Locator) (condition : Option String)
    (args : List String) : Except ProviderError Selection :=
  let composed : Except CompositionError Selection → Except ProviderError Selection :=
    Except.mapError .composition
  let aliased := p.aliases.foldl (fun s a => s.withAlias a.1 a.2) Selection.empty
  do
    let s ← if p.endpoint.isPattern then bindSegments l p.endpoint.bindings aliased
      else .ok aliased
    let s ← composed (s.filterAll p.endpoint.filters)
    let s ← composed (s.filter (condition.getD "") args)
    let s ← composed (s.filterAll ((p.filterHook.map fun hook => hook op l).getD []))
    return s.fromTable (if op = .query then p.joinedTable op l else p.endpoint.table)

/-- The sort a caller asks for, or else the endpoint's. -/
def effectiveSort (p : Plan) (requested : Option String) : Option String :=
  (requested.filter fun s => !Text.isBlank s).or p.endpoint.defaultSort

/-! ## Records and notices -/

/-- Refuses a record that does not fit the table. -/
def checkRecord (p : Plan) (r : Record) : Except ProviderError Unit :=
  match Record.misfit? p.table r with
  | some e => .error (.badRequest e.message)
  | none => .ok ()

/-- The locators at which a change is signalled. -/
def targets (p : Plan) (n : Notice) : List String :=
  match (p.notify n.mutation).hook? with
  | some hook => hook n
  | none => [n.locator.raw]

end Plan

end ResourceProvider
