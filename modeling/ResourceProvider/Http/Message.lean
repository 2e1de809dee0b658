import ResourceProvider.Json.Reader
import ResourceProvider.Provider.Mutation
import ResourceProvider.Text.Percent
/-!
# Requests and responses

A request names a path and a query. The fields of a query that matter may each be given once; two
of them hold lists, whose items are separated by commas.
-/
namespace ResourceProvider.Http

open Json (Value)

/-! ## Messages -/

/-- A request; the target is a path, which a query can follow. -/
structure Request where
  method : String
  target : String
  contentType : Option String
  body : String

/-- A response; without a value the body is empty, or none that programs read. -/
structure Response where
  status : Nat
  body : Option Value
deriving BEq

/-- A response without a body. -/
def Response.bare (status : Nat) : Response :=
  ⟨status, none⟩

/-- The target without a fragment. -/
def Request.address (r : Request) : List Char :=
  r.target.toList.takeWhile (· ≠ '#')

/-- The path of the target. -/
def Request.path (r : Request) : String :=
  String.ofList (r.address.takeWhile (· ≠ '?'))

/-- The query of the target, if there is one. -/
def Request.query (r : Request) : String :=
  String.ofList ((r.address.dropWhile (· ≠ '?')).drop 1)

/-! ## Queries -/

/-- The fields of a query that matter. -/
structure Params where
  projection : Option String
  condition : Option String
  args : Option String
  sort : Option String
deriving DecidableEq, Repr

/-- The names of the fields that matter. -/
def Params.names : List String :=
  ["projection", "selection", "args", "sort"]

/-- The fields of a query, unless one that matters is repeated. -/
def Params.ofQuery? (query : String) : Option Params :=
  let fields := Text.queryFields query
  if names.any fun n => 1 < fields.countP fun f => f.1 = n then none
  else
    some ⟨fields.lookup "projection", fields.lookup "selection", fields.lookup "args",
      fields.lookup "sort"⟩

/-- The items of a list, trimmed; blank ones are left out. -/
def listItems (s : String) : List String :=
  (Text.split ',' s.toList).filterMap fun part => Text.visible? (String.ofList part)

/-- The items of a list that may be missing. -/
def givenItems (s : Option String) : List String :=
  (s.map listItems).getD []

/-- A text that is not blank. -/
def visibleText (s : Option String) : Option String :=
  s.filter fun s => !Text.isBlank s

/-- The rows that a query selects for a change. -/
def Params.filter (p : Params) : Filter :=
  ⟨visibleText p.condition, givenItems p.args⟩

/-- What a query looks up. -/
def Params.lookup (p : Params) : Lookup :=
  ⟨givenItems p.projection, p.filter.condition, p.filter.args, visibleText p.sort⟩

/-- The locator of a path below the resources. -/
def locatorOf (tail : String) : Route.Locator :=
  ⟨"/" ++ String.ofList (tail.toList.dropWhile (· = '/'))⟩

end ResourceProvider.Http
