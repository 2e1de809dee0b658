import ResourceProvider.Dispatch.Plan
import ResourceProvider.Schema.Resolve
import ResourceProvider.Schema.Statement
/-!
# From documents to plans

Compiling a document resolves its schema and endpoints, registers the routes, binds the entries
that name paths, finds the hooks, and makes one plan for each endpoint. The first fault stops it.
-/
namespace ResourceProvider

open Route (Locator)

/-- Routes with one plan for each; the code of a route is the position of its plan. -/
structure Dispatch where
  name : String
  routes : Route.Table
  plans : List Plan

namespace Dispatch

/-- The plan that serves a locator. -/
def resolve (d : Dispatch) (l : Locator) : Except RouteError Plan :=
  match d.routes.find l with
  | .error e => .error e
  | .ok code =>
    match d.plans[code]? with
    | some plan => .ok plan
    | none => .error (.unknown l.raw)

/-! ## Routes -/

/-- Registers endpoints one after another. -/
def registerAll : Route.Table → List Endpoint → Except RouteError Route.Table
  | t, [] => .ok t
  | t, e :: rest =>
    match t.register e.name e.path e.pattern with
    | .error err => .error err
    | .ok (_, t) => registerAll t rest

/-! ## Entries bound to paths -/

/-- A hook or locator for one path, as a document lists it. -/
structure Entry where
  kind : OverrideKind
  path : String
  value : String
deriving DecidableEq

/-- The entries of a group: its overrides, then its notification locators. -/
def groupEntries (g : Document.Group) : List Entry :=
  (g.overrides.flatMap fun o => o.paths.map fun p => ⟨.slot o.slot, p, o.hook⟩) ++
  g.notificationUris.flatMap fun n => n.paths.map fun p => ⟨.notificationUri, p, n.uri⟩

/-- Every entry of a provider. -/
def entries (p : Document.Provider) : List Entry :=
  p.groups.flatMap groupEntries

/-- Brings the paths of entries into canonical form; each must be the path of an endpoint, and of
one kind there is one entry for a path. -/
def bindEntries (known : List String) : (bound : List Entry) → List Entry →
    Except RouteError (List Entry)
  | bound, [] => .ok bound
  | bound, e :: rest =>
    let path := Route.canonicalPath e.path
    if path ∉ known then .error (.unboundOverride e.kind e.path)
    else if bound.any fun b => b.kind = e.kind ∧ b.path = path then
      .error (.duplicateOverride e.kind path)
    else bindEntries known (bound ++ [{ e with path }]) rest

/-- What the entry of a kind for a path gives. -/
def boundValue? (bound : List Entry) (kind : OverrideKind) (path : String) : Option String :=
  (bound.find? fun b => b.kind = kind ∧ b.path = path).map Entry.value

/-! ## Defaults -/

/-- A notification hook for each mutation that has one. -/
abbrev Defaults := Mutation → Option NotifyHook

/-- Finds the hooks of defaults. -/
def resolveDefaults (hooks : Hooks) (d : Document.NotifyDefaults) :
    Except DocumentError Defaults := do
  let find (m : Mutation) := Hooks.named? .notify hooks.notifiers (d.hook? m)
  let insert ← find .insert
  let bulkInsert ← find .bulkInsert
  let update ← find .update
  let delete ← find .delete
  return fun
    | .insert => insert
    | .bulkInsert => bulkInsert
    | .update => update
    | .delete => delete

/-- What a group gives to its endpoints. -/
structure GroupPart where
  name : String
  defaults : Defaults
  aliases : List (String × String)

/-- The part of each group. -/
def groupParts (hooks : Hooks) : List Document.Group → Except DocumentError (List GroupPart)
  | [] => .ok []
  | g :: rest => do
    let defaults ← resolveDefaults hooks g.notifyDefaults
    let parts ← groupParts hooks rest
    return ⟨g.name, defaults, g.mapColumns⟩ :: parts

/-- The part of the last group of a name. -/
def partOf? (parts : List GroupPart) (name : String) : Option GroupPart :=
  parts.reverse.find? fun p => p.name = name

/-! ## Plans -/

/-- Everything that the plans of one provider share. -/
structure Context where
  schema : Schema
  hooks : Hooks
  bound : List Entry
  groups : List GroupPart
  defaults : Defaults

/-- Fills the notification slot of one mutation: by path, by the group, or by the provider. -/
def notifySlot (c : Context) (e : Endpoint) (m : Mutation) :
    Except DocumentError (Assigned NotifyHook) :=
  match boundValue? c.bound (.slot (.notify m)) e.path with
  | some name => (Hooks.named .notify c.hooks.notifiers name).map .byPath
  | none =>
    match ((partOf? c.groups e.group).bind fun g => g.defaults m).or (c.defaults m) with
    | some hook => .ok (.byDefault hook)
    | none => .ok .none

/-- The plan of one endpoint. -/
def plan (c : Context) (code : Nat) (e : Endpoint) : Except DocumentError Plan := do
  let insert ← notifySlot c e .insert
  let bulkInsert ← notifySlot c e .bulkInsert
  let update ← notifySlot c e .update
  let delete ← notifySlot c e .delete
  let name (s : Slot) := boundValue? c.bound (.slot s) e.path
  let filterHook ← Hooks.named? .whereFragments c.hooks.filters (name .whereFragments)
  let joinHook ← Hooks.named? .joins c.hooks.joins (name .joins)
  let insertUriHook ← Hooks.named? .insertUri c.hooks.insertUris (name .insertUri)
  match c.schema.table? e.table with
  | none => throw (.schema (.missingTable e.table))
  | some table =>
    return {
      code, table, filterHook, joinHook, insertUriHook
      endpoint := e
      aliases := ((partOf? c.groups e.group).map GroupPart.aliases).getD []
      notify := fun
        | .insert => insert
        | .bulkInsert => bulkInsert
        | .update => update
        | .delete => delete
      notificationUri := boundValue? c.bound .notificationUri e.path }

/-- The plans of endpoints, which are counted from `code`. -/
def planAll (c : Context) : (code : Nat) → List Endpoint → Except DocumentError (List Plan)
  | _, [] => .ok []
  | code, e :: rest => do
    let p ← plan c code e
    let ps ← planAll c (code + 1) rest
    return p :: ps

/-- Compiles a provider for a schema. -/
def compile (p : Document.Provider) (schema : Schema) (hooks : Hooks) :
    Except DocumentError Dispatch := do
  let endpoints ← Endpoint.ofProvider p schema
  let routes ← (registerAll .empty endpoints).mapError .route
  let bound ← (bindEntries (endpoints.map Endpoint.path) [] (entries p)).mapError .route
  let defaults ← resolveDefaults hooks p.notifyDefaults
  let groups ← groupParts hooks p.groups
  let plans ← planAll ⟨schema, hooks, bound, groups, defaults⟩ 0 endpoints
  return ⟨p.name, routes, plans⟩

end Dispatch

/-- A compiled document. -/
structure Compiled where
  script : Schema.Script
  dispatch : Dispatch

/-- Compiles a whole document. -/
def Document.compile (d : Document) (hooks : Hooks) : Except DocumentError Compiled := do
  let schema ← (Schema.ofDatabase d.database).mapError .schema
  let dispatch ← Dispatch.compile d.provider schema hooks
  return ⟨Schema.script schema, dispatch⟩

end ResourceProvider
