import ResourceProvider.Terms
/-!
# The metadata document

What a document says, before anything is checked: the tables of a database, and the groups of
endpoints that a provider serves from them.
-/
namespace ResourceProvider.Document

/-- A reference from one column to a column of another table. -/
structure Reference where
  table : String
  column : String
  onDelete : ForeignKeyAction
  onUpdate : ForeignKeyAction
deriving DecidableEq

/-- A column; a flag that is set carries a conflict policy. -/
structure Column where
  name : String
  type : DataType
  notNull : Option ConflictPolicy
  primaryKey : Option ConflictPolicy
  unique : Option ConflictPolicy
  autoIncrement : Bool
  default : Option String
  check : Option String
  references : Option Reference
deriving DecidableEq

/-- A primary key or unique constraint of a table. -/
structure Key where
  name : Option String
  columns : List String
  onConflict : ConflictPolicy
deriving DecidableEq

/-- A check constraint of a table. -/
structure Check where
  name : Option String
  expression : String
deriving DecidableEq

/-- A foreign key constraint of a table. -/
structure ForeignKey where
  name : Option String
  columns : List String
  table : String
  referenced : List String
  onDelete : ForeignKeyAction
  onUpdate : ForeignKeyAction
deriving DecidableEq

/-- A table. -/
structure Table where
  name : String
  ifNotExists : Bool
  columns : List Column
  primaryKey : Option Key
  unique : List Key
  checks : List Check
  foreignKeys : List ForeignKey
deriving DecidableEq

/-- A database; `execOnCreate` runs once, after all tables were created. -/
structure Database where
  name : String
  version : Nat
  tables : List Table
  execOnCreate : List String
deriving DecidableEq

/-- Binds the path segment at an index to a column. -/
structure Binding where
  segment : Nat
  column : String
deriving DecidableEq

/-- An endpoint: a path pattern with a table and the defaults of its queries. -/
structure Endpoint where
  name : String
  path : String
  type : String
  table : Option String
  filters : List String
  join : Option String
  defaultSort : Option String
  groupBy : Option String
  having : Option String
  limit : Option String
  operations : List Operation
  bindings : List Binding
deriving DecidableEq

/-- Fills one slot of the endpoints at the given paths with a named hook. -/
structure Override where
  slot : Slot
  paths : List String
  hook : String
deriving DecidableEq

/-- The locator that queries at the given paths report. -/
structure NotificationUri where
  paths : List String
  uri : String
deriving DecidableEq

/-- The hooks for endpoints that have none of their own. -/
structure NotifyDefaults where
  insert : Option String
  bulkInsert : Option String
  update : Option String
  delete : Option String
deriving DecidableEq

/-- No defaults at all. -/
def NotifyDefaults.empty : NotifyDefaults :=
  ⟨none, none, none, none⟩

/-- The default hook of one mutation. -/
def NotifyDefaults.hook? (d : NotifyDefaults) : Mutation → Option String
  | .insert => d.insert
  | .bulkInsert => d.bulkInsert
  | .update => d.update
  | .delete => d.delete

/-- Endpoints that share a table and projection aliases. -/
structure Group where
  name : String
  table : String
  /-- From a requested column to the expression that stands for it, by ascending column. -/
  mapColumns : List (String × String)
  endpoints : List Endpoint
  overrides : List Override
  notificationUris : List NotificationUri
  notifyDefaults : NotifyDefaults
deriving DecidableEq

/-- A provider; its defaults come after those of the groups. -/
structure Provider where
  name : String
  groups : List Group
  notifyDefaults : NotifyDefaults
deriving DecidableEq

end ResourceProvider.Document

namespace ResourceProvider

/-- A whole metadata document. -/
structure Document where
  database : Document.Database
  provider : Document.Provider
deriving DecidableEq

end ResourceProvider
