import ResourceProvider.Document.Basic
/-!
# The schema of a database

Tables as they are created. Each table declares its primary key in one place: at a column, in a
constraint, or not at all.
-/
namespace ResourceProvider

open Document (Column Key Check ForeignKey)

/-- Where a table declares its primary key. -/
inductive PrimaryKey where
  | none
  | column (index : Nat)
  | constraint (key : Key)
deriving DecidableEq

/-- A table. -/
structure Table where
  name : String
  ifNotExists : Bool
  columns : List Column
  primaryKey : PrimaryKey
  unique : List Key
  checks : List Check
  foreignKeys : List ForeignKey
deriving DecidableEq

/-- The column of a given name. -/
def Table.column? (t : Table) (name : String) : Option Column :=
  t.columns.find? fun c => c.name = name

/-- A schema; tables in the order in which they are declared. -/
structure Schema where
  name : String
  version : Nat
  tables : List Table
  execOnCreate : List String
deriving DecidableEq

/-- The table of a given name. -/
def Schema.table? (s : Schema) (name : String) : Option Table :=
  s.tables.find? fun t => t.name = name

end ResourceProvider
