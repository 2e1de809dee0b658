import ResourceProvider.Engine.Expr
import ResourceProvider.Terms
/-!
# Statements

What a statement says, with names as they are written.
-/
namespace ResourceProvider.Engine

/-- An expression of written names. -/
abbrev Written := Expr ColumnName

/-! ## Tables -/

/-- The target of a foreign key, with what happens when it goes away or changes. -/
structure Target where
  table : String
  columns : List String
  onDelete : ForeignKeyAction
  onUpdate : ForeignKeyAction
  /-- A row may refer to nothing until its transaction is committed. -/
  deferred : Bool

/-- A constraint of one column. -/
inductive ColumnRule where
  | nullable
  | notNull (policy : ConflictPolicy)
  | default (value : Written)
  | primaryKey (descending : Bool) (policy : ConflictPolicy) (autoIncrement : Bool)
  | unique (policy : ConflictPolicy)
  | check (label : String) (condition : Written)
  | references (target : Target)
  /-- Says of the foreign key before it whether it is deferred. -/
  | deferral (deferred : Bool)

/-- A column as it is declared. -/
structure ColumnSpec where
  name : String
  type : String
  rules : List ColumnRule

/-- A constraint of a table. -/
inductive TableRule where
  | primaryKey (columns : List String) (policy : ConflictPolicy)
  | unique (columns : List String) (policy : ConflictPolicy)
  | check (label : String) (condition : Written)
  | foreignKey (columns : List String) (target : Target)

/-- A table as it is declared. -/
structure TableSpec where
  name : String
  ifNotExists : Bool
  columns : List ColumnSpec
  rules : List TableRule

/-! ## Queries -/

/-- What a query gives for each row. -/
inductive Item where
  | all
  | allOf (table : String)
  /-- `source` is the text of the expression, which names it if no alias does. -/
  | expr (value : Written) (alias? : Option String) (source : String)

/-- A table that is joined to the tables before it; `outer` keeps their rows in any case. -/
structure Join where
  table : String
  alias? : Option String
  outer : Bool
  condition : Option Written

/-- A term by which rows are sorted. -/
structure SortTerm where
  value : Written
  descending : Bool
  nullsLast : Bool

/-- A query. -/
structure Query where
  items : List Item
  joins : List Join
  condition : Option Written
  groupBy : List Written
  having : Option Written
  orderBy : List SortTerm
  limit : Option Written
  offset : Option Written

/-! ## Statements -/

/-- A statement. -/
inductive Statement where
  | createTable (spec : TableSpec)
  | addColumn (table : String) (spec : ColumnSpec)
  | dropTable (ifExists : Bool) (table : String)
  | createTrigger (ifNotExists : Bool) (name table : String)
  | dropTrigger (ifExists : Bool) (name : String)
  /-- No rows stand for one row of defaults. -/
  | insert (policy : ConflictPolicy) (table : String) (columns : Option (List String))
      (rows : Option (List (List Written)))
  | update (policy : ConflictPolicy) (table : String) (changes : List (String × Written))
      (condition : Option Written)
  | delete (table : String) (condition : Option Written)
  | select (query : Query)
  | pragma (name : String) (value : Option String)

/-- The statement adds, changes or removes rows. -/
def Statement.changesRows : Statement → Bool
  | .insert .. => true
  | .update .. => true
  | .delete .. => true
  | _ => false

end ResourceProvider.Engine
