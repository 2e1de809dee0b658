import ResourceProvider.Error
import ResourceProvider.Schema.Basic
import ResourceProvider.Text.Blank
/-!
# Statements that create tables

A table is created by one statement: its columns, each with clauses in a fixed order, then the
constraints of the table. Clauses are data first and text last.
-/
namespace ResourceProvider.Schema

open Document (Column Key Check ForeignKey Reference)

/-! ## Clauses -/

/-- A clause of a column definition. -/
inductive Clause where
  | notNull (policy : ConflictPolicy)
  | default (text : String)
  | primaryKey (policy : ConflictPolicy)
  | unique (policy : ConflictPolicy)
  | check (expression : String)
  | autoIncrement
  | references (target : Reference)
deriving DecidableEq

/-- The clauses of a column; `isKey` says that it is the primary key of its table. -/
def columnClauses (c : Column) (isKey : Bool) : List Clause :=
  (c.notNull.map .notNull).toList ++
  (c.default.map .default).toList ++
  (if isKey then [.primaryKey (c.primaryKey.getD .none)] else []) ++
  (c.unique.map .unique).toList ++
  (c.check.map .check).toList ++
  (if c.autoIncrement then [.autoIncrement] else []) ++
  (c.references.map .references).toList

/-- A constraint of a table. -/
inductive Constraint where
  | primaryKey (key : Key)
  | check (check : Check)
  | unique (key : Key)
  | foreignKey (key : ForeignKey)
deriving DecidableEq

/-- The constraints of a table, in the order in which they are written. -/
def tableConstraints (t : Table) : List Constraint :=
  (match t.primaryKey with
    | .constraint k => [.primaryKey k]
    | _ => []) ++
  t.checks.map .check ++ t.unique.map .unique ++ t.foreignKeys.map .foreignKey

/-! ## Text -/

/-- The conflict clause of a policy. -/
def conflictText (p : ConflictPolicy) : String :=
  match p.keyword? with
  | some k => " ON CONFLICT " ++ k
  | none => ""

/-- The clauses of the two actions of a foreign key. -/
def actionsText (onDelete onUpdate : ForeignKeyAction) : String :=
  (match onDelete.keyword? with
    | some k => " ON DELETE " ++ k
    | none => "") ++
  match onUpdate.keyword? with
  | some k => " ON UPDATE " ++ k
  | none => ""

/-- The name of a constraint. -/
def constraintName : Option String → String
  | some n => "CONSTRAINT " ++ n ++ " "
  | none => ""

/-- A check of an expression. -/
def checkText (expression : String) : String :=
  "CHECK ( " ++ expression ++ " )"

/-- The text of a clause. -/
def Clause.text : Clause → String
  | .notNull p => "NOT NULL" ++ conflictText p
  | .default d => "DEFAULT " ++ d
  | .primaryKey p => "PRIMARY KEY" ++ conflictText p
  | .unique p => "UNIQUE" ++ conflictText p
  | .check e => checkText e
  | .autoIncrement => "AUTOINCREMENT"
  | .references r =>
    "REFERENCES " ++ r.table ++ "(" ++ r.column ++ ")" ++ actionsText r.onDelete r.onUpdate

/-- The definition of a column. -/
def columnText (c : Column) (isKey : Bool) : String :=
  Text.join " " (c.name :: c.type.name :: (columnClauses c isKey).map Clause.text)

/-- A list of columns in parentheses. -/
def columnList (names : List String) : String :=
  "(" ++ Text.join ", " names ++ ")"

/-- The text of a constraint. -/
def Constraint.text : Constraint → String
  | .primaryKey k =>
    constraintName k.name ++ "PRIMARY KEY " ++ columnList k.columns ++ conflictText k.onConflict
  | .check c => constraintName c.name ++ checkText c.expression
  | .unique k =>
    constraintName k.name ++ "UNIQUE " ++ columnList k.columns ++ conflictText k.onConflict
  | .foreignKey k =>
    constraintName k.name ++ "FOREIGN KEY " ++ columnList k.columns ++ " REFERENCES " ++ k.table ++
      " " ++ columnList k.referenced ++ actionsText k.onDelete k.onUpdate

/-- Everything between the parentheses of the statement. -/
def definitions (t : Table) : List String :=
  t.columns.mapIdx (fun i c => columnText c (t.primaryKey = .column i)) ++
    (tableConstraints t).map Constraint.text

/-- The statement that creates a table. -/
def createText (t : Table) : String :=
  "CREATE TABLE " ++ (if t.ifNotExists then "IF NOT EXISTS " else "") ++ t.name ++ " (" ++
    Text.join ", " (definitions t) ++ ")"

/-! ## Whole schemas -/

/-- What creates a database: a statement for each table, then statements that run once. -/
structure Script where
  name : String
  version : Nat
  statements : List (String × String)
  execOnCreate : List String
deriving DecidableEq

/-- The script of a schema. -/
def script (s : Schema) : Script :=
  ⟨s.name, s.version, s.tables.map fun t => (t.name, createText t), s.execOnCreate⟩

/-- The statement that creates a table of the script. -/
def Script.statement (s : Script) (table : String) : Except SchemaError String :=
  match s.statements.lookup table with
  | some text => .ok text
  | none => .error (.missingTable table)

end ResourceProvider.Schema
