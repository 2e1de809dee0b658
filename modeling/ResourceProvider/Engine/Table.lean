import ResourceProvider.Engine.Statement
import ResourceProvider.Error
/-!
# Tables and databases

A database is its tables with their rows, and the settings of its one connection. Each row has a
number of its own, its rowid, by which a table keeps its rows in order; a column can be declared
to hold that number. Triggers are known by their names, and what they do is left out.
-/
namespace ResourceProvider.Engine

/-! ## Tables -/

/-- A column. -/
structure Column where
  name : String
  affinity : Affinity
  notNull : Option ConflictPolicy
  /-- The value of a row that gives none. -/
  default : Option Cell

/-- Columns that no two rows may have in common. -/
structure Key where
  columns : List Nat
  policy : ConflictPolicy
  primary : Bool

/-- The column that holds the rowid. -/
structure RowidKey where
  column : Nat
  policy : ConflictPolicy
  /-- Numbers of rows that are gone are not used again. -/
  autoIncrement : Bool

/-- A condition that each row meets, unless it is unknown. -/
structure Check where
  label : String
  condition : Expr Place

/-- Columns that name a row of another table. -/
structure ForeignKey where
  columns : List Nat
  target : Target

/-- A row. -/
structure Row where
  rowid : Int
  cells : List Cell
deriving DecidableEq

/-- A table; keys stand in the order in which they are checked. -/
structure Table where
  name : String
  columns : List Column
  rowidKey : Option RowidKey
  keys : List Key
  checks : List Check
  foreignKeys : List ForeignKey
  rows : List Row
  /-- The highest rowid that was ever used, where numbers are not used again. -/
  sequence : Int

namespace Table

/-- The place of a column. -/
def columnIndex? (t : Table) (name : String) : Option Nat :=
  t.columns.findIdx? fun c => sameName c.name name

/-- The affinity of the column at a place. -/
def affinityAt (t : Table) (i : Nat) : Affinity :=
  ((t.columns[i]?).map Column.affinity).getD .blob

/-- The name of the column at a place. -/
def nameAt (t : Table) (i : Nat) : String :=
  ((t.columns[i]?).map Column.name).getD ""

/-- A column with its table, as messages name it. -/
def qualified (t : Table) (i : Nat) : String :=
  t.name ++ "." ++ t.nameAt i

/-- The cells at given places. -/
def cellsAt (cells : List Cell) (places : List Nat) : List Cell :=
  places.map fun i => (cells[i]?).getD .null

/-- The row with a number. -/
def row? (t : Table) (rowid : Int) : Option Row :=
  t.rows.find? fun r => r.rowid = rowid

/-- Rows with `r` among them, in order of their numbers, in place of a row of its number. -/
def insertRow (r : Row) : List Row → List Row
  | [] => [r]
  | s :: rest =>
    if r.rowid < s.rowid then r :: s :: rest
    else if r.rowid = s.rowid then r :: rest
    else s :: insertRow r rest

/-- The table with a row in it. -/
def put (t : Table) (r : Row) : Table :=
  { t with rows := insertRow r t.rows }

/-- The table without the row of a number. -/
def remove (t : Table) (rowid : Int) : Table :=
  { t with rows := t.rows.filter fun r => r.rowid ≠ rowid }

/-- Cells as the columns of the table store them. -/
def convert (t : Table) (cells : List Cell) : List Cell :=
  cells.mapIdx fun i c => (t.affinityAt i).apply c

end Table

/-! ## Databases -/

/-- A trigger, which would run statements of its own when rows of its table change. -/
structure Trigger where
  name : String
  table : String

/-- A database with its connection, whose other settings are as they were when it was opened. -/
structure Database where
  tables : List Table
  triggers : List Trigger
  version : Int
  /-- Foreign keys are looked after. -/
  enforces : Bool
  /-- The number of the last row that was added; it outlives the undoing of a statement. -/
  lastRowid : Int
  /-- Statements stand together until they are committed. -/
  inTransaction : Bool

namespace Database

/-- A new database. -/
def empty : Database :=
  ⟨[], [], 0, true, 0, false⟩

/-- The table of a name. -/
def table? (db : Database) (name : String) : Option Table :=
  db.tables.find? fun t => sameName t.name name

/-- The database with a table in place of the one of its name. -/
def setTable (db : Database) (t : Table) : Database :=
  { db with tables := db.tables.map fun u => if sameName u.name t.name then t else u }

/-- What was there before, but for the number of the last row. -/
def undoTo (before after : Database) : Database :=
  { before with lastRowid := after.lastRowid }

/-! ## Foreign keys -/

/-- The places of the columns that a foreign key refers to: a key of their table. -/
def targetPlaces? (parent : Table) (k : ForeignKey) : Option (List Nat) :=
  let names := k.target.columns
  if names = [] then
    let primary := (parent.rowidKey.map fun r => [r.column]).or
      ((parent.keys.find? Key.primary).map Key.columns)
    primary.filter fun places => places.length = k.columns.length
  else
    match names.mapM parent.columnIndex? with
    | none => none
    | some places =>
      let isRowid := parent.rowidKey.any fun r => places = [r.column]
      let isKey := parent.keys.any fun key =>
        key.columns.length = places.length && key.columns.all fun c => c ∈ places
      if places.length = k.columns.length ∧ (isRowid ∨ isKey) then some places else none

/-- The table that a foreign key refers to, with the places of its columns. -/
def target? (db : Database) (k : ForeignKey) : Option (Table × List Nat) :=
  match db.table? k.target.table with
  | none => none
  | some parent => (targetPlaces? parent k).map fun places => (parent, places)

/-- Every foreign key that refers to a table, the newest first, with the table that has it. -/
def referencing (db : Database) (table : String) : List (Table × ForeignKey) :=
  (db.tables.flatMap fun t =>
    (t.foreignKeys.filter fun k => sameName k.target.table table).map fun k => (t, k)).reverse

/-- Cells of a child row equal the cells of a parent row, as the parent's columns compare. -/
def matchesTarget (parent : Table) (places : List Nat) (child parentCells : List Cell) : Bool :=
  (places.zip (child.zip parentCells)).all fun (i, c, p) => ((parent.affinityAt i).apply c).same p

/-- The foreign key of a row is null or refers to a row. -/
def holds (db : Database) (k : ForeignKey) (cells : List Cell) : Bool :=
  let child := Table.cellsAt cells k.columns
  child.any (· = .null) ||
    match db.target? k with
    | none => false
    | some (parent, places) =>
      parent.rows.any fun r => matchesTarget parent places child (Table.cellsAt r.cells places)

/-- How many foreign keys of rows refer to nothing, among those that are deferred or among those that
are not. -/
def violations (db : Database) (deferred : Bool) : Nat :=
  (db.tables.flatMap fun t =>
    (t.foreignKeys.filter fun k => k.target.deferred = deferred).map fun k =>
      (t.rows.filter fun r => !db.holds k r.cells).length).foldr (· + ·) 0

/-- Rows refer to nothing that did not before, by foreign keys of one kind. -/
def breaks (before db : Database) (deferred : Bool) : Bool :=
  db.enforces && before.violations deferred < db.violations deferred

end Database

end ResourceProvider.Engine
