import ResourceProvider.Engine.Select
import ResourceProvider.Sql.Binding
import ResourceProvider.Sql.Record
/-!
# Rows as records

How parameters are stored in cells, and how cells are read as values. Of columns with the same
name the first one counts.
-/
namespace ResourceProvider.Sql

open Engine (Cell ResultRow)
open Json (Value)

/-- The cell that a parameter is stored in; truth values are stored as numbers. -/
def Param.toCell : Param → Cell
  | .null => .null
  | .bool b => .int (if b then 1 else 0)
  | .int n => .int n
  | .float x => if x.isNaN then .null else .real x
  | .text s => .text s

/-- The cell that a value is stored in. -/
def cellOfValue (v : Value) : Cell :=
  (Param.ofValue v).toCell

/-- The value of a cell; bytes become a list of numbers, also those of a text if they spell none. -/
def valueOfCell : Cell → Value
  | .null => .null
  | .int n => .num (.int n)
  | .real x => if x.isFinite then .num (.float x) else .null
  | .text s => .str s
  | .garbled bytes => .arr (bytes.map fun b => Json.whole b.toNat)
  | .blob bytes => .arr (bytes.map fun b => Json.whole b.toNat)

/-- The record of a row. -/
def recordOfRow (row : ResultRow) : Record :=
  row.foldr (fun c r => Json.insertField c.1 (valueOfCell c.2) r) []

end ResourceProvider.Sql
