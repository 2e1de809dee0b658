import ResourceProvider.Json.Value
import ResourceProvider.Schema.Basic
import ResourceProvider.Error
/-!
# Records

The values of a row by column name, in the order of the names. A record fits a table if each of
its columns is one of the table's.
-/
namespace ResourceProvider

/-- Values by column, each column once, by ascending name. -/
abbrev Record := List (String × Json.Value)

namespace Record

/-- The first column of the record that the table does not have. -/
def misfit? (t : Table) (r : Record) : Option SchemaError :=
  (r.find? fun f => (t.column? f.1).isNone).map fun f => .noSuchColumn t.name f.1

/-- Sets one column, if the table has it. -/
def set (t : Table) (r : Record) (column : String) (v : Json.Value) : Except SchemaError Record :=
  match t.column? column with
  | some _ => .ok (Json.insertField column v r)
  | none => .error (.noSuchColumn t.name column)

end Record

end ResourceProvider
