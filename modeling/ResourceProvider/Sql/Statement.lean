import ResourceProvider.Sql.Record
import ResourceProvider.Text.Blank
/-!
# Statements with parameters

A statement is a text with one `?` for each of its parameters, in order.
-/
namespace ResourceProvider.Sql

open Json (Value)

/-- A text with the values for its placeholders. -/
structure Statement where
  text : String
  params : List Value
deriving BEq

/-- Adds one row; an empty record adds a row of defaults. -/
def insert (table : String) (record : Record) : Statement :=
  if record = [] then ⟨"INSERT INTO " ++ table ++ " DEFAULT VALUES", []⟩
  else
    ⟨"INSERT INTO " ++ table ++ " (" ++ Text.join ", " (record.map Prod.fst) ++ ") VALUES (" ++
      Text.join ", " (record.map fun _ => "?") ++ ")", record.map Prod.snd⟩

end ResourceProvider.Sql
