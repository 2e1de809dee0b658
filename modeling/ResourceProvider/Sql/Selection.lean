import ResourceProvider.Sql.Statement
import ResourceProvider.Text.Quoted
/-!
# Selections

A selection collects what a request selects by: the table text, a conjunction of conditions, the
arguments of their placeholders, and aliases for projected columns. Each condition stands in
parentheses of its own.
-/
namespace ResourceProvider.Sql

open Json (Value)

/-- What a request selects by; the newest alias stands first. -/
structure Selection where
  table : Option String
  condition : String
  args : List String
  aliases : List (String × String)
deriving DecidableEq

namespace Selection

/-- Selects everything, from no table yet. -/
def empty : Selection :=
  ⟨none, "", [], []⟩

/-- Adds a condition with the arguments of its placeholders; a blank one changes nothing. -/
def filter (s : Selection) (condition : String) (args : List String) :
    Except CompositionError Selection :=
  if Text.isBlank condition then
    if args = [] then .ok s else .error .argsWithoutSelection
  else
    .ok { s with
      condition :=
        (if s.condition = "" then "" else s.condition ++ " AND ") ++ "(" ++ condition ++ ")"
      args := s.args ++ args }

/-- Adds conditions without placeholders one after another. -/
def filterAll (s : Selection) : List String → Except CompositionError Selection
  | [] => .ok s
  | condition :: rest =>
    match s.filter condition [] with
    | .error e => .error e
    | .ok s => s.filterAll rest

/-- Sets the table, which may be followed by joins. -/
def fromTable (s : Selection) (table : String) : Selection :=
  { s with table := some table }

/-- Projects `column` as `expression`; the last alias of a column counts. -/
def withAlias (s : Selection) (column expression : String) : Selection :=
  { s with aliases := (column, expression) :: s.aliases }

/-- Projects `column` from one of several tables. -/
def withTableAlias (s : Selection) (column table : String) : Selection :=
  s.withAlias column (table ++ "." ++ column)

/-- The text of the conditions as a clause. -/
def whereClause (s : Selection) : String :=
  if s.condition = "" then "" else " WHERE " ++ s.condition

/-- The arguments as parameters. -/
def argValues (s : Selection) : List Value :=
  s.args.map .str

/-- A projected column, under its alias if it has one. -/
def projected (s : Selection) (column : String) : String :=
  match s.aliases.lookup column with
  | some expression => expression ++ " AS " ++ column
  | none => column

/-- A keyword with its clause; a blank clause is left out. -/
def optionalClause (keyword : String) : Option String → String
  | none => ""
  | some clause => if Text.isBlank clause then "" else " " ++ keyword ++ " " ++ clause

/-- How the rows of a query are grouped, sorted and cut. -/
structure Shape where
  groupBy : Option String
  having : Option String
  orderBy : Option String
  limit : Option String
deriving DecidableEq

/-- The table, which must have been set. -/
def requiredTable (s : Selection) : Except CompositionError String :=
  match s.table with
  | some t => .ok t
  | none => .error .tableNotSet

/-- Reads the selected rows; an empty projection stands for all columns. -/
def query (s : Selection) (projection : List String) (shape : Shape) :
    Except CompositionError Statement :=
  s.requiredTable.map fun table =>
    let columns := if projection = [] then "*" else Text.join ", " (projection.map s.projected)
    ⟨"SELECT " ++ columns ++ " FROM " ++ table ++ s.whereClause ++
      optionalClause "GROUP BY" shape.groupBy ++ optionalClause "HAVING" shape.having ++
      optionalClause "ORDER BY" shape.orderBy ++ optionalClause "LIMIT" shape.limit, s.argValues⟩

/-- Sets the columns of the selected rows; the values of the record come first. -/
def update (s : Selection) (record : Record) : Except CompositionError Statement :=
  s.requiredTable.map fun table =>
    ⟨"UPDATE " ++ table ++ " SET " ++ Text.join ", " (record.map fun f => f.1 ++ "=?") ++
      s.whereClause, record.map Prod.snd ++ s.argValues⟩

/-- Removes the selected rows. -/
def delete (s : Selection) : Except CompositionError Statement :=
  s.requiredTable.map fun table => ⟨"DELETE FROM " ++ table ++ s.whereClause, s.argValues⟩

/-- One line that describes the selection. -/
def describe (s : Selection) : String :=
  "Selection[table=" ++ s.table.getD "-" ++ ", selection=" ++ s.condition ++ ", args=" ++
    Text.quotedList s.args ++ "]"

end Selection

end ResourceProvider.Sql
