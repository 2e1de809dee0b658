import ResourceProvider.Schema.Basic
import ResourceProvider.Schema.Identifier
/-!
# The schema a document declares

`databaseFault` is the first rule of a well-formed database that a document breaks, in a fixed
order of rules: the version, the names of all tables, then table by table. A document that breaks
none has a schema.
-/
namespace ResourceProvider.Schema

open Document (Column Key Check ForeignKey Database)

/-! ## Names -/

/-- The first name that is no identifier or that repeats one in `seen` or before it. -/
def namesFault (kind : NameKind) (context : Option String) (repeated : String → SchemaError) :
    (seen : List String) → List String → Option SchemaError
  | _, [] => none
  | seen, name :: rest =>
    (identifierFault kind context name).or <|
      if name ∈ seen then some (repeated name)
      else namesFault kind context repeated (name :: seen) rest

/-! ## Keys -/

/-- The primary key is declared more than once. -/
def keyFault (t : Document.Table) : Option SchemaError :=
  let flagged := t.columns.filter fun c => c.primaryKey.isSome
  if 1 < flagged.length ∨ (flagged ≠ [] ∧ t.primaryKey.isSome) then
    some (.conflictingPrimaryKey t.name)
  else none

/-- A column counts by itself although it is not the single integer key of the table. -/
def autoIncrementFault (t : Document.Table) : Option SchemaError :=
  match t.columns.filter fun c => c.autoIncrement with
  | [] => none
  | [c] =>
    if t.primaryKey.any fun k => 1 < k.columns.length then
      some (.autoIncrementWithCompositeKey t.name c.name)
    else if c.primaryKey = none then some (.autoIncrementWithoutPrimaryKey t.name c.name)
    else if c.type ≠ .integer then some (.autoIncrementRequiresInteger t.name c.name)
    else none
  | _ => some (.multipleAutoIncrement t.name)

/-! ## Constraints -/

/-- A constraint names no column, or one that the table does not have. -/
def ownColumnsFault (t : Document.Table) (names : List String) : Option SchemaError :=
  if names = [] then some (.emptyIdentifier .constraintColumn (some t.name))
  else
    (names.find? fun n => n ∉ t.columns.map Column.name).map fun n => .unknownColumn t.name n

/-- A check has nothing to check. -/
def checkFault (t : Document.Table) (c : Check) : Option SchemaError :=
  if Text.isBlank c.expression then some (.emptyIdentifier .checkExpression (some t.name)) else none

/-- A foreign key leads to a table or column that is not declared. -/
def targetFault (d : Database) (t : Document.Table) (target : String) (columns : List String) :
    Option SchemaError :=
  let unresolved := SchemaError.unresolvedForeignKey t.name
    (target ++ "(" ++ Text.join ", " columns ++ ")")
  match d.tables.find? fun u => u.name = target with
  | none => some unresolved
  | some u => if columns.all fun c => c ∈ u.columns.map Column.name then none else some unresolved

/-- A foreign key constraint does not fit its table or its target. -/
def foreignKeyFault (d : Database) (t : Document.Table) (k : ForeignKey) : Option SchemaError :=
  (ownColumnsFault t k.columns).or <|
    if k.columns.length ≠ k.referenced.length then
      some (.foreignKeyArity t.name k.columns.length k.referenced.length)
    else targetFault d t k.table k.referenced

/-! ## Tables -/

/-- The first rule that a table breaks. -/
def tableFault (d : Database) (t : Document.Table) : Option SchemaError :=
  (if t.columns = [] then some (.noColumns t.name) else none).or <|
  (namesFault .column (some t.name) (.duplicateColumn t.name) [] (t.columns.map Column.name)).or <|
  (keyFault t).or <|
  (autoIncrementFault t).or <|
  (t.primaryKey.bind fun k => ownColumnsFault t k.columns).or <|
  (t.unique.findSome? fun k => ownColumnsFault t k.columns).or <|
  (t.checks.findSome? (checkFault t)).or <|
  (t.columns.findSome? fun c =>
    c.references.bind fun r => targetFault d t r.table [r.column]).or <|
  t.foreignKeys.findSome? (foreignKeyFault d t)

/-- The highest version a database can store. -/
def maxVersion : Nat := 0x7FFFFFFF

/-- The first rule that a database breaks. -/
def databaseFault (d : Database) : Option SchemaError :=
  (if d.version = 0 ∨ maxVersion < d.version then some (.invalidVersion d.version) else none).or <|
  (namesFault .table none .duplicateTable [] (d.tables.map Document.Table.name)).or <|
  d.tables.findSome? (tableFault d)

/-! ## Resolution -/

/-- A constraint whose name is trimmed, or dropped when nothing is left of it. -/
def resolveKey (k : Key) : Key :=
  { k with name := k.name.bind Text.visible? }

/-- The table that a declaration stands for. -/
def resolveTable (t : Document.Table) : Table where
  name := t.name
  ifNotExists := t.ifNotExists
  columns := t.columns
  primaryKey :=
    match t.primaryKey, t.columns.findIdx? fun c => c.primaryKey.isSome with
    | some k, _ => .constraint (resolveKey k)
    | none, some i => .column i
    | none, none => .none
  unique := t.unique.map resolveKey
  checks := t.checks.map fun c => { c with name := c.name.bind Text.visible? }
  foreignKeys := t.foreignKeys.map fun k => { k with name := k.name.bind Text.visible? }

/-- The schema of a database that breaks no rule. -/
def ofDatabase (d : Database) : Except SchemaError Schema :=
  match databaseFault d with
  | some e => .error e
  | none => .ok ⟨d.name, d.version, d.tables.map resolveTable, d.execOnCreate⟩

theorem ofDatabase_eq_ok_iff {d : Database} {s : Schema} : ofDatabase d = .ok s ↔
    databaseFault d = none ∧ s = ⟨d.name, d.version, d.tables.map resolveTable, d.execOnCreate⟩ := by
  unfold ofDatabase
  cases databaseFault d with
  | some e => simp
  | none => simp [eq_comm]

end ResourceProvider.Schema
