import ResourceProvider.Engine.Change
/-!
# Defining tables

A declared table becomes a table without rows, if its declaration makes sense: names are not used
twice, there is one primary key, and conditions and keys name its own columns.
-/
namespace ResourceProvider.Engine

/-! ## Keys -/

/-- Keys in the order in which they are checked: those that replace rows come last. -/
def inCheckOrder (keys : List Key) : List Key :=
  keys.filter (fun k => k.policy ≠ .replace) ++ keys.filter fun k => k.policy = .replace

/-- Adds a key, in front of the others. A key with the same columns stands for both. -/
def addKey (keys : List Key) (new : Key) : Option (List Key) :=
  match keys.find? fun k => k.columns = new.columns with
  | some old =>
    if old.policy ≠ new.policy ∧ old.policy ≠ .none ∧ new.policy ≠ .none then none
    else
      let merged : Key :=
        { old with
          policy := if old.policy = .none then new.policy else old.policy
          primary := old.primary || new.primary }
      some (inCheckOrder (keys.map fun k => if k.columns = new.columns then merged else k))
  | none => some (inCheckOrder (new :: keys))

/-! ## Constraints -/

/-- The scope of conditions on a row of a table. -/
def Table.scope (t : Table) : Scope :=
  ⟨[⟨t.name, t, 0⟩], [], false⟩

/-- Adds a check. -/
def Table.addCheck (t : Table) (label : String) (condition : Written) : Option Table :=
  if condition.hasParam then none
  else (t.scope.resolve condition).map fun e => { t with checks := t.checks ++ [⟨label, e⟩] }

/-- Adds a foreign key. -/
def Table.addForeignKey (t : Table) (columns : List String) (target : Target) : Option Table :=
  match columns.mapM t.columnIndex? with
  | none => none
  | some places =>
    if target.columns ≠ [] ∧ target.columns.length ≠ places.length then none
    else some { t with foreignKeys := t.foreignKeys ++ [⟨places, target⟩] }

/-- Says of the newest foreign key whether it is deferred. -/
def Table.defer (t : Table) (deferred : Bool) : Table :=
  match t.foreignKeys.getLast? with
  | none => t
  | some k => { t with
      foreignKeys := t.foreignKeys.dropLast ++ [{ k with target := { k.target with deferred } }] }

/-- The table has a primary key. -/
def Table.hasPrimaryKey (t : Table) : Bool :=
  t.rowidKey.isSome || t.keys.any Key.primary

/-- Adds the primary key; a single integer column holds the rowid. -/
def Table.addPrimaryKey (t : Table) (places : List Nat) (isInteger : Bool)
    (policy : ConflictPolicy) (autoIncrement : Bool) : Option Table :=
  if t.hasPrimaryKey then none
  else
    match places with
    | [i] =>
      if isInteger then some { t with rowidKey := some ⟨i, policy, autoIncrement⟩ }
      else if autoIncrement then none
      else (addKey t.keys ⟨[i], policy, true⟩).map fun keys => { t with keys }
    | _ => (addKey t.keys ⟨places, policy, true⟩).map fun keys => { t with keys }

/-- The declared type is exactly the one of rowids. -/
def isRowidType (type : String) : Bool :=
  sameName type "integer"

/-- Applies the keys among the constraints of a column. -/
def Table.addColumnKey (t : Table) (i : Nat) (type : String) : ColumnRule → Option Table
  | .primaryKey descending policy auto =>
    t.addPrimaryKey [i] (isRowidType type && !descending) policy auto
  | .unique policy => (addKey t.keys ⟨[i], policy, false⟩).map fun keys => { t with keys }
  | _ => some t

/-- Applies the conditions and targets among the constraints of a column. -/
def Table.addColumnRule (t : Table) (name : String) : ColumnRule → Option Table
  | .check label condition => t.addCheck label condition
  | .references target =>
    if 1 < target.columns.length then none else t.addForeignKey [name] target
  | .deferral deferred => some (t.defer deferred)
  | _ => some t

/-- Applies a constraint of a table. -/
def Table.addRule (t : Table) (types : List String) : TableRule → Option Table
  | .primaryKey columns policy =>
    match columns.mapM t.columnIndex? with
    | none => none
    | some places =>
      let isInteger := match places with
        | [i] => ((types[i]?).map isRowidType).getD false
        | _ => false
      t.addPrimaryKey places isInteger policy false
  | .unique columns policy =>
    match columns.mapM t.columnIndex? with
    | none => none
    | some places => (addKey t.keys ⟨places, policy, false⟩).map fun keys => { t with keys }
  | .check label condition => t.addCheck label condition
  | .foreignKey columns target => t.addForeignKey columns target

/-! ## Columns -/

/-- The column of a declaration; a default must be the same for every row. -/
def ColumnSpec.column? (c : ColumnSpec) : Option Column :=
  let start : Column := ⟨c.name, Affinity.ofType c.type, none, none⟩
  c.rules.foldlM (fun (column : Column) rule =>
    match rule with
    | .notNull p => some { column with notNull := some p }
    | .default e =>
      if e.hasParam then none
      else
        match (⟨[], [], false⟩ : Scope).resolve e with
        | none => none
        | some e => (e.eval ⟨[], [], []⟩).map fun v => { column with default := some v }
    | _ => some column) start

/-- No name is there twice. -/
def distinctNames : List String → Bool
  | [] => true
  | n :: rest => !rest.any (sameName n) && distinctNames rest

/-! ## Tables -/

/-- The table of a declaration. -/
def TableSpec.table? (s : TableSpec) : Option Table := do
  let columns ← s.columns.mapM ColumnSpec.column?
  if !distinctNames (columns.map Column.name) then none
  else
    let types := s.columns.map ColumnSpec.type
    let bare : Table := ⟨s.name, columns, none, [], [], [], [], 0⟩
    let keyed ← s.columns.zipIdx.foldlM (fun t (c, i) =>
      c.rules.foldlM (fun t rule => t.addColumnKey i c.type rule) t) bare
    let ruled ← s.columns.foldlM (fun t c =>
      c.rules.foldlM (fun t rule => t.addColumnRule c.name rule) t) keyed
    s.rules.foldlM (fun t rule => t.addRule types rule) ruled

/-- Names that only the database itself gives. -/
def isSystemName (name : String) : Bool :=
  "sqlite_".toList.isPrefixOf (Text.lower name).toList

/-- Creates a table; one that is there may be let be. -/
def createTable (db : Database) (s : TableSpec) : Option Database :=
  if isSystemName s.name then none
  else if (db.table? s.name).isSome then (if s.ifNotExists then some db else none)
  else s.table?.map fun t => { db with tables := db.tables ++ [t] }

/-- Creates a trigger on a table; one that is there may be let be. -/
def createTrigger (db : Database) (ifNotExists : Bool) (name table : String) : Option Database :=
  if isSystemName name then none
  else
    match db.table? table with
    | none => none
    | some t =>
      if db.triggers.any fun u => sameName u.name name then (if ifNotExists then some db else none)
      else some { db with triggers := db.triggers ++ [⟨name, t.name⟩] }

/-- Removes a trigger. -/
def dropTrigger (db : Database) (ifExists : Bool) (name : String) : Option Database :=
  if db.triggers.any fun u => sameName u.name name then
    some { db with triggers := db.triggers.filter fun u => !sameName u.name name }
  else if ifExists then some db
  else none

/-- Adds a column to a table; rows get its default. -/
def addColumn (db : Database) (name : String) (spec : ColumnSpec) : Option Database := do
  let t ← db.table? name
  let column ← spec.column?
  let isKey := spec.rules.any fun r => match r with
    | .primaryKey .. => true
    | .unique _ => true
    | _ => false
  let refers := spec.rules.any fun r => match r with
    | .references _ => true
    | _ => false
  let value := column.affinity.apply (column.default.getD .null)
  if isKey || (t.columnIndex? spec.name).isSome then none
  else if t.rows ≠ [] ∧ column.notNull.isSome ∧ value = .null then none
  else if t.rows ≠ [] ∧ db.enforces ∧ refers ∧ value ≠ .null then none
  else
    let wider : Table :=
      { t with
        columns := t.columns ++ [column]
        rows := t.rows.map fun r => { r with cells := r.cells ++ [value] } }
    let ruled ← spec.rules.foldlM (fun t rule => t.addColumnRule spec.name rule) wider
    let new := ruled.checks.drop t.checks.length
    let strict := { ruled with checks := new }
    let fails := ruled.rows.any fun r => !(strict.meetsChecks .none r).isOk
    if fails then none else some (db.setTable ruled)

end ResourceProvider.Engine
