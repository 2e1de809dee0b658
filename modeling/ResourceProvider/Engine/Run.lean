import ResourceProvider.Engine.Define
import ResourceProvider.Engine.Parser
import ResourceProvider.Engine.Select
/-!
# Running statements

A text is read as statements, which run one after another. A statement that fails leaves nothing
behind but the number of the last row, unless a constraint says that its earlier rows stay.

The statements that run are those that the reader knows; any other text is refused and changes
nothing. So is a change of rows in a database that has a trigger, which would run statements of its
own, and a setting that is known to the database but not to `setting`.
-/
namespace ResourceProvider.Engine

/-- What a statement gives: how many rows it wrote or removed, and the rows it read. -/
structure Outcome where
  changes : Nat
  rows : List ResultRow

/-- Neither rows written nor rows read. -/
def Outcome.nothing : Outcome :=
  ⟨0, []⟩

/-- A database with the answer to a statement. -/
abbrev Ran := Database × Except Refusal Outcome

namespace Database

/-- The statement is refused, and changes nothing. -/
def refuse (db : Database) : Ran :=
  (db, .error .rejected)

/-- A new database in place of this one, unless the statement is refused. -/
def orRefuse (db : Database) : Option Database → Ran
  | some new => (new, .ok .nothing)
  | none => db.refuse

/-! ## Foreign keys -/

/-- The columns that a foreign key refers to, as far as their table has them. -/
def targetColumns (parent : Table) (k : ForeignKey) : List Nat :=
  if k.target.columns = [] then
    (parent.rowidKey.map RowidKey.column).toList ++
      (parent.keys.filter Key.primary).flatMap Key.columns
  else k.target.columns.filterMap parent.columnIndex?

/-- Some of the columns are among those that get new values; none stands for all. -/
def looksAt (changed : Option (List Nat)) (columns : List Nat) : Bool :=
  changed.all fun cs => columns.any (· ∈ cs)

/-- The changes of other rows that an action can lead to: the columns that get new values, or none
if rows are removed. -/
def actionChanges (k : ForeignKey) (removes : Bool) : Option (Option (List Nat)) :=
  match if removes then k.target.onDelete else k.target.onUpdate with
  | .cascade => some (if removes then none else some k.columns)
  | .setNull => some (some k.columns)
  | .setDefault => some (some k.columns)
  | _ => none

/-- Every foreign key that a change looks at refers to a key of a table, and so for the changes
that its actions lead to. `changed` are the columns that get new values, if rows are not removed;
a change of others looks at no foreign key. `asTarget` says that rows of other tables may lose what
they refer to. -/
def canCheckWithin (db : Database) : (fuel : Nat) → Table → (changed : Option (List Nat)) →
    (asTarget : Bool) → Bool
  | 0, _, _, _ => true
  | fuel + 1, t, changed, asTarget =>
    let others := if asTarget then db.referencing t.name else []
    let touched := others.filter fun r => looksAt changed (targetColumns t r.2)
    let own := t.foreignKeys.filter fun k => looksAt changed k.columns
    (own.isEmpty && touched.isEmpty) ||
      t.foreignKeys.all (fun k => !(looksAt changed k.columns || sameName k.target.table t.name) ||
        (db.target? k).isSome) &&
      others.all (fun r => (db.target? r.2).isSome) &&
      touched.all fun (child, k) =>
        match actionChanges k changed.isNone with
        | none => true
        | some changed => canCheckWithin db fuel child changed true

/-- How many foreign keys there are. -/
def foreignKeyCount (db : Database) : Nat :=
  (db.tables.map fun t => t.foreignKeys.length).foldr (· + ·) 0

/-- A change can be made: no trigger might run, and every foreign key that it looks at can be
checked. -/
def canChange (db : Database) (t : Table) (changed : Option (List Nat)) (asTarget : Bool) : Bool :=
  db.triggers.isEmpty &&
    (!db.enforces || db.canCheckWithin (db.foreignKeyCount + 1) t changed asTarget)

/-! ## Changes row by row -/

/-- Makes changes one after another and counts them, up to the first that ends the statement. The
first result of a change stands if it is left out. -/
def changeEach {α : Type} (change : α → Database → Database × Attempt Database) :
    List α → (count : Nat) → Database → Database × Except (Refusal × Bool) Nat
  | [], count, db => (db, .ok count)
  | x :: rest, count, db =>
    match change x db with
    | (_, .ok db) => changeEach change rest (count + 1) db
    | (db, .error .skip) => changeEach change rest count db
    | (db, .error (.halt e keeps)) => (db, .error (e, keeps))

/-- Rows refer to nothing that did not before, where this is looked at: foreign keys that are deferred
are left until the end of a transaction. -/
def isBroken (before db : Database) : Bool :=
  before.breaks db false || (!db.inTransaction && before.breaks db true)

/-- The highest rowids ever used, as they were before. -/
def keepSequences (before db : Database) : Database :=
  { db with tables := db.tables.map fun t =>
      { t with sequence := ((before.table? t.name).map Table.sequence).getD t.sequence } }

/-- Ends a statement that changed rows: no row may refer to nothing that did not before. If a
constraint ends it, its earlier rows may stay, but no numbers are used up. -/
def settle (before : Database) : Database × Except (Refusal × Bool) Nat → Ran
  | (db, .ok count) =>
    if before.isBroken db then (undoTo before db, .error (.violation .foreignKey))
    else (db, .ok ⟨count, []⟩)
  | (db, .error (e, keeps)) =>
    if !keeps then (undoTo before db, .error e)
    else if before.isBroken db then (undoTo before db, .error (.violation .foreignKey))
    else (before.keepSequences db, .error e)

/-! ## Adding rows -/

/-- The places of the columns that a statement names; all columns if it names none. -/
def insertPlaces? (t : Table) : Option (List String) → Option (List Nat)
  | none => some (List.range t.columns.length)
  | some names => names.mapM t.columnIndex?

/-- The values of a row, which sees no columns. -/
def constants? (params : List Cell) (row : List Written) : Option (List Cell) :=
  row.mapM fun e => ((⟨[], [], false⟩ : Scope).resolve e).bind fun e => e.eval ⟨params, [], []⟩

/-- Values at their places, and defaults elsewhere; the first value of a place counts. A rowid has
no default. -/
def withDefaults (t : Table) (places : List Nat) (values : List Cell) : List Cell :=
  t.columns.mapIdx fun i c =>
    let default := if t.rowidKey.any fun r => r.column = i then .null else c.default.getD .null
    ((places.zip values).lookup i).getD default

/-- Adds rows. -/
def insert (db : Database) (params : List Cell) (policy : ConflictPolicy) (name : String)
    (columns : Option (List String)) (rows : Option (List (List Written))) : Ran :=
  match db.table? name with
  | none => db.refuse
  | some t =>
    let places := if rows.isSome then insertPlaces? t columns else some []
    match places, (rows.getD [[]]).mapM (constants? params) with
    | some places, some values =>
      let givesRowid := t.rowidKey.any fun r => r.column ∈ places
      let alone := values.length = 1 && !t.mayReplace policy givesRowid
      let fits := values.all fun v => v.length = places.length
      if !fits || !db.canChange t none !alone then db.refuse
      else
        settle db (db.changeEach
          (fun v db => addRow policy alone t.name (withDefaults t places v) db) values 0)
    | _, _ => db.refuse

/-! ## Changing and removing rows -/

/-- The condition of a statement on one table; nothing if it cannot be read. -/
def resolveCondition? (t : Table) : Option Written → Option (Option (Expr Place))
  | none => some none
  | some e => (t.scope.resolve e).map some

/-- The rows among `rows` that a condition selects. -/
def selected? (params : List Cell) (condition : Option (Expr Place)) (rows : List Row) :
    Option (List Row) :=
  match condition with
  | none => some rows
  | some e => rows.filterM fun r => e.holdsAt ⟨params, r.places, []⟩

/-- A change of columns is followed by changes of rows that refer to them, or of rows of its own
table. -/
def isFollowed (db : Database) (t : Table) (changed : List Nat) : Bool :=
  let touches (columns : List Nat) : Bool := columns.any (· ∈ changed)
  db.enforces &&
    (t.foreignKeys.any (fun k => touches k.columns && sameName k.target.table t.name) ||
      (db.referencing t.name).any fun r =>
        touches (targetColumns t r.2) && r.2.target.onUpdate ≠ .noAction)

/-- A change of columns may remove rows that are in its way. Every key is looked at if other changes
follow, else those of the columns. -/
def mayDisplace (db : Database) (t : Table) (policy : ConflictPolicy) (changed : List Nat) : Bool :=
  if t.rowidKey.any fun r => r.column ∈ changed then t.mayReplace policy true
  else t.keys.any fun k =>
    (db.isFollowed t changed || k.columns.any (· ∈ changed)) && effective policy k.policy = .replace

/-- A change of columns can lead to other changes: rows that refer to it, or rows in its way. -/
def spreads (db : Database) (t : Table) (policy : ConflictPolicy) (changed : List Nat) : Bool :=
  let touches (columns : List Nat) : Bool := columns.any (· ∈ changed)
  let tied := t.foreignKeys.any (fun k => touches k.columns) ||
    (db.referencing t.name).any fun r => touches (targetColumns t r.2)
  t.rowidKey.any (fun r => r.column ∈ changed) || (db.enforces && tied) ||
    db.mayDisplace t policy changed

/-- The rows of a table in the order in which they are changed: a key leads to them if it stays as
it is, and the change does not spread. -/
def rowsToChange (db : Database) (t : Table) (policy : ConflictPolicy) (changed : List Nat)
    (condition : Option (Expr Place)) : List Row :=
  match t.leadingKey? (.ofCondition 0 condition) with
  | none => t.rows
  | some k =>
    if db.spreads t policy changed || k.columns.any (· ∈ changed) then t.rows
    else t.inKeyOrder k.columns

/-- The columns that a statement sets, with their values. -/
def resolveChanges? (t : Table) (changes : List (String × Written)) :
    Option (List (Nat × Expr Place)) :=
  changes.mapM fun (c, e) => do return (← t.columnIndex? c, ← t.scope.resolve e)

/-- Gives one row new values, if it is still there. -/
def changeRow (params : List Cell) (policy : ConflictPolicy) (name : String)
    (changes : List (Nat × Expr Place)) (rowid : Int) (db : Database) : Attempt Database :=
  match (db.table? name).bind fun t => t.row? rowid with
  | none => .error .skip
  | some r =>
    match changes.mapM fun (i, e) => (e.eval ⟨params, r.places, []⟩).map fun v => (i, v) with
    | none => refused
    | some values =>
      let cells := values.foldl (fun cells (i, v) => cells.set i v) r.cells
      act maxDepth db (.assign policy name r cells)

/-- Changes the rows that a condition selects. -/
def update (db : Database) (params : List Cell) (policy : ConflictPolicy) (name : String)
    (changes : List (String × Written)) (condition : Option Written) : Ran :=
  match db.table? name with
  | none => db.refuse
  | some t =>
    match resolveChanges? t changes, resolveCondition? t condition with
    | some changes, some condition =>
      let changed := changes.map Prod.fst
      let checked := db.canChange t (some changed) true &&
        (!db.mayDisplace t policy changed || db.canChange t none true)
      if !checked then db.refuse
      else
        match selected? params condition (db.rowsToChange t policy changed condition) with
        | none => db.refuse
        | some rows =>
          settle db (db.changeEach
            (fun r db => (db, changeRow params policy t.name changes r.rowid db)) rows 0)
    | _, _ => db.refuse

/-- Removes one row, if it is still there. -/
def removeRow (name : String) (rowid : Int) (db : Database) : Attempt Database :=
  match (db.table? name).bind fun t => t.row? rowid with
  | none => .error .skip
  | some r => act maxDepth db (.delete name r)

/-- Removes rows of a table. -/
def removeRows (db : Database) (name : String) (rows : List Row) : Ran :=
  settle db (db.changeEach (fun r db => (db, removeRow name r.rowid db)) rows 0)

/-- Removes the rows that a condition selects. -/
def delete (db : Database) (params : List Cell) (name : String) (condition : Option Written) :
    Ran :=
  match db.table? name with
  | none => db.refuse
  | some t =>
    match resolveCondition? t condition with
    | none => db.refuse
    | some condition =>
      if !db.canChange t none true then db.refuse
      else
        match selected? params condition t.rows with
        | none => db.refuse
        | some rows => db.removeRows t.name rows

/-- Removes a table with its triggers; rows of other tables may refer to its rows, which go first. -/
def dropTable (db : Database) (ifExists : Bool) (name : String) : Ran :=
  match db.table? name with
  | none => if ifExists then (db, .ok .nothing) else db.refuse
  | some t =>
    let emptied := if db.enforces then db.removeRows t.name t.rows else (db, .ok .nothing)
    match emptied with
    | (db, .ok _) =>
      ({ db with
          tables := db.tables.filter fun u => !sameName u.name t.name
          triggers := db.triggers.filter fun u => !sameName u.table t.name }, .ok .nothing)
    | (db, .error e) => (db, .error e)

/-! ## Settings -/

/-- The integer at the head of a text; zero if it needs more than 32 bits. -/
def settingNumber (text : String) : Int :=
  let (negative, cs) := match text.toList with
    | '-' :: r => (true, r)
    | '+' :: r => (false, r)
    | r => (false, r)
  let digits := (cs.takeWhile Text.isDigit).dropWhile (· = '0')
  let n : Int := Text.decimalValue digits
  let n := if negative then -n else n
  if -0x80000000 ≤ n ∧ n < 0x80000000 then n else 0

/-- The setting is turned on. -/
def settingFlag (text : String) : Bool :=
  settingNumber text % 256 ≠ 0 || ["on", "yes", "true"].any (sameName text)

/-- Settings that are left out. -/
def otherSettings : List String :=
  ["analysis_limit", "application_id", "auto_vacuum", "automatic_index", "busy_timeout",
   "cache_size", "cache_spill", "case_sensitive_like", "cell_size_check", "checkpoint_fullfsync",
   "collation_list", "compile_options", "count_changes", "data_version", "database_list",
   "default_cache_size", "defer_foreign_keys", "empty_result_callbacks", "encoding",
   "foreign_key_check", "foreign_key_list", "freelist_count", "full_column_names", "fullfsync",
   "function_list", "hard_heap_limit", "ignore_check_constraints", "incremental_vacuum",
   "index_info", "index_list", "index_xinfo", "integrity_check", "journal_mode",
   "journal_size_limit", "legacy_alter_table", "locking_mode", "max_page_count", "mmap_size",
   "module_list", "optimize", "page_count", "page_size", "pragma_list", "query_only",
   "quick_check", "read_uncommitted", "recursive_triggers", "reverse_unordered_selects",
   "schema_version", "secure_delete", "short_column_names", "shrink_memory", "soft_heap_limit",
   "synchronous", "table_info", "table_list", "table_xinfo", "temp_store", "temp_store_directory",
   "threads", "trusted_schema", "wal_autocheckpoint", "wal_checkpoint", "writable_schema"]

/-- Reads or sets a setting; names that are not known do nothing. -/
def setting (db : Database) (name : String) (value : Option String) : Ran :=
  if sameName name "user_version" then
    match value with
    | none => (db, .ok ⟨0, [[("user_version", .int db.version)]]⟩)
    | some v => ({ db with version := settingNumber v }, .ok .nothing)
  else if sameName name "foreign_keys" then
    match value with
    | none => (db, .ok ⟨0, [[("foreign_keys", .int (if db.enforces then 1 else 0))]]⟩)
    | some v =>
      (if db.inTransaction then db else { db with enforces := settingFlag v }, .ok .nothing)
  else if otherSettings.any (sameName name) then db.refuse
  else (db, .ok .nothing)

/-! ## Statements -/

/-- Runs one statement. -/
def runStatement (db : Database) (params : List Cell) : Statement → Ran
  | .createTable spec => db.orRefuse (createTable db spec)
  | .addColumn table spec => db.orRefuse (addColumn db table spec)
  | .dropTable ifExists table => db.dropTable ifExists table
  | .createTrigger ifNotExists name table => db.orRefuse (createTrigger db ifNotExists name table)
  | .dropTrigger ifExists name => db.orRefuse (dropTrigger db ifExists name)
  | .insert policy table columns rows => db.insert params policy table columns rows
  | .update policy table changes condition => db.update params policy table changes condition
  | .delete table condition => db.delete params table condition
  | .select query =>
    match runQuery db params query with
    | some rows => (db, .ok ⟨0, rows⟩)
    | none => db.refuse
  | .pragma name value => db.setting name value

/-! ## Parameters -/

/-- The number of a value, counted from one, that the name of a position asks for; nothing if the name
is no number. -/
def valueNumber? (name : String) : Option Nat :=
  match name.toList with
  | c :: rest =>
    let n := Text.decimalValue (rest.takeWhile Text.isDigit)
    if (c = '?' ∨ c = '$') ∧ 0 < n ∧ n < 0x10000000000000000 then some n else none
  | [] => none

/-- The cells that the positions of a statement take, and what the next statement finds left. A
position without a name takes the next value, and a number the value of that number; from the first
position on for which there is no value, all are null. Values that are left stand behind the cells,
where no placeholder looks. -/
def bind (values : List Cell) : Slots → (next : List Cell) →
    Except Refusal (List Cell × List Cell)
  | [], next => .ok (next, next)
  | none :: _, [] => .ok ([], [])
  | none :: slots, c :: next => (bind values slots next).map fun p => (c :: p.1, p.2)
  | some name :: slots, next =>
    match valueNumber? name with
    | none => .error (.unbound name)
    | some n =>
      match values[n - 1]? with
      | none => .ok ([], next)
      | some c => (bind values slots next).map fun p => (c :: p.1, p.2)

/-- The tables without their rows, outside a transaction. -/
def emptied (db : Database) : Database :=
  { db with
    tables := db.tables.map fun t => { t with rows := [] }
    inTransaction := false }

/-- The statement makes no sense, whatever its placeholders stand for: this shows before any row is
looked at. -/
def refusesUnbound (db : Database) (s : Statement) : Bool :=
  match (db.emptied.runStatement [] s).2 with
  | .error .rejected => true
  | _ => false

/-! ## Runs -/

/-- The changes that are reported for a statement: one that changes no rows reports the `last`
number of changes once more. -/
def reportedChanges (s : Statement) (outcome : Outcome) (last : Nat) : Nat :=
  outcome.changes + if s.changesRows then 0 else last

/-- Runs statements one after another, up to the first that fails; each takes the values that those
before it left. -/
def runAll (db : Database) (values next : List Cell) (last : Nat) : List (List Token) → Ran
  | [] => (db, .ok .nothing)
  | ts :: rest =>
    match parseStatement ts with
    | none => db.refuse
    | some s =>
      match bind values (slotsAfter [] ts) next with
      | .error e => if db.refusesUnbound s then db.refuse else (db, .error e)
      | .ok (params, next) =>
        match db.runStatement params s with
        | (db, .error e) => (db, .error e)
        | (db, .ok first) =>
          match runAll db values next (reportedChanges s first last) rest with
          | (db, .error e) => (db, .error e)
          | (db, .ok more) =>
            (db, .ok ⟨reportedChanges s first last + more.changes, first.rows ++ more.rows⟩)

/-- Runs every statement of a text. -/
def run (db : Database) (text : String) (params : List Cell) : Ran :=
  db.runAll params params 0 (statementsOf text)

/-! ## Transactions -/

/-- Statements stand together from here on. -/
def begin (db : Database) : Database :=
  { db with inTransaction := true }

/-- What was done since `before` cannot stay: rows refer to nothing, by foreign keys that were put off
until now. -/
def isOverdue (before db : Database) : Bool :=
  before.breaks db true

/-- What was done since the beginning of the transaction stays. -/
def commit (db : Database) : Database :=
  { db with inTransaction := false }

/-- What was done since `before` is undone. -/
def rollback (db before : Database) : Database :=
  (undoTo before db).commit

end Database

end ResourceProvider.Engine
