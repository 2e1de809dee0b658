import ResourceProvider.Proofs.Schema.Counter
import ResourceProvider.Proofs.Schema.Legible
import ResourceProvider.Proofs.Sql.Conjunction
/-!
# SQL that statements copy

The defaults and checks of columns and the checks of tables are SQL, and a statement copies them as
they are. Only the checks of tables have a rule: they are not blank. No rule looks at the SQL of a
column (`ofDatabase_withSql`), so a blank clause stands in the statement of an accepted table
exactly if one of its columns declares one (`blank_sql_iff`).
-/
namespace ResourceProvider

open Document (Column)

/-! ## Columns with other SQL -/

/-- The column with another default and another check. -/
def Document.Column.withSql (sql : Column → Option String × Option String) (c : Column) : Column :=
  { c with default := (sql c).1, check := (sql c).2 }

/-- The table with other defaults and checks at its columns. -/
def Document.Table.withSql (sql : Column → Option String × Option String) (t : Document.Table) :
    Document.Table :=
  { t with columns := t.columns.map (Column.withSql sql) }

/-- The database with other defaults and checks at all columns. -/
def Document.Database.withSql (sql : Column → Option String × Option String)
    (d : Document.Database) : Document.Database :=
  { d with tables := d.tables.map (Document.Table.withSql sql) }

/-- The table with other defaults and checks at its columns. -/
def Table.withSql (sql : Column → Option String × Option String) (t : Table) : Table :=
  { t with columns := t.columns.map (Column.withSql sql) }

namespace Schema

variable {d : Document.Database} {t : Document.Table} {sql : Column → Option String × Option String}

theorem name_withSql (columns : List Column) :
    (columns.map (Column.withSql sql)).map Column.name = columns.map Column.name := by
  rw [List.map_map]
  rfl

theorem filter_withSql (columns : List Column) (p : Column → Bool)
    (blind : ∀ c, p (c.withSql sql) = p c) :
    (columns.map (Column.withSql sql)).filter p = (columns.filter p).map (Column.withSql sql) := by
  rw [List.filter_map]
  exact congrArg (List.map _) (List.filter_congr fun c _ => blind c)

theorem keyFault_withSql : keyFault (t.withSql sql) = keyFault t := by
  have flagged := filter_withSql t.columns (fun c => c.primaryKey.isSome)
    fun c => (rfl : (c.withSql sql).primaryKey.isSome = _)
  simp only [keyFault, Document.Table.withSql, flagged, List.length_map, ne_eq, List.map_eq_nil_iff]

theorem autoIncrementFault_withSql : autoIncrementFault (t.withSql sql) = autoIncrementFault t := by
  have counting := filter_withSql t.columns (fun c => c.autoIncrement)
    fun c => (rfl : (c.withSql sql).autoIncrement = _)
  simp only [autoIncrementFault, Document.Table.withSql, counting]
  generalize t.columns.filter (fun c => c.autoIncrement) = counters
  match counters with
  | [] => rfl
  | [_] => rfl
  | _ :: _ :: _ => rfl

theorem ownColumnsFault_withSql (names : List String) :
    ownColumnsFault (t.withSql sql) names = ownColumnsFault t names := by
  simp only [ownColumnsFault, Document.Table.withSql, name_withSql]

theorem targetFault_withSql (target : String) (columns : List String) :
    targetFault (d.withSql sql) (t.withSql sql) target columns =
      targetFault d t target columns := by
  have found : (d.withSql sql).tables.find? (fun u => u.name = target) =
      (d.tables.find? fun u => u.name = target).map (Document.Table.withSql sql) :=
    List.find?_map
  simp only [targetFault, found]
  cases d.tables.find? fun u => u.name = target with
  | none => rfl
  | some u => simp only [Option.map_some, Document.Table.withSql, name_withSql]

theorem foreignKeyFault_withSql (k : Document.ForeignKey) :
    foreignKeyFault (d.withSql sql) (t.withSql sql) k = foreignKeyFault d t k := by
  simp only [foreignKeyFault, ownColumnsFault_withSql, targetFault_withSql]
  rfl

theorem tableFault_withSql : tableFault (d.withSql sql) (t.withSql sql) = tableFault d t := by
  have references (c : Column) : (c.withSql sql).references = c.references := rfl
  have foreignKeys : foreignKeyFault (d.withSql sql) (t.withSql sql) = foreignKeyFault d t :=
    funext foreignKeyFault_withSql
  simp only [tableFault, keyFault_withSql, autoIncrementFault_withSql, ownColumnsFault_withSql,
    targetFault_withSql, foreignKeys]
  simp only [Document.Table.withSql, name_withSql, List.map_eq_nil_iff, List.findSome?_map,
    Function.comp_def, references]
  rfl

/-- No rule of a well-formed database looks at the SQL of a column. -/
theorem databaseFault_withSql : databaseFault (d.withSql sql) = databaseFault d := by
  have names : (d.withSql sql).tables.map Document.Table.name =
      d.tables.map Document.Table.name := List.map_map
  have rules : (d.withSql sql).tables.findSome? (tableFault (d.withSql sql)) =
      d.tables.findSome? (tableFault d) :=
    List.findSome?_map.trans (congrArg (d.tables.findSome? ·) (funext fun _ => tableFault_withSql))
  rw [databaseFault, names, rules]
  rfl

theorem resolveTable_withSql (t : Document.Table) :
    resolveTable (t.withSql sql) = (resolveTable t).withSql sql := by
  have flagged (c : Column) : (c.withSql sql).primaryKey = c.primaryKey := rfl
  simp only [resolveTable, Document.Table.withSql, Table.withSql, List.findIdx?_map,
    Function.comp_def, flagged]

/-- A database is accepted whatever SQL its columns are given, and its schema has that SQL. -/
theorem ofDatabase_withSql {s : Schema} (accepted : ofDatabase d = .ok s) :
    ofDatabase (d.withSql sql) = .ok { s with tables := s.tables.map (Table.withSql sql) } := by
  obtain ⟨fault, rfl⟩ := ofDatabase_eq_ok_iff.1 accepted
  refine ofDatabase_eq_ok_iff.2 ⟨databaseFault_withSql.trans fault, ?_⟩
  have resolved : (d.withSql sql).tables.map resolveTable =
      (d.tables.map resolveTable).map (Table.withSql sql) := by
    simp only [Document.Database.withSql, List.map_map, Function.comp_def, resolveTable_withSql]
  rw [resolved]
  rfl

/-! ## Copies -/

/-- The SQL that a clause copies. -/
def Clause.sql? : Clause → Option String
  | .default text | .check text => some text
  | .notNull _ | .primaryKey _ | .unique _ | .autoIncrement | .references _ => none

/-- The SQL that a constraint copies. -/
def Constraint.sql? : Constraint → Option String
  | .check c => some c.expression
  | .primaryKey _ | .unique _ | .foreignKey _ => none

/-- The name of a constraint, which is copied as well. -/
def Constraint.name? : Constraint → Option String
  | .primaryKey k | .unique k => k.name
  | .check c => c.name
  | .foreignKey k => k.name

/-- The SQL that the statement of a table copies, in the order in which it stands there. -/
def copied (t : Table) : List String :=
  (t.columns.mapIdx fun i c =>
    (columnClauses c (t.primaryKey = .column i)).filterMap Clause.sql?).flatten ++
  (tableConstraints t).filterMap Constraint.sql?

theorem sql_columnClauses (c : Column) (isKey : Bool) :
    (columnClauses c isKey).filterMap Clause.sql? = c.default.toList ++ c.check.toList := by
  have optional {α : Type} (clause : α → Clause) (o : Option α) :
      (o.map clause).toList.filterMap Clause.sql? = (o.bind (Clause.sql? ∘ clause)).toList := by
    cases o with
    | none => rfl
    | some a => cases same : (clause a).sql? <;> simp [same]
  simp [columnClauses, List.filterMap_append, optional, apply_ite (List.filterMap Clause.sql?),
    Function.comp_def, Clause.sql?, List.filterMap_cons]

theorem sql_tableConstraints (t : Table) :
    (tableConstraints t).filterMap Constraint.sql? = t.checks.map Document.Check.expression := by
  cases key : t.primaryKey <;>
    simp [tableConstraints, key, List.filterMap_cons, List.filterMap_map, Function.comp_def,
      Constraint.sql?]

/-- Whether a column is the primary key does not matter to its SQL. -/
theorem copied_eq (t : Table) : copied t =
    t.columns.flatMap (fun c => c.default.toList ++ c.check.toList) ++
      t.checks.map Document.Check.expression := by
  have columns : (t.columns.mapIdx fun i c =>
      (columnClauses c (t.primaryKey = .column i)).filterMap Clause.sql?) =
        t.columns.map fun c => c.default.toList ++ c.check.toList := by
    refine List.ext_getElem? fun i => ?_
    rw [List.getElem?_mapIdx, List.getElem?_map]
    exact congrArg (Option.map · _) (funext fun c => sql_columnClauses c _)
  rw [copied, columns, sql_tableConstraints, List.flatMap_def]

/-- The name of a constraint is visible, because it is trimmed and dropped if nothing is left. -/
theorem name_visible {t : Document.Table} {k : Constraint}
    (mem : k ∈ tableConstraints (resolveTable t)) {name : String} (named : k.name? = some name) :
    Text.isBlank name = false := by
  have visible {raw : Option String} (h : raw.bind Text.visible? = some name) :
      Text.isBlank name = false := by
    obtain ⟨_, -, h⟩ := Option.bind_eq_some_iff.1 h
    simpa [Text.isVisible] using Text.isVisible_of_visible? h
  have mem := mem_tableConstraints.1 mem
  cases k with
  | primaryKey k =>
    have keyed : (resolveTable t).primaryKey = .constraint k := mem
    unfold resolveTable at keyed
    split at keyed
    · cases keyed
      exact visible named
    · cases keyed
    · cases keyed
  | check c =>
    obtain ⟨_, -, rfl⟩ := List.mem_map.1 mem
    exact visible named
  | unique k =>
    obtain ⟨_, -, rfl⟩ := List.mem_map.1 mem
    exact visible named
  | foreignKey k =>
    obtain ⟨_, -, rfl⟩ := List.mem_map.1 mem
    exact visible named

/-! ## Text -/

theorem infix_join {part : String} {parts : List String} (sep : String) (mem : part ∈ parts) :
    part.toList <:+: (Text.join sep parts).toList := by
  obtain ⟨before, after, rfl⟩ := List.append_of_mem mem
  induction before with
  | nil =>
    have joined := Text.toList_join_cons sep id part after
    rw [List.map_id, id] at joined
    rw [List.nil_append, joined]
    exact (List.prefix_append _ _).isInfix
  | cons first before ih =>
    refine (ih (by simp)).trans (List.IsSuffix.isInfix ?_)
    have more : before ++ part :: after ≠ [] := by simp
    simp only [Text.join, List.cons_append, String.intercalate_cons_of_ne_nil more,
      String.toList_append]
    exact List.suffix_append _ _

theorem infix_of_definition {t : Table} {text : String} (mem : text ∈ definitions t) :
    text.toList <:+: (createText t).toList := by
  refine (infix_join ", " mem).trans ?_
  simp only [createText_eq, String.toList_append]
  exact ((List.suffix_append _ _).isInfix).trans (List.prefix_append _ _).isInfix

theorem infix_of_clause {t : Table} {c : Column} {i : Nat} (column : t.columns[i]? = some c)
    {k : Clause} (mem : k ∈ columnClauses c (t.primaryKey = .column i)) :
    (" " ++ k.text).toList <:+: (createText t).toList := by
  have defined : columnText c (t.primaryKey = .column i) ∈ definitions t := by
    refine List.mem_append_left _ (List.mem_of_getElem? (i := i) ?_)
    rw [List.getElem?_mapIdx, column]
    rfl
  refine List.IsInfix.trans ?_ (infix_of_definition defined)
  obtain ⟨before, after, clauses⟩ := List.append_of_mem mem
  rw [columnText_eq, clauses, clausesText_append, clausesText_cons]
  simp only [String.toList_append]
  exact (List.infix_append' _ _ _).trans (List.suffix_append _ _).isInfix

theorem infix_of_constraint {t : Table} {k : Constraint} (mem : k ∈ tableConstraints t) :
    k.text.toList <:+: (createText t).toList :=
  infix_of_definition (List.mem_append_right _ (List.mem_map_of_mem mem))

/-! ## Schemas -/

/-- In the statements of a schema the SQL of tables and the names of constraints are visible. A
blank clause stands in the statement of a table exactly if one of its columns has a blank default or
a blank check, and what a column has stands in the statement as it is. Its database is accepted with
any SQL for its columns in place of this one. -/
theorem blank_sql_iff {s : Schema} (accepted : ofDatabase d = .ok s) :
    (∀ t ∈ s.tables,
      ((∃ text ∈ copied t, Text.isBlank text) ↔
        ∃ c ∈ t.columns, ∃ text, (c.default = some text ∨ c.check = some text) ∧
          Text.isBlank text) ∧
      (∀ k ∈ tableConstraints t, k.text.toList <:+: (createText t).toList ∧
        (∀ text, k.sql? = some text → Text.isBlank text = false) ∧
        ∀ name, k.name? = some name → Text.isBlank name = false) ∧
      ∀ c ∈ t.columns, ∀ text,
        (c.default = some text → (" DEFAULT " ++ text).toList <:+: (createText t).toList) ∧
        (c.check = some text → (" " ++ checkText text).toList <:+: (createText t).toList)) ∧
    ∀ sql, ofDatabase (d.withSql sql) =
      .ok { s with tables := s.tables.map (Table.withSql sql) } := by
  obtain ⟨fit, resolved⟩ := exists_resolved accepted
  refine ⟨fun t mem => ?_, fun sql => ofDatabase_withSql accepted⟩
  obtain ⟨t, mem', rfl⟩ := resolved t mem
  have checks : ∀ c ∈ (resolveTable t).checks, Text.isBlank c.expression = false := by
    intro c mem
    obtain ⟨own, declared, rfl⟩ := List.mem_map.1 mem
    exact (fit.tables t mem').checks own declared
  refine ⟨?_, fun k written => ⟨infix_of_constraint written, ?_, fun _ => name_visible written⟩, ?_⟩
  · simp only [copied_eq, List.mem_append, List.mem_flatMap, Option.mem_toList, List.mem_map]
    constructor
    · rintro ⟨text, ⟨c, column, own⟩ | ⟨c, check, rfl⟩, blank⟩
      · exact ⟨c, column, text, own, blank⟩
      · rw [checks c check] at blank
        cases blank
    · rintro ⟨c, column, text, own, blank⟩
      exact ⟨text, .inl ⟨c, column, own⟩, blank⟩
  · intro text copies
    cases k with
    | check c =>
      cases copies
      exact checks c (mem_tableConstraints.1 written)
    | primaryKey | unique | foreignKey => cases copies
  · intro c column text
    obtain ⟨i, column⟩ := List.getElem?_of_mem column
    constructor
    · intro own
      have clause := infix_of_clause column (k := .default text) (by simp [columnClauses, own])
      unfold Clause.text at clause
      simpa using clause
    · intro own
      exact infix_of_clause column (k := .check text) (by simp [columnClauses, own])

/-- A table of tasks whose numbers are checked; `default` and `check` are SQL of their titles. -/
def Tasks.titled (default check : Option String) : Document.Table where
  name := "tasks"
  ifNotExists := false
  columns := [⟨"id", .integer, none, some .none, none, false, none, none, none⟩,
    ⟨"title", .text, none, none, none, false, default, check, none⟩]
  primaryKey := none
  unique := []
  checks := [⟨some " positive ", "id > 0"⟩]
  foreignKeys := []

theorem blank_sql_iff_titled :
    ∃ s t, ofDatabase ⟨"todo", 1, [Tasks.titled (some "'none'") (some "title > ''")], []⟩ = .ok s ∧
      t ∈ s.tables ∧ copied t = ["'none'", "title > ''", "id > 0"] ∧
      (¬ ∃ text ∈ copied t, Text.isBlank text) ∧
      definitions t = ["id INTEGER PRIMARY KEY",
        "title TEXT DEFAULT 'none' CHECK ( title > '' )",
        "CONSTRAINT positive CHECK ( id > 0 )"] := by
  have accepted : ofDatabase
    ⟨"todo", 1, [Tasks.titled (some "'none'") (some "title > ''")], []⟩ = .ok _ := rfl
  refine ⟨_, _, accepted, .head _, rfl, ?_, by decide +kernel⟩
  rw [((blank_sql_iff accepted).1 _ (.head _)).1]
  rintro ⟨c, column, text, own, blank⟩
  rcases List.mem_pair.1 column with rfl | rfl
  · rcases own with own | own <;> cases own
  · rcases own with own | own <;> cases own <;> exact absurd blank (by decide)

/-- A table may be accepted whose statement has a blank check or a blank default; the engine does
not create it. -/
theorem blank_sql_accepted :
    (∃ s t, ofDatabase ⟨"todo", 1, [Tasks.titled none (some " ")], []⟩ = .ok s ∧ t ∈ s.tables ∧
      definitions t = ["id INTEGER PRIMARY KEY", "title TEXT CHECK (   )",
        "CONSTRAINT positive CHECK ( id > 0 )"] ∧
      (∃ text ∈ copied t, Text.isBlank text) ∧
      (Engine.Database.empty.run (createText t) []).2.toOption.isNone) ∧
    ∃ s t, ofDatabase ⟨"todo", 1, [Tasks.titled (some " ") none], []⟩ = .ok s ∧ t ∈ s.tables ∧
      definitions t = ["id INTEGER PRIMARY KEY", "title TEXT DEFAULT  ",
        "CONSTRAINT positive CHECK ( id > 0 )"] ∧
      (∃ text ∈ copied t, Text.isBlank text) ∧
      (Engine.Database.empty.run (createText t) []).2.toOption.isNone := by
  constructor
  · exact ⟨_, _, rfl, .head _, by decide +kernel, by decide +kernel, by decide +kernel⟩
  · exact ⟨_, _, rfl, .head _, by decide +kernel, by decide +kernel, by decide +kernel⟩

end Schema
end ResourceProvider
