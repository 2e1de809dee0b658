import ResourceProvider.Proofs.Engine.Joined
import ResourceProvider.Proofs.Provider.Counts
import ResourceProvider.Proofs.Provider.RoundTrip
import ResourceProvider.Proofs.Sql.Decoding
/-!
# Records of joined rows

The statement of a lookup names the table of its endpoint first, and the tables that are joined
behind it. The rows that a plain query gives start with the columns of the endpoint's own table, so
the record of a row has their values, whatever columns of the same names are joined. Columns that
only joined tables have are all there (`leftmost_kept`).
-/
namespace ResourceProvider

open Engine (Cell Database IsQuery ResultRow Row)
open Route (Locator)
open Sql (cellOfValue recordOfRow valueOfCell)

/-! ## Records of joined rows -/

/-- The record has each name of the row once, with the value of the leftmost column of that name. -/
structure Record.KeepsLeftmost (record : Record) (row : ResultRow) : Prop where
  ordered : record.IsOrdered
  names : ∀ name, name ∈ record.columns ↔ name ∈ row.map Prod.fst
  leftmost : ∀ before name cell after, row = before ++ (name, cell) :: after →
    name ∉ before.map Prod.fst → record.lookup name = some (valueOfCell cell)

/-- The record has the values of the row of the table, each under the name of its column. -/
def Record.HoldsRow (record : Record) (t : Engine.Table) (r : Row) : Prop :=
  ∀ (i : Nat) (column : Engine.Column), t.columns[i]? = some column →
    ∃ cell, r.cells[i]? = some cell ∧ record.lookup column.name = some (valueOfCell cell)

theorem Record.keepsLeftmost_recordOfRow (row : ResultRow) :
    Record.KeepsLeftmost (recordOfRow row) row where
  ordered := Sql.ordered_recordOfRow row
  names := fun _ => Sql.mem_columns_recordOfRow row
  leftmost := by
    rintro before name cell after rfl new
    exact Sql.lookup_leftmost new

/-- A row of a table stays as it is in front of whatever is joined to it. -/
theorem Record.holdsRow_recordOfRow {t : Engine.Table} (regular : t.Regular) {r : Row}
    (hr : r ∈ t.rows) (joined : ResultRow) :
    Record.HoldsRow (recordOfRow (t.named r ++ joined)) t r := by
  intro i column here
  have bound : i < t.columns.length := (List.getElem?_eq_some_iff.1 here).1
  have inside : i < r.cells.length := by
    rw [regular.width r hr]
    exact bound
  refine ⟨r.cells[i], List.getElem?_eq_getElem inside, ?_⟩
  have place : (t.named r)[i]? = some (column.name, r.cells[i]) := by
    simp [Engine.Table.named, here, Row.places, List.getElem?_append_left inside, inside]
  obtain ⟨before, after, split⟩ := List.append_of_mem (List.mem_of_getElem? place)
  -- No other column of the table has the name.
  have apart : ((t.named r).map Prod.fst).Nodup := by
    rw [t.names_named]
    exact regular.names.of_map Text.lower
  have new : column.name ∉ before.map Prod.fst := by
    rw [split, List.map_append, List.map_cons, List.nodup_middle, List.nodup_cons] at apart
    exact fun mem => apart.1 (List.mem_append_left _ mem)
  rw [split, List.append_assoc, List.cons_append, Sql.lookup_leftmost new]

theorem Record.mem_columns_joined {t : Engine.Table} {others : List Engine.Table} {r : Row}
    {parts : List ResultRow} (contributed : List.Forall₂ Engine.Table.Contributes others parts)
    (name : String) :
    name ∈ (recordOfRow (t.named r ++ parts.flatten)).columns ↔
      ∃ u ∈ t :: others, name ∈ u.columns.map Engine.Column.name := by
  have joined : name ∈ parts.flatten.map Prod.fst ↔
      ∃ u ∈ others, name ∈ u.columns.map Engine.Column.name := by
    induction contributed with
    | nil => simp
    | cons own more ih =>
      rw [List.flatten_cons, List.map_append, List.mem_append, ih, own.names,
        List.exists_mem_cons_iff]
  rw [Sql.mem_columns_recordOfRow, List.map_append, List.mem_append, joined, t.names_named,
    List.exists_mem_cons_iff]

/-! ## The text of a lookup -/

/-- The table of the endpoint stands first, and a blank sets it apart from what follows. -/
def Plan.NamesFirst (p : Plan) (q : Lookup) (text : String) : Prop :=
  ∃ columns rest, (q.projection = [] → columns = "*") ∧
    text = "SELECT " ++ columns ++ " FROM " ++ p.endpoint.table ++ rest ∧
      ∀ c ∈ rest.toList.head?, c = ' '

theorem Plan.joinedTable_eq (p : Plan) (op : Operation) (l : Locator) :
    ∃ joins, p.joinedTable op l = p.endpoint.table ++ joins ∧
      ∀ c ∈ joins.toList.head?, c = ' ' := by
  unfold Plan.joinedTable
  generalize p.endpoint.join.toList ++ _ = joins
  cases joins with
  | nil => exact ⟨"", by simp [Text.join], by simp⟩
  | cons join joins =>
    refine ⟨" " ++ Text.join " " (join :: joins), ?_, fun c hc => ?_⟩
    · simp only [Text.join, String.intercalate_cons_cons, String.append_assoc]
    · rw [String.toList_append] at hc
      exact (Option.some.inj hc).symm

theorem Plan.namesFirst_of_composes {p : Plan} {l : Locator} {q : Lookup}
    {statement : Sql.Statement} (composed : p.Composes? statement (.lookup l q)) :
    p.NamesFirst q statement.text := by
  obtain ⟨selection, selected, query⟩ := composed
  obtain ⟨-, -, -, s₄, -, -, -, -, rfl⟩ := stages_of_selection selected
  obtain ⟨columns, clauses, all, text, opens⟩ := Sql.Selection.query_text rfl query
  obtain ⟨joins, table, blank⟩ := p.joinedTable_eq .query l
  refine ⟨columns, joins ++ clauses, all, ?_, fun c hc => ?_⟩
  · rw [text, if_pos rfl, table]
    simp only [String.append_assoc]
  · rw [String.toList_append, List.head?_append] at hc
    rcases Option.or_eq_some_iff.1 hc with first | ⟨-, later⟩
    · exact blank c first
    · exact opens.head c later

/-! ## Lookups -/

/-- What a query that is composed for all columns gives are rows of the endpoint's own table, each
followed by what the joined tables contribute. -/
theorem Plan.rows_of_composes {p : Plan} {l : Locator} {q : Lookup} {statement : Sql.Statement}
    (name : Schema.isIdentifier p.endpoint.table) (composed : p.Composes? statement (.lookup l q))
    (all : q.projection = []) (query : IsQuery statement.text) {db db' : Database}
    (regular : db.Keeps Engine.Table.Regular) {outcome : Engine.Outcome}
    (answer : db.answer statement = (db', .ok outcome)) :
    ∃ t others, db.table? p.endpoint.table = some t ∧ db.Reads statement.text (t :: others) ∧
      ∀ row ∈ outcome.rows, ∃ r ∈ t.rows, ∃ parts,
        List.Forall₂ Engine.Table.Contributes others parts ∧ row = t.named r ++ parts.flatten := by
  obtain ⟨columns, rest, star, text, blank⟩ := namesFirst_of_composes composed
  rw [star all] at text
  replace text : statement.text = "SELECT * FROM " ++ p.endpoint.table ++ rest := text
  rw [text] at query ⊢
  rw [Database.answer, text] at answer
  rcases Database.run_joined regular (statement.params.map cellOfValue) name blank query with
    ⟨e, failed⟩ | ⟨t, others, rows, found, reads, run, members⟩
  · rw [failed] at answer
    cases (Prod.mk.inj answer).2
  · rw [run] at answer
    cases answer
    exact ⟨t, others, found, reads, members⟩

/-- The record of a row has each name once, with the value of the leftmost column of that name; so
what the first columns say stays, and the columns behind them add what is new. The statement of a
lookup names the table of its endpoint first. If it is a plain query, the rows that it gives for all
columns start with a row of this table, and their records have the values of that row and the columns
of all tables. -/
theorem leftmost_kept :
    (∀ row : ResultRow, (recordOfRow row).KeepsLeftmost row ∧
      ∀ c, recordOfRow (row ++ [c]) =
        if c.1 ∈ (recordOfRow row).columns then recordOfRow row
        else Json.insertField c.1 (valueOfCell c.2) (recordOfRow row)) ∧
    (∀ (own joined : ResultRow) (name : String),
      (name ∈ own.map Prod.fst →
        (recordOfRow (own ++ joined)).lookup name = (recordOfRow own).lookup name) ∧
      (name ∉ own.map Prod.fst →
        (recordOfRow (own ++ joined)).lookup name = (recordOfRow joined).lookup name)) ∧
    (∀ (p : Plan) (l : Locator) (q : Lookup) (statement : Sql.Statement),
      p.Composes? statement (.lookup l q) → p.NamesFirst q statement.text) ∧
    ∀ (doc : Document) (hooks : Hooks) (c : Compiled), doc.compile hooks = .ok c →
      ∀ (l : Locator) (q : Lookup) (s s' : Session) (found : Found),
        (c.dispatch.query l q).run s = .ok found s' →
        ∃ p statement outcome, c.dispatch.resolve l = .ok p ∧
          p.Composes? statement (.lookup l q) ∧
          s.database.answer statement = (s'.database, .ok outcome) ∧
          found.records = outcome.rows.map recordOfRow ∧
          (q.projection = [] → IsQuery statement.text → s.database.Reached →
            ∃ t others, s.database.table? p.endpoint.table = some t ∧
              s.database.Reads statement.text (t :: others) ∧
              ∀ row ∈ outcome.rows, ∃ r ∈ t.rows, (recordOfRow row).HoldsRow t r ∧
                (∀ name, name ∈ (recordOfRow row).columns ↔
                  ∃ u ∈ t :: others, name ∈ u.columns.map Engine.Column.name) ∧
                ∃ parts, List.Forall₂ Engine.Table.Contributes others parts ∧
                  row = t.named r ++ parts.flatten) := by
  refine ⟨fun row => ⟨Record.keepsLeftmost_recordOfRow row, Sql.recordOfRow_concat row⟩,
    fun own joined name => ⟨fun known => Sql.lookup_front known joined,
      fun new => Sql.lookup_behind new joined⟩,
    fun p l q statement composed => Plan.namesFirst_of_composes composed,
    fun doc hooks c compiled l q s s' found ran => ?_⟩
  obtain ⟨p, statement, outcome, resolved, composed, answer, records⟩ := Dispatch.query_run ran
  refine ⟨p, statement, outcome, resolved, composed, answer, records, fun all query reached => ?_⟩
  obtain ⟨schema, hschema, table⟩ := Document.table_compiled compiled resolved
  have name := (Schema.named_of_ofDatabase hschema).table table
  have regular := Database.regular_kept.reached reached
  obtain ⟨t, others, here, reads, members⟩ :=
    Plan.rows_of_composes name composed all query regular answer
  refine ⟨t, others, here, reads, fun row hrow => ?_⟩
  obtain ⟨r, hr, parts, contributed, rfl⟩ := members row hrow
  exact ⟨r, hr, Record.holdsRow_recordOfRow (regular.table? here) hr parts.flatten,
    Record.mem_columns_joined contributed, parts, contributed, rfl⟩

namespace Tasks

/-- Tasks that are served with the lists they are in. -/
def withLists : Document where
  database := ⟨"todo", 1, [
    ⟨"lists", false, [column "id" .integer (some .none), column "owner" .text none,
      column "title" .text none], none, [], [], []⟩,
    ⟨"tasks", false, [column "id" .integer (some .none), column "list" .integer none,
      column "title" .text none], none, [], [], []⟩], []⟩
  provider := ⟨"todo", [{
    name := "tasks"
    table := "tasks"
    mapColumns := []
    endpoints := [⟨"all", "tasks", "task", none, [], some "JOIN lists ON lists.id = tasks.list",
      none, none, none, none, Operation.all, []⟩]
    overrides := []
    notificationUris := []
    notifyDefaults := .empty }], .empty⟩

/-- A session after some statements. -/
def after (texts : List String) : Session :=
  ⟨texts.foldl (fun db text => (db.run text []).1) .empty, true, []⟩

theorem reached_after (texts : List String) : (after texts).database.Reached :=
  List.foldlRecOn texts _ .empty fun _ reached text _ => .run reached text []

/-- Adds a task to a list; their tables have two names in common. -/
def script : List String :=
  ["CREATE TABLE lists (id INTEGER PRIMARY KEY, owner TEXT, title TEXT)",
    "CREATE TABLE tasks (id INTEGER PRIMARY KEY, list INTEGER, title TEXT)",
    "INSERT INTO lists VALUES (7, 'me', 'work')", "INSERT INTO tasks VALUES (1, 7, 'plan')"]

/-- The names of the fields of a record, and its title. -/
def outline (r : Record) : List String × Option String :=
  (r.columns, match r.lookup "title" with
    | some (.str title) => some title
    | _ => none)

theorem query_withLists {c : Compiled} (hc : withLists.compile ⟨[], [], [], []⟩ = .ok c) {p : Plan}
    (resolved : c.dispatch.resolve ⟨"tasks"⟩ = .ok p) {statement : Sql.Statement}
    (composed : p.Composes? statement (.lookup ⟨"tasks"⟩ ⟨[], none, [], none⟩)) :
    p.endpoint.table = "tasks" ∧ IsQuery statement.text := by
  cases hc
  cases resolved
  obtain ⟨selection, selected, asked⟩ := composed
  cases selected
  cases asked
  exact ⟨by decide +kernel, by decide +kernel⟩

end Tasks

/-- A task keeps its number and its title; what its list adds is the owner. -/
theorem leftmost_kept_lists :
    ∃ c found s' t, Tasks.withLists.compile ⟨[], [], [], []⟩ = .ok c ∧
      (Tasks.after Tasks.script).database.Reached ∧
      (Tasks.after Tasks.script).database.table? "tasks" = some t ∧
      (c.dispatch.query ⟨"tasks"⟩ ⟨[], none, [], none⟩).run (Tasks.after Tasks.script) =
        .ok found s' ∧
      found.records.map Tasks.outline = [(["id", "list", "owner", "title"], some "plan")] ∧
      ∀ record ∈ found.records, ∃ r ∈ t.rows, record.HoldsRow t r := by
  have reached := Tasks.reached_after Tasks.script
  obtain ⟨c, hc, outlines⟩ : ∃ c, Tasks.withLists.compile ⟨[], [], [], []⟩ = .ok c ∧
      (Tasks.answered ((c.dispatch.query ⟨"tasks"⟩ ⟨[], none, [], none⟩).run
        (Tasks.after Tasks.script))).map (fun found => found.records.map Tasks.outline) =
          some [(["id", "list", "owner", "title"], some "plan")] :=
    ⟨_, rfl, by decide +kernel⟩
  obtain ⟨found, answered, outlines⟩ := Option.map_eq_some_iff.1 outlines
  obtain ⟨s', ran⟩ := Tasks.exists_of_answered answered
  obtain ⟨-, -, -, requests⟩ := leftmost_kept
  obtain ⟨p, statement, outcome, resolved, composed, -, records, joined⟩ :=
    requests _ _ c hc _ _ _ _ _ ran
  obtain ⟨table, query⟩ := Tasks.query_withLists hc resolved composed
  obtain ⟨t, others, here, -, rows⟩ := joined rfl query reached
  rw [table] at here
  refine ⟨c, found, s', t, hc, reached, here, ran, outlines, fun record hrecord => ?_⟩
  rw [records] at hrecord
  obtain ⟨row, hrow, rfl⟩ := List.mem_map.1 hrecord
  obtain ⟨r, hr, holds, -⟩ := rows row hrow
  exact ⟨r, hr, holds⟩

end ResourceProvider
