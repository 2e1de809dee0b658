import Mathlib
import ResourceProvider.Proofs.Engine.Spelled
import ResourceProvider.Proofs.Engine.Unchanged
import ResourceProvider.Proofs.Provider.Narrowing
import ResourceProvider.Proofs.Provider.Texts
import ResourceProvider.Proofs.Sql.Storage
/-!
# Records that are written back

A lookup without a projection at an endpoint without joins answers with the records of rows as they
are stored. A row without bytes that is updated with its record is left as it is
(`update_found_unchanged`). Bytes are read as a list of numbers, and lists are stored as their text.
-/
namespace ResourceProvider

open Engine (Cell Database ResultRow Row)
open Route (Locator)
open Sql (IsBytes IsStored Selection cellOfValue conjunction isBalanced recordOfRow valueOfCell)

/-! ## Records of rows -/

namespace Sql

/-- Each field of a record comes from a column of its row. -/
theorem mem_recordOfRow {row : ResultRow} {f : String × Json.Value} (h : f ∈ recordOfRow row) :
    ∃ c ∈ row, f = (c.1, valueOfCell c.2) := by
  induction row with
  | nil => cases h
  | cons c row ih =>
    rcases Json.mem_insertField h with rfl | later
    · exact ⟨c, List.mem_cons_self, rfl⟩
    · obtain ⟨c', hc', same⟩ := ih later
      exact ⟨c', List.mem_cons_of_mem _ hc', same⟩

end Sql

/-- Each field of the record is read from a column of the row. -/
def Record.IsReadFrom (record : Record) (t : Engine.Table) (r : Row) : Prop :=
  ∀ f ∈ record, ∃ i cell, t.columnIndex? f.1 = some i ∧ r.cells[i]? = some cell ∧
    f.2 = valueOfCell cell

theorem Record.isReadFrom_recordOfRow {t : Engine.Table} {r : Row} {row : ResultRow}
    (shown : t.Shows r row) : Record.IsReadFrom (recordOfRow row) t r := by
  intro f hf
  obtain ⟨c, hc, rfl⟩ := Sql.mem_recordOfRow hf
  obtain ⟨i, place, cell⟩ := shown c hc
  exact ⟨i, c.2, place, cell, rfl⟩

/-- What a record says is stored as it was, if there are no bytes. -/
theorem Record.IsReadFrom.shows {record : Record} {t : Engine.Table} {r : Row}
    (read : Record.IsReadFrom record t r) (plain : ∀ c ∈ r.cells, IsStored c ∧ ¬ IsBytes c) :
    t.Shows r (record.map fun f => (f.1, cellOfValue f.2)) := by
  intro c hc
  obtain ⟨f, hf, rfl⟩ := List.mem_map.1 hc
  obtain ⟨i, cell, place, here, value⟩ := read f hf
  obtain ⟨stored, bytes⟩ := plain cell (List.mem_of_getElem? here)
  exact ⟨i, place, by rw [here, value, (Sql.cellOfValue_valueOfCell stored).2 bytes]⟩

/-! ## Lookups -/

theorem Sql.Selection.isClauses_whereClause (s : Selection) {ks : List String}
    (known : "where" ∈ ks) : Engine.IsClauses ks s.whereClause := by
  unfold whereClause
  split
  · exact .inl rfl
  · exact .inr ⟨"WHERE", s.condition, by decide, ⟨"where", known, by decide⟩, rfl⟩

/-- A clause starts with the first word of its keyword. -/
theorem Sql.Selection.isClauses_optionalClause (word : String) (name : Schema.isIdentifier word)
    (known : ∃ k ∈ Engine.clauseWords, (⟨.word, [' '], word⟩ : Engine.Token).isWord k)
    {rest : String} (ends : rest = "" ∨ rest = " BY") (clause : Option String) :
    Engine.IsClauses Engine.clauseWords (optionalClause (word ++ rest) clause) := by
  unfold optionalClause
  split
  · exact .inl rfl
  · split
    · exact .inl rfl
    · rename_i clause _
      right
      rcases ends with rfl | rfl
      · exact ⟨word, clause, name, known, by simp only [String.append_empty]⟩
      · exact ⟨word, "BY " ++ clause, name, known, by simp only [String.append_assoc]; rfl⟩

/-- The statement of a query: the columns, the table, and the clauses behind it. -/
theorem Sql.Selection.query_text {s : Selection} {projection : List String} {shape : Shape}
    {statement : Statement} {table : String} (found : s.table = some table)
    (h : s.query projection shape = .ok statement) :
    ∃ columns clauses, (projection = [] → columns = "*") ∧
      statement.text = "SELECT " ++ columns ++ " FROM " ++ table ++ clauses ∧
        Engine.IsClauses Engine.clauseWords clauses := by
  obtain ⟨table', found', rfl⟩ := ok_of_requiredTable h
  rw [found] at found'
  cases found'
  refine ⟨if projection = [] then "*" else Text.join ", " (projection.map s.projected),
    s.whereClause ++ optionalClause "GROUP BY" shape.groupBy ++
      optionalClause "HAVING" shape.having ++ optionalClause "ORDER BY" shape.orderBy ++
        optionalClause "LIMIT" shape.limit, fun all => if_pos all, ?_, ?_⟩
  · simp only [String.append_assoc]
  · have group := isClauses_optionalClause "GROUP" (by decide) (by decide) (.inr rfl)
      shape.groupBy
    have having_ := isClauses_optionalClause "HAVING" (by decide) (by decide) (.inl rfl)
      shape.having
    have order := isClauses_optionalClause "ORDER" (by decide) (by decide) (.inr rfl)
      shape.orderBy
    have limit := isClauses_optionalClause "LIMIT" (by decide) (by decide) (.inl rfl)
      shape.limit
    exact Engine.IsClauses.append (Engine.IsClauses.append (Engine.IsClauses.append
      (Engine.IsClauses.append (s.isClauses_whereClause (by decide)) group) having_) order) limit

/-- The statement of a query for all columns. -/
theorem Sql.Selection.query_all {s : Selection} {shape : Shape} {statement : Statement}
    {table : String} (found : s.table = some table) (h : s.query [] shape = .ok statement) :
    ∃ clauses, statement.text = "SELECT * FROM " ++ table ++ clauses ∧
      Engine.IsClauses Engine.clauseWords clauses := by
  obtain ⟨columns, clauses, all, text, opens⟩ := Selection.query_text found h
  rw [all rfl] at text
  exact ⟨clauses, text, opens⟩

/-- A query issues the statement that its plan composes; its records are those of the rows that the
statement gives. -/
theorem Dispatch.query_eq {d : Dispatch} {l : Locator} {q : Lookup} {s : Session} {p : Plan}
    {statement : Sql.Statement} (plan : d.planFor .query l = .ok p)
    (composed : p.Composes? statement (.lookup l q)) (isOpen : s.isOpen) :
    (d.query l q).run s = match s.database.answer statement with
      | (db, .ok outcome) =>
        .ok ⟨outcome.rows.map recordOfRow, p.watched l⟩ (s.issued statement db)
      | (db, .error e) => .error (.storage e.error) (s.issued statement db) := by
  obtain ⟨selection, selected, query⟩ := composed
  rw [Dispatch.query, plan, Action.ofExcept_ok, pure_bind, selected, Action.ofExcept_ok, pure_bind,
    EStateM.run_bind, Action.reach_run isOpen, query]
  change ((Action.issue statement >>= _) : Action Found).run s = _
  rw [EStateM.run_bind, Action.issue_run statement isOpen]
  cases s.database.answer statement with
  | mk db answer => cases answer <;> rfl

theorem Dispatch.query_run {d : Dispatch} {l : Locator} {q : Lookup} {s s' : Session}
    {found : Found} (h : (d.query l q).run s = .ok found s') :
    ∃ p statement outcome, d.resolve l = .ok p ∧ p.Composes? statement (.lookup l q) ∧
      s.database.answer statement = (s'.database, .ok outcome) ∧
      found.records = outcome.rows.map recordOfRow := by
  have ran := h
  obtain ⟨p, plan, h⟩ := Action.ok_of_ofExcept_bind h
  obtain ⟨selection, selected, h⟩ := Action.ok_of_ofExcept_bind h
  rw [EStateM.run_bind] at h
  cases isOpen : s.isOpen with
  | false =>
    rw [Action.reach_closed isOpen] at h
    cases h
  | true =>
    rw [Action.reach_run isOpen] at h
    obtain ⟨statement, query, -⟩ := Action.ok_of_ofExcept_bind h
    have composed : p.Composes? statement (.lookup l q) :=
      ⟨selection, selected, ok_of_mapError query⟩
    rw [Dispatch.query_eq plan composed isOpen] at ran
    refine ⟨p, statement, ?_⟩
    cases answer : s.database.answer statement with
    | mk db answered =>
      rw [answer] at ran
      cases answered with
      | error e => cases ran
      | ok outcome =>
        cases ran
        exact ⟨outcome, resolve_of_planFor plan, composed, rfl, rfl⟩

namespace Plan

/-- A lookup reads rows of the table of the endpoint as they are: it asks for all columns, joins no
other table, and is a single query, with no other query beside or inside it. -/
structure ReadsRows (p : Plan) (l : Locator) (q : Lookup) : Prop where
  projection : q.projection = []
  table : p.joinedTable .query l = p.endpoint.table
  query : ∀ statement, p.Composes? statement (.lookup l q) → Engine.IsQuery statement.text

/-- An update is one statement, whose placeholders take its values in order, and it selects no row of
a table but one. -/
def SelectsOnly (p : Plan) (l : Locator) (record : Record) (f : Filter) (t : Engine.Table)
    (r : Row) : Prop :=
  ∀ statement, p.Composes? statement (.change (.update l record f)) →
    (∀ u ∈ Engine.tokens statement.text, u.isUnnamed) ∧
      ∃ rows, t.selection? (statement.params.map cellOfValue) statement.text = some rows ∧
        ∀ u ∈ rows, u = r

end Plan

theorem Dispatch.query_rows {d : Dispatch} {l : Locator} {q : Lookup} {p : Plan} {s s' : Session}
    {found : Found} (resolved : d.resolve l = .ok p) (name : Schema.isIdentifier p.endpoint.table)
    (reads : p.ReadsRows l q) (h : (d.query l q).run s = .ok found s') :
    s'.database = s.database ∧ ∀ record ∈ found.records, ∃ t r,
      s.database.table? p.endpoint.table = some t ∧ r ∈ t.rows ∧
        record = recordOfRow (t.named r) := by
  obtain ⟨p', statement, outcome, resolved', composed, answer, records⟩ := Dispatch.query_run h
  rw [resolved] at resolved'
  cases resolved'
  have single := (reads.query statement composed).single
  obtain ⟨selection, selected, query⟩ := composed
  obtain ⟨-, -, -, s₄, -, -, -, -, rfl⟩ := Plan.stages_of_selection selected
  rw [reads.projection] at query
  have table : (s₄.fromTable (p.joinedTable .query l)).table = some p.endpoint.table := by
    rw [reads.table]
    rfl
  obtain ⟨clauses, text, opens⟩ := Selection.query_all table query
  rw [Database.answer, text] at answer
  rw [text] at single
  rcases s.database.run_all (statement.params.map cellOfValue) name opens single with
    ⟨e, failed⟩ | ⟨t, rows, table, run, members⟩
  · rw [failed] at answer
    cases (Prod.mk.inj answer).2
  · rw [run] at answer
    obtain ⟨same, done⟩ := Prod.mk.inj answer
    cases done
    refine ⟨same.symm, fun record hrecord => ?_⟩
    rw [records] at hrecord
    obtain ⟨row, hrow, rfl⟩ := List.mem_map.1 hrecord
    obtain ⟨r, hr, rfl⟩ := members row hrow
    exact ⟨t, r, table, hr, rfl⟩

/-! ## Updates -/

theorem Dispatch.ne_nil_of_prepare {d : Dispatch} {l : Locator} {record : Record} {f : Filter}
    {prepared : Prepared} (h : d.prepare (.update l record f) = .ok prepared) : record ≠ [] := by
  obtain ⟨p, -, prepares⟩ := Dispatch.prepares_of_prepare h
  cases prepares with
  | update _ _ columns _ => exact columns

theorem Dispatch.update_unchanged {d : Dispatch} {l : Locator} {p : Plan} {f : Filter}
    (resolved : d.resolve l = .ok p) (name : Schema.isIdentifier p.endpoint.table)
    {record : Record} (names : Record.misfit? p.table record = none →
      ∀ c ∈ List.map Prod.fst record, Schema.isIdentifier c)
    {s : Session} (intact : s.database.Intact) {t : Engine.Table} {r : Row}
    (table : s.database.table? p.endpoint.table = some t) (hr : r ∈ t.rows) (stores : t.Stores r)
    (plain : ∀ c ∈ r.cells, IsStored c ∧ ¬ IsBytes c) (read : record.IsReadFrom t r)
    (selects : p.SelectsOnly l record f t r) :
    ((d.update l record f).after s).database = s.database := by
  have alone := d.applyAlone_database (.update l record f) s
  rw [Dispatch.applyAlone, Action.after_wrap] at alone
  rcases alone with same | ⟨prepared, ready, after⟩
  · exact same
  have columns := Dispatch.ne_nil_of_prepare ready
  have composed := Dispatch.compose_of_prepare ready
  generalize prepared.statement = statement at after composed
  obtain ⟨p', resolved', composes⟩ := Dispatch.exists_plan_of_compose composed
  cases resolved.symm.trans resolved'
  obtain ⟨unnamed, rows, selection, only⟩ := selects statement composes
  obtain ⟨fits, conditions, selected, updated⟩ := composes
  obtain ⟨table', named, rfl⟩ := Sql.Selection.ok_of_requiredTable updated
  rw [Plan.table_of_selection selected (by decide)] at named
  cases named
  have unchanged := Database.run_update_unchanged intact name table hr stores (read.shows plain)
    (by simpa using columns)
    (by simpa [Function.comp_def] using names (Plan.fits_of_checkRecord fits))
    (conditions.isClauses_whereClause (List.mem_singleton_self _))
    (conditions.argValues.map cellOfValue) (by simp [Engine.assignments, Function.comp_def]) unnamed
    (by simpa [Function.comp_def] using selection) only
  rw [after, Database.answer]
  simpa [Function.comp_def] using unchanged

/-! ## Records that are written back -/

/-- What is read from a cell is stored as the same cell, unless the cell holds bytes. The records
that a lookup finds are those of rows as they are stored. An update that selects nothing but a row,
with a record that is read from this row, leaves the database as it is, if the row holds no bytes,
its columns convert nothing, and no trigger looks at the change. -/
theorem update_found_unchanged :
    (∀ cell, IsStored cell → (cellOfValue (valueOfCell cell) = cell ↔ ¬ IsBytes cell)) ∧
    ∀ (doc : Document) (hooks : Hooks) (c : Compiled), doc.compile hooks = .ok c →
      (∀ (l : Locator) (p : Plan) (q : Lookup) (s s' : Session) (found : Found),
        c.dispatch.resolve l = .ok p → p.ReadsRows l q →
        (c.dispatch.query l q).run s = .ok found s' → s'.database = s.database ∧
        ∀ record ∈ found.records, ∃ t r, s.database.table? p.endpoint.table = some t ∧
          r ∈ t.rows ∧ record = recordOfRow (t.named r) ∧
          (t.Intact → t.Stores r → record.IsReadFrom t r)) ∧
      ∀ (l : Locator) (p : Plan) (record : Record) (f : Filter) (s : Session) (t : Engine.Table)
        (r : Row), c.dispatch.resolve l = .ok p → s.database.Intact → s.database.triggers = [] →
        s.database.table? p.endpoint.table = some t → r ∈ t.rows → t.Stores r →
        (∀ cell ∈ r.cells, IsStored cell ∧ ¬ IsBytes cell) → record.IsReadFrom t r →
        p.SelectsOnly l record f t r →
        ((c.dispatch.update l record f).after s).database = s.database := by
  refine ⟨fun _ stored => Sql.cellOfValue_valueOfCell stored, fun doc hooks c compiled => ⟨?_, ?_⟩⟩
  · intro l p q s s' found resolved reads ran
    obtain ⟨schema, hschema, table⟩ := Document.table_compiled compiled resolved
    have named := Schema.named_of_ofDatabase hschema
    obtain ⟨same, rows⟩ := Dispatch.query_rows resolved (named.table table) reads ran
    refine ⟨same, fun record hrecord => ?_⟩
    obtain ⟨t, r, here, hr, rfl⟩ := rows record hrecord
    exact ⟨t, r, here, hr, rfl, fun intact stores =>
      Record.isReadFrom_recordOfRow (intact.shows stores.width)⟩
  · intro l p record f s t r resolved intact _ here hr stores plain read selects
    obtain ⟨schema, hschema, table⟩ := Document.table_compiled compiled resolved
    have named := Schema.named_of_ofDatabase hschema
    exact Dispatch.update_unchanged resolved (named.table table) (named.record table) intact here hr
      stores plain read selects

namespace Tasks

/-- How many rows a statement gave. -/
def rowCount : Engine.Ran → Option Nat
  | (_, .ok outcome) => some outcome.rows.length
  | (_, .error _) => none

theorem rowCount_lists :
    rowCount (lists.database.run "SELECT * FROM tasks" []) = some 2 := by
  have single : Engine.splitStatements (Engine.tokens "SELECT * FROM tasks") =
      [Engine.tokens "SELECT * FROM tasks"] := by
    decide +kernel
  rw [Database.run_single _ _ single]
  cbv

theorem intact_lists : lists.database.Intact := by
  constructor
  · simp [lists]
  · intro t ht
    cases List.mem_singleton.1 ht
    exact ⟨by decide, by decide⟩

theorem stores_lists {t : Engine.Table} (ht : t ∈ lists.database.tables) {r : Row}
    (hr : r ∈ t.rows) : t.Stores r := by
  cases List.mem_singleton.1 ht
  rcases List.mem_pair.1 hr with rfl | rfl
  all_goals exact ⟨rfl, by decide, by decide, by decide, by simp⟩

theorem plain_lists {t : Engine.Table} (ht : t ∈ lists.database.tables) {r : Row}
    (hr : r ∈ t.rows) : ∀ cell ∈ r.cells, IsStored cell ∧ ¬ IsBytes cell := by
  cases List.mem_singleton.1 ht
  rcases List.mem_pair.1 hr with rfl | rfl <;> simp [IsStored, IsBytes]

/-- All tasks are looked up as they are. -/
theorem query_lists :
    ∃ statement, compiled.dispatch.planFor .query ⟨"tasks"⟩ = .ok whole ∧
      whole.ReadsRows ⟨"tasks"⟩ ⟨[], none, [], none⟩ ∧
      whole.Composes? statement (.lookup ⟨"tasks"⟩ ⟨[], none, [], none⟩) ∧
        statement.text = "SELECT * FROM tasks" ∧ statement.params = [] := by
  refine ⟨_, rfl, ⟨rfl, by decide +kernel, ?_⟩, ⟨_, rfl, rfl⟩, by decide +kernel, rfl⟩
  rintro statement ⟨selection, selected, query⟩
  cases selected
  cases query
  decide +kernel

/-- Each task is the only one of its list. -/
theorem selects_lists {t : Engine.Table} (ht : t ∈ lists.database.tables) {r : Row}
    (hr : r ∈ t.rows) :
    ∃ l ∈ [(⟨"lists/7"⟩ : Locator), ⟨"lists/8"⟩], compiled.dispatch.resolve l = .ok ofList ∧
      ofList.SelectsOnly l (recordOfRow (t.named r)) ⟨none, []⟩ t r := by
  cases List.mem_singleton.1 ht
  rcases List.mem_pair.1 hr with rfl | rfl
  · refine ⟨⟨"lists/7"⟩, by simp, rfl, ?_⟩
    rintro statement ⟨-, selection, selected, updated⟩
    cases selected
    cases updated
    exact ⟨by decide +kernel, [⟨1, [.int 1, .int 7, .text "draft"]⟩], by decide +kernel, by simp⟩
  · refine ⟨⟨"lists/8"⟩, by simp, rfl, ?_⟩
    rintro statement ⟨-, selection, selected, updated⟩
    cases selected
    cases updated
    exact ⟨by decide +kernel, [⟨2, [.int 2, .int 8, .text "plan"]⟩], by decide +kernel, by simp⟩

end Tasks

theorem update_found_unchanged_lists :
    cellOfValue (valueOfCell (.int 7)) = .int 7 ∧
    ∃ c found s', Tasks.document.compile Tasks.hooks = .ok c ∧
      (c.dispatch.query ⟨"tasks"⟩ ⟨[], none, [], none⟩).run Tasks.lists = .ok found s' ∧
      found.records.length = 2 ∧
      ∀ record ∈ found.records, ∃ l ∈ [(⟨"lists/7"⟩ : Locator), ⟨"lists/8"⟩],
        ((c.dispatch.update l record ⟨none, []⟩).after s').database = s'.database := by
  obtain ⟨codec, requests⟩ := update_found_unchanged
  refine ⟨(codec (.int 7) ⟨by decide, by decide⟩).2 (by simp [IsBytes]), ?_⟩
  obtain ⟨statement, hp, reads, composed, text, params⟩ := Tasks.query_lists
  have ran := Dispatch.query_eq hp composed (s := Tasks.lists) rfl
  have count := Tasks.rowCount_lists
  rw [Database.answer, text, params] at ran
  cases answer : Tasks.lists.database.run "SELECT * FROM tasks" [] with
  | mk db answered =>
    rw [List.map_nil, answer] at ran
    rw [answer] at count
    cases answered with
    | error e => cases count
    | ok outcome =>
      refine ⟨Tasks.compiled, _, _, Tasks.compiles, ran, ?_, fun record hrecord => ?_⟩
      · rw [List.length_map]
        exact Option.some.inj count
      obtain ⟨lookups, updates⟩ := requests _ _ _ Tasks.compiles
      obtain ⟨same, rows⟩ := lookups _ _ _ _ _ _ (Dispatch.resolve_of_planFor hp) reads ran
      obtain ⟨t, r, here, hr, rfl, read⟩ := rows record hrecord
      have table : t ∈ Tasks.lists.database.tables := Database.mem_of_table? here
      have stores := Tasks.stores_lists table hr
      obtain ⟨l, hl, hp', selects⟩ := Tasks.selects_lists table hr
      refine ⟨l, hl, updates l _ _ _ _ t r hp' (same ▸ Tasks.intact_lists) (same ▸ rfl) ?_ hr stores
        (Tasks.plain_lists table hr) (read (Tasks.intact_lists.tables t table) stores) selects⟩
      rw [same]
      exact here

/-- Bytes are stored as the text of the list that they are read as. -/
theorem not_reread_bytes :
    IsStored (.blob [1, 2]) ∧ valueOfCell (.blob [1, 2]) = .arr [Json.whole 1, Json.whole 2] ∧
      cellOfValue (valueOfCell (.blob [1, 2])) = .text "[1,2]" ∧
      cellOfValue (valueOfCell (.blob [1, 2])) ≠ .blob [1, 2] := by
  refine ⟨trivial, rfl, ?_, ?_⟩
  · decide +kernel
  · decide +kernel

end ResourceProvider
