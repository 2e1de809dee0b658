import ResourceProvider.Proofs.Dispatch.Resolution
import ResourceProvider.Proofs.Engine.Keyed
import ResourceProvider.Proofs.Provider.Counts
import ResourceProvider.Proofs.Route.Path
/-!
# Locators of new rows

An insertion answers with the locator of the request, with the number of the new row behind it.
Where the path of the request goes on with a number that is bound to the column of the rowid, the
locator leads to the row that was added, and a query there finds it alone (`insert_located`). But no
path asks for a negative number.
-/
namespace ResourceProvider

open Engine (Cell Database)
open Route (Locator)
open Sql (cellOfValue recordOfRow)

/-! ## Numbers in locators -/

namespace Route

theorem all_toDigits (k : Nat) : (Nat.toDigits 10 k).all Text.isDigit :=
  List.all_eq_true.2 fun _ hc => Text.isDigit_of_mem_toDigits hc

theorem isSegment_toString (n : Int) : IsSegment (toString n) := by
  have digits (k : Nat) : '/' ∉ Nat.toDigits 10 k := fun slash =>
    absurd (Text.isDigit_of_mem_toDigits slash) (by decide)
  have text : (toString n).toList ≠ [] ∧ '/' ∉ (toString n).toList := by
    cases n with
    | ofNat k =>
      rw [Int.ofNat_eq_natCast, Text.toList_toString]
      exact ⟨Nat.toDigits_ne_nil, digits k⟩
    | negSucc k =>
      rw [Text.toList_toString_negSucc, List.mem_cons, not_or]
      exact ⟨List.cons_ne_nil _ _, by decide, digits (k + 1)⟩
  exact ⟨fun empty => text.1 (by rw [empty]; rfl), text.2⟩

/-- A number stands where digits are asked for, unless it is negative. -/
theorem accepts_toString (n : Int) : Segment.number.accepts (toString n) ↔ 0 ≤ n := by
  rw [Segment.accepts, decide_eq_true (isSegment_toString n).1, Bool.true_and]
  cases n with
  | ofNat k =>
    rw [Int.ofNat_eq_natCast, Text.toList_toString]
    exact iff_of_true (all_toDigits k) (Int.natCast_nonneg k)
  | negSucc k =>
    rw [Text.toList_toString_negSucc]
    exact iff_of_false (by simp [show Text.isDigit '-' = false by decide])
      (Int.not_le.2 (Int.negSucc_lt_zero k))

end Route

/-- The locator of a new row has its number after the segments of the locator of the request. -/
theorem Plan.segments_defaultRowUri (l : Locator) (id : Int) :
    Locator.segments ⟨Plan.defaultRowUri l id⟩ = l.segments ++ [toString id] := by
  rw [Locator.segments, Plan.defaultRowUri, Route.segments_append, Route.segments_trimmed,
    Route.segments_segment (Route.isSegment_toString id)]
  rfl

/-- The first plan that accepts a locator serves it. -/
theorem Document.resolve_of_first {doc : Document} {hooks : Hooks} {c : Compiled}
    (compiled : doc.compile hooks = .ok c) {q : Plan} (hq : q ∈ c.dispatch.plans) {l : Locator}
    (accepts : q.endpoint.pattern.accepts l.segments)
    (first : ∀ q' ∈ c.dispatch.plans, q'.code < q.code →
      q'.endpoint.pattern.accepts l.segments = false) : c.dispatch.resolve l = .ok q := by
  obtain ⟨s, ctx, es, -, -, -, -, built⟩ := Document.compile_built compiled
  -- At each position there is a plan with the pattern of the route there.
  have aligned (i : Nat) (r : String × Route.Pattern)
      (hr : c.dispatch.routes.routes[i]? = some r) :
      ∃ q', c.dispatch.plans[i]? = some q' ∧ q'.code = i ∧ r.2 = q'.endpoint.pattern := by
    have bound := (List.getElem?_eq_some_iff.1 hr).1
    rw [built.sizes.1, ← built.sizes.2] at bound
    obtain ⟨g, e, decl⟩ := built.exists_declared bound
    obtain ⟨r', q', hr', pattern, hq', fills⟩ := built.aligned decl
    cases hr.symm.trans hr'
    exact ⟨q', hq', fills.code, by rw [fills.endpoint, pattern]⟩
  obtain ⟨i, bound, rfl⟩ := List.getElem_of_mem hq
  have inside : i < c.dispatch.routes.routes.length := by
    rwa [built.sizes.1, ← built.sizes.2]
  obtain ⟨q', hq', code, pattern⟩ := aligned i _ (List.getElem?_eq_getElem inside)
  rw [List.getElem?_eq_getElem bound] at hq'
  cases hq'
  refine built.resolve_eq_ok_iff.2 ⟨i, Route.Table.find_eq_ok_iff.2 ⟨⟨_,
    List.getElem?_eq_getElem inside, by rwa [pattern]⟩, fun j before r hr => ?_⟩,
    List.getElem?_eq_getElem bound⟩
  obtain ⟨q'', hq'', earlier, pattern'⟩ := aligned j r hr
  rw [pattern', first q'' (List.mem_of_getElem? hq'') (by omega)]
  exact Bool.false_ne_true

/-! ## Rows that are looked up one by one -/

/-- A plan serves the rows of another one: its path goes on with a number, which is bound to a
column of the same table, and nothing else shapes its queries. -/
structure Plan.ServesRowsOf (q p : Plan) (key : String) : Prop where
  pattern : q.endpoint.pattern = p.endpoint.pattern ++ [.number]
  table : q.endpoint.table = p.endpoint.table
  allows : q.endpoint.allows .query
  bindings : q.endpoint.bindings = [⟨p.endpoint.pattern.length, key⟩]
  column : (q.table.column? key).isSome
  filters : q.endpoint.filters = []
  join : q.endpoint.join = none
  shape : q.shape none = ⟨none, none, none, none⟩
  filterHook : q.filterHook = none
  joinHook : q.joinHook = none

/-- All of what a locator leads to. -/
def Lookup.all : Lookup :=
  ⟨[], none, [], none⟩

/-- The query for a row is one equation. -/
theorem Plan.ServesRowsOf.composes {q p : Plan} {key : String} (h : q.ServesRowsOf p key)
    {l : Locator} {ss : List String} {value : String} (segments : l.segments = ss ++ [value])
    (length : ss.length = p.endpoint.pattern.length) :
    q.Composes? ⟨"SELECT * FROM " ++ p.endpoint.table ++ " WHERE (" ++ key ++ "=?)",
      [.str value]⟩ (.lookup l .all) := by
  have serves : q.Serves l := by
    refine ⟨fun literal => ?_, fun b hb => ?_, by simp [h.filters]⟩
    · simp [Endpoint.isPattern, h.pattern, Route.Segment.isWildcard] at literal
    · rw [h.bindings, List.mem_singleton] at hb
      simp [hb, segments, length]
  have selection := Plan.selection_serves serves .query none []
  rw [if_neg (by simp)] at selection
  obtain ⟨s, values, selected, bound, selects, table⟩ := selection
  have here : l.segments[p.endpoint.pattern.length]? = some value := by
    rw [segments, ← length, List.getElem?_concat_length]
  obtain rfl : values = [value] := by
    rw [h.bindings, List.map_singleton, here] at bound
    exact List.map_injective_iff.2 (Option.some_injective _) bound.symm
  refine ⟨s, selected, ?_⟩
  have joined : q.joinedTable .query l = p.endpoint.table := by
    simp [Plan.joinedTable, h.join, h.joinHook, h.table, Text.join]
  have condition : s.condition = "(" ++ key ++ "=?)" := by
    rw [selects.condition]
    simp [Plan.conditions, h.bindings, h.filters, h.filterHook, Sql.conjunction, Text.join,
      Document.Binding.condition, String.append_assoc]
  rw [if_pos rfl, joined] at table
  have text : " WHERE (" ++ key ++ "=?)" = s.whereClause := by
    have opening : " WHERE (" = " WHERE " ++ "(" := rfl
    rw [Sql.Selection.whereClause, condition, if_neg (by simp), opening]
    simp only [String.append_assoc]
  simp [Sql.Selection.query, Sql.Selection.requiredTable, table, Except.map, h.shape, Lookup.all,
    Sql.Selection.optionalClause, Sql.Selection.argValues, selects.args, ← text,
    String.append_assoc]

/-! ## Insertions -/

/-- An insertion that succeeds issued its statement, and answers with the number of the last row. -/
theorem Dispatch.insert_ok {d : Dispatch} {l : Locator} {record : Record} {p : Plan} {s t : Session}
    {loc : String} (planned : d.planFor .insert l = .ok p)
    (h : (d.insert l record).run s = .ok loc t) :
    ∃ outcome, p.checkRecord record = .ok () ∧ t.isOpen ∧
      s.database.answer (Sql.insert p.endpoint.table record) = (t.database, .ok outcome) ∧
      loc = p.rowUri l record t.database.lastRowid := by
  obtain ⟨p', planned', h⟩ := Action.ok_of_ofExcept_bind h
  cases planned.symm.trans planned'
  obtain ⟨_, s', reached, h⟩ := Action.ok_of_bind h
  cases isOpen : s.isOpen with
  | false =>
    rw [Action.reach_closed isOpen] at reached
    cases reached
  | true =>
    rw [Action.reach_run isOpen] at reached
    cases reached
    obtain ⟨changed, u, made, h⟩ := Action.ok_of_bind h
    rw [Changed.announce_run] at h
    cases h
    obtain ⟨_, fits, made⟩ := Action.ok_of_ofExcept_bind made
    obtain ⟨id, v, inserted, made⟩ := Action.ok_of_bind made
    cases made
    obtain ⟨outcome, w, issued, inserted⟩ := Action.ok_of_bind inserted
    cases inserted
    obtain ⟨answer, same⟩ := Action.issue_ok issued
    refine ⟨outcome, fits, ?_, answer, rfl⟩
    rw [same]
    exact isOpen

namespace Engine.Database

variable {db db' : Database}

theorem fits_cellOfValue (v : Json.Value) : (cellOfValue v).Fits := by
  have float (x : Float) : (Sql.Param.float x).toCell.Fits := by
    rw [Sql.toCell_float]
    split <;> trivial
  unfold cellOfValue Sql.Param.ofValue
  split
  · trivial
  · rename_i b
    cases b <;> rfl
  · split
    · rename_i small
      exact small
    · exact float _
  · exact float _
  · trivial
  · trivial

/-- A row that is added has a number of 64 bits, and the name of its table is no keyword. -/
theorem answer_insert_lt {table : String} (name : Schema.isIdentifier table) {r : Record}
    (names : ∀ c ∈ r.columns, Schema.isIdentifier c) {outcome : Outcome}
    (answer : db.answer (Sql.insert table r) = (db', .ok outcome)) (added : outcome.changes = 1) :
    Text.lower table ∉ reserved ∧ db'.lastRowid < 0x8000000000000000 := by
  have small : ∀ c ∈ (Sql.insert table r).params.map cellOfValue, c.Fits := fun c hc => by
    obtain ⟨v, -, rfl⟩ := List.mem_map.1 hc
    exact fits_cellOfValue v
  have number {columns : Option (List String)} {rows : Option (List (List Written))}
      {row : List Written} (one : rows.getD [[]] = [row]) (marks : ∀ e ∈ row, ∃ k, e = .param k)
      (inserted : db.insert ((Sql.insert table r).params.map cellOfValue) .none table columns rows =
        (db', .ok outcome)) : db'.lastRowid < 0x8000000000000000 := by
    obtain ⟨t, places, v, read, given⟩ := insert_rowid (by rw [one]; rfl) inserted added
    rw [one, List.mapM_cons] at read
    obtain ⟨_, values, same⟩ := Option.bind_eq_some_iff.1 read
    cases same
    exact Table.newRowid?_lt (withDefaults_fits (constants?_fits marks small values)) given
  have refusal {x : Ran} (refused : x = db.refuse) : x ≠ (db', .ok outcome) := by
    rw [refused]
    exact fun same => by cases (Prod.mk.inj same).2
  rw [Database.answer, Sql.insert_text, Sql.insertText] at answer
  split at answer
  · rcases db.run_insert_default ((Sql.insert table r).params.map cellOfValue) name with
      refused | ⟨free, run⟩
    · exact absurd answer (refusal refused)
    · exact ⟨free, number rfl (by simp) (run.symm.trans answer)⟩
  · rename_i some_
    rcases db.run_insert ((Sql.insert table r).params.map cellOfValue) name some_ names with
      refused | ⟨free, run⟩
    · exact absurd answer (refusal refused)
    · refine ⟨free, number rfl (fun e he => ?_) (run.symm.trans answer)⟩
      obtain ⟨k, -, rfl⟩ := List.mem_map.1 he
      exact ⟨k, rfl⟩

/-- A table has a column for its rowid, of the given name. -/
def KeyedBy (db : Database) (table key : String) : Prop :=
  ∃ t k, db.table? table = some t ∧ t.rowidKey = some k ∧ t.columnIndex? key = some k.column

theorem KeyedBy.after {table key : String} (h : db.KeyedBy table key) (steps : Steps db db')
    {t : Table} (found : db'.table? table = some t) :
    ∃ k, t.rowidKey = some k ∧ t.columnIndex? key = some k.column := by
  obtain ⟨u, k, there, rowid, place⟩ := h
  obtain ⟨u', there', declared⟩ := steps.table? found
  cases there.symm.trans there'
  have same : t.declared.rowidKey = some k ∧ t.declared.columnIndex? key = some k.column := by
    rw [declared]
    exact ⟨rowid, place⟩
  exact ⟨k, same⟩

end Engine.Database

theorem Schema.Named.column {s : Schema} (h : s.Named) {name : String} {t : Table}
    (found : s.table? name = some t) {key : String} (column : (t.column? key).isSome) :
    Schema.isIdentifier key := by
  obtain ⟨c, hc⟩ := Option.isSome_iff_exists.1 column
  obtain rfl : c.name = key := by simpa using List.find?_some hc
  exact h.columns t (List.mem_of_find?_eq_some found) c (List.mem_of_find?_eq_some hc)

/-! ## Compiled documents -/

/-- An insertion that succeeds added a row, unless it may be left out. -/
theorem Dispatch.insert_adds {doc : Document} {hooks : Hooks} {c : Compiled}
    (compiled : doc.compile hooks = .ok c) {l : Locator} {record : Record} {p : Plan}
    (planned : c.dispatch.planFor .insert l = .ok p) {s t : Session}
    (complete : ¬ s.database.LeavesOut p.endpoint.table) {loc : String}
    (inserted : (c.dispatch.insert l record).run s = .ok loc t) :
    ∃ row, s.database.Adds p.endpoint.table row t.database ∧
      loc = p.rowUri l record row.rowid ∧ t.isOpen ∧ row.rowid < 0x8000000000000000 ∧
      Text.lower p.endpoint.table ∉ Engine.reserved := by
  obtain ⟨outcome, fits, isOpen, answer, uri⟩ := Dispatch.insert_ok planned inserted
  obtain ⟨schema, hschema, table⟩ :=
    Document.table_compiled compiled (Dispatch.resolve_of_planFor planned)
  have named := Schema.named_of_ofDatabase hschema
  have columns := named.record table (Plan.fits_of_checkRecord fits)
  rcases Database.answer_insert_ok (named.table table) columns answer with
    left | ⟨one, row, adds, number⟩
  · exact absurd left complete
  · obtain ⟨free, small⟩ := Database.answer_insert_lt (named.table table) columns answer one
    rw [← number] at uri small
    exact ⟨row, adds, uri, isOpen, small, free⟩

/-- A plan that serves rows by their numbers finds the row of a number, and no other. -/
theorem Dispatch.query_row {doc : Document} {hooks : Hooks} {c : Compiled}
    (compiled : doc.compile hooks = .ok c) {l : Locator} {p q : Plan} {key : String}
    (leads : c.dispatch.resolve l = .ok q) (serves : q.ServesRowsOf p key)
    (table_free : Text.lower p.endpoint.table ∉ Engine.reserved)
    (free : Engine.isColumnWord key) {s : Session} (isOpen : s.isOpen)
    (numbered : s.database.Numbered) {table : Engine.Table}
    (found : s.database.table? p.endpoint.table = some table) {k : Engine.RowidKey}
    (rowid : table.rowidKey = some k) (place : table.columnIndex? key = some k.column)
    {row : Engine.Row} (hrow : row ∈ table.rows) (nonneg : 0 ≤ row.rowid)
    (small : row.rowid < 0x8000000000000000) {ss : List String}
    (segments : l.segments = ss ++ [toString row.rowid])
    (length : ss.length = p.endpoint.pattern.length) :
    ∃ t, (c.dispatch.query l .all).run s =
      .ok ⟨[recordOfRow (table.named row)], q.watched l⟩ t ∧ t.database = s.database := by
  obtain ⟨schema, hschema, declared⟩ := Document.table_compiled compiled leads
  have named := Schema.named_of_ofDatabase hschema
  have planned : c.dispatch.planFor .query l = .ok q := by
    rw [Dispatch.planFor, leads]
    exact if_pos serves.allows
  have answer := Database.run_key numbered (serves.table ▸ named.table declared)
    (named.column declared serves.column) table_free free found rowid place hrow
    (Engine.numberOfText?_toString nonneg small)
  have params : [Json.Value.str (toString row.rowid)].map cellOfValue =
      [.text (toString row.rowid)] := rfl
  rw [Dispatch.query_eq planned (serves.composes segments length) isOpen, Database.answer, params,
    answer]
  exact ⟨_, rfl, rfl⟩

/-- The locator that an insertion answers with is the one of the row that was added: its number
stands behind the segments of the request. The plan that serves rows by the column of their numbers
accepts the locator, unless the number is negative; and if no earlier plan does, it finds this row
and no other. The name of the column is read as a column, and no trigger or constraint leaves the row
out. -/
theorem insert_located {doc : Document} {hooks : Hooks} {c : Compiled}
    (compiled : doc.compile hooks = .ok c) {l : Locator} {record : Record} {p q : Plan}
    {key : String} (planned : c.dispatch.planFor .insert l = .ok p)
    (unhooked : p.insertUriHook = none) (hq : q ∈ c.dispatch.plans)
    (serves : q.ServesRowsOf p key) (free : Engine.isColumnWord key) {s t : Session}
    (reached : s.database.Reached) (keyed : s.database.KeyedBy p.endpoint.table key)
    (complete : ¬ s.database.LeavesOut p.endpoint.table) {loc : String}
    (inserted : (c.dispatch.insert l record).run s = .ok loc t)
    (first : ∀ q' ∈ c.dispatch.plans, q'.code < q.code →
      q'.endpoint.pattern.accepts (Locator.segments ⟨loc⟩) = false) :
    ∃ row table, s.database.Adds p.endpoint.table row t.database ∧
      t.database.table? p.endpoint.table = some table ∧ row ∈ table.rows ∧
      loc = Plan.defaultRowUri l row.rowid ∧
      (q.endpoint.pattern.accepts (Locator.segments ⟨loc⟩) ↔ 0 ≤ row.rowid) ∧
      (0 ≤ row.rowid → ∃ u, (c.dispatch.query ⟨loc⟩ .all).run t =
        .ok ⟨[recordOfRow (table.named row)], q.watched ⟨loc⟩⟩ u ∧ u.database = t.database) := by
  obtain ⟨row, adds, uri, isOpen, small, table_free⟩ :=
    Dispatch.insert_adds compiled planned complete inserted
  obtain ⟨table, found, hrow⟩ := adds.mem
  obtain ⟨k, rowid, place⟩ := keyed.after adds.steps found
  rw [Plan.rowUri, unhooked] at uri
  -- The path takes the segments of the request, and the number stands where one is asked for.
  have segments : Locator.segments ⟨loc⟩ = l.segments ++ [toString row.rowid] := by
    rw [uri]
    exact Plan.segments_defaultRowUri l row.rowid
  obtain ⟨-, -, -, -, -, -, accepted⟩ :=
    Document.resolve_compiled compiled (Dispatch.resolve_of_planFor planned)
  have length := Route.Pattern.length_of_accepts accepted
  have accepts : q.endpoint.pattern.accepts (Locator.segments ⟨loc⟩) ↔ 0 ≤ row.rowid := by
    rw [segments, serves.pattern, Route.Pattern.accepts_append length.symm, accepted,
      ← Route.accepts_toString]
    simp [Route.Pattern.accepts]
  refine ⟨row, table, adds, found, hrow, uri, accepts, fun nonneg => ?_⟩
  exact Dispatch.query_row compiled
    (Document.resolve_of_first compiled hq (accepts.2 nonneg) first) serves table_free free isOpen
    (adds.steps.numbered reached.numbered) found rowid place hrow nonneg small segments length

namespace Tasks

/-- Tasks that are served one by one, by the number in a column of the given name. -/
def numberedBy (key : String) : Document where
  database := ⟨"todo", 1, [⟨"tasks", false,
    [column key .integer (some .none), column "title" .text none], none, [], [], []⟩], []⟩
  provider := ⟨"todo", [{
    name := "tasks"
    table := "tasks"
    mapColumns := []
    endpoints := [
      ⟨"all", "tasks", "task", none, [], none, none, none, none, none, Operation.all, []⟩,
      ⟨"one", "tasks/#", "task", none, [], none, none, none, none, none, Operation.all,
        [⟨1, key⟩]⟩]
    overrides := []
    notificationUris := []
    notifyDefaults := .empty }], .empty⟩

/-- No hooks. -/
def unhooked : Hooks :=
  ⟨[], [], [], []⟩

/-- A session with the table of tasks; the column of their numbers has a quoted name. -/
def created (key : String) : Session :=
  ⟨(Database.empty.run ("CREATE TABLE tasks (\"" ++ key ++ "\" INTEGER PRIMARY KEY, title TEXT)")
    []).1, true, []⟩

/-- Tasks are added at their path, and the next plan serves them one by one. -/
theorem serves_numbered {key : String} (hkey : key ∈ ["id", "order"]) :
    ∃ c p q, (numberedBy key).compile unhooked = .ok c ∧ c.dispatch.plans = [p, q] ∧
      c.dispatch.planFor .insert ⟨"tasks"⟩ = .ok p ∧
      c.dispatch.planFor .insert ⟨"tasks/"⟩ = .ok p ∧
      p.endpoint.pattern = [.literal "tasks"] ∧ p.endpoint.table = "tasks" ∧
      p.insertUriHook = none ∧ q.ServesRowsOf p key ∧ (created key).database.Reached ∧
      (created key).database.KeyedBy "tasks" key ∧ ¬ (created key).database.LeavesOut "tasks" := by
  have reached : (created key).database.Reached := .run .empty _ _
  have plain : (created key).database.triggers = [] := by
    rcases List.mem_pair.1 hkey with rfl | rfl <;> decide +kernel
  have table : (∃ t k, (created key).database.table? "tasks" = some t ∧ t.rowidKey = some k ∧
      t.columnIndex? key = some k.column ∧ .ignore ∉ t.policies) := by
    rcases List.mem_pair.1 hkey with rfl | rfl <;>
      exact ⟨_, _, rfl, rfl, by decide +kernel, by decide +kernel⟩
  obtain ⟨t, k, found, rowid, place, never⟩ := table
  have keyed : (created key).database.KeyedBy "tasks" key := ⟨t, k, found, rowid, place⟩
  have complete : ¬ (created key).database.LeavesOut "tasks" := by
    rintro (triggers | ⟨u, there, ignores⟩)
    · exact triggers plain
    · cases found.symm.trans there
      exact never ignores
  rcases List.mem_pair.1 hkey with rfl | rfl <;>
    exact ⟨_, _, _, rfl, rfl, rfl, rfl, by decide +kernel, by decide +kernel, rfl,
      ⟨by decide +kernel, by decide +kernel, by decide +kernel, by decide +kernel,
        by decide +kernel, by decide +kernel, by decide +kernel, by decide +kernel, rfl, rfl⟩,
      reached, keyed, complete⟩

/-- No other plan comes before the one that serves tasks one by one. -/
theorem first_numbered {plans : List Plan} {p q : Plan} (same : plans = [p, q])
    (pattern : p.endpoint.pattern = [.literal "tasks"]) {l : Locator}
    (two : l.segments.length = 2) :
    ∀ q' ∈ plans, q'.code < q.code → q'.endpoint.pattern.accepts l.segments = false := by
  intro q' hq' before
  rw [same] at hq'
  rcases List.mem_pair.1 hq' with rfl | rfl
  · refine Bool.eq_false_iff.2 fun accepts => ?_
    have one := Route.Pattern.length_of_accepts accepts
    rw [two, pattern] at one
    cases one
  · exact absurd before (Nat.lt_irrefl _)

end Tasks

theorem insert_located_tasks :
    ∃ c q t u row table, (Tasks.numberedBy "id").compile Tasks.unhooked = .ok c ∧
      (Tasks.created "id").database.Reached ∧
      (c.dispatch.insert ⟨"tasks/"⟩ [("title", .str "a")]).run (Tasks.created "id") =
        .ok "tasks/1" t ∧
      (Tasks.created "id").database.Adds "tasks" row t.database ∧
      (c.dispatch.query ⟨"tasks/1"⟩ .all).run t =
        .ok ⟨[recordOfRow (Engine.Table.named table row)], Plan.watched q ⟨"tasks/1"⟩⟩ u := by
  obtain ⟨c, p, q, hc, plans, -, planned, pattern, table, unhooked, serves, reached, keyed,
    complete⟩ := Tasks.serves_numbered (show "id" ∈ ["id", "order"] by decide)
  have hq : q ∈ c.dispatch.plans := by simp [plans]
  have accepts : q.endpoint.pattern.accepts (Locator.segments ⟨"tasks/1"⟩) := by
    rw [serves.pattern, pattern]
    decide +kernel
  obtain ⟨t, ran⟩ : ∃ t, (c.dispatch.insert ⟨"tasks/"⟩ [("title", .str "a")]).run
      (Tasks.created "id") = .ok "tasks/1" t := by
    refine Tasks.exists_of_answered ?_
    cases hc
    decide +kernel
  obtain ⟨row, rows, adds, -, -, -, nonneg, found⟩ := insert_located hc planned unhooked hq serves
    (by decide) reached (table ▸ keyed) (table ▸ complete) ran
    (Tasks.first_numbered plans pattern (by decide +kernel))
  obtain ⟨u, answer, -⟩ := found (nonneg.1 accepts)
  exact ⟨c, q, t, u, row, rows, hc, reached, ran, table ▸ adds, answer⟩

/-- A task that is added is not found at the locator of the answer, although the next plan serves
tasks by the column of their numbers. -/
def Tasks.Misses (key : String) (record : Record) (loc : String) : Prop :=
  ∃ c p q t, (numberedBy key).compile unhooked = .ok c ∧ q ∈ c.dispatch.plans ∧
    c.dispatch.planFor .insert ⟨"tasks"⟩ = .ok p ∧ p.endpoint.pattern = [.literal "tasks"] ∧
    p.insertUriHook = none ∧ q.ServesRowsOf p key ∧ (created key).database.Reached ∧
    (created key).database.KeyedBy p.endpoint.table key ∧
    ¬ (created key).database.LeavesOut p.endpoint.table ∧
    (c.dispatch.insert ⟨"tasks"⟩ record).run (created key) = .ok loc t ∧
    (∀ q' ∈ c.dispatch.plans, q'.code < q.code →
      q'.endpoint.pattern.accepts (Locator.segments ⟨loc⟩) = false) ∧
    ∃ e u, (c.dispatch.query ⟨loc⟩ .all).run t = .error e u

/-- A request answers with a locator, and a query there fails. -/
def Tasks.loses (d : Dispatch) (loc : String) : EStateM.Result ProviderError Session String → Bool
  | .ok a t => a == loc && fails (fun _ => true) ((d.query ⟨loc⟩ .all).run t)
  | .error .. => false

theorem Tasks.exists_of_loses {d : Dispatch} {loc : String}
    {x : EStateM.Result ProviderError Session String} (h : loses d loc x) :
    ∃ t, x = .ok loc t ∧ ∃ e u, (d.query ⟨loc⟩ .all).run t = .error e u := by
  cases x with
  | ok a t =>
    obtain ⟨same, failed⟩ := (Bool.and_eq_true _ _).mp h
    obtain rfl := eq_of_beq same
    obtain ⟨e, u, failed, -⟩ := exists_of_fails failed
    exact ⟨t, rfl, e, u, failed⟩
  | error e t => cases h

/-- What is added and then not found is missed. -/
theorem Tasks.misses {key : String} (hkey : key ∈ ["id", "order"]) {record : Record} {loc : String}
    (two : (Locator.segments ⟨loc⟩).length = 2)
    (lost : ∀ c, (numberedBy key).compile unhooked = .ok c →
      loses c.dispatch loc ((c.dispatch.insert ⟨"tasks"⟩ record).run (created key))) :
    Misses key record loc := by
  obtain ⟨c, p, q, hc, plans, planned, -, pattern, table, unhooked, serves, reached, keyed,
    complete⟩ := serves_numbered hkey
  obtain ⟨t, ran, e, u, failed⟩ := exists_of_loses (lost c hc)
  exact ⟨c, p, q, t, hc, by simp [plans], planned, pattern, unhooked, serves, reached,
    table ▸ keyed, table ▸ complete, ran, first_numbered plans pattern two, e, u, failed⟩

/-- No plan serves negative numbers, and a column whose name is a keyword cannot be asked for. -/
theorem not_located_tasks :
    Tasks.Misses "id" [("id", .num (.int (-5))), ("title", .str "a")] "tasks/-5" ∧
      Tasks.Misses "order" [("title", .str "a")] "tasks/1" := by
  constructor
  all_goals
    refine Tasks.misses (by decide) (by decide +kernel) fun c hc => ?_
    cases hc
    decide +kernel

end ResourceProvider
