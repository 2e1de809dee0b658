import ResourceProvider.Proofs.Engine.Insertion
import ResourceProvider.Proofs.Lifecycle.Request
import ResourceProvider.Proofs.Provider.RoundTrip
/-!
# Changes that fail

A change of its own has no transaction around it: what a failure leaves behind is up to the
statement. Where there are no triggers, an insertion is undone always, a removal and an update if
they are one statement, and an update of several rows unless a constraint with the policy FAIL stops
it (`failed_undone`). Nothing is signalled either way.
-/
namespace ResourceProvider

open Engine (Database IsSingle)
open Route (Locator)

/-! ## Statements -/

namespace Engine.Database

variable {db db' : Database}

/-- An insertion of a record ends as the row does. -/
theorem answer_insert (db : Database) {table : String} (name : Schema.isIdentifier table)
    {r : Record} (names : ∀ c ∈ r.columns, Schema.isIdentifier c) :
    db.Inserts table (db.answer (Sql.insert table r)) := by
  have refusal : db.Inserts table db.refuse := .undone (.refl db) _
  rw [answer, Sql.insert_text, Sql.insertText]
  split
  · rcases db.run_insert_default ((Sql.insert table r).params.map Sql.cellOfValue) name with
      run | ⟨-, run⟩ <;> rw [run]
    · exact refusal
    · exact db.insert_settles _ table none rfl
  · rename_i some_
    rcases db.run_insert ((Sql.insert table r).params.map Sql.cellOfValue) name some_ names with
      run | ⟨-, run⟩ <;> rw [run]
    · exact refusal
    · exact db.insert_settles _ table _ rfl

/-- A single removal that fails is undone. -/
theorem run_delete_undone {params : List Cell} {text : String} {r : List Char}
    (first : text.toList = 'D' :: ("ELETE".toList ++ ' ' :: r)) (single : IsSingle text)
    {e : Refusal} (failed : db.run text params = (db', .error e)) : db.SameTables db' := by
  obtain ⟨more, read⟩ := tokens_of_word first (by decide) (by decide) (by decide) (by decide)
  rcases db.run_part params read rfl single with ⟨e, stopped⟩ | ⟨s, cells, -, -, parsed, -, run⟩
  · rw [stopped] at failed
    cases failed
    exact .refl db
  · rw [firstPart_cons rfl] at parsed
    have form := parseStatement_of_word parseDelete (k := "delete") (by decide)
      (by simp [statementForms]) parsed
    simp only [parseDelete, Option.bind_eq_bind, Option.bind_eq_some_iff] at form
    obtain ⟨_, -, _, -, ⟨_, _⟩, -, same⟩ := form
    cases same
    exact delete_undone (run.symm.trans failed)

/-- A single update that fails is undone, unless it changed a row before a constraint that says
FAIL. -/
theorem run_update_undone {params : List Cell} {table : String} (name : Schema.isIdentifier table)
    {columns : List String} (some_ : columns ≠ []) (names : ∀ c ∈ columns, Schema.isIdentifier c)
    {clause : String} (h : IsClauses ["where"] clause) {text : String}
    (text_eq : text = "UPDATE " ++ table ++ " SET " ++ assignments columns ++ clause)
    (single : IsSingle text)
    (never : ∀ t, db.table? table = some t →
      .fail ∉ t.policies ∨ ∃ rows, t.selection? params text = some rows ∧ rows.length ≤ 1)
    {e : Refusal} (failed : db.run text params = (db', .error e)) : db.SameTables db' := by
  rcases db.run_changes params name some_ names h text_eq single with
    ⟨e, stopped⟩ | ⟨condition, cells, selection, -, run⟩
  · rw [stopped] at failed
    cases failed
    exact .refl db
  · rw [run] at failed
    refine update_undone failed fun t found => (never t found).imp_right ?_
    rintro ⟨rows, selects, single⟩
    rw [selection] at selects
    rwa [List.countP_eq_length_filter, ← Table.eq_filter_of_selected selects]

end Engine.Database

/-! ## Changes of their own -/

/-- A change of its own that fails left the session alone, or the database refused its statement. -/
theorem Dispatch.applyAlone_error {d : Dispatch} {op : BatchOperation} {s t : Session}
    {e : ProviderError} (failed : (d.applyAlone op).run s = .error e t) :
    t = s ∨ ∃ r db refusal, d.prepare op = .ok r ∧
      s.database.answer r.statement = (db, .error refusal) ∧ t = s.issued r.statement db := by
  cases isOpen : s.isOpen with
  | false =>
    obtain ⟨e', refused, -⟩ := d.applyAlone_closed op isOpen
    rw [refused] at failed
    cases failed
    exact .inl rfl
  | true =>
    rw [d.applyAlone_run op isOpen, EStateM.run_bind, d.applyOne_eq op] at failed
    cases prepared : d.prepare op with
    | error e' =>
      rw [prepared] at failed
      cases failed
      exact .inl rfl
    | ok r =>
      rw [prepared, Action.ofExcept_ok, pure_bind, r.make_run isOpen] at failed
      cases answer : s.database.answer r.statement with
      | mk db answered =>
        rw [answer] at failed
        cases answered with
        | ok outcome => simp [Changed.announce_run] at failed
        | error refusal =>
          cases failed
          exact .inr ⟨r, db, refusal, rfl, answer, rfl⟩

theorem Dispatch.applyAlone_error_signals {d : Dispatch} {op : BatchOperation} {s t : Session}
    {e : ProviderError} (failed : (d.applyAlone op).run s = .error e t) :
    t.signals = s.signals := by
  rcases Dispatch.applyAlone_error failed with rfl | ⟨r, db, refusal, -, -, rfl⟩
  · rfl
  · exact Session.signals_issued s r.statement db

/-- What a change must be so that a failure undoes it, and nothing else: it is not made in a
transaction; there is no trigger, which might keep what it did; a removal and an update are one
statement; and no constraint with the policy FAIL can stop an update after its first row. -/
def Dispatch.IsUndoable (d : Dispatch) (s : Session) (op : BatchOperation) : Prop :=
  s.database.inTransaction = false ∧ s.database.triggers = [] ∧
    ∀ r, d.prepare op = .ok r → match op with
    | .insert .. => True
    | .update l .. => IsSingle r.statement.text ∧ ∀ p t, d.resolve l = .ok p →
        s.database.table? p.endpoint.table = some t →
        .fail ∉ t.policies ∨ ∃ rows,
          t.selection? (r.statement.params.map Sql.cellOfValue) r.statement.text = some rows ∧
            rows.length ≤ 1
    | .delete .. => IsSingle r.statement.text

/-- A change of its own that fails, whatever the reason, signals nothing. It leaves every table as
it was, where there are no triggers, if it is an insertion, or a removal or an update in one
statement; only an update that changed a row before a constraint with the policy FAIL keeps what it
did. -/
theorem failed_undone {doc : Document} {hooks : Hooks} {c : Compiled}
    (compiled : doc.compile hooks = .ok c) {op : BatchOperation} {s t : Session} {e : ProviderError}
    (failed : (c.dispatch.applyAlone op).run s = .error e t) :
    t.signals = s.signals ∧ (c.dispatch.IsUndoable s op → s.database.SameTables t.database) := by
  refine ⟨Dispatch.applyAlone_error_signals failed, fun undoable => ?_⟩
  rcases Dispatch.applyAlone_error failed with rfl | ⟨r, db, refusal, prepared, answer, rfl⟩
  · exact .refl _
  change s.database.SameTables db
  have undo := undoable.2.2 r prepared
  have nonempty (l : Locator) (record : Record) (f : Filter) (same : op = .update l record f) :
      record ≠ [] := Dispatch.ne_nil_of_prepare (same ▸ prepared)
  obtain ⟨p, resolved, composes⟩ :=
    Dispatch.exists_plan_of_compose (Dispatch.compose_of_prepare prepared)
  obtain ⟨schema, hschema, table⟩ := Document.table_compiled compiled resolved
  have named := Schema.named_of_ofDatabase hschema
  have name := named.table table
  generalize r.statement = statement at answer composes undo
  cases op with
  | insert l record =>
    obtain ⟨fits, rfl⟩ := composes
    have ends := s.database.answer_insert name (named.record table (Plan.fits_of_checkRecord fits))
    rw [answer] at ends
    cases ends with
    | undone same e => exact same
  | update l record f =>
    obtain ⟨single, never⟩ := undo
    obtain ⟨fits, selection, selected, updated⟩ := composes
    obtain ⟨table', found, rfl⟩ := Sql.Selection.ok_of_requiredTable updated
    rw [Plan.table_of_selection selected (by decide)] at found
    cases found
    have some_ : record.columns ≠ [] := by simpa [Record.columns] using nonempty l record f rfl
    exact Database.run_update_undone name some_
      (named.record table (Plan.fits_of_checkRecord fits))
      (selection.isClauses_whereClause (List.mem_singleton_self _))
      (by simp [Engine.assignments, Record.columns, Function.comp_def]) single
      (fun t found => never p t resolved found) answer
  | delete l f =>
    obtain ⟨selection, selected, removed⟩ := composes
    obtain ⟨table', -, rfl⟩ := Sql.Selection.ok_of_requiredTable removed
    exact Database.run_delete_undone (r := ("FROM " ++ table' ++ selection.whereClause).toList)
      (by simp [String.toList_append]) undo answer

namespace Tasks

/-- A request fails, and what it leaves behind passes a test. -/
def fails {α : Type} (test : Session → Bool) : EStateM.Result ProviderError Session α → Bool
  | .ok .. => false
  | .error _ t => test t

theorem exists_of_fails {α : Type} {test : Session → Bool}
    {x : EStateM.Result ProviderError Session α} (h : fails test x) :
    ∃ e t, x = .error e t ∧ test t := by
  cases x with
  | ok a t => cases h
  | error e t => exact ⟨e, t, rfl, h⟩

/-- Gives every task the same number. -/
def collide : BatchOperation :=
  .update ⟨"tasks"⟩ [("id", .num (.int 5))] ⟨none, []⟩

end Tasks

theorem failed_undone_tasks :
    ∃ c e t, Tasks.document.compile Tasks.hooks = .ok c ∧
      c.dispatch.IsUndoable Tasks.lists Tasks.collide ∧
      (c.dispatch.applyAlone Tasks.collide).run Tasks.lists = .error e t ∧
      t.signals = Tasks.lists.signals ∧ Tasks.lists.database.SameTables t.database := by
  have undoable : Tasks.compiled.dispatch.IsUndoable Tasks.lists Tasks.collide := by
    refine ⟨rfl, rfl, fun r prepared => ?_⟩
    cases prepared
    refine ⟨List.length_eq_one_iff.1 (by decide +kernel), fun p t resolved found => .inl ?_⟩
    cases resolved
    cases found
    decide +kernel
  have fails : Tasks.fails (fun _ => true)
      ((Tasks.compiled.dispatch.applyAlone Tasks.collide).run Tasks.lists) := by
    decide +kernel
  obtain ⟨e, t, failed, -⟩ := Tasks.exists_of_fails fails
  obtain ⟨quiet, same⟩ := failed_undone Tasks.compiles failed
  exact ⟨_, e, t, Tasks.compiles, undoable, failed, quiet, same undoable⟩

namespace Tasks

/-- Tasks whose titles are distinct, or else a change stops where it is. -/
def strict : Document :=
  { document with database := ⟨"todo", 1, [⟨"tasks", false,
    [column "id" .integer (some .none), column "list" .integer none,
      ⟨"title", .text, none, none, some .fail, false, none, none, none⟩], none, [], [], []⟩], []⟩ }

/-- Creates the tables, and adds two tasks. -/
def fill (c : Compiled) : Action Unit := do
  c.script.issue
  let _ ← c.dispatch.insert ⟨"tasks"⟩ [("list", .num (.int 7)), ("title", .str "a")]
  let _ ← c.dispatch.insert ⟨"tasks"⟩ [("list", .num (.int 7)), ("title", .str "b")]

/-- Gives every task the same title. -/
def retitle : BatchOperation :=
  .update ⟨"tasks"⟩ [("title", .str "c")] ⟨none, []⟩

/-- Removes a task, and then something from a table that is not there. -/
def removeTwice : BatchOperation :=
  .delete ⟨"tasks"⟩ ⟨some "id=1); DELETE FROM lost WHERE (1", []⟩

/-- The tasks of a session, as they are stored. -/
def rows (s : Session) : Option (List (List Engine.Cell)) :=
  (s.database.table? "tasks").map fun t => t.rows.map Engine.Row.cells

theorem rows_congr {s t : Session} (h : s.database.SameTables t.database) : rows t = rows s := by
  rw [rows, rows, h]

/-- Every one of some requests fails after another one, and leaves other tasks behind. -/
def spoils {α : Type} (requests : List (Action α)) :
    EStateM.Result ProviderError Session Unit → Bool
  | .ok () s => requests.all fun x => fails (fun t => rows t != rows s) (x.run s)
  | .error .. => false

theorem exists_of_spoils {α : Type} {requests : List (Action α)}
    {x : EStateM.Result ProviderError Session Unit} (h : spoils requests x) :
    ∃ s, x = .ok () s ∧
      ∀ request ∈ requests, ∃ e t, request.run s = .error e t ∧ rows t ≠ rows s := by
  cases x with
  | ok u s =>
    refine ⟨s, rfl, fun request hr => ?_⟩
    obtain ⟨e, t, failed, other⟩ := exists_of_fails (List.all_eq_true.1 h request hr)
    exact ⟨e, t, failed, by simpa using other⟩
  | error e t => cases h

end Tasks

/-- The first task keeps the title that the second one may not have; and of two statements, the
first one stays done. -/
theorem not_undone_strict :
    ∃ c s, Tasks.strict.compile Tasks.hooks = .ok c ∧
      (Tasks.fill c).run Session.start = .ok () s ∧
      ∀ op ∈ [Tasks.retitle, Tasks.removeTwice], ∃ e t,
        (c.dispatch.applyAlone op).run s = .error e t ∧ ¬ s.database.SameTables t.database ∧
          t.signals = s.signals := by
  obtain ⟨c, hc, spoils⟩ : ∃ c, Tasks.strict.compile Tasks.hooks = .ok c ∧
      Tasks.spoils ([Tasks.retitle, Tasks.removeTwice].map c.dispatch.applyAlone)
        ((Tasks.fill c).run Session.start) := ⟨_, rfl, by decide +kernel⟩
  obtain ⟨s, ran, each⟩ := Tasks.exists_of_spoils spoils
  refine ⟨c, s, hc, ran, fun op hop => ?_⟩
  obtain ⟨e, t, failed, other⟩ := each _ (List.mem_map_of_mem hop)
  exact ⟨e, t, failed, fun same => other (Tasks.rows_congr same),
    Dispatch.applyAlone_error_signals failed⟩

end ResourceProvider
