import ResourceProvider.Proofs.Provider.Undone
/-!
# Counts that are reported

An update and a removal answer with the count of the database. An insertion takes it that its
statement adds a row: it counts one, and takes the number of the last row that was added for the
number of its own. Both are right unless a constraint of the table says IGNORE, or there are triggers
(`reports_affected`): then the row may be left out, and the last row is one of another statement.
-/
namespace ResourceProvider

open Engine (Database Row)
open Route (Locator)

/-! ## What the database reports -/

namespace Engine.Database

/-- How many rows statements affect that are issued one after another, as the database reports it,
with the database after them; nothing if one of them fails. -/
def reported (db : Database) : List Sql.Statement → Option (Nat × Database)
  | [] => some (0, db)
  | statement :: rest =>
    match db.answer statement with
    | (db, .ok outcome) => (db.reported rest).map fun r => (outcome.changes + r.1, r.2)
    | (_, .error _) => none

/-- A row may be left out of the table, by a trigger or by a constraint that says IGNORE. -/
def LeavesOut (db : Database) (table : String) : Prop :=
  db.triggers ≠ [] ∨ ∃ t, db.table? table = some t ∧ .ignore ∈ t.policies

/-- Rows of given numbers are added one after another. -/
inductive AddsEach (table : String) : Database → List Int → Database → Prop where
  | nil (db : Database) : AddsEach table db [] db
  | cons {db db' after : Database} {r : Row} {ids : List Int} (adds : db.Adds table r db')
      (rest : AddsEach table db' ids after) : AddsEach table db (r.rowid :: ids) after

theorem Steps.leavesOut {db db' : Database} (steps : Steps db db') {table : String}
    (h : db'.LeavesOut table) : db.LeavesOut table := by
  rcases h with triggers | ⟨t', found', ignores⟩
  · exact .inl (steps.triggers ▸ triggers)
  · obtain ⟨t, found, declared⟩ := steps.table? found'
    exact .inr ⟨t, found, Table.policies_declared declared ▸ ignores⟩

/-- Unless it is left out, the row of a record is one change, and the last one that was added. -/
theorem answer_insert_ok {db db' : Database} {table : String} (name : Schema.isIdentifier table)
    {r : Record} (names : ∀ c ∈ r.columns, Schema.isIdentifier c) {outcome : Outcome}
    (answer : db.answer (Sql.insert table r) = (db', .ok outcome)) :
    db.LeavesOut table ∨ outcome.changes = 1 ∧
      ∃ row, db.Adds table row db' ∧ row.rowid = db'.lastRowid := by
  have ends := db.answer_insert name names
  rw [answer] at ends
  cases ends with
  | left found ignores steps => exact .inl (.inr ⟨_, found, ignores⟩)
  | added adds => exact .inr ⟨rfl, _, adds, adds.lastRowid.symm⟩

theorem reported_single {db db' : Database} {statement : Sql.Statement} {outcome : Outcome}
    (answer : db.answer statement = (db', .ok outcome)) :
    db.reported [statement] = some (outcome.changes, db') := by
  simp [reported, answer]

end Engine.Database

/-! ## Requests that succeed -/

namespace Dispatch

variable {d : Dispatch} {s t : Session}

/-- What a change reports is what the database reports about its statement. An insertion reports one
row and the number of the row that it added, unless a row may be left out of its table. -/
def Reports (d : Dispatch) (db : Database) (op : BatchOperation) (changed : Changed BatchResult)
    (after : Database) : Prop :=
  ∃ p statement total, d.planFor op.operation op.locator = .ok p ∧
    d.compose (.change op) = .ok statement ∧ db.reported [statement] = some (total, after) ∧
    match op with
    | .insert l record => ¬ db.LeavesOut p.endpoint.table → changed.answer.count = total ∧
        ∃ r, db.Adds p.endpoint.table r after ∧
          changed.answer.locator = some (p.rowUri l record r.rowid) ∧
          changed.targets = p.targets ⟨.insert, l, some record, [], [r.rowid], 1, "", []⟩
    | _ => changed.answer.count = total

/-- A change that succeeds reports what the database does. -/
theorem applyOne_reports {doc : Document} {hooks : Hooks} {c : Compiled}
    (compiled : doc.compile hooks = .ok c) {op : BatchOperation} {changed : Changed BatchResult}
    (h : (c.dispatch.applyOne op).run s = .ok changed t) :
    c.dispatch.Reports s.database op changed t.database := by
  obtain ⟨r, outcome, prepared, answer, rfl, -⟩ := applyOne_ok h
  have composed := Dispatch.compose_of_prepare prepared
  obtain ⟨p, planned, prepares⟩ := Dispatch.prepares_of_prepare prepared
  refine ⟨p, r.statement, outcome.changes, planned, composed, Database.reported_single answer, ?_⟩
  cases prepares with
  | @insert l record fits =>
    intro complete
    obtain ⟨schema, hschema, table⟩ :=
      Document.table_compiled compiled (resolve_of_planFor planned)
    have named := Schema.named_of_ofDatabase hschema
    rcases Database.answer_insert_ok (named.table table)
      (named.record table (Plan.fits_of_checkRecord fits)) answer with
      left | ⟨one, row, adds, number⟩
    · exact absurd left complete
    · refine ⟨one.symm, row, adds, ?_⟩
      rw [number]
      exact ⟨rfl, rfl⟩
  | update => rfl
  | delete => rfl

/-- The changes of a batch, each with what it reports. -/
inductive ReportsEach (d : Dispatch) :
    Database → List BatchOperation → List (Changed BatchResult) → Database → Prop where
  | nil (db : Database) : ReportsEach d db [] [] db
  | cons {db db' after : Database} {op : BatchOperation} {ops : List BatchOperation}
      {changed : Changed BatchResult} {more : List (Changed BatchResult)}
      (first : d.Reports db op changed db') (rest : ReportsEach d db' ops more after) :
      ReportsEach d db (op :: ops) (changed :: more) after

theorem applyOne_signals {op : BatchOperation} {changed : Changed BatchResult}
    (h : (d.applyOne op).run s = .ok changed t) : t.signals = s.signals := by
  obtain ⟨r, outcome, -, -, -, issued⟩ := applyOne_ok h
  rw [issued, Session.signals_issued]

theorem applyAll_reports {doc : Document} {hooks : Hooks} {c : Compiled}
    (compiled : doc.compile hooks = .ok c) {ops : List BatchOperation}
    {changes : List (Changed BatchResult)}
    (h : (ops.mapM c.dispatch.applyOne).run s = .ok changes t) :
    c.dispatch.ReportsEach s.database ops changes t.database ∧ t.signals = s.signals := by
  induction ops generalizing s changes with
  | nil =>
    cases h
    exact ⟨.nil _, rfl⟩
  | cons op ops ih =>
    obtain ⟨changed, u, more, first, rest, rfl⟩ := Action.mapM_cons_ok_iff.1 h
    obtain ⟨reports, quiet⟩ := ih rest
    exact ⟨.cons (applyOne_reports compiled first) reports,
      quiet.trans (applyOne_signals first)⟩

end Dispatch

theorem Plan.insertRows_reports {p : Plan} (name : Schema.isIdentifier p.endpoint.table)
    {records : List Record}
    (names : ∀ r ∈ records, ∀ column ∈ r.columns, Schema.isIdentifier column) {s t : Session}
    {ids : List Int} (h : (records.mapM p.insertRow).run s = .ok ids t) :
    ∃ total, s.database.reported (records.map (Sql.insert p.endpoint.table)) =
        some (total, t.database) ∧
      (¬ s.database.LeavesOut p.endpoint.table →
        total = records.length ∧ Database.AddsEach p.endpoint.table s.database ids t.database) ∧
      t.signals = s.signals := by
  induction records generalizing s ids with
  | nil =>
    cases h
    exact ⟨0, rfl, fun _ => ⟨rfl, .nil _⟩, rfl⟩
  | cons r records ih =>
    rw [List.forall_mem_cons] at names
    obtain ⟨id, u, more, first, rest, rfl⟩ := Action.mapM_cons_ok_iff.1 h
    obtain ⟨outcome, u', issued, first⟩ := Action.ok_of_bind first
    cases first
    obtain ⟨answer, same⟩ := Action.issue_ok issued
    obtain ⟨total, reported, complete, quiet⟩ := ih names.2 rest
    refine ⟨outcome.changes + total, ?_, fun all => ?_, ?_⟩
    · simp [Database.reported, answer, reported]
    · rcases Database.answer_insert_ok name names.1 answer with left | ⟨one, row, adds, number⟩
      · exact absurd left all
      · obtain ⟨count, each⟩ := complete fun left => all (adds.steps.leavesOut left)
        refine ⟨by rw [one, count, List.length_cons, Nat.add_comm], ?_⟩
        rw [← number]
        exact .cons adds each
    · rw [quiet, same, Session.signals_issued]

/-! ## Compiled documents -/

section

variable {doc : Document} {hooks : Hooks} {c : Compiled}

theorem Dispatch.applyAlone_reports (compiled : doc.compile hooks = .ok c) {op : BatchOperation}
    {s t : Session} {result : BatchResult} (h : (c.dispatch.applyAlone op).run s = .ok result t) :
    ∃ targets, c.dispatch.Reports s.database op ⟨result, targets⟩ t.database ∧
      t.signals = s.signals ++ targets := by
  obtain ⟨changed, u, made, rfl, rfl⟩ := Dispatch.applyAlone_ok h
  refine ⟨changed.targets, Dispatch.applyOne_reports (t := u) compiled made, ?_⟩
  rw [Session.signals_signal, Dispatch.applyOne_signals made]

theorem Dispatch.applyBatch_reports (compiled : doc.compile hooks = .ok c)
    {ops : List BatchOperation} {s t : Session} {results : List BatchResult}
    (h : (c.dispatch.applyBatch ops).run s = .ok results t) :
    ∃ changes after, c.dispatch.ReportsEach s.database.begin ops changes after ∧
      t.database = after.commit ∧ results = changes.map Changed.answer ∧
      t.signals = s.signals ++ changes.flatMap Changed.targets := by
  obtain ⟨changes, u, made, h⟩ := Action.ok_of_bind h
  obtain ⟨-, v, inside, -, rfl⟩ := Action.transaction_ok_iff.1 made
  obtain ⟨reports, quiet⟩ := Dispatch.applyAll_reports compiled inside
  obtain ⟨_, w, signalled, h⟩ := Action.ok_of_bind h
  rw [Action.signal_run] at signalled
  cases signalled
  cases h
  refine ⟨changes, v.database, reports, rfl, rfl, ?_⟩
  rw [Session.signals_signal]
  exact congrArg (· ++ _) quiet

theorem Dispatch.bulkInsert_reports (compiled : doc.compile hooks = .ok c) {l : Locator}
    {records : List Record} {n : Nat} {s t : Session}
    (h : (c.dispatch.bulkInsert l records).run s = .ok n t) :
    ∃ p ids total after, c.dispatch.planFor .insert l = .ok p ∧
      s.database.begin.reported (records.map (Sql.insert p.endpoint.table)) = some (total, after) ∧
      t.database = after.commit ∧
      t.signals = s.signals ++ p.targets ⟨.bulkInsert, l, none, records, ids, n, "", []⟩ ∧
      (¬ s.database.LeavesOut p.endpoint.table →
        n = total ∧ Database.AddsEach p.endpoint.table s.database.begin ids after) := by
  obtain ⟨p, planned, h⟩ := Action.ok_of_ofExcept_bind h
  obtain ⟨_, checked, h⟩ := Action.ok_of_ofExcept_bind h
  obtain ⟨changed, u, made, h⟩ := Action.ok_of_bind h
  rw [Changed.announce_run] at h
  cases h
  obtain ⟨-, v, inside, -, rfl⟩ := Action.transaction_ok_iff.1 made
  obtain ⟨ids, w, rows, inside⟩ := Action.ok_of_bind inside
  cases inside
  obtain ⟨schema, hschema, table⟩ :=
    Document.table_compiled compiled (Dispatch.resolve_of_planFor planned)
  have named := Schema.named_of_ofDatabase hschema
  have columns (r : Record) (hr : r ∈ records) :=
    named.record table (Plan.fits_of_checkRecord (Dispatch.checkRecord_of_forM checked r hr))
  obtain ⟨total, reported, complete, quiet⟩ :=
    Plan.insertRows_reports (named.table table) columns rows
  refine ⟨p, ids, total, v.database, planned, reported, rfl, ?_, fun all => ?_⟩
  · rw [Session.signals_signal]
    exact congrArg (· ++ _) quiet
  · obtain ⟨count, each⟩ := complete all
    exact ⟨count.symm, each⟩

end

/-- What a change reports, on its own or in a batch, and what a bulk insertion reports, is what the
database reports: the sum of what their statements affect, and the numbers of the rows that they
add. Only where a constraint of the table says IGNORE, or there are triggers, an insertion may report
a row that was left out. -/
theorem reports_affected {doc : Document} {hooks : Hooks} {c : Compiled}
    (compiled : doc.compile hooks = .ok c) (s : Session) :
    (∀ op result t, (c.dispatch.applyAlone op).run s = .ok result t →
      ∃ targets, c.dispatch.Reports s.database op ⟨result, targets⟩ t.database ∧
        t.signals = s.signals ++ targets) ∧
    (∀ ops results t, (c.dispatch.applyBatch ops).run s = .ok results t →
      ∃ changes after, c.dispatch.ReportsEach s.database.begin ops changes after ∧
        t.database = after.commit ∧ results = changes.map Changed.answer ∧
        t.signals = s.signals ++ changes.flatMap Changed.targets) ∧
    ∀ l records n t, (c.dispatch.bulkInsert l records).run s = .ok n t →
      ∃ p ids total after, c.dispatch.planFor .insert l = .ok p ∧
        s.database.begin.reported (records.map (Sql.insert p.endpoint.table)) =
          some (total, after) ∧
        t.database = after.commit ∧
        t.signals = s.signals ++
          p.targets ⟨.bulkInsert, l, none, records, ids, n, "", []⟩ ∧
        (¬ s.database.LeavesOut p.endpoint.table →
          n = total ∧ Database.AddsEach p.endpoint.table s.database.begin ids after) := by
  refine ⟨fun op result t h => ?_, fun ops results t h => ?_, fun l records n t h => ?_⟩
  · exact Dispatch.applyAlone_reports compiled h
  · exact Dispatch.applyBatch_reports compiled h
  · exact Dispatch.bulkInsert_reports compiled h

namespace Tasks

/-- A task of a list. -/
def task (title : String) : Record :=
  [("list", .num (.int 7)), ("title", .str title)]

/-- What a request answered, if it succeeded. -/
def answered {α : Type} : EStateM.Result ProviderError Session α → Option α
  | .ok a _ => some a
  | .error .. => none

theorem exists_of_answered {α : Type} {x : EStateM.Result ProviderError Session α} {a : α}
    (h : answered x = some a) : ∃ t, x = .ok a t := by
  cases x with
  | ok b t =>
    cases h
    exact ⟨t, rfl⟩
  | error e t => cases h

end Tasks

theorem reports_affected_tasks :
    ∃ c p, Tasks.document.compile Tasks.hooks = .ok c ∧
      c.dispatch.planFor .insert ⟨"tasks"⟩ = .ok p ∧
      ¬ Tasks.session.database.LeavesOut p.endpoint.table ∧
      ∃ t ids after, (c.dispatch.bulkInsert ⟨"tasks"⟩ [Tasks.task "a", Tasks.task "b"]).run
          Tasks.session = .ok 2 t ∧
        Tasks.session.database.begin.reported
          ([Tasks.task "a", Tasks.task "b"].map (Sql.insert "tasks")) = some (2, after) ∧
        Database.AddsEach "tasks" Tasks.session.database.begin ids after := by
  have hp : Tasks.compiled.dispatch.planFor .insert ⟨"tasks"⟩ = .ok Tasks.whole := rfl
  have complete : ¬ Tasks.session.database.LeavesOut Tasks.whole.endpoint.table := by
    rintro (triggers | ⟨t, found, ignores⟩)
    · exact triggers rfl
    cases found
    exact absurd ignores (by decide +kernel)
  obtain ⟨t, ran⟩ : ∃ t, (Tasks.compiled.dispatch.bulkInsert ⟨"tasks"⟩
      [Tasks.task "a", Tasks.task "b"]).run Tasks.session = .ok 2 t :=
    Tasks.exists_of_answered (by decide +kernel)
  obtain ⟨p', ids, total, after, hp', reported, -, -, all⟩ :=
    (reports_affected Tasks.compiles Tasks.session).2.2 _ _ _ _ ran
  cases hp.symm.trans hp'
  obtain ⟨rfl, each⟩ := all complete
  exact ⟨Tasks.compiled, _, Tasks.compiles, hp, complete, t, ids, after, ran, reported, each⟩

namespace Tasks

/-- Tasks whose titles are distinct, or else they are left out. -/
def lenient : Document :=
  { document with database := ⟨"todo", 1, [⟨"tasks", false,
    [column "id" .integer (some .none), column "list" .integer none,
      ⟨"title", .text, none, none, some .ignore, false, none, none, none⟩],
    none, [], [], []⟩], []⟩ }

/-- Two tasks with titles of their own. -/
def titled : Session :=
  ⟨⟨[⟨"tasks", [⟨"id", .integer, none, none⟩, ⟨"list", .integer, none, none⟩,
    ⟨"title", .text, none, none⟩], some ⟨0, .none, false⟩, [⟨[2], .ignore, false⟩], [], [],
    [⟨1, [.int 1, .int 7, .text "a"]⟩, ⟨2, [.int 2, .int 7, .text "b"]⟩], 0⟩], [], 1, true, 2, false⟩,
    true, []⟩

end Tasks

/-- A task that is left out is reported as one, with the number of another task; and of three tasks
that are reported, only one was added. -/
theorem reports_left_out :
    ∃ c, Tasks.lenient.compile Tasks.hooks = .ok c ∧
      (∃ t, (c.dispatch.applyAlone (.insert ⟨"tasks"⟩ (Tasks.task "a"))).run Tasks.titled =
        .ok ⟨some "tasks/2", 1⟩ t) ∧
      (Tasks.titled.database.reported [Sql.insert "tasks" (Tasks.task "a")]).map Prod.fst = some 0 ∧
      (∃ t, (c.dispatch.bulkInsert ⟨"tasks"⟩ (["a", "b", "c"].map Tasks.task)).run Tasks.titled =
        .ok 3 t) ∧
      (Tasks.titled.database.begin.reported
        (["a", "b", "c"].map fun title => Sql.insert "tasks" (Tasks.task title))).map Prod.fst =
          some 1 := by
  exact ⟨_, rfl, Tasks.exists_of_answered (by decide +kernel), by decide +kernel,
    Tasks.exists_of_answered (by decide +kernel), by decide +kernel⟩

end ResourceProvider
