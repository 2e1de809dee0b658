import ResourceProvider.Proofs.Engine.Deferred
import ResourceProvider.Proofs.Lifecycle.Request
/-!
# A batch is its operations one after another

`Follows` compares the session of a batch with the session of the same operations made as requests
of their own: the databases differ in the mark of the transaction, and the batch has not yet
signalled what the requests signalled. One operation that succeeds keeps it (`applyOne_follows`), so
a whole batch does (`applyAll_follows`), and ending the transaction brings the two together. An
operation that fails on its own fails in a batch too, unless what it violates is a foreign key that
is deferred: the operations behind it may still make up for that.
-/
namespace ResourceProvider

open Engine (Database IsSingle Refusal)
open Engine.Database (Steps)

/-- A batch has come as far as requests of their own, from the database `start` on. Nothing was
signalled in it after `before`; the requests have signalled what is pending. -/
structure Follows (start : Database) (before : List String) (alone batch : Session)
    (pending : List String) : Prop where
  isOpen : alone.isOpen
  stillOpen : batch.isOpen
  idle : alone.database.inTransaction = false
  steps : Steps start alone.database
  database : batch.database = alone.database.mark true
  statements : batch.statements = alone.statements
  quiet : batch.signals = before
  signals : alone.signals = before ++ pending

namespace Follows

variable {start : Database} {before pending : List String} {alone batch : Session}

theorem issued (h : Follows start before alone batch pending) (statement : Sql.Statement)
    {db : Database} (idle : db.inTransaction = false) (steps : Steps alone.database db) :
    Follows start before (alone.issued statement db) (batch.issued statement (db.mark true))
      pending where
  isOpen := h.isOpen
  stillOpen := h.stillOpen
  idle := idle
  steps := h.steps.trans steps
  database := rfl
  statements := by simp [h.statements]
  quiet := by simp [h.quiet]
  signals := by simp [h.signals]

theorem signal (h : Follows start before alone batch pending) (targets : List String) :
    Follows start before (alone.signal targets) batch (pending ++ targets) where
  isOpen := h.isOpen
  stillOpen := h.stillOpen
  idle := h.idle
  steps := h.steps
  database := h.database
  statements := by simp [h.statements]
  quiet := h.quiet
  signals := by simp [h.signals]

end Follows

/-- The error tells of nothing that a transaction puts off: no foreign key of the database is deferred,
or it is not one that is violated. -/
def ProviderError.IsImmediate (e : ProviderError) (db : Database) : Prop :=
  db.IsImmediate ∨ e ≠ .storage (.violation .foreignKey)

/-- What operations do in a batch, next to what they do on their own: the answers agree, what the
batch still has to signal is what was signalled, and no more refers to nothing than at the start; or
they fail alike, unless for a foreign key that may be put off. -/
def Agree {α β : Type} (start : Database) (before pending : List String) (answer : β → α)
    (targets : β → List String) (batch : EStateM.Result ProviderError Session β) :
    EStateM.Result ProviderError Session α → Prop
  | .ok x alone => ∃ c after, batch = .ok c after ∧ answer c = x ∧
      Follows start before alone after (pending ++ targets c) ∧
        start.isOverdue alone.database = false
  | .error e alone => e.IsImmediate start → ∃ after pending, batch = .error e after ∧
      Follows start before alone after pending

/-! ## One operation -/

variable {start : Database} {before pending : List String} {alone batch : Session}

theorem Engine.Database.mark_self {db : Database} {b : Bool} (h : db.inTransaction = b) :
    db.mark b = db := by
  subst h
  rfl

theorem applyOne_follows (d : Dispatch) (op : BatchOperation)
    (h : Follows start before alone batch pending)
    (kept : start.isOverdue alone.database = false)
    (single : ∀ r, d.prepare op = .ok r → IsSingle r.statement.text) :
    Agree start before pending Changed.answer Changed.targets ((d.applyOne op).run batch)
      ((d.applyAlone op).run alone) := by
  rw [d.applyAlone_run op h.isOpen, EStateM.run_bind, d.applyOne_eq op]
  cases hr : d.prepare op with
  | error e => exact fun _ => ⟨batch, pending, rfl, h⟩
  | ok r =>
    have alike := alone.database.run_settles_alike
      (r.statement.params.map Sql.cellOfValue) (single r hr) (Dispatch.prepare_changesRows hr)
    rw [Action.ofExcept_ok, pure_bind, r.make_run h.isOpen, r.make_run h.stillOpen, h.database]
    obtain ⟨steps, idle⟩ := alike.steps false
    rw [Database.mark_self h.idle] at steps idle
    cases answer : alone.database.answer r.statement with
    | mk db answered =>
      have ran := answer
      rw [Database.answer, ← Database.mark_self h.idle] at ran
      rw [Database.answer] at answer
      rw [answer] at steps idle
      cases answered with
      | error e =>
        intro immediate
        have now : alone.database.IsImmediate ∨ e ≠ .violation .foreignKey :=
          immediate.imp h.steps.isImmediate fun other same => other (by rw [same]; rfl)
        rw [Database.answer, alike.fails ran now]
        exact ⟨_, pending, rfl, h.issued r.statement idle steps⟩
      | ok outcome =>
        obtain ⟨inside, whole⟩ := alike.succeeds ran
        rw [Database.answer, inside]
        simp only [Changed.announce_run]
        exact ⟨_, _, rfl, rfl, (h.issued r.statement idle steps).signal _,
          Database.breaks_trans kept whole steps.enforces⟩

/-! ## All operations -/

theorem applyAll_follows (d : Dispatch) (ops : List BatchOperation)
    (h : Follows start before alone batch pending)
    (kept : start.isOverdue alone.database = false)
    (single : ∀ op ∈ ops, ∀ r, d.prepare op = .ok r → IsSingle r.statement.text) :
    Agree start before pending (List.map Changed.answer) (List.flatMap Changed.targets)
      ((ops.mapM d.applyOne).run batch) ((ops.mapM d.applyAlone).run alone) := by
  induction ops generalizing alone batch pending with
  | nil => exact ⟨[], batch, rfl, rfl, by simpa using h, kept⟩
  | cons op ops ih =>
    have first := applyOne_follows d op h kept (single op (List.mem_cons_self ..))
    simp only [List.mapM_cons, EStateM.run_bind]
    cases halone : (d.applyAlone op).run alone with
    | error e t =>
      rw [halone] at first
      intro immediate
      obtain ⟨after, pending, hbatch, hf⟩ := first immediate
      rw [hbatch]
      exact ⟨after, pending, rfl, hf⟩
    | ok x t =>
      rw [halone] at first
      obtain ⟨c, after, hbatch, rfl, hf, kept⟩ := first
      rw [hbatch]
      -- The batch still follows, with the signals of this operation pending.
      have rest := ih hf kept fun op hop => single op (List.mem_cons_of_mem _ hop)
      dsimp only
      cases hlater : (ops.mapM d.applyAlone).run t with
      | error e t =>
        rw [hlater] at rest
        intro immediate
        obtain ⟨after, pending, hbatch, hf⟩ := rest immediate
        rw [hbatch]
        exact ⟨after, pending, rfl, hf⟩
      | ok xs t =>
        rw [hlater] at rest
        obtain ⟨cs, after, hbatch, rfl, hf, kept⟩ := rest
        rw [hbatch]
        refine ⟨c :: cs, after, rfl, rfl, ?_, kept⟩
        rwa [List.flatMap_cons, ← List.append_assoc]

/-! ## The transaction -/

/-- A batch that fails signals nothing, and leaves the database as it was, but for the number of the
last row. -/
theorem Dispatch.applyBatch_undone (d : Dispatch) {s u : Session} {ops : List BatchOperation}
    {e : ProviderError} (idle : s.database.inTransaction = false)
    (failed : (d.applyBatch ops).run s = .error e u) :
    (∃ n, u.database = { s.database with lastRowid := n }) ∧ u.signals = s.signals := by
  refine ⟨?_, ?_⟩
  · obtain failed | ⟨cs, t, -, announced⟩ := Action.error_of_bind failed
    · cases isOpen : s.isOpen with
      | false =>
        rw [Action.transaction_closed _ isOpen] at failed
        cases failed
        exact ⟨_, rfl⟩
      | true =>
        obtain ⟨t, -, rfl⟩ := (Action.transaction_error_iff isOpen).1 failed
        refine ⟨t.database.lastRowid, ?_⟩
        simp only [Session.undone, Database.rollback, Database.undoTo, Database.commit, idle]
    · simp only [EStateM.run_bind, Action.signal_run] at announced
      cases announced
  · have signalled := d.signals_batch ops s
    simpa [Action.after, failed] using signalled

/-- A batch does what its operations do as requests of their own, one after another. If all of
them succeed, so does the batch, with the same answers, rows and signals. If one fails, and not for
a foreign key that may be put off to the end of a transaction, the batch fails alike. A batch that
fails, for whatever reason, signals nothing, and every table is as it was; only the number of the
last row stays used up. -/
def Dispatch.BatchRefines (d : Dispatch) (s : Session) (ops : List BatchOperation) : Prop :=
  (match (ops.mapM d.applyAlone).run s with
  | .ok results t => ∃ u, (d.applyBatch ops).run s = .ok results u ∧
      u.database = t.database ∧ u.signals = t.signals ∧ u.statements = t.statements
  | .error e t => e.IsImmediate s.database → ∃ u, (d.applyBatch ops).run s = .error e u ∧
      u.database = { s.database with lastRowid := t.database.lastRowid } ∧
      u.signals = s.signals ∧ u.statements = t.statements) ∧
  ∀ e u, (d.applyBatch ops).run s = .error e u →
    (∃ n, u.database = { s.database with lastRowid := n }) ∧ u.signals = s.signals

/-- Every batch on an open database that is not in a transaction refines its operations, if each
issues a single statement. -/
theorem applyBatch_refines (d : Dispatch) (s : Session) (ops : List BatchOperation)
    (isOpen : s.isOpen) (idle : s.database.inTransaction = false)
    (single : ∀ op ∈ ops, ∀ r, d.prepare op = .ok r → IsSingle r.statement.text) :
    d.BatchRefines s ops := by
  refine ⟨?_, fun e u failed => d.applyBatch_undone idle failed⟩
  have start : Follows s.database s.signals s s.begun [] :=
    ⟨isOpen, isOpen, idle, .refl, rfl, rfl, rfl, (List.append_nil _).symm⟩
  have all := applyAll_follows d ops start (s.database.breaks_self true) single
  -- The operations run in step; what is left is to commit and signal, or to roll back.
  simp only [Dispatch.applyBatch, EStateM.run_bind, Action.transaction_run _ isOpen]
  cases halone : (ops.mapM d.applyAlone).run s with
  | error e t =>
    rw [halone] at all
    intro immediate
    obtain ⟨after, pending, hbatch, hf⟩ := all immediate
    rw [hbatch]
    refine ⟨_, rfl, ?_, hf.quiet, hf.statements⟩
    simp only [Session.undone, Database.rollback, Database.undoTo, Database.commit, hf.database,
      idle]
    rfl
  | ok results t =>
    rw [halone] at all
    obtain ⟨cs, after, hbatch, rfl, hf, kept⟩ := all
    have whole : s.database.isOverdue after.database = false := by
      rw [hf.database]
      exact kept
    rw [hbatch]
    simp only [whole, Bool.false_eq_true, if_false, Action.signal_run, EStateM.run_pure]
    refine ⟨_, rfl, ?_, ?_, ?_⟩
    · simp only [Session.signal, Session.committed, hf.database]
      exact Database.mark_self hf.idle
    · rw [Session.signals_signal, hf.signals]
      exact congrArg (· ++ _) hf.quiet
    · rw [Session.statements_signal]
      exact hf.statements

namespace Tasks

/-- Adds a task, renames the tasks of a list, and removes some of them. -/
def changes : List BatchOperation :=
  [.insert ⟨"tasks"⟩ [("list", .num (.int 7)), ("title", .str "plan")],
    .update ⟨"lists/7"⟩ [("title", .str "draft")] ⟨some "id > ?", ["1"]⟩,
    .delete ⟨"/lists/7"⟩ ⟨some "title = ?", ["draft"]⟩]

end Tasks

theorem applyBatch_refines_tasks :
    ∃ c, Tasks.document.compile Tasks.hooks = .ok c ∧ Tasks.session.isOpen ∧
      Tasks.session.database.inTransaction = false ∧
      (∀ op ∈ Tasks.changes, ∀ r, c.dispatch.prepare op = .ok r → IsSingle r.statement.text) ∧
      c.dispatch.BatchRefines Tasks.session Tasks.changes := by
  obtain ⟨c, hc, single⟩ : ∃ c, Tasks.document.compile Tasks.hooks = .ok c ∧
      ∀ op ∈ Tasks.changes, ∀ r, c.dispatch.prepare op = .ok r → IsSingle r.statement.text := by
    refine ⟨Tasks.compiled, Tasks.compiles, fun op hop r hr => ?_⟩
    simp only [Tasks.changes, List.mem_cons, List.not_mem_nil, or_false] at hop
    rcases hop with rfl | rfl | rfl
    all_goals
      cases hr
      exact List.length_eq_one_iff.1 (by decide +kernel)
  exact ⟨c, hc, rfl, rfl, single, applyBatch_refines _ _ _ rfl rfl single⟩

namespace Tasks

/-- Lists, and tasks that refer to them by a foreign key that is put off to the end of a transaction:
it stands in a default, which is copied as it is. -/
def putOff : Document where
  database := ⟨"todo", 1, [
    ⟨"lists", false, [column "id" .integer (some .none)], none, [], [], []⟩,
    ⟨"tasks", false, [column "id" .integer (some .none), ⟨"list", .integer, none, none, none, false,
      some "NULL REFERENCES lists(id) DEFERRABLE INITIALLY DEFERRED", none, none⟩],
      none, [], [], []⟩], []⟩
  provider := ⟨"todo", [
    ⟨"lists", "lists", [], [⟨"lists", "lists", "list", none, [], none, none, none, none, none,
      Operation.all, []⟩], [], [], .empty⟩,
    ⟨"tasks", "tasks", [], [⟨"tasks", "tasks", "task", none, [], none, none, none, none, none,
      Operation.all, []⟩], [], [], .empty⟩], .empty⟩

/-- Adds a task of a list, and then the list. -/
def childFirst : List BatchOperation :=
  [.insert ⟨"tasks"⟩ [("list", .num (.int 7))], .insert ⟨"lists"⟩ [("id", .num (.int 7))]]

/-- Once the tables are created the operations fail on their own, for a foreign key; as a batch they
add their rows, and signal that. -/
def outlives (d : Dispatch) : EStateM.Result ProviderError Session Unit → Bool
  | .error .. => false
  | .ok _ s =>
    match (childFirst.mapM d.applyAlone).run s, (d.applyBatch childFirst).run s with
    | .error (.storage (.violation .foreignKey)) _, .ok _ u =>
      s.isOpen && !s.database.inTransaction && u.signals = ["tasks", "lists"] &&
        (u.database.tables.map fun t => t.rows.length) = [1, 1]
    | _, _ => false

theorem exists_of_outlives {d : Dispatch} {x : EStateM.Result ProviderError Session Unit}
    (h : outlives d x) : ∃ s t results u, x = .ok () s ∧ s.isOpen ∧
      s.database.inTransaction = false ∧
      (childFirst.mapM d.applyAlone).run s = .error (.storage (.violation .foreignKey)) t ∧
      (d.applyBatch childFirst).run s = .ok results u ∧ u.signals = ["tasks", "lists"] ∧
      (u.database.tables.map fun t => t.rows.length) = [1, 1] := by
  unfold outlives at h
  split at h
  · cases h
  · rename_i s
    split at h
    · rename_i t results u failed succeeds
      simp only [Bool.and_eq_true, Bool.not_eq_true', decide_eq_true_eq] at h
      obtain ⟨⟨⟨isOpen, idle⟩, signals⟩, rows⟩ := h
      exact ⟨s, t, results, u, rfl, isOpen, idle, failed, succeeds, signals, rows⟩
    · cases h

end Tasks

/-- A batch adds a task of a list before the list, although the task alone is refused: its foreign
key is only looked at when the transaction ends. -/
theorem batch_outlives_putOff :
    ∃ c s t results u, Tasks.putOff.compile Tasks.hooks = .ok c ∧
      c.script.issue.run Session.start = .ok () s ∧ s.isOpen ∧ s.database.inTransaction = false ∧
      (∀ op ∈ Tasks.childFirst, ∀ r, c.dispatch.prepare op = .ok r → IsSingle r.statement.text) ∧
      (Tasks.childFirst.mapM c.dispatch.applyAlone).run s =
        .error (.storage (.violation .foreignKey)) t ∧
      (c.dispatch.applyBatch Tasks.childFirst).run s = .ok results u ∧
      u.signals = ["tasks", "lists"] ∧
      (u.database.tables.map fun t => t.rows.length) = [1, 1] := by
  obtain ⟨c, compiled⟩ : ∃ c, Tasks.putOff.compile Tasks.hooks = .ok c := ⟨_, rfl⟩
  have outlives : Tasks.outlives c.dispatch (c.script.issue.run Session.start) := by
    cases compiled
    decide +kernel
  obtain ⟨s, t, results, u, created, isOpen, idle, failed, rest⟩ := Tasks.exists_of_outlives outlives
  refine ⟨c, s, t, results, u, compiled, created, isOpen, idle, fun op hop r hr => ?_, failed, rest⟩
  cases compiled
  rcases List.mem_pair.1 hop with rfl | rfl
  all_goals
    cases hr
    exact List.length_eq_one_iff.1 (by decide +kernel)

end ResourceProvider
