import ResourceProvider.Proofs.Engine.Refusals
import ResourceProvider.Proofs.Provider.Bulk
import ResourceProvider.Proofs.Provider.Checked
import ResourceProvider.Proofs.Provider.Faults
/-!
# Changes that the database refuses

A call that changes rows asks the database for one thing after another (`Dispatch.Asks`), and in a
transaction it asks to keep them all. It ends with an error of the storage exactly if one of these
is refused, and the error is all that is left of the refusal (`Dispatch.refused_iff`): a foreign key
that restricts is not told apart from a statement that means nothing.
-/
namespace ResourceProvider

open Engine (Refusal)
open Route (Locator)

/-! ## Actions that end in the storage -/

namespace Action

variable {α β : Type} {x : Action α} {s : Session} {e : StorageError}

/-- The action ends with an error of the storage. -/
def EndsWith (x : Action α) (s : Session) (e : StorageError) : Prop :=
  ∃ t, x.run s = .error (.storage e) t

theorem endsWith_wrap {f : α → β} :
    EndsWith (do return f (← x)) s e ↔ x.EndsWith s e := by
  unfold EndsWith
  rw [run_wrap]
  cases x.run s with
  | ok a t => simp
  | error e' t => simp

/-- What comes next cannot fail. -/
theorem endsWith_bind {f : α → Action β} (safe : ∀ a t, ∃ b u, (f a).run t = .ok b u) :
    (x >>= f).EndsWith s e ↔ x.EndsWith s e := by
  unfold EndsWith
  rw [EStateM.run_bind]
  cases x.run s with
  | ok a t =>
    obtain ⟨b, u, ran⟩ := safe a t
    simp [ran]
  | error e' t => simp

/-- A check for what the request says comes first. -/
theorem endsWith_check {y : Except ProviderError α} (refusal : FailsBy ProviderError.IsRefusal y)
    {f : α → Action β} :
    (ofExcept y >>= f).EndsWith s e ↔ ∃ a, y = .ok a ∧ (f a).EndsWith s e := by
  cases y with
  | ok a =>
    rw [ofExcept_ok, pure_bind]
    simp
  | error e' =>
    refine iff_of_false ?_ (by simp)
    rintro ⟨t, failed⟩
    cases failed
    exact refusal _ rfl

theorem endsWith_issue (statement : Sql.Statement) (isOpen : s.isOpen) :
    (issue statement).EndsWith s e ↔
      ∃ refusal, (s.database.answer statement).2 = .error refusal ∧ refusal.error = e := by
  unfold EndsWith
  rw [issue_run statement isOpen]
  cases s.database.answer statement with
  | mk db answer => cases answer <;> simp

/-- A transaction ends like what is in it, or a foreign key that was put off is still violated. -/
theorem endsWith_transaction (isOpen : s.isOpen) :
    (transaction x).EndsWith s e ↔ x.EndsWith s.begun e ∨ ∃ a t, x.run s.begun = .ok a t ∧
      s.database.isOverdue t.database ∧ e = .violation .foreignKey := by
  constructor
  · rintro ⟨u, failed⟩
    obtain ⟨t, ran | ⟨⟨a, ran⟩, overdue, same⟩, -⟩ := (transaction_error_iff isOpen).1 failed
    · exact .inl ⟨t, ran⟩
    · cases same
      exact .inr ⟨a, t, ran, overdue, rfl⟩
  · rintro (⟨t, ran⟩ | ⟨a, t, ran, overdue, rfl⟩)
    · exact ⟨_, (transaction_error_iff isOpen).2 ⟨t, .inl ran, rfl⟩⟩
    · exact ⟨_, (transaction_error_iff isOpen).2 ⟨t, .inr ⟨⟨a, ran⟩, overdue, rfl⟩, rfl⟩⟩

theorem endsWith_mapM {f : α → Action β} {xs : List α} : (xs.mapM f).EndsWith s e ↔
    ∃ before x after ys u, xs = before ++ x :: after ∧
      (before.mapM f).run s = .ok ys u ∧ (f x).EndsWith u e := by
  constructor
  · rintro ⟨t, failed⟩
    obtain ⟨before, x, after, ys, u, split, passed, failed⟩ := mapM_error_iff.1 failed
    exact ⟨before, x, after, ys, u, split, passed, t, failed⟩
  · rintro ⟨before, x, after, ys, u, split, passed, t, failed⟩
    exact ⟨t, mapM_error_iff.2 ⟨before, x, after, ys, u, split, passed, failed⟩⟩

end Action

open ResourceProvider.Action (EndsWith FailsAs)

/-! ## What a call asks the database -/

/-- The call is to change rows. -/
def Call.Changes : Call → Prop
  | .query .. | .typeOf _ => False
  | .change _ | .bulkInsert .. | .batch _ => True

/-- A call asks a database to run a statement. It asks for the first change in the database of the
session; in a transaction it asks for each change in the database that those before it left. -/
inductive Dispatch.Asks (d : Dispatch) (s : Session) :
    Call → Engine.Database → Sql.Statement → Prop where
  | change {op : BatchOperation} {x : Sql.Statement} (composed : d.compose (.change op) = .ok x) :
    Asks d s (.change op) s.database x
  | bulkInsert {l : Locator} {p : Plan} {before after : List Record} {r : Record} {ids : List Int}
      {t : Session} (planned : d.planFor .insert l = .ok p)
      (checked : (before ++ r :: after).forM p.checkRecord = .ok ())
      (added : (before.mapM p.insertRow).run s.begun = .ok ids t) :
    Asks d s (.bulkInsert l (before ++ r :: after)) t.database (Sql.insert p.endpoint.table r)
  | batch {before after : List BatchOperation} {op : BatchOperation}
      {made : List (Changed BatchResult)} {t : Session} {x : Sql.Statement}
      (passed : (before.mapM d.applyOne).run s.begun = .ok made t)
      (composed : d.compose (.change op) = .ok x) :
    Asks d s (.batch (before ++ op :: after)) t.database x

/-- All changes of a call were made in a transaction, and rows refer to nothing by foreign keys that
were put off until its end. -/
inductive Dispatch.EndsOverdue (d : Dispatch) (s : Session) : Call → Prop where
  | bulkInsert {l : Locator} {p : Plan} {records : List Record} {ids : List Int} {t : Session}
      (planned : d.planFor .insert l = .ok p) (checked : records.forM p.checkRecord = .ok ())
      (added : (records.mapM p.insertRow).run s.begun = .ok ids t)
      (overdue : s.database.isOverdue t.database) : EndsOverdue d s (.bulkInsert l records)
  | batch {ops : List BatchOperation} {made : List (Changed BatchResult)} {t : Session}
      (passed : (ops.mapM d.applyOne).run s.begun = .ok made t)
      (overdue : s.database.isOverdue t.database) : EndsOverdue d s (.batch ops)

/-- A call asks for something that the database refuses: a change, or that all of them be kept. -/
def Dispatch.Refuses (d : Dispatch) (s : Session) (c : Call) (refusal : Refusal) : Prop :=
  (∃ db x, d.Asks s c db x ∧ (db.answer x).2 = .error refusal) ∨
    d.EndsOverdue s c ∧ refusal = .violation .foreignKey

variable {d : Dispatch} {s t u : Session} {e : StorageError}

/-! ## One change -/

theorem Dispatch.prepare_refuses (d : Dispatch) (op : BatchOperation) :
    FailsBy ProviderError.IsRefusal (d.prepare op) :=
  fun e failed => ((d.decides_applyAlone op).refused e failed).1

theorem Dispatch.compose_change_iff {op : BatchOperation} {x : Sql.Statement} :
    d.compose (.change op) = .ok x ↔ ∃ r, d.prepare op = .ok r ∧ r.statement = x := by
  rw [compose]
  cases d.prepare op with
  | error e => exact iff_of_false (fun h => by cases h) (by simp)
  | ok r =>
    change Except.ok r.statement = _ ↔ _
    simp

theorem Dispatch.applyOne_endsWith {op : BatchOperation} (isOpen : s.isOpen) :
    (d.applyOne op).EndsWith s e ↔ ∃ x refusal, d.compose (.change op) = .ok x ∧
      (s.database.answer x).2 = .error refusal ∧ refusal.error = e := by
  rw [d.applyOne_eq op, Action.endsWith_check (d.prepare_refuses op)]
  have made (r : Prepared) : r.make.EndsWith s e ↔
      ∃ refusal, (s.database.answer r.statement).2 = .error refusal ∧ refusal.error = e :=
    (Action.endsWith_bind fun _ t => ⟨_, t, rfl⟩).trans (Action.endsWith_issue _ isOpen)
  simp only [made, compose_change_iff]
  constructor
  · rintro ⟨r, prepared, refusal, answered, same⟩
    exact ⟨_, refusal, ⟨r, prepared, rfl⟩, answered, same⟩
  · rintro ⟨_, refusal, ⟨r, prepared, rfl⟩, answered, same⟩
    exact ⟨r, prepared, refusal, answered, same⟩

theorem Plan.insertRow_endsWith {p : Plan} {r : Record} (isOpen : s.isOpen) :
    (p.insertRow r).EndsWith s e ↔ ∃ refusal,
      (s.database.answer (Sql.insert p.endpoint.table r)).2 = .error refusal ∧
        refusal.error = e :=
  (Action.endsWith_bind fun _ t => ⟨_, t, rfl⟩).trans (Action.endsWith_issue _ isOpen)

/-! ## Calls -/

namespace Dispatch

/-- Changes that were made leave an open database open. -/
theorem applied_isOpen {ops : List BatchOperation} {made : List (Changed BatchResult)}
    (passed : (ops.mapM d.applyOne).run s = .ok made t) (isOpen : s.isOpen) : t.isOpen := by
  have one (op : BatchOperation) : FailsAs (fun _ => True) (d.applyOne op) := by
    rw [d.applyOne_eq op]
    exact (FailsAs.ofExcept fun _ _ => trivial).bind fun r =>
      (FailsAs.issue (fun _ _ => trivial) _).bind fun _ => FailsAs.get.bind fun _ => .pure _
  rw [(FailsAs.mapM one ops).ok passed]
  exact isOpen

theorem added_isOpen {p : Plan} {records : List Record} {ids : List Int}
    (added : (records.mapM p.insertRow).run s = .ok ids t) (isOpen : s.isOpen) : t.isOpen := by
  have one (r : Record) : FailsAs (fun _ => True) (p.insertRow r) :=
    (FailsAs.issue (fun _ _ => trivial) _).bind fun _ => FailsAs.get.bind fun _ => .pure _
  rw [(FailsAs.mapM one records).ok added]
  exact isOpen

theorem applyAlone_endsWith {op : BatchOperation} (isOpen : s.isOpen) :
    (d.applyAlone op).EndsWith s e ↔ (d.applyOne op).EndsWith s e := by
  have announced : (d.applyOne op >>= Changed.announce).EndsWith s e ↔ _ :=
    Action.endsWith_bind fun c t => ⟨_, _, c.announce_run t⟩
  rw [← announced, EndsWith, EndsWith, d.applyAlone_run op isOpen]

theorem bulkInsert_endsWith {l : Locator} {records : List Record} (isOpen : s.isOpen) :
    (d.bulkInsert l records).EndsWith s e ↔ ∃ p, d.planFor .insert l = .ok p ∧
      records.forM p.checkRecord = .ok () ∧ ((records.mapM p.insertRow).EndsWith s.begun e ∨
        ∃ ids t, (records.mapM p.insertRow).run s.begun = .ok ids t ∧
          s.database.isOverdue t.database ∧ e = .violation .foreignKey) := by
  rw [bulkInsert, Action.endsWith_check (d.planFor_refuses _ _)]
  refine exists_congr fun p => and_congr_right fun _ => ?_
  rw [Action.endsWith_check (p.checkRecords_refuses records)]
  have added : (Action.transaction do
      let ids ← records.mapM p.insertRow
      return (⟨records.length, p.targets
        ⟨.bulkInsert, l, none, records, ids, records.length, "", []⟩⟩ : Changed Nat)).EndsWith s e ↔
      (records.mapM p.insertRow).EndsWith s.begun e ∨
        ∃ ids t, (records.mapM p.insertRow).run s.begun = .ok ids t ∧
          s.database.isOverdue t.database ∧ e = .violation .foreignKey := by
    rw [Action.endsWith_transaction isOpen, Action.endsWith_wrap]
    refine or_congr_right ?_
    simp only [Action.run_wrap]
    cases (records.mapM p.insertRow).run s.begun <;> simp
  constructor
  · rintro ⟨_, checked, failed⟩
    exact ⟨checked, added.1 ((Action.endsWith_bind fun c t => ⟨_, _, c.announce_run t⟩).1 failed)⟩
  · rintro ⟨checked, failed⟩
    exact ⟨(), checked, (Action.endsWith_bind fun c t => ⟨_, _, c.announce_run t⟩).2
      (added.2 failed)⟩

theorem applyBatch_endsWith {ops : List BatchOperation} (isOpen : s.isOpen) :
    (d.applyBatch ops).EndsWith s e ↔ (ops.mapM d.applyOne).EndsWith s.begun e ∨
      ∃ made t, (ops.mapM d.applyOne).run s.begun = .ok made t ∧
        s.database.isOverdue t.database ∧ e = .violation .foreignKey := by
  rw [applyBatch, Action.endsWith_bind, Action.endsWith_transaction isOpen]
  intro changed t
  exact ⟨_, _, by simp only [EStateM.run_bind, Action.signal_run]; rfl⟩

/-- A call that changes rows ends with an error of the storage exactly if the database refuses
something that it asks for. -/
theorem refused_iff {c : Call} (changes : c.Changes) (isOpen : s.isOpen) :
    (d.call c).EndsWith s e ↔ ∃ refusal, d.Refuses s c refusal ∧ refusal.error = e := by
  cases c with
  | query l q => cases changes
  | typeOf l => cases changes
  | change op =>
    rw [call, Action.endsWith_wrap, applyAlone_endsWith isOpen, applyOne_endsWith isOpen]
    constructor
    · rintro ⟨x, refusal, composed, answered, same⟩
      exact ⟨refusal, .inl ⟨_, x, .change composed, answered⟩, same⟩
    · rintro ⟨refusal, ⟨_, x, asks, answered⟩ | ⟨overdue, -⟩, same⟩
      · obtain ⟨composed⟩ := asks
        exact ⟨x, refusal, composed, answered, same⟩
      · cases overdue
  | bulkInsert l records =>
    rw [call, Action.endsWith_wrap, bulkInsert_endsWith isOpen]
    constructor
    · rintro ⟨p, planned, checked, failed | ⟨ids, t, added, overdue, rfl⟩⟩
      · obtain ⟨before, r, after, ids, t, rfl, added, failed⟩ := Action.endsWith_mapM.1 failed
        obtain ⟨refusal, answered, same⟩ :=
          (Plan.insertRow_endsWith (added_isOpen added isOpen)).1 failed
        exact ⟨refusal, .inl ⟨_, _, .bulkInsert planned checked added, answered⟩, same⟩
      · exact ⟨_, .inr ⟨.bulkInsert planned checked added overdue, rfl⟩, rfl⟩
    · rintro ⟨refusal, ⟨_, _, asks, answered⟩ | ⟨ends, rfl⟩, same⟩
      · cases asks with
        | bulkInsert planned checked added =>
          refine ⟨_, planned, checked,
            .inl (Action.endsWith_mapM.2 ⟨_, _, _, _, _, rfl, added, ?_⟩)⟩
          exact (Plan.insertRow_endsWith (added_isOpen added isOpen)).2 ⟨refusal, answered, same⟩
      · cases ends with
        | bulkInsert planned checked added overdue =>
          exact ⟨_, planned, checked, .inr ⟨_, _, added, overdue, same.symm⟩⟩
  | batch ops =>
    rw [call, Action.endsWith_wrap, applyBatch_endsWith isOpen]
    constructor
    · rintro (failed | ⟨made, t, passed, overdue, rfl⟩)
      · obtain ⟨before, op, after, made, t, rfl, passed, failed⟩ := Action.endsWith_mapM.1 failed
        obtain ⟨x, refusal, composed, answered, same⟩ :=
          (applyOne_endsWith (applied_isOpen passed isOpen)).1 failed
        exact ⟨refusal, .inl ⟨_, x, .batch passed composed, answered⟩, same⟩
      · exact ⟨_, .inr ⟨.batch passed overdue, rfl⟩, rfl⟩
    · rintro ⟨refusal, ⟨_, x, asks, answered⟩ | ⟨ends, rfl⟩, same⟩
      · cases asks with
        | batch passed composed =>
          refine .inl (Action.endsWith_mapM.2 ⟨_, _, _, _, _, rfl, passed, ?_⟩)
          exact (applyOne_endsWith (applied_isOpen passed isOpen)).2
            ⟨x, refusal, composed, answered, same⟩
      · cases ends with
        | batch passed overdue => exact .inr ⟨_, _, passed, overdue, same.symm⟩

/-- What a call asks for changes rows. -/
theorem Asks.changesRows {c : Call} {db : Engine.Database} {x : Sql.Statement}
    (asks : d.Asks s c db x) : Engine.ChangesRows x.text := by
  have composed {op : BatchOperation} (composed : d.compose (.change op) = .ok x) :
      Engine.ChangesRows x.text := by
    obtain ⟨r, prepared, rfl⟩ := compose_change_iff.1 composed
    exact d.prepare_changesRows prepared
  cases asks with
  | change one => exact composed one
  | bulkInsert => exact Sql.insert_changesRows _ _
  | batch _ one => exact composed one

end Dispatch

end ResourceProvider
