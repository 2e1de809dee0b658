import ResourceProvider.Proofs.Dispatch.Compiled
import ResourceProvider.Proofs.Engine.Keyword
import ResourceProvider.Provider.Batch
/-!
# Prepared changes

An insertion, an update and a removal have one shape: what they need is found out without the
database, then one statement is issued, and what it affected and the number of the last row say
the rest. `Plan.Prepares` lists what this can come to. `applyOne_eq` brings the operations of a batch
into this shape, and `applyAlone_run` the same operations made on their own. `make_run` says what the
database is asked.
-/
namespace ResourceProvider

open Engine (ChangesRows)
open Route (Locator)

/-! ## Texts that change rows -/

namespace Sql

theorem insert_changesRows (table : String) (r : Record) : ChangesRows (insert table r).text := by
  have first : ∃ rest, (insert table r).text.toList = 'I' :: ("NSERT".toList ++ ' ' :: rest) := by
    unfold insert
    split <;> simp [String.toList_append]
  obtain ⟨rest, h⟩ := first
  exact Engine.changesRows_of_text h (by decide) (by decide) (by decide)

theorem Selection.update_changesRows {s : Selection} {r : Record} {statement : Statement}
    (h : s.update r = .ok statement) : ChangesRows statement.text := by
  unfold Selection.update at h
  cases ht : s.requiredTable with
  | error e => rw [ht] at h; cases h
  | ok table =>
    rw [ht] at h
    cases h
    refine Engine.changesRows_of_text (c := 'U') (w := "PDATE".toList)
      (r := (table ++ " SET " ++ Text.join ", " (r.map fun f => f.1 ++ "=?") ++
        s.whereClause).toList) ?_ (by decide) (by decide) (by decide)
    simp [String.toList_append]

theorem Selection.delete_changesRows {s : Selection} {statement : Statement}
    (h : s.delete = .ok statement) : ChangesRows statement.text := by
  unfold Selection.delete at h
  cases ht : s.requiredTable with
  | error e => rw [ht] at h; cases h
  | ok table =>
    rw [ht] at h
    cases h
    refine Engine.changesRows_of_text (c := 'D') (w := "ELETE".toList)
      (r := ("FROM " ++ table ++ s.whereClause).toList) ?_ (by decide) (by decide) (by decide)
    simp [String.toList_append]

end Sql

/-! ## What a change comes to -/

/-- A change that is ready to be made: its statement, and its answer with the locators to signal,
given how many rows were affected and the number of the last row that was added. -/
structure Prepared where
  statement : Sql.Statement
  result : (changes : Nat) → (rowid : Int) → Changed BatchResult

/-- Makes a prepared change. -/
def Prepared.make (r : Prepared) : Action (Changed BatchResult) := do
  let outcome ← Action.issue r.statement
  return r.result outcome.changes (← get).database.lastRowid

namespace BatchOperation

/-- What a plan must allow for the operation. -/
def operation : BatchOperation → Operation
  | .insert .. => .insert
  | .update .. => .update
  | .delete .. => .delete

/-- Where the operation is made. -/
def locator : BatchOperation → Locator
  | .insert l _ => l
  | .update l _ _ => l
  | .delete l _ => l

end BatchOperation

/-- What a plan finds out before a change is made. -/
def Plan.prepare (p : Plan) : BatchOperation → Except ProviderError Prepared
  | .insert l r => do
    p.checkRecord r
    return ⟨Sql.insert p.endpoint.table r, fun _ id =>
      ⟨⟨some (p.rowUri l r id), 1⟩, p.targets ⟨.insert, l, some r, [], [id], 1, "", []⟩⟩⟩
  | .update l r f => do
    p.checkRecord r
    let s ← p.selection .update l f.condition f.args
    if r = [] then throw (.badRequest "update requires at least one column")
    let statement ← (s.update r).mapError .composition
    return ⟨statement, fun n _ =>
      let c := p.affected .update l (some r) n s
      ⟨⟨none, c.answer⟩, c.targets⟩⟩
  | .delete l f => do
    let s ← p.selection .delete l f.condition f.args
    let statement ← s.delete.mapError .composition
    return ⟨statement, fun n _ =>
      let c := p.affected .delete l none n s
      ⟨⟨none, c.answer⟩, c.targets⟩⟩

/-- What is found out before a change is made. -/
def Dispatch.prepare (d : Dispatch) (op : BatchOperation) : Except ProviderError Prepared := do
  (← d.planFor op.operation op.locator).prepare op

theorem Plan.fits_of_checkRecord {p : Plan} {r : Record} (h : p.checkRecord r = .ok ()) :
    Record.misfit? p.table r = none := by
  unfold Plan.checkRecord at h
  split at h
  · cases h
  · assumption

/-- The answer about a change of selected rows is their number. -/
theorem Plan.affected_answer (p : Plan) (m : Mutation) (l : Locator) (r : Option Record) (n : Nat)
    (s : Sql.Selection) : (p.affected m l r n s).answer = n := by
  unfold Plan.affected
  split
  · rename_i none
    exact none.symm
  · rfl

/-- All that a plan prepares: one insertion of a record that fits the table, an update of selected
rows by such a record, which has columns, or a removal of selected rows. -/
inductive Plan.Prepares (p : Plan) : BatchOperation → Prepared → Prop where
  | insert {l : Locator} {r : Record} (fits : p.checkRecord r = .ok ()) :
      Prepares p (.insert l r) ⟨Sql.insert p.endpoint.table r, fun _ id =>
        ⟨⟨some (p.rowUri l r id), 1⟩, p.targets ⟨.insert, l, some r, [], [id], 1, "", []⟩⟩⟩
  | update {l : Locator} {r : Record} {f : Filter} {s : Sql.Selection} {statement : Sql.Statement}
      (fits : p.checkRecord r = .ok ())
      (selected : p.selection .update l f.condition f.args = .ok s) (columns : r ≠ [])
      (composed : s.update r = .ok statement) :
      Prepares p (.update l r f) ⟨statement, fun n _ =>
        ⟨⟨none, n⟩, (p.affected .update l (some r) n s).targets⟩⟩
  | delete {l : Locator} {f : Filter} {s : Sql.Selection} {statement : Sql.Statement}
      (selected : p.selection .delete l f.condition f.args = .ok s)
      (composed : s.delete = .ok statement) :
      Prepares p (.delete l f) ⟨statement, fun n _ =>
        ⟨⟨none, n⟩, (p.affected .delete l none n s).targets⟩⟩

theorem Plan.prepares_of_prepare {p : Plan} {op : BatchOperation} {r : Prepared}
    (h : p.prepare op = .ok r) : p.Prepares op r := by
  cases op with
  | insert l record =>
    obtain ⟨_, fits, h⟩ := ok_of_bind h
    cases h
    exact .insert fits
  | update l record f =>
    obtain ⟨_, fits, h⟩ := ok_of_bind h
    obtain ⟨s, selected, h⟩ := ok_of_bind h
    split at h
    · cases h
    · rename_i columns
      obtain ⟨statement, composed, h⟩ := ok_of_bind h
      cases h
      simp only [Plan.affected_answer]
      exact .update fits selected columns (ok_of_mapError composed)
  | delete l f =>
    obtain ⟨s, selected, h⟩ := ok_of_bind h
    obtain ⟨statement, composed, h⟩ := ok_of_bind h
    cases h
    simp only [Plan.affected_answer]
    exact .delete selected (ok_of_mapError composed)

theorem Dispatch.prepares_of_prepare {d : Dispatch} {op : BatchOperation} {r : Prepared}
    (h : d.prepare op = .ok r) :
    ∃ p, d.planFor op.operation op.locator = .ok p ∧ p.Prepares op r := by
  obtain ⟨p, planned, h⟩ := ok_of_bind h
  exact ⟨p, planned, Plan.prepares_of_prepare h⟩

/-- What is prepared changes rows. -/
theorem Plan.Prepares.changesRows {p : Plan} {op : BatchOperation} {r : Prepared}
    (h : p.Prepares op r) : ChangesRows r.statement.text := by
  cases h with
  | insert _ => exact Sql.insert_changesRows _ _
  | update _ _ _ composed => exact Sql.Selection.update_changesRows composed
  | delete _ composed => exact Sql.Selection.delete_changesRows composed

theorem Dispatch.prepare_changesRows {d : Dispatch} {op : BatchOperation} {r : Prepared}
    (h : d.prepare op = .ok r) : ChangesRows r.statement.text := by
  obtain ⟨p, -, prepares⟩ := Dispatch.prepares_of_prepare h
  exact prepares.changesRows

/-! ## The operations in this shape -/

namespace Action

theorem ofExcept_bind {α β : Type} (x : Except ProviderError α) (f : α → Except ProviderError β) :
    ofExcept (x >>= f) = ofExcept x >>= fun a => ofExcept (f a) := by
  cases x <;> rfl

theorem ofExcept_pure {α : Type} (a : α) : ofExcept (pure a) = pure a := rfl

end Action

theorem Dispatch.applyOne_eq (d : Dispatch) (op : BatchOperation) :
    d.applyOne op = Action.ofExcept (d.prepare op) >>= Prepared.make := by
  unfold Dispatch.prepare
  rw [Action.ofExcept_bind, bind_assoc]
  cases op with
  | insert l r =>
    simp only [Dispatch.applyOne, Plan.insert, Plan.insertRow, Plan.prepare, Prepared.make,
      Action.ofExcept_bind, Action.ofExcept_pure, bind_assoc, pure_bind]
    rfl
  | update l r f =>
    simp only [Dispatch.applyOne, Plan.update, Plan.prepare, Action.ofExcept_bind, bind_assoc,
      Action.composed]
    by_cases hr : r = []
    · simp only [hr, if_true]
      rfl
    · simp only [hr, if_false, Prepared.make, Action.ofExcept_bind, Action.ofExcept_pure,
        bind_assoc, pure_bind]
      rfl
  | delete l f =>
    simp only [Dispatch.applyOne, Plan.delete, Plan.prepare, Prepared.make,
      Action.ofExcept_bind, Action.ofExcept_pure, bind_assoc, pure_bind, Action.composed]
    rfl

/-! ## The operations on their own -/

/-- Makes an operation as a request of its own. -/
def Dispatch.applyAlone (d : Dispatch) : BatchOperation → Action BatchResult
  | .insert l r => return ⟨some (← d.insert l r), 1⟩
  | .update l r f => return ⟨none, ← d.update l r f⟩
  | .delete l f => return ⟨none, ← d.delete l f⟩

/-- The session after it was signalled at locators. -/
def Session.signal (s : Session) (locators : List String) : Session :=
  { s with events := s.events ++ locators.map .signalled }

namespace Action

theorem reach_run {s : Session} (h : s.isOpen) : reach.run s = .ok () s := by
  simp [reach, h]

theorem ofExcept_ok {α : Type} (a : α) : ofExcept (.ok a) = pure a := rfl

theorem signal_run (locators : List String) (s : Session) :
    (signal locators).run s = .ok () (s.signal locators) := by
  induction locators generalizing s with
  | nil => simp [signal, Session.signal]
  | cons l ls ih =>
    have both : (s.signal [l]).signal ls = s.signal (l :: ls) := by simp [Session.signal]
    rw [← both, ← ih]
    rfl

end Action

theorem Changed.announce_run {α : Type} (c : Changed α) (s : Session) :
    c.announce.run s = .ok c.answer (s.signal c.targets) := by
  simp only [Changed.announce, EStateM.run_bind, Action.signal_run, EStateM.run_pure]

/-- A request that is signalled at once, with its answer wrapped. -/
theorem Action.announced_run {α β : Type} (x : Action (Changed α)) (f : α → β) {s : Session}
    (h : s.isOpen) :
    (do Action.reach; return f (← (← x).announce)).run s =
      (do let c ← x; Changed.announce ⟨f c.answer, c.targets⟩).run s := by
  simp only [EStateM.run_bind, Action.reach_run h, EStateM.run_pure, Changed.announce_run]

/-- A request of its own is an operation of a batch that is signalled at once. -/
theorem Dispatch.applyAlone_run (d : Dispatch) (op : BatchOperation) {s : Session} (h : s.isOpen) :
    (d.applyAlone op).run s = (d.applyOne op >>= Changed.announce).run s := by
  cases op with
  | insert l r =>
    simp only [Dispatch.applyAlone, Dispatch.insert, Dispatch.applyOne, bind_assoc, pure_bind]
    cases d.planFor .insert l with
    | error e => rfl
    | ok p => exact Action.announced_run (p.insert l r) (β := BatchResult) (fun u => ⟨some u, 1⟩) h
  | update l r f =>
    simp only [Dispatch.applyAlone, Dispatch.update, Dispatch.applyOne, bind_assoc, pure_bind]
    cases d.planFor .update l with
    | error e => rfl
    | ok p => exact Action.announced_run (p.update l r f) (β := BatchResult) (fun n => ⟨none, n⟩) h
  | delete l f =>
    simp only [Dispatch.applyAlone, Dispatch.delete, Dispatch.applyOne, bind_assoc, pure_bind]
    cases d.planFor .delete l with
    | error e => rfl
    | ok p => exact Action.announced_run (p.delete l f) (β := BatchResult) (fun n => ⟨none, n⟩) h

/-! ## What the database is asked -/

/-- The database with its answer to a statement. -/
def Engine.Database.answer (db : Engine.Database) (s : Sql.Statement) : Engine.Ran :=
  db.run s.text (s.params.map Sql.cellOfValue)

/-- The session after a statement was issued, which left the database as given. -/
def Session.issued (s : Session) (statement : Sql.Statement) (db : Engine.Database) : Session :=
  { s with database := db, events := s.events ++ [.issued statement.text] }

theorem Action.issue_run (statement : Sql.Statement) {s : Session} (h : s.isOpen) :
    (Action.issue statement).run s =
      match s.database.answer statement with
      | (db, .ok outcome) => .ok outcome (s.issued statement db)
      | (db, .error e) => .error (.storage e.error) (s.issued statement db) := by
  simp only [Action.issue, Action.execute, Action.record, EStateM.run_bind, Action.reach_run h,
    EStateM.run_modify, EStateM.run_get, Engine.Database.answer]
  rw [Action.reach_run (s := { s with events := s.events ++ [.issued statement.text] }) h]
  dsimp only
  cases s.database.run statement.text (statement.params.map Sql.cellOfValue) with
  | mk db answer => cases answer <;> rfl

/-- A prepared change asks the database once. -/
theorem Prepared.make_run (r : Prepared) {s : Session} (h : s.isOpen) :
    r.make.run s =
      match s.database.answer r.statement with
      | (db, .ok outcome) =>
        .ok (r.result outcome.changes db.lastRowid) (s.issued r.statement db)
      | (db, .error e) => .error (.storage e.error) (s.issued r.statement db) := by
  simp only [Prepared.make, EStateM.run_bind, Action.issue_run _ h]
  cases s.database.answer r.statement with
  | mk db answer => cases answer <;> rfl

end ResourceProvider
