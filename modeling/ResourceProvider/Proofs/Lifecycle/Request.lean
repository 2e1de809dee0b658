import ResourceProvider.Lifecycle.Ensure
import ResourceProvider.Proofs.Provider.Signals
/-!
# Bringing a database to a version

A request to bring a database to the version of a script ends in one of nine ways. `Request.does`
tells which, once for all that follows: what a request keeps, and what it leaves in a database, are
case analyses over `Request.Does` and do not look at the code again.

Statements that begin or end a transaction are among those that the engine refuses, so the
statements for a new database never leave the transaction they are issued in.
-/
namespace ResourceProvider

open Engine (Database)

/-! ## Hooks that were called -/

namespace Session

/-- The calls of hooks, in order. -/
def hookCalls (s : Session) : List Event :=
  s.events.filter fun e => match e with
    | .createHook => true
    | .upgradeHook .. => true
    | _ => false

/-- The versions that the hook for a newer version was given, call by call. -/
def upgrades (s : Session) : List (Nat × Nat) :=
  s.hookCalls.filterMap fun e => match e with
    | .upgradeHook stored target => some (stored, target)
    | _ => none

/-- The session with one more event. -/
def recorded (s : Session) (e : Event) : Session :=
  { s with events := s.events ++ [e] }

/-- The session with another version in its database. -/
def atVersion (s : Session) (v : Nat) : Session :=
  { s with database := { s.database with version := v } }

@[simp] theorem atVersion_upgrades (s : Session) (v : Nat) :
    (s.atVersion v).upgrades = s.upgrades := rfl

@[simp] theorem upgrades_recorded_createHook (s : Session) :
    (s.recorded .createHook).upgrades = s.upgrades := by
  simp [upgrades, hookCalls, recorded]

@[simp] theorem upgrades_recorded_upgradeHook (s : Session) (stored target : Nat) :
    (s.recorded (.upgradeHook stored target)).upgrades = s.upgrades ++ [(stored, target)] := by
  simp [upgrades, hookCalls, recorded]

theorem hookCalls_issued (s : Session) (statement : Sql.Statement) (db : Database) :
    (s.issued statement db).hookCalls = s.hookCalls := by
  simp [hookCalls, issued]

/-- The upgrades are read off the calls of hooks. -/
theorem upgrades_congr {s t : Session} (h : t.hookCalls = s.hookCalls) :
    t.upgrades = s.upgrades := by
  unfold upgrades
  rw [h]

end Session

/-- An action that can be a hook: it does not write the version, and the record of the calls of
hooks is none of its business. -/
structure Action.IsHook (x : Action Unit) : Prop where
  version : x.Keeps fun s => s.database.version
  hookCalls : x.Keeps Session.hookCalls

/-! ## The statements of a script -/

namespace Schema

/-- Issues the statements of a script: table by table, then those that run once. -/
def Script.issue (s : Script) : Action Unit := do
  Lifecycle.issueAll (s.statements.map Prod.snd)
  Lifecycle.issueAll s.execOnCreate

end Schema

namespace Lifecycle

theorem issueAll_keeps {γ : Type} {f : Session → γ}
    (blind : ∀ s statement db, f (s.issued statement db) = f s) (texts : List String) :
    (issueAll texts).Keeps f := by
  unfold issueAll
  induction texts with
  | nil => exact .pure ()
  | cons text texts ih =>
    rw [List.forM_eq_forM, List.forM_cons]
    refine .bind ?_ fun _ => ih
    exact .bind (.issue _ fun s db => blind s _ db) fun _ => .pure ()

theorem issue_keeps {γ : Type} {f : Session → γ}
    (blind : ∀ s statement db, f (s.issued statement db) = f s) (script : Schema.Script) :
    script.issue.Keeps f :=
  .bind (issueAll_keeps blind _) fun _ => issueAll_keeps blind _

/-! ## Parts of a request -/

variable {s : Session}

theorem storedVersion_run {stored : Nat} (h : s.isOpen) (version : s.database.version = stored) :
    storedVersion.run s = .ok stored s := by
  have natural : ¬ (stored : Int) < 0 := by omega
  simp only [storedVersion, EStateM.run_bind, Action.reach_run h, EStateM.run_get, version,
    if_neg natural, EStateM.run_pure, Int.toNat_natCast]

theorem setVersion_run (v : Nat) (h : s.isOpen) :
    (setVersion v).run s = .ok () (s.atVersion v) := by
  simp only [setVersion, EStateM.run_bind, Action.reach_run h, EStateM.run_modify]
  rfl

theorem setVersion_closed (v : Nat) (h : s.isOpen = false) :
    (setVersion v).run s = .error (.storage .closed) s := by
  simp only [setVersion, EStateM.run_bind, Action.reach_closed h]

theorem createTables_eq (script : Schema.Script) : createTables script =
    Action.transaction (do script.issue; setVersion script.version) := by
  simp only [createTables, Schema.Script.issue, bind_assoc]

theorem createTables_closed (script : Schema.Script) (h : s.isOpen = false) :
    (createTables script).run s = .error (.storage .closed) s :=
  Action.transaction_closed _ h

theorem isOpen_of_createTables {script : Schema.Script} {t : Session}
    (made : (createTables script).run s = .ok () t) : s.isOpen :=
  (Action.transaction_ok_iff.1 (createTables_eq script ▸ made)).1

/-- Creating the tables leaves all of them and the version, or nothing. -/
theorem createTables_run (script : Schema.Script) (h : s.isOpen) :
    (createTables script).run s =
      match script.issue.run s.begun with
      | .ok () t =>
        if s.database.isOverdue t.database then
          .error (.storage (.violation .foreignKey)) (t.undone s)
        else .ok () (t.atVersion script.version).committed
      | .error e t => .error e (t.undone s) := by
  have stays := issue_keeps (f := Session.isOpen) (fun _ _ _ => rfl) script
  rw [createTables_eq, Action.transaction_run _ h, EStateM.run_bind]
  cases issued : script.issue.run s.begun with
  | error e t => rfl
  | ok u t =>
    have still : t.isOpen := (stays.ok issued).trans h
    simp only [setVersion_run _ still]
    rfl

theorem createTables_ok {script : Schema.Script} {t : Session}
    (h : (createTables script).run s = .ok () t) :
    ∃ u, script.issue.run s.begun = .ok () u ∧ t = (u.atVersion script.version).committed := by
  rw [createTables_run script (isOpen_of_createTables h)] at h
  split at h
  · rename_i u issued
    split at h
    · cases h
    · cases h
      exact ⟨u, issued, rfl⟩
  · cases h

/-- Tables are not created if a statement fails, or what the statements leave cannot be kept. -/
theorem createTables_error_iff {script : Schema.Script} {e : ProviderError} {t : Session}
    (h : s.isOpen) : (createTables script).run s = .error e t ↔
      ∃ u, (script.issue.run s.begun = .error e u ∨ script.issue.run s.begun = .ok () u ∧
        s.database.isOverdue u.database ∧ e = .storage (.violation .foreignKey)) ∧
          t = u.undone s := by
  rw [createTables_run script h]
  constructor
  · intro failed
    split at failed
    · rename_i u issued
      split at failed
      · rename_i overdue
        cases failed
        exact ⟨u, .inr ⟨issued, overdue, rfl⟩, rfl⟩
      · cases failed
    · rename_i u issued
      cases failed
      exact ⟨u, .inl issued, rfl⟩
  · rintro ⟨u, issued | ⟨issued, overdue, rfl⟩, rfl⟩
    · rw [issued]
    · rw [issued]
      exact if_pos overdue

/-! ## Requests -/

/-- A request to bring a database to the version of a script. -/
structure Request where
  lifecycle : Lifecycle
  script : Schema.Script

namespace Request

/-- Makes the request. -/
def ensure (r : Request) : Action SchemaStatus :=
  r.lifecycle.ensure r.script

/-- How a request ends in a session, given the version that its database holds. -/
inductive Does (r : Request) (s : Session) (stored : Nat) :
    EStateM.Result ProviderError Session SchemaStatus → Prop
  /-- The database cannot be reached. -/
  | closed (shut : s.isOpen = false) : Does r s stored (.error (.storage .closed) s)
  /-- The database is new, and its tables cannot be created. -/
  | undone {e : ProviderError} {t : Session} (isOpen : s.isOpen) (new : stored = 0)
      (failed : (createTables r.script).run s = .error e t) : Does r s stored (.error e t)
  /-- The tables are created, and the hook for a new database fails. -/
  | createFailed {t u : Session} {e : ProviderError} (isOpen : s.isOpen) (new : stored = 0)
      (tables : (createTables r.script).run s = .ok () t)
      (failed : r.lifecycle.created.run t = .error e u) : Does r s stored (.error e u)
  | created {t u : Session} (isOpen : s.isOpen) (new : stored = 0)
      (tables : (createTables r.script).run s = .ok () t)
      (hook : r.lifecycle.created.run t = .ok () u) : Does r s stored (.ok .created u)
  /-- The database is ahead of the script. -/
  | newer (isOpen : s.isOpen) (ahead : r.script.version < stored) :
      Does r s stored (.error (.downgrade stored r.script.version) s)
  | current (isOpen : s.isOpen) (old : 0 < stored) (same : stored = r.script.version) :
      Does r s stored (.ok .current s)
  /-- The database is behind the script, and the hook for a newer version fails. -/
  | upgradeFailed {e : ProviderError} {t : Session} (isOpen : s.isOpen) (old : 0 < stored)
      (behind : stored < r.script.version)
      (failed : (r.lifecycle.upgrading stored r.script.version).run s = .error e t) :
      Does r s stored (.error e t)
  /-- The hook for a newer version closes the database. -/
  | upgradeClosed {t : Session} (isOpen : s.isOpen) (old : 0 < stored)
      (behind : stored < r.script.version)
      (hook : (r.lifecycle.upgrading stored r.script.version).run s = .ok () t)
      (shut : t.isOpen = false) : Does r s stored (.error (.storage .closed) t)
  | upgraded {t : Session} (isOpen : s.isOpen) (old : 0 < stored)
      (behind : stored < r.script.version)
      (hook : (r.lifecycle.upgrading stored r.script.version).run s = .ok () t)
      (still : t.isOpen) :
      Does r s stored (.ok (.upgraded stored r.script.version) (t.atVersion r.script.version))

variable {r : Request} {stored : Nat}

/-- A request on an open database goes on with the version that the database holds. -/
theorem ensure_run (h : s.isOpen) (version : s.database.version = stored) :
    r.ensure.run s = (r.lifecycle.proceed r.script stored).run s := by
  simp only [ensure, Lifecycle.ensure, EStateM.run_bind, storedVersion_run h version]

theorem ensure_closed (h : s.isOpen = false) :
    r.ensure.run s = .error (.storage .closed) s := by
  simp only [ensure, Lifecycle.ensure, storedVersion, EStateM.run_bind, Action.reach_closed h]

/-- A new database gets its tables, and then the hook for it is called. -/
theorem ensure_new (h : s.isOpen) (version : s.database.version = stored) (new : stored = 0) :
    r.ensure.run s =
      (do createTables r.script; r.lifecycle.created; return .created : Action _).run s := by
  rw [ensure_run h version, proceed, if_pos new]

/-- A database that is ahead is refused as it is. -/
theorem ensure_ahead (h : s.isOpen) (version : s.database.version = stored)
    (ahead : r.script.version < stored) :
    r.ensure.run s = .error (.downgrade stored r.script.version) s := by
  rw [ensure_run h version, proceed, if_neg (by omega), if_pos ahead]
  rfl

theorem ensure_current (h : s.isOpen) (version : s.database.version = stored) (old : 0 < stored)
    (same : stored = r.script.version) : r.ensure.run s = .ok .current s := by
  rw [ensure_run h version, proceed, if_neg (by omega), if_neg (by omega), if_neg (by omega)]
  rfl

/-- The version of a database that is behind moves after the hook was called. -/
theorem ensure_behind (h : s.isOpen) (version : s.database.version = stored) (old : 0 < stored)
    (behind : stored < r.script.version) :
    r.ensure.run s =
      match (r.lifecycle.upgrading stored r.script.version).run s with
      | .error e t => .error e t
      | .ok () t =>
        if t.isOpen then .ok (.upgraded stored r.script.version) (t.atVersion r.script.version)
        else .error (.storage .closed) t := by
  rw [ensure_run h version, proceed, if_neg (by omega), if_neg (by omega), if_pos behind,
    EStateM.run_bind]
  cases (r.lifecycle.upgrading stored r.script.version).run s with
  | error e t => rfl
  | ok _ t =>
    simp only [EStateM.run_bind]
    cases still : t.isOpen with
    | false => rw [setVersion_closed _ still, if_neg Bool.false_ne_true]
    | true =>
      rw [setVersion_run _ still, if_pos rfl]
      rfl

/-- Every request ends in one of the nine ways. -/
theorem does (version : s.database.version = stored) : r.Does s stored (r.ensure.run s) := by
  -- The cases follow the order in which a request compares the versions.
  cases isOpen : s.isOpen with
  | false =>
    rw [ensure_closed isOpen]
    exact .closed isOpen
  | true =>
    rcases Nat.eq_zero_or_pos stored with new | old
    · rw [ensure_new isOpen version new, EStateM.run_bind]
      cases tables : (createTables r.script).run s with
      | error e t => exact .undone isOpen new tables
      | ok _ t =>
        simp only [EStateM.run_bind]
        cases hook : r.lifecycle.created.run t with
        | error e u => exact .createFailed isOpen new tables hook
        | ok _ u => exact .created isOpen new tables hook
    · rcases Nat.lt_trichotomy r.script.version stored with ahead | same | behind
      · rw [ensure_ahead isOpen version ahead]
        exact .newer isOpen ahead
      · rw [ensure_current isOpen version old same.symm]
        exact .current isOpen old same.symm
      · rw [ensure_behind isOpen version old behind]
        cases hook : (r.lifecycle.upgrading stored r.script.version).run s with
        | error e t => exact .upgradeFailed isOpen old behind hook
        | ok _ t =>
          cases still : t.isOpen with
          | false =>
            simp only [still, Bool.false_eq_true, if_false]
            exact .upgradeClosed isOpen old behind hook still
          | true =>
            simp only [still, if_true]
            exact .upgraded isOpen old behind hook still

end Request

end Lifecycle

end ResourceProvider
