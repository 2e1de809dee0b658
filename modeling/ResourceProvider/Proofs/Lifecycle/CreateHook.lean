import ResourceProvider.Proofs.Lifecycle.History
/-!
# What a success says about the hook for a new database

The hook for a new database is called by the request that creates the tables, once they are there to
stay. If it fails, its error is the answer of that request, and no request calls it again: the next
one finds the version of its script and succeeds (`createHook_lost`). So behind every success there
is a call of the hook, whose failure was answered as such (`success_after_createHook`).
-/
namespace ResourceProvider

namespace Lifecycle

namespace Request

variable {r : Request} {s t : Session}

/-! ## Calls of the hook -/

/-- In session `s`, the request creates the tables of a new database and calls `hook`, which finds
the session `t`. -/
structure Calls (r : Request) (hook : Action Unit) (s t : Session) : Prop where
  given : r.lifecycle.onCreate = some hook
  new : s.database.version = 0
  tables : ∃ u, (createTables r.script).run s = .ok () u ∧ u.recorded .createHook = t

/-- The hook for a new database is called, and it completes. -/
def Completes (r : Request) (s : Session) : Prop :=
  ∃ hook t u, r.Calls hook s t ∧ hook.run t = .ok () u ∧ r.ensure.run s = .ok .created u

/-- The hook for a new database is called, and its error is the answer of the request. -/
def Fails (r : Request) (s : Session) : Prop :=
  ∃ hook t e u, r.Calls hook s t ∧ hook.run t = .error e u ∧ r.ensure.run s = .error e u

theorem Commits.isOpen (commits : r.Commits s) : s.isOpen := by
  obtain ⟨-, t, tables⟩ := commits
  exact isOpen_of_createTables tables

/-- Once the tables are created, the hook is called, and the request answers as the hook does. -/
theorem Commits.completes_or_fails (commits : r.Commits s)
    (given : r.lifecycle.onCreate.isSome) : r.Completes s ∨ r.Fails s := by
  have isOpen := commits.isOpen
  obtain ⟨new, t, tables⟩ := commits
  obtain ⟨hook, found⟩ := Option.isSome_iff_exists.1 given
  have calls : r.Calls hook s (t.recorded .createHook) := ⟨found, new, t, tables, rfl⟩
  have called : r.lifecycle.created.run t = hook.run (t.recorded .createHook) := by
    unfold Lifecycle.created
    rw [found]
    rfl
  have answer := ensure_new (r := r) isOpen new rfl
  simp only [EStateM.run_bind, tables, called] at answer
  cases result : hook.run (t.recorded .createHook) with
  | ok _ u =>
    rw [result] at answer
    exact .inl ⟨hook, _, u, calls, result, answer⟩
  | error e u =>
    rw [result] at answer
    exact .inr ⟨hook, _, e, u, calls, result, answer⟩

/-! ## One request -/

/-- A new database stays new unless its tables are created. -/
theorem version_or_commits (r : Request) (new : s.database.version = 0) :
    (r.ensure.after s).database.version = 0 ∨ r.Commits s := by
  have does := r.does (show s.database.version = (0 : Nat) from new)
  unfold Action.after
  generalize r.ensure.run s = result at does
  cases does with
  | closed => exact .inl new
  | undone isOpen _ failed => exact .inl ((createTables_error isOpen failed).1.trans new)
  | createFailed _ _ tables => exact .inr ⟨new, _, tables⟩
  | created _ _ tables => exact .inr ⟨new, _, tables⟩
  | newer _ ahead => omega
  | current _ old => omega
  | upgradeFailed _ old => omega
  | upgradeClosed _ old => omega
  | upgraded _ old => omega

/-- A request that succeeds on a new database has created its tables. -/
theorem commits_of_ok {status : SchemaStatus} (new : s.database.version = 0)
    (success : r.ensure.run s = .ok status t) : r.Commits s := by
  have does := r.does (show s.database.version = (0 : Nat) from new)
  rw [success] at does
  cases does with
  | created _ _ tables => exact ⟨new, _, tables⟩
  | current _ old => omega
  | upgraded _ old => omega

theorem ensure_negative (isOpen : s.isOpen) (negative : s.database.version < 0) :
    ∃ e, r.ensure.run s = .error e s := by
  simp only [ensure, Lifecycle.ensure, storedVersion, EStateM.run_bind, Action.reach_run isOpen,
    EStateM.run_get, if_pos negative]
  exact ⟨_, rfl⟩

/-- Only a new database is created. -/
theorem new_of_created (success : r.ensure.run s = .ok .created t) : s.database.version = 0 := by
  rcases Int.lt_or_le s.database.version 0 with negative | natural
  · cases isOpen : s.isOpen with
    | false =>
      rw [ensure_closed isOpen] at success
      cases success
    | true =>
      obtain ⟨e, refused⟩ := ensure_negative (r := r) isOpen negative
      rw [refused] at success
      cases success
  · obtain ⟨stored, version⟩ := Int.eq_ofNat_of_zero_le natural
    have does := r.does version
    rw [success] at does
    cases does with
    | created _ new => rw [version, new, Int.natCast_zero]

/-! ## Many requests -/

/-- If a database that was new is not new any more, one of the requests has created its tables. -/
theorem exists_commits {rs : List Request} (new : s.database.version = 0)
    (moved : (runAll rs s).database.version ≠ 0) :
    ∃ earlier q later, rs = earlier ++ q :: later ∧ q.Commits (runAll earlier s) := by
  induction rs generalizing s with
  | nil => exact absurd new moved
  | cons r rs ih =>
    rcases r.version_or_commits new with still | commits
    · obtain ⟨earlier, q, later, rfl, commits⟩ := ih still moved
      exact ⟨r :: earlier, q, later, rfl, commits⟩
    · exact ⟨[], r, rs, rfl, commits⟩

end Request

open Request (runAll)

/-- Whenever a request succeeds, the hook for a new database was called: by this request or by an
earlier one, and it completed, or else the answer of that earlier request was its error. A database
is created only by a request whose own call completes. -/
theorem success_after_createHook {start : Session} (new : start.database.version = 0)
    {rs : List Request} (given : ∀ r ∈ rs, r.lifecycle.onCreate.isSome)
    {before after : List Request} {r : Request} (split : rs = before ++ r :: after)
    {status : SchemaStatus} {t : Session}
    (success : r.ensure.run (runAll before start) = .ok status t) :
    r.Completes (runAll before start) ∨
      status ≠ .created ∧ ∃ earlier q later, before = earlier ++ q :: later ∧
        (q.Completes (runAll earlier start) ∨ q.Fails (runAll earlier start)) := by
  subst split
  by_cases still : (runAll before start).database.version = 0
  · -- The request has created the tables itself, and it succeeds as its hook does.
    have commits := Request.commits_of_ok still success
    rcases commits.completes_or_fails (given r (by simp)) with completes | failed
    · exact .inl completes
    · obtain ⟨_, _, _, _, _, _, failed⟩ := failed
      rw [success] at failed
      cases failed
  · refine .inr ⟨?_, ?_⟩
    · rintro rfl
      exact still (Request.new_of_created success)
    · obtain ⟨earlier, q, later, rfl, commits⟩ := Request.exists_commits new still
      exact ⟨earlier, q, later, rfl, commits.completes_or_fails (given q (by simp))⟩

end Lifecycle

open Lifecycle (Request)
open Lifecycle.Request (runAll)

namespace Tasks

/-- The hook for a new database always fails. -/
def refusing : Lifecycle :=
  ⟨none, some (throw (.badRequest "not yet")), none⟩

/-- What a request answers, whatever it leaves behind. -/
def answer {α : Type} : EStateM.Result ProviderError Session α → Except ProviderError α
  | .ok x _ => .ok x
  | .error e _ => .error e

theorem exists_ok_of_answer {α : Type} {x : EStateM.Result ProviderError Session α} {a : α}
    (h : answer x = .ok a) : ∃ t, x = .ok a t := by
  cases x with
  | ok b t =>
    cases h
    exact ⟨t, rfl⟩
  | error e t => cases h

theorem not_completes_refusing (script : Schema.Script) (s : Session) :
    ¬ Request.Completes ⟨refusing, script⟩ s := by
  rintro ⟨hook, t, u, calls, completes, -⟩
  cases calls.given
  cases completes

/-- The request that creates the tables fails with its hook, and the next one succeeds. -/
theorem answers_refusing :
    ∃ c, document.compile hooks = .ok c ∧
      answer (Request.ensure ⟨refusing, c.script⟩ |>.run Session.start) =
        .error (.badRequest "not yet") ∧
      answer (Request.ensure ⟨refusing, c.script⟩ |>.run
        (runAll [⟨refusing, c.script⟩] Session.start)) = .ok .current := by
  exact ⟨compiled, compiles, by decide +kernel, by decide +kernel⟩

end Tasks

/-- Of two requests the second succeeds, and the first has failed with its hook. -/
theorem success_after_createHook_tasks :
    ∃ c, Tasks.document.compile Tasks.hooks = .ok c ∧
      let r : Request := ⟨Tasks.refusing, c.script⟩
      Session.start.database.version = 0 ∧ (∀ q ∈ [r, r], q.lifecycle.onCreate.isSome) ∧
      ∃ t, r.ensure.run (runAll [r] Session.start) = .ok .current t ∧
        (r.Completes (runAll [r] Session.start) ∨
          SchemaStatus.current ≠ .created ∧ ∃ earlier q later, [r] = earlier ++ q :: later ∧
            (q.Completes (runAll earlier Session.start) ∨
              q.Fails (runAll earlier Session.start))) := by
  obtain ⟨c, hc, -, succeeded⟩ := Tasks.answers_refusing
  obtain ⟨t, success⟩ := Tasks.exists_ok_of_answer succeeded
  have given : ∀ q ∈ [(⟨Tasks.refusing, c.script⟩ : Request), ⟨Tasks.refusing, c.script⟩],
      q.lifecycle.onCreate.isSome := by
    intro q hq
    simp only [List.mem_cons, List.not_mem_nil, or_false, or_self] at hq
    rw [hq]
    rfl
  exact ⟨c, hc, rfl, given, t, success,
    Lifecycle.success_after_createHook rfl given (show _ = [_] ++ _ :: [] from rfl) success⟩

/-- A success without the hook: it fails in the first request, and the second does not call it. -/
theorem createHook_lost :
    ∃ c, Tasks.document.compile Tasks.hooks = .ok c ∧
      let r : Request := ⟨Tasks.refusing, c.script⟩
      Tasks.answer (r.ensure.run Session.start) = .error (.badRequest "not yet") ∧
      Tasks.answer (r.ensure.run (runAll [r] Session.start)) = .ok .current ∧
      ¬ r.Completes Session.start ∧ ¬ r.Completes (runAll [r] Session.start) := by
  obtain ⟨c, hc, failed, succeeded⟩ := Tasks.answers_refusing
  exact ⟨c, hc, failed, succeeded, Tasks.not_completes_refusing _ _,
    Tasks.not_completes_refusing _ _⟩

end ResourceProvider
