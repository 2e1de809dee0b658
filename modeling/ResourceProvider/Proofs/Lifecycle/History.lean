import ResourceProvider.Proofs.Dispatch.Compiled
import ResourceProvider.Proofs.Engine.Setting
import ResourceProvider.Proofs.Lifecycle.Request
/-!
# Versions over a history of requests

However often a database is brought to the version of a script, and whatever the hooks do that leave
its version alone, the version never sinks, the tables are created once, and the hook for a newer
version is called exactly while the version is behind (`lifecycle_history`). One request is looked
at in `Request.obeys`; over a history, the version stays a natural number and grows.
-/
namespace ResourceProvider

open Engine (Database)

namespace Lifecycle

variable {r : Request} {s t : Session} {e : ProviderError} {stored : Nat}

namespace Request

/-! ## Requests of compiled documents -/

/-- The script is that of a compiled document, and the hooks leave the version alone. -/
structure Admissible (r : Request) : Prop where
  compiled : ∃ (doc : Document) (hooks : Hooks) (c : Compiled),
    doc.compile hooks = .ok c ∧ r.script = c.script
  createHook : ∀ hook, r.lifecycle.onCreate = some hook → hook.IsHook
  upgradeHook : ∀ hook, r.lifecycle.onUpgrade = some hook →
    ∀ stored target, (hook stored target).IsHook

/-- Compiled scripts have versions that a database can store, and none has the version of a new
database. -/
theorem Admissible.version (h : r.Admissible) :
    0 < r.script.version ∧ r.script.version ≤ Schema.maxVersion := by
  obtain ⟨doc, hooks, c, compiled, script⟩ := h.compiled
  obtain ⟨schema, -, -, hs, same, -⟩ := Document.compile_built compiled
  rw [script, same]
  obtain ⟨fits, rfl⟩ := Schema.ofDatabase_eq_ok_iff.1 hs
  simp only [Schema.databaseFault, Option.or_eq_none_iff] at fits
  have bound : ¬ (doc.database.version = 0 ∨ Schema.maxVersion < doc.database.version) := by
    intro invalid
    rw [if_pos invalid] at fits
    cases fits.1
  simp only [Schema.script]
  omega

/-! ## Hooks -/

/-- Only the hook itself acts when a database was created. -/
theorem Admissible.created_keeps {γ : Type} {f : Session → γ} (h : r.Admissible)
    (hook : ∀ x : Action Unit, x.IsHook → x.Keeps f)
    (record : ∀ s, f (s.recorded .createHook) = f s) : r.lifecycle.created.Keeps f := by
  unfold Lifecycle.created
  cases found : r.lifecycle.onCreate with
  | none => exact .pure ()
  | some x => exact .bind record fun _ => hook x (h.createHook x found)

theorem Admissible.created_version (h : r.Admissible) :
    r.lifecycle.created.Keeps fun s => s.database.version :=
  h.created_keeps (fun _ hook => hook.version) fun _ => rfl

theorem Admissible.created_upgrades (h : r.Admissible) :
    r.lifecycle.created.Keeps Session.upgrades :=
  h.created_keeps (fun _ hook s => Session.upgrades_congr (hook.hookCalls s))
    Session.upgrades_recorded_createHook

theorem Admissible.upgrading_version (h : r.Admissible) (stored target : Nat) :
    (r.lifecycle.upgrading stored target).Keeps fun s => s.database.version := by
  unfold Lifecycle.upgrading
  cases found : r.lifecycle.onUpgrade with
  | none => exact .pure ()
  | some x => exact .bind (fun _ => rfl) fun _ => (h.upgradeHook x found stored target).version

/-- The hook for a newer version is called with both versions, if there is one. -/
theorem Admissible.upgrading_upgrades (h : r.Admissible) (stored target : Nat) (s : Session) :
    ((r.lifecycle.upgrading stored target).after s).upgrades =
      s.upgrades ++ if r.lifecycle.onUpgrade.isSome then [(stored, target)] else [] := by
  unfold Lifecycle.upgrading
  cases found : r.lifecycle.onUpgrade with
  | none => exact (List.append_nil _).symm
  | some x =>
    have kept := (h.upgradeHook x found stored target).hookCalls
      (s.recorded (.upgradeHook stored target))
    rw [Option.isSome_some, if_pos rfl, ← Session.upgrades_recorded_upgradeHook]
    exact Session.upgrades_congr kept

/-! ## Tables -/

theorem createTables_made {script : Schema.Script} (h : (createTables script).run s = .ok () t) :
    t.database.version = script.version ∧ t.hookCalls = s.hookCalls := by
  obtain ⟨u, issued, rfl⟩ := createTables_ok h
  have kept := (issue_keeps Session.hookCalls_issued script).ok issued
  exact ⟨rfl, kept⟩

/-- Tables that cannot be created leave a database as it was; only the number of the last row stays
used up. -/
theorem createTables_undone (isOpen : s.isOpen) {script : Schema.Script} {u : Session}
    (h : script.issue.run s.begun = .error e u ∨ script.issue.run s.begun = .ok () u ∧
      s.database.isOverdue u.database ∧ e = .storage (.violation .foreignKey)) :
    (createTables script).run s = .error e (u.undone s) ∧ (u.undone s).hookCalls = s.hookCalls := by
  refine ⟨(createTables_error_iff isOpen).2 ⟨u, h, rfl⟩, ?_⟩
  have keeps := issue_keeps Session.hookCalls_issued script
  have kept : u.hookCalls = s.begun.hookCalls := by
    rcases h with failed | ⟨issued, -, -⟩
    · exact keeps.error failed
    · exact keeps.ok issued
  exact kept

theorem createTables_error (isOpen : s.isOpen) {script : Schema.Script}
    (h : (createTables script).run s = .error e t) :
    t.database.version = s.database.version ∧ t.hookCalls = s.hookCalls := by
  obtain ⟨u, failed, rfl⟩ := (createTables_error_iff isOpen).1 h
  exact ⟨rfl, (createTables_undone isOpen failed).2⟩

theorem issueAll_statements {texts : List String} (h : (issueAll texts).run s = .ok () t) :
    t.statements = s.statements ++ texts := by
  induction texts generalizing s with
  | nil =>
    cases h
    exact (List.append_nil _).symm
  | cons text texts ih =>
    obtain ⟨_, u, issued, rest⟩ := Action.ok_of_bind h
    obtain ⟨outcome, v, issued, same⟩ := Action.ok_of_bind issued
    cases same
    rw [ih rest, (Action.issue_ok issued).2, Session.statements_issued, List.append_assoc]
    rfl

/-- Tables that are created were told to the database statement by statement, and so were the
statements that run once. -/
theorem createTables_statements {script : Schema.Script}
    (h : (createTables script).run s = .ok () t) :
    t.statements = s.statements ++ (script.statements.map Prod.snd ++ script.execOnCreate) := by
  obtain ⟨u, issued, rfl⟩ := createTables_ok h
  obtain ⟨_, v, tables, once⟩ := Action.ok_of_bind issued
  have first := issueAll_statements tables
  have rest := issueAll_statements once
  rw [first, List.append_assoc] at rest
  exact rest

/-! ## One request -/

/-- The version that a request leaves is the one it found, or the one of the script, which is not
lower; it is the latter if the request succeeds. -/
theorem Admissible.version_after (h : r.Admissible) (version : s.database.version = stored) :
    match r.ensure.run s with
    | .ok _ t => stored ≤ r.script.version ∧ t.database.version = r.script.version
    | .error _ t => t.database.version = stored ∨
        stored ≤ r.script.version ∧ t.database.version = r.script.version := by
  have does := r.does version
  generalize r.ensure.run s = result at does
  cases does with
  | closed => exact .inl version
  | undone isOpen new failed => exact .inl ((createTables_error isOpen failed).1.trans version)
  | createFailed isOpen new tables failed =>
    have made := (h.created_version.error failed).trans (createTables_made tables).1
    exact .inr ⟨by omega, made⟩
  | created isOpen new tables hook =>
    have made := (h.created_version.ok hook).trans (createTables_made tables).1
    exact ⟨by omega, made⟩
  | newer => exact .inl version
  | current isOpen old same => exact ⟨by omega, by rw [version, same]⟩
  | upgradeFailed isOpen old behind failed =>
    exact .inl (((h.upgrading_version _ _).error failed).trans version)
  | upgradeClosed isOpen old behind hook =>
    exact .inl (((h.upgrading_version _ _).ok hook).trans version)
  | upgraded isOpen old behind => exact ⟨by omega, rfl⟩

/-- One request leaves a version, and not a lower one. -/
theorem Admissible.exists_version (h : r.Admissible) (version : s.database.version = stored) :
    ∃ later : Nat, (r.ensure.after s).database.version = later ∧ stored ≤ later := by
  have after := h.version_after version
  unfold Action.after
  cases result : r.ensure.run s with
  | ok status t =>
    rw [result] at after
    exact ⟨r.script.version, after.2, after.1⟩
  | error e t =>
    rw [result] at after
    rcases after with same | ⟨le, moved⟩
    · exact ⟨stored, same, Nat.le_refl _⟩
    · exact ⟨r.script.version, moved, le⟩

/-- The hook for a newer version is called if the version is behind, and in no other case. -/
theorem Admissible.upgrades_after (h : r.Admissible) (version : s.database.version = stored) :
    (r.ensure.after s).upgrades = s.upgrades ++
      if s.isOpen ∧ 0 < stored ∧ stored < r.script.version ∧ r.lifecycle.onUpgrade.isSome then
        [(stored, r.script.version)]
      else [] := by
  have does := r.does version
  have called := h.upgrading_upgrades stored r.script.version s
  unfold Action.after at called ⊢
  generalize r.ensure.run s = result at does
  -- Only in the last three cases is the version behind; there `called` says what the hook adds.
  cases does with
  | closed shut => simp [shut]
  | undone isOpen new failed =>
    rw [if_neg (by omega), List.append_nil]
    exact Session.upgrades_congr (createTables_error isOpen failed).2
  | createFailed isOpen new tables failed =>
    rw [if_neg (by omega), List.append_nil]
    exact (h.created_upgrades.error failed).trans
      (Session.upgrades_congr (createTables_made tables).2)
  | created isOpen new tables hook =>
    rw [if_neg (by omega), List.append_nil]
    exact (h.created_upgrades.ok hook).trans
      (Session.upgrades_congr (createTables_made tables).2)
  | newer isOpen ahead => rw [if_neg (by omega), List.append_nil]
  | current isOpen old same => rw [if_neg (by omega), List.append_nil]
  | upgradeFailed isOpen old behind failed =>
    rw [failed] at called
    simpa only [isOpen, old, behind, true_and] using called
  | upgradeClosed isOpen old behind hook =>
    rw [hook] at called
    simpa only [isOpen, old, behind, true_and] using called
  | upgraded isOpen old behind hook =>
    rw [hook] at called
    simpa only [isOpen, old, behind, true_and, Session.atVersion_upgrades] using called

/-- Once a version is stored, of a script only the version matters. -/
theorem ensure_version (version : s.database.version = stored) (old : 0 < stored) {q : Request}
    (hooks : q.lifecycle = r.lifecycle) (same : q.script.version = r.script.version) :
    q.ensure.run s = r.ensure.run s := by
  have known : stored ≠ 0 := Nat.ne_of_gt old
  cases isOpen : s.isOpen with
  | false => rw [ensure_closed isOpen, ensure_closed isOpen]
  | true =>
    rw [ensure_run isOpen version, ensure_run isOpen version]
    simp only [proceed, known, if_false, hooks, same]

/-- What a request leaves behind in a session, given the version that its database holds. -/
structure Obeys (r : Request) (s : Session) (stored : Nat) : Prop where
  /-- The version does not sink. -/
  grows : s.database.version ≤ (r.ensure.after s).database.version
  /-- After a success, the database has the version of the script. -/
  settles : ∀ status t, r.ensure.run s = .ok status t → t.database.version = r.script.version
  /-- A database that is ahead is refused, and nothing changes. -/
  refuses : s.isOpen → r.script.version < stored →
    r.ensure.run s = .error (.downgrade stored r.script.version) s
  /-- If a statement for a new database fails, the database is as it was, outside of any
  transaction, and no hook is called; only the number of the last row stays used up. -/
  undoes : s.isOpen → stored = 0 → ∀ e t, r.script.issue.run s.begun = .error e t →
    ∃ u, r.ensure.run s = .error e u ∧
      u.database = { s.database with
        lastRowid := t.database.lastRowid, inTransaction := false } ∧
      u.hookCalls = s.hookCalls
  /-- So it is if what the statements leave cannot be kept: a row refers to nothing, by a foreign key
  that was put off. -/
  unkept : s.isOpen → stored = 0 → ∀ t, r.script.issue.run s.begun = .ok () t →
    s.database.isOverdue t.database →
    ∃ u, r.ensure.run s = .error (.storage (.violation .foreignKey)) u ∧
      u.database = { s.database with
        lastRowid := t.database.lastRowid, inTransaction := false } ∧
      u.hookCalls = s.hookCalls
  /-- Once a version is stored, none of the statements is issued. -/
  spares : 0 < stored → ∀ q : Request, q.lifecycle = r.lifecycle →
    q.script.version = r.script.version → q.ensure.run s = r.ensure.run s
  /-- The hook for a newer version is called with both versions if the version is behind, and in
  no other case. -/
  calls : (r.ensure.after s).upgrades = s.upgrades ++
    if s.isOpen ∧ 0 < stored ∧ stored < r.script.version ∧ r.lifecycle.onUpgrade.isSome then
      [(stored, r.script.version)]
    else []
  /-- The hook finds the database as it was. Then the version moves; but if the hook fails, the
  version stays, and the next request calls its hook with it again. -/
  upgrades : ∀ hook, r.lifecycle.onUpgrade = some hook → s.isOpen → 0 < stored →
    stored < r.script.version →
    match (hook stored r.script.version).run
      (s.recorded (.upgradeHook stored r.script.version)) with
    | .ok () t => t.isOpen →
      r.ensure.run s = .ok (.upgraded stored r.script.version) (t.atVersion r.script.version)
    | .error e t => r.ensure.run s = .error e t ∧ t.database.version = stored ∧
      ∀ q : Request, q.Admissible → q.lifecycle.onUpgrade.isSome → t.isOpen →
        stored < q.script.version →
        (q.ensure.after t).upgrades = t.upgrades ++ [(stored, q.script.version)]

/-- A request obeys all of this in every session whose database has a version. -/
theorem Admissible.obeys (h : r.Admissible) (version : s.database.version = stored) :
    r.Obeys s stored where
  grows := by
    obtain ⟨later, same, le⟩ := h.exists_version version
    omega
  settles := by
    intro status t result
    have after := h.version_after version
    rw [result] at after
    exact after.2
  refuses := fun isOpen ahead => ensure_ahead isOpen version ahead
  undoes := by
    intro isOpen new e t failed
    obtain ⟨undone, kept⟩ := createTables_undone isOpen (.inl failed)
    refine ⟨_, ?_, rfl, kept⟩
    rw [ensure_new isOpen version new, EStateM.run_bind, undone]
  unkept := by
    intro isOpen new t issued overdue
    obtain ⟨undone, kept⟩ := createTables_undone isOpen (.inr ⟨issued, overdue, rfl⟩)
    refine ⟨_, ?_, rfl, kept⟩
    rw [ensure_new isOpen version new, EStateM.run_bind, undone]
  spares := fun old q hooks same => ensure_version version old hooks same
  calls := h.upgrades_after version
  upgrades := by
    intro hook found isOpen old behind
    have called : (r.lifecycle.upgrading stored r.script.version).run s =
        (hook stored r.script.version).run
          (s.recorded (.upgradeHook stored r.script.version)) := by
      unfold Lifecycle.upgrading
      rw [found]
      rfl
    have moves := ensure_behind isOpen version old behind
    -- The version moves only after the hook, so a hook that fails is called again.
    rw [← called]
    cases result : (r.lifecycle.upgrading stored r.script.version).run s with
    | ok _ t =>
      intro still
      rw [moves, result]
      exact if_pos still
    | error e t =>
      have stays := ((h.upgrading_version _ _).error result).trans version
      refine ⟨by rw [moves, result], stays, ?_⟩
      intro q hq hook still behind
      rw [hq.upgrades_after stays, if_pos ⟨still, old, behind, hook⟩]

/-! ## Many requests -/

/-- The session after requests, one after another; one that fails does not stop those after it. -/
def runAll : List Request → Session → Session
  | [], s => s
  | r :: rest, s => runAll rest (r.ensure.after s)

theorem runAll_append (rs qs : List Request) (s : Session) :
    runAll (rs ++ qs) s = runAll qs (runAll rs s) := by
  induction rs generalizing s with
  | nil => rfl
  | cons r rs ih => exact ih (r.ensure.after s)

/-- Many requests leave a version that is not lower than the first. -/
theorem exists_version_runAll {rs : List Request} (admissible : ∀ r ∈ rs, r.Admissible)
    (version : s.database.version = stored) :
    ∃ later : Nat, (runAll rs s).database.version = later ∧ stored ≤ later := by
  induction rs generalizing s stored with
  | nil => exact ⟨stored, version, Nat.le_refl _⟩
  | cons r rs ih =>
    rw [List.forall_mem_cons] at admissible
    obtain ⟨middle, hmiddle, le⟩ := admissible.1.exists_version version
    obtain ⟨later, hlater, le'⟩ := ih admissible.2 hmiddle
    exact ⟨later, hlater, Nat.le_trans le le'⟩

/-- The request creates the tables of a new database and issues its statements, to stay. -/
def Commits (r : Request) (s : Session) : Prop :=
  s.database.version = 0 ∧ ∃ t, (createTables r.script).run s = .ok () t

/-- After the tables were created, the database is not new any more, whatever the hook does. -/
theorem Commits.exists_version (commits : r.Commits s) (h : r.Admissible) :
    ∃ later : Nat, (r.ensure.after s).database.version = later ∧ 0 < later := by
  obtain ⟨version, t, tables⟩ := commits
  have isOpen := isOpen_of_createTables tables
  have made := (createTables_made tables).1
  refine ⟨r.script.version, ?_, h.version.1⟩
  unfold Action.after
  rw [ensure_new isOpen version rfl, EStateM.run_bind, tables]
  simp only [EStateM.run_bind]
  cases hook : r.lifecycle.created.run t with
  | ok _ u => exact (h.created_version.ok hook).trans made
  | error e u => exact (h.created_version.error hook).trans made

end Request

open Request (runAll)

/-- What holds of requests that are made one after another. -/
structure History (start : Session) (rs : List Request) : Prop where
  /-- Each request finds a version, and does what one request does. -/
  obeys : ∀ before r after, rs = before ++ r :: after →
    ∃ stored : Nat, (runAll before start).database.version = stored ∧
      r.Obeys (runAll before start) stored
  /-- The version never sinks. -/
  grows : ∀ before between after, rs = before ++ between ++ after →
    (runAll before start).database.version ≤ (runAll (before ++ between) start).database.version
  /-- The tables are created at most once. -/
  once : ∀ before r between q after, rs = before ++ r :: between ++ q :: after →
    r.Commits (runAll before start) → ¬ q.Commits (runAll (before ++ r :: between) start)
  /-- A request that creates them issues each statement of its script once, in order. -/
  issues : ∀ before r after, rs = before ++ r :: after → r.Commits (runAll before start) →
    ∃ t, (createTables r.script).run (runAll before start) = .ok () t ∧
      t.statements = (runAll before start).statements ++
        (r.script.statements.map Prod.snd ++ r.script.execOnCreate)
  /-- The versions that are written are stored as they are. -/
  stores : ∀ r ∈ rs, ∀ db : Database,
    db.setting "user_version" (some (toString r.script.version)) =
      ({ db with version := r.script.version }, .ok .nothing)

/-- From a new database on, a history of requests with the scripts of compiled documents keeps to
all of this, whatever the hooks do. -/
theorem lifecycle_history {start : Session} (new : start.database.version = 0)
    {rs : List Request} (admissible : ∀ r ∈ rs, r.Admissible) : History start rs where
  obeys := by
    rintro before r after rfl
    have earlier : ∀ q ∈ before, q.Admissible := fun q hq => admissible q (by simp [hq])
    obtain ⟨stored, version, -⟩ := Request.exists_version_runAll earlier new
    exact ⟨stored, version, (admissible r (by simp)).obeys version⟩
  grows := by
    rintro before between after rfl
    have earlier : ∀ q ∈ before, q.Admissible := fun q hq => admissible q (by simp [hq])
    have later : ∀ q ∈ between, q.Admissible := fun q hq => admissible q (by simp [hq])
    obtain ⟨stored, version, -⟩ := Request.exists_version_runAll earlier new
    obtain ⟨grown, version', le⟩ := Request.exists_version_runAll later version
    rw [Request.runAll_append, version, version']
    omega
  once := by
    rintro before r between q after rfl commits ⟨zero, -⟩
    -- The first request moves the version off zero, and from there on it only grows.
    obtain ⟨made, version, pos⟩ := commits.exists_version (admissible r (by simp))
    have later : ∀ q ∈ between, q.Admissible := fun q hq => admissible q (by simp [hq])
    obtain ⟨grown, version', le⟩ := Request.exists_version_runAll later version
    rw [Request.runAll_append] at zero
    simp only [runAll] at zero
    omega
  issues := by
    rintro before r after - ⟨-, t, tables⟩
    exact ⟨t, tables, Request.createTables_statements tables⟩
  stores := fun r hr db => Database.setting_version (admissible r hr).version.2 db

end Lifecycle

namespace Tasks

open Lifecycle (Request)

/-- The tasks, one version later. -/
def later : Document :=
  { document with database := { document.database with version := 2 } }

/-- Every upgrade calls one hook, and nothing else is called. -/
def upgradingBy (hook : Action Unit) : Lifecycle :=
  ⟨none, none, some fun _ _ => hook⟩

theorem upgradingBy_admissible {doc : Document} {c : Compiled} (h : doc.compile hooks = .ok c)
    {hook : Action Unit} (tame : hook.IsHook) :
    (⟨upgradingBy hook, c.script⟩ : Request).Admissible where
  compiled := ⟨doc, hooks, c, h, rfl⟩
  createHook := by
    intro x none
    cases none
  upgradeHook := by
    intro x same
    cases same
    exact fun _ _ => tame

end Tasks

/-- A database that is created, refused an upgrade, upgraded, and not taken back. -/
theorem lifecycle_history_tasks :
    ∃ c c', Tasks.document.compile Tasks.hooks = .ok c ∧ Tasks.later.compile Tasks.hooks = .ok c' ∧
      Lifecycle.History Session.start [⟨Tasks.upgradingBy (pure ()), c.script⟩,
        ⟨Tasks.upgradingBy (throw (.badRequest "not yet")), c'.script⟩,
        ⟨Tasks.upgradingBy (pure ()), c'.script⟩, ⟨Tasks.upgradingBy (pure ()), c.script⟩] := by
  have first : Tasks.document.compile Tasks.hooks = .ok _ := rfl
  have second : Tasks.later.compile Tasks.hooks = .ok _ := rfl
  have willing : (pure () : Action Unit).IsHook := ⟨.pure (), .pure ()⟩
  have refusing : (throw (.badRequest "not yet") : Action Unit).IsHook := ⟨.throw _, .throw _⟩
  refine ⟨_, _, first, second, Lifecycle.lifecycle_history rfl ?_⟩
  simp only [List.forall_mem_cons]
  exact ⟨Tasks.upgradingBy_admissible first willing, Tasks.upgradingBy_admissible second refusing,
    Tasks.upgradingBy_admissible second willing, Tasks.upgradingBy_admissible first willing,
    by simp⟩

end ResourceProvider
