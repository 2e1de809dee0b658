import ResourceProvider.Proofs.Lifecycle.Guarded
/-!
# Requests at the same time

A request reads the version of the database, then creates the tables if it has read that there are
none, and then calls its hook. Between these steps other requests can act, so a request can create
the tables of a database that is not new any more. `Request.Moves` says what one step does. Two
invariants of all interleavings follow: a request that reads the version once the tables are there
creates none, and where a table guards the script, only one creation succeeds at all
(`creation_interleaved`).
-/
namespace ResourceProvider

open Engine (Database keepsTables)
open Schema (Script)

namespace Session

/-- How often the hook for a new database was called. -/
def createHooks (s : Session) : Nat :=
  s.hookCalls.count .createHook

theorem createHooks_recorded_createHook (s : Session) :
    (s.recorded .createHook).createHooks = s.createHooks + 1 := by
  simp [createHooks, hookCalls, recorded]

theorem createHooks_recorded_upgradeHook (s : Session) (stored target : Nat) :
    (s.recorded (.upgradeHook stored target)).createHooks = s.createHooks := by
  simp [createHooks, hookCalls, recorded]

end Session

namespace Lifecycle

/-! ## Hooks -/

/-- The hooks leave what is true of a session. -/
structure Preserves (P : Session → Prop) (h : Lifecycle) : Prop where
  createHook : ∀ hook, h.onCreate = some hook → hook.Preserves P
  upgradeHook : ∀ hook, h.onUpgrade = some hook →
    ∀ stored target, (hook stored target).Preserves P

namespace Preserves

variable {P : Database → Prop} {h : Lifecycle}

theorem created (hooks : h.Preserves fun s => P s.database) :
    h.created.Preserves fun s => P s.database := by
  unfold Lifecycle.created
  cases found : h.onCreate with
  | none => exact .pure ()
  | some hook => exact .bind (fun _ there => there) fun _ => hooks.createHook hook found

theorem upgrading (hooks : h.Preserves fun s => P s.database) (stored target : Nat) :
    (h.upgrading stored target).Preserves fun s => P s.database := by
  unfold Lifecycle.upgrading
  cases found : h.onUpgrade with
  | none => exact .pure ()
  | some hook =>
    exact .bind (fun _ there => there) fun _ => hooks.upgradeHook hook found stored target

end Preserves

/-! ## Steps -/

/-- How far a request has come. -/
inductive Stage where
  | waiting
  /-- The version was read, and nothing was done about it. -/
  | informed (stored : Nat)
  /-- The tables were created, and the hook for a new database is due. -/
  | created
  /-- The hook for a newer version was called, and the version is due. -/
  | upgrading (stored : Nat)
  | answered (answer : Except ProviderError SchemaStatus)

namespace Stage

/-- The tables were created by the step that was made last. -/
def isCreated : Stage → Bool
  | .created => true
  | _ => false

/-- The tables may still be created. -/
def isEarly : Stage → Bool
  | .waiting => true
  | .informed _ => true
  | _ => false

theorem not_isEarly_of_isCreated {stage : Stage} (h : stage.isCreated) : stage.isEarly = false := by
  cases stage with
  | created => rfl
  | _ => cases h

/-- Where a request ends. -/
def ofResult : EStateM.Result ProviderError Session SchemaStatus → Stage × Session
  | .ok status t => (.answered (.ok status), t)
  | .error e t => (.answered (.error e), t)

end Stage

/-- Acts, and goes on or answers with the error. -/
def advance {α : Type} (x : Action α) (next : α → Stage) (s : Session) : Stage × Session :=
  match x.run s with
  | .ok a t => (next a, t)
  | .error e t => (.answered (.error e), t)

namespace Request

/-- One step of a request. The tables are created in one step, since that is a transaction. -/
def step (r : Request) (stage : Stage) (s : Session) : Stage × Session :=
  match stage with
  | .waiting => advance storedVersion .informed s
  | .informed stored =>
    if stored = 0 then advance (createTables r.script) (fun _ => .created) s
    else if r.script.version < stored then
      (.answered (.error (.downgrade stored r.script.version)), s)
    else if stored < r.script.version then
      advance (r.lifecycle.upgrading stored r.script.version) (fun _ => .upgrading stored) s
    else (.answered (.ok .current), s)
  | .created => advance r.lifecycle.created (fun _ => .answered (.ok .created)) s
  | .upgrading stored =>
    advance (setVersion r.script.version)
      (fun _ => .answered (.ok (.upgraded stored r.script.version))) s
  | .answered answer => (.answered answer, s)

/-- Steps one after another, with none of others in between. -/
def steps (r : Request) : Nat → Stage × Session → Stage × Session
  | 0, at_ => at_
  | n + 1, at_ => r.steps n (r.step at_.1 at_.2)

/-- Once the version was read, two steps are left. -/
theorem steps_informed (r : Request) (stored : Nat) (s : Session) :
    r.steps 2 (.informed stored, s) =
      Stage.ofResult ((r.lifecycle.proceed r.script stored).run s) := by
  -- The cases follow the order in which a request compares the versions.
  unfold steps steps steps proceed
  by_cases new : stored = 0
  · simp only [step, if_pos new, advance, EStateM.run_bind]
    cases (createTables r.script).run s with
    | error e t => rfl
    | ok _ t =>
      simp only
      cases r.lifecycle.created.run t <;> rfl
  · by_cases ahead : r.script.version < stored
    · simp only [step, if_neg new, if_pos ahead]
      rfl
    · by_cases behind : stored < r.script.version
      · simp only [step, if_neg new, if_neg ahead, if_pos behind, advance, EStateM.run_bind]
        cases (r.lifecycle.upgrading stored r.script.version).run s with
        | error e t => rfl
        | ok _ t =>
          simp only
          cases (setVersion r.script.version).run t <;> rfl
      · simp only [step, if_neg new, if_neg ahead, if_neg behind]
        rfl

/-- Alone, a request is made in three steps. -/
theorem steps_alone (r : Request) (s : Session) :
    r.steps 3 (.waiting, s) = Stage.ofResult (r.ensure.run s) := by
  rw [steps, ensure, Lifecycle.ensure, EStateM.run_bind, step, advance]
  cases storedVersion.run s with
  | error e t => rfl
  | ok stored t => exact r.steps_informed stored t

/-- What a step does in a session. -/
inductive Moves (r : Request) (s : Session) : Stage → Stage → Session → Prop
  | unread {e : ProviderError} : Moves r s .waiting (.answered (.error e)) s
  | read {stored : Nat} (version : s.database.version = stored) :
    Moves r s .waiting (.informed stored) s
  | made {t : Session} (tables : (createTables r.script).run s = .ok () t) :
    Moves r s (.informed 0) .created t
  | undone {e : ProviderError} {t : Session} (failed : (createTables r.script).run s = .error e t) :
    Moves r s (.informed 0) (.answered (.error e)) t
  | settled {stored : Nat} {x : Except ProviderError SchemaStatus} :
    Moves r s (.informed stored) (.answered x) s
  | upgradeFailed {stored : Nat} {e : ProviderError} :
    Moves r s (.informed stored) (.answered (.error e))
      ((r.lifecycle.upgrading stored r.script.version).after s)
  | upgradeCalled {stored : Nat} :
    Moves r s (.informed stored) (.upgrading stored)
      ((r.lifecycle.upgrading stored r.script.version).after s)
  | createCalled {x : Except ProviderError SchemaStatus} :
    Moves r s .created (.answered x) (r.lifecycle.created.after s)
  | unmoved {stored : Nat} {e : ProviderError} :
    Moves r s (.upgrading stored) (.answered (.error e)) s
  | moved {stored : Nat} :
    Moves r s (.upgrading stored) (.answered (.ok (.upgraded stored r.script.version)))
      (s.atVersion r.script.version)
  | over {x : Except ProviderError SchemaStatus} : Moves r s (.answered x) (.answered x) s

theorem advance_cases {α : Type} (x : Action α) (next : α → Stage) (s : Session) :
    (∃ a t, x.run s = .ok a t ∧ advance x next s = (next a, t)) ∨
      ∃ e t, x.run s = .error e t ∧ advance x next s = (.answered (.error e), t) := by
  unfold advance
  cases x.run s with
  | ok a t => exact .inl ⟨a, t, rfl, rfl⟩
  | error e t => exact .inr ⟨e, t, rfl, rfl⟩

theorem storedVersion_cases (s : Session) :
    (∃ e, storedVersion.run s = .error e s) ∨
      ∃ stored : Nat, s.database.version = stored ∧ storedVersion.run s = .ok stored s := by
  cases isOpen : s.isOpen with
  | false =>
    refine .inl ⟨.storage .closed, ?_⟩
    simp only [storedVersion, EStateM.run_bind, Action.reach_closed isOpen]
  | true =>
    rcases Int.lt_or_le s.database.version 0 with negative | natural
    · left
      simp only [storedVersion, EStateM.run_bind, Action.reach_run isOpen, EStateM.run_get,
        if_pos negative]
      exact ⟨_, rfl⟩
    · obtain ⟨stored, version⟩ := Int.eq_ofNat_of_zero_le natural
      exact .inr ⟨stored, version, storedVersion_run isOpen version⟩

theorem after_ok {α : Type} {x : Action α} {s t : Session} {a : α} (h : x.run s = .ok a t) :
    x.after s = t := by
  rw [Action.after, h]

theorem after_error {α : Type} {x : Action α} {s t : Session} {e : ProviderError}
    (h : x.run s = .error e t) : x.after s = t := by
  rw [Action.after, h]

theorem step_moves (r : Request) (stage : Stage) (s : Session) :
    r.Moves s stage (r.step stage s).1 (r.step stage s).2 := by
  unfold step
  cases stage with
  | waiting =>
    dsimp only
    rcases storedVersion_cases s with ⟨e, failed⟩ | ⟨stored, version, read⟩
    · rw [advance, failed]
      exact .unread
    · rw [advance, read]
      exact .read version
  | informed stored =>
    dsimp only
    split
    · rename_i new
      subst new
      rcases advance_cases (createTables r.script) (fun _ => .created) s with
        ⟨_, t, made, goes⟩ | ⟨e, t, failed, goes⟩
      · rw [goes]
        exact .made made
      · rw [goes]
        exact .undone failed
    · split
      · exact .settled
      · split
        · rcases advance_cases (r.lifecycle.upgrading stored r.script.version)
            (fun _ => .upgrading stored) s with ⟨_, t, called, goes⟩ | ⟨e, t, failed, goes⟩
          · rw [goes, ← after_ok called]
            exact .upgradeCalled
          · rw [goes, ← after_error failed]
            exact .upgradeFailed
        · exact .settled
  | created =>
    dsimp only
    rcases advance_cases r.lifecycle.created (fun _ => .answered (.ok .created)) s with
      ⟨_, t, called, goes⟩ | ⟨e, t, failed, goes⟩
    · rw [goes, ← after_ok called]
      exact .createCalled
    · rw [goes, ← after_error failed]
      exact .createCalled
  | upgrading stored =>
    dsimp only
    cases isOpen : s.isOpen with
    | false =>
      rw [advance, setVersion_closed _ isOpen]
      exact .unmoved
    | true =>
      rw [advance, setVersion_run _ isOpen]
      exact .moved
  | answered x => exact .over

/-! ## What a step leaves -/

variable {r : Request} {s t : Session} {stage next : Stage}

theorem Moves.informed (moves : r.Moves s stage next t) (created : next.isCreated) :
    stage = .informed 0 ∧ (createTables r.script).run s = .ok () t := by
  cases moves with
  | made tables => exact ⟨rfl, tables⟩
  | _ => cases created

/-- A request never gets back to where it could create the tables. -/
theorem Moves.early (moves : r.Moves s stage next t) (early : next.isEarly) : stage.isEarly := by
  cases moves with
  | read => rfl
  | _ => cases early

/-- A request reads that a database is new only if it is. -/
theorem Moves.misled (moves : r.Moves s stage next t) (misled : next = .informed 0) :
    s.database.version = 0 := by
  cases moves with
  | read version =>
    cases misled
    exact version
  | _ => cases misled

/-- Creating the tables makes `P` true of the database, and nothing that the request does makes it
false again. -/
structure Establishes (r : Request) (P : Database → Prop) : Prop where
  made : ∀ s t, (createTables r.script).run s = .ok () t → P t.database
  undone : ∀ s e t, (createTables r.script).run s = .error e t → P s.database → P t.database
  written : ∀ db : Database, P db → P { db with version := r.script.version }
  hooks : r.lifecycle.Preserves fun s => P s.database

theorem Moves.establishes {P : Database → Prop} (moves : r.Moves s stage next t)
    (h : r.Establishes P) (there : next.isCreated = false → P s.database) : P t.database := by
  cases moves with
  | made tables => exact h.made _ _ tables
  | undone failed => exact h.undone _ _ _ failed (there rfl)
  | upgradeFailed => exact h.hooks.upgrading _ _ s (there rfl)
  | upgradeCalled => exact h.hooks.upgrading _ _ s (there rfl)
  | createCalled => exact h.hooks.created s (there rfl)
  | moved => exact h.written _ (there rfl)
  | _ => exact there rfl

/-- Once the tables are created, the database is not new any more. -/
theorem Admissible.establishes_version (h : r.Admissible) :
    r.Establishes fun db => db.version ≠ 0 where
  made s t tables := by
    have version := (createTables_made tables).1
    have positive := h.version.1
    omega
  undone s e t failed there := by
    cases isOpen : s.isOpen with
    | true => rwa [(createTables_error isOpen failed).1]
    | false =>
      rw [createTables_closed _ isOpen] at failed
      cases failed
      exact there
  written _ _ := by
    have positive := h.version.1
    dsimp only
    omega
  hooks :=
    ⟨fun x found => .of_keeps (h.createHook x found).version fun v : Int => v ≠ 0,
      fun x found stored target =>
        .of_keeps (h.upgradeHook x found stored target).version fun v : Int => v ≠ 0⟩

/-- Once the tables are created, a table that guards the script is there, if the hooks leave it. -/
theorem Establishes.of_guards {name : String} (guards : r.script.Guards name)
    (hooks : r.lifecycle.Preserves (Session.Declares name)) :
    r.Establishes fun db => db.declares name where
  made _ _ tables := createTables_declares guards tables
  undone _ _ _ failed there := createTables_leaves failed there
  written _ there := there
  hooks := hooks

theorem Admissible.upgrading_createHooks (h : r.Admissible) (stored target : Nat) :
    (r.lifecycle.upgrading stored target).Keeps Session.createHooks := by
  unfold Lifecycle.upgrading
  cases found : r.lifecycle.onUpgrade with
  | none => exact .pure ()
  | some x =>
    refine .bind (fun s => ?_) fun _ s => ?_
    · exact Session.createHooks_recorded_upgradeHook s stored target
    · exact congrArg (List.count _) ((h.upgradeHook x found stored target).hookCalls s)

/-- The hook for a new database is called once at most. -/
theorem Admissible.created_createHooks (h : r.Admissible) (s : Session) :
    (r.lifecycle.created.after s).createHooks ≤ s.createHooks + 1 := by
  unfold Lifecycle.created
  cases found : r.lifecycle.onCreate with
  | none => exact Nat.le_succ _
  | some x =>
    have kept := (h.createHook x found).hookCalls (s.recorded .createHook)
    have counted : (x.after (s.recorded .createHook)).createHooks =
        (s.recorded .createHook).createHooks := congrArg (List.count _) kept
    rw [Session.createHooks_recorded_createHook] at counted
    exact Nat.le_of_eq counted

/-- The hook for a new database is called only where it is due. -/
theorem Moves.createHooks (moves : r.Moves s stage next t) (h : r.Admissible) :
    t.createHooks ≤ s.createHooks + if stage.isCreated then 1 else 0 := by
  have same {u : Session} (kept : u.hookCalls = s.hookCalls) : u.createHooks ≤ s.createHooks + 0 :=
    Nat.le_of_eq (congrArg (List.count _) kept)
  cases moves with
  | made tables => exact same (createTables_made tables).2
  | undone failed =>
    cases isOpen : s.isOpen with
    | true => exact same (createTables_error isOpen failed).2
    | false =>
      rw [createTables_closed _ isOpen] at failed
      cases failed
      exact same rfl
  | upgradeFailed => exact Nat.le_of_eq (h.upgrading_createHooks _ _ s)
  | upgradeCalled => exact Nat.le_of_eq (h.upgrading_createHooks _ _ s)
  | createCalled => exact h.created_createHooks s
  | _ => exact same rfl

end Request

/-! ## Worlds -/

/-- A session that requests share, with how far each of them has come. `creators` are the places of
the requests that created the tables, in order. -/
structure World where
  session : Session
  calls : List (Request × Stage)
  creators : List Nat

namespace World

/-- Nothing was done yet. -/
def start (rs : List Request) : World :=
  ⟨.start, rs.map fun r => (r, .waiting), []⟩

/-- The request at a place makes a step. -/
def step (w : World) (i : Nat) : World :=
  match w.calls[i]? with
  | none => w
  | some (r, stage) =>
    let (next, session) := r.step stage w.session
    ⟨session, w.calls.set i (r, next), if next.isCreated then w.creators ++ [i] else w.creators⟩

/-- Requests make steps as a schedule says, which names places. -/
def interleave (w : World) (schedule : List Nat) : World :=
  schedule.foldl step w

/-- What every step keeps, every interleaving keeps. -/
theorem interleave_keeps {P : World → Prop} (step : ∀ w i, P w → P (w.step i)) {w : World}
    (first : P w) (schedule : List Nat) : P (w.interleave schedule) := by
  induction schedule generalizing w with
  | nil => exact first
  | cons i schedule ih => exact ih (step w i first)

theorem step_cases (w : World) (i : Nat) :
    w.step i = w ∨ ∃ r stage next t, w.calls[i]? = some (r, stage) ∧
      r.Moves w.session stage next t ∧
      w.step i = ⟨t, w.calls.set i (r, next),
        if next.isCreated then w.creators ++ [i] else w.creators⟩ := by
  unfold step
  cases found : w.calls[i]? with
  | none => exact .inl rfl
  | some call =>
    obtain ⟨r, stage⟩ := call
    exact .inr ⟨r, stage, _, _, rfl, r.step_moves stage w.session, rfl⟩

/-! ## Invariants -/

/-- The requests in the world are all of a kind. -/
def All (w : World) (P : Request → Prop) : Prop :=
  ∀ c ∈ w.calls, P c.1

theorem All.step {P : Request → Prop} {w : World} (all : w.All P) (i : Nat) : (w.step i).All P := by
  rcases w.step_cases i with same | ⟨r, stage, next, t, found, -, goes⟩
  · rwa [same]
  · rw [goes]
    intro c mem
    rcases List.mem_or_eq_of_mem_set mem with there | rfl
    · exact all c there
    · exact all (r, stage) (List.mem_of_getElem? found)

theorem All.of_start {P : Request → Prop} {rs : List Request} (all : ∀ r ∈ rs, P r) :
    (start rs).All P := by
  intro c mem
  obtain ⟨r, hr, rfl⟩ := List.mem_map.1 mem
  exact all r hr

/-- Each request creates the tables once at most, and the hook for a new database is called once at
most for each creation. -/
structure Tracked (w : World) : Prop where
  places : w.creators.Nodup
  past : ∀ i ∈ w.creators, ∀ c, w.calls[i]? = some c → c.2.isEarly = false
  hooks : w.session.createHooks + w.calls.countP (fun c => c.2.isCreated) ≤ w.creators.length

theorem Tracked.step {w : World} (h : w.Tracked) (all : w.All Request.Admissible) (i : Nat) :
    (w.step i).Tracked := by
  rcases w.step_cases i with same | ⟨r, stage, next, t, found, moves, goes⟩
  · rwa [same]
  have fresh (created : next.isCreated) : i ∉ w.creators := by
    intro mem
    have late := h.past i mem _ found
    rw [(moves.informed created).1] at late
    cases late
  rw [goes]
  constructor
  · dsimp only
    split
    · rename_i created
      refine List.nodup_append.2 ⟨h.places, by simp, fun j mem k last => ?_⟩
      cases List.mem_singleton.1 last
      rintro rfl
      exact fresh created mem
    · exact h.places
  · intro j mem c at_
    dsimp only at mem at_
    by_cases here : i = j
    · subst here
      have inside : i < w.calls.length := (List.getElem?_eq_some_iff.1 found).1
      rw [List.getElem?_set_self inside] at at_
      cases at_
      cases created : next.isCreated with
      | true => exact Stage.not_isEarly_of_isCreated created
      | false =>
        rw [created, if_neg Bool.false_ne_true] at mem
        have late := h.past i mem _ found
        cases early : next.isEarly with
        | false => rfl
        | true =>
          rw [moves.early early] at late
          cases late
    · rw [List.getElem?_set_ne here] at at_
      refine h.past j ?_ c at_
      split at mem
      · rcases List.mem_append.1 mem with there | last
        · exact there
        · exact absurd (List.mem_singleton.1 last).symm here
      · exact mem
  · have called := moves.createHooks (all _ (List.mem_of_getElem? found))
    obtain ⟨inside, at_⟩ := List.getElem?_eq_some_iff.1 found
    have due : (if stage.isCreated then 1 else 0) ≤
        w.calls.countP fun c => c.2.isCreated := by
      split
      · rename_i created
        exact List.countP_pos_iff.2 ⟨_, List.mem_of_getElem? found, created⟩
      · exact Nat.zero_le _
    have grown : (if next.isCreated then w.creators ++ [i] else w.creators).length =
        w.creators.length + if next.isCreated then 1 else 0 := by
      split
      · exact List.length_append
      · rfl
    have before := h.hooks
    dsimp only
    rw [List.countP_set inside, at_, grown]
    dsimp only
    omega

/-- What creating the tables makes true of the database is true of it once they are created. -/
structure Marked (P : Database → Prop) (w : World) : Prop where
  mark : w.creators ≠ [] → P w.session.database

theorem Marked.step {P : Database → Prop} {w : World} (h : w.Marked P)
    (all : w.All fun r => r.Establishes P) (i : Nat) : (w.step i).Marked P := by
  rcases w.step_cases i with same | ⟨r, stage, next, t, found, moves, goes⟩
  · rwa [same]
  rw [goes]
  refine ⟨fun some_ => moves.establishes (all _ (List.mem_of_getElem? found)) fun other => ?_⟩
  dsimp only at some_
  rw [other, if_neg Bool.false_ne_true] at some_
  exact h.mark some_

/-- The database is not new any more, and the request at a place has not read that it is: it does
not create the tables. -/
structure Spares (i : Nat) (w : World) : Prop where
  version : w.session.database.version ≠ 0
  place : i ∉ w.creators
  stage : ∀ c, w.calls[i]? = some c → c.2 ≠ .informed 0

theorem Spares.step {i : Nat} {w : World} (h : w.Spares i) (all : w.All Request.Admissible)
    (j : Nat) : (w.step j).Spares i := by
  rcases w.step_cases j with same | ⟨r, stage, next, t, found, moves, goes⟩
  · rwa [same]
  have admissible := all _ (List.mem_of_getElem? found)
  rw [goes]
  constructor
  · exact moves.establishes admissible.establishes_version fun _ => h.version
  · dsimp only
    split
    · rename_i created
      intro mem
      rcases List.mem_append.1 mem with there | last
      · exact h.place there
      · cases List.mem_singleton.1 last
        exact h.stage _ found (moves.informed created).1
    · exact h.place
  · intro c at_
    dsimp only at at_
    by_cases here : j = i
    · subst here
      rw [List.getElem?_set_self (List.getElem?_eq_some_iff.1 found).1] at at_
      cases at_
      exact fun misled => h.version (moves.misled misled)
    · rw [List.getElem?_set_ne here] at at_
      exact h.stage c at_

/-- The tables were created once at most. -/
theorem step_once {name : String} {w : World} (marked : w.Marked fun db => db.declares name)
    (once : w.creators.length ≤ 1) (all : w.All fun r => r.script.Guards name) (i : Nat) :
    (w.step i).creators.length ≤ 1 := by
  rcases w.step_cases i with same | ⟨r, stage, next, t, found, moves, goes⟩
  · rwa [same]
  rw [goes]
  dsimp only
  split
  · rename_i created
    -- The guarding table is not there yet, so no other request has created the tables.
    have first : w.creators = [] := by
      refine Decidable.byContradiction fun some_ => ?_
      obtain ⟨e, u, refused⟩ := createTables_refused (s := w.session)
        (all _ (List.mem_of_getElem? found)) (marked.mark some_)
      rw [(moves.informed created).2] at refused
      cases refused
    rw [first]
    exact Nat.le_refl 1
  · exact once

/-! ## Interleavings -/

variable {rs : List Request} {w : World}

theorem interleave_append (w : World) (before after : List Nat) :
    w.interleave (before ++ after) = (w.interleave before).interleave after :=
  List.foldl_append

theorem All.interleave {P : Request → Prop} (all : w.All P) (schedule : List Nat) :
    (w.interleave schedule).All P :=
  interleave_keeps (P := fun w => w.All P) (fun _ i all => all.step i) all schedule

theorem tracked_interleave (admissible : ∀ r ∈ rs, r.Admissible) (schedule : List Nat) :
    ((start rs).interleave schedule).Tracked := by
  have first : (start rs).Tracked := by
    refine ⟨List.nodup_nil, fun i mem => absurd mem List.not_mem_nil, ?_⟩
    have none : (start rs).calls.countP (fun c => c.2.isCreated) = 0 := by
      rw [List.countP_eq_zero]
      intro c mem
      obtain ⟨r, -, rfl⟩ := List.mem_map.1 mem
      exact Bool.false_ne_true
    rw [none]
    exact Nat.le_refl 0
  exact (interleave_keeps (P := fun w => w.Tracked ∧ w.All Request.Admissible)
    (fun _ i h => ⟨h.1.step h.2 i, h.2.step i⟩) ⟨first, .of_start admissible⟩ schedule).1

theorem marked_interleave {P : Database → Prop} (all : ∀ r ∈ rs, r.Establishes P)
    (schedule : List Nat) : ((start rs).interleave schedule).Marked P :=
  (interleave_keeps (P := fun w => w.Marked P ∧ w.All fun r => r.Establishes P)
    (fun _ i h => ⟨h.1.step h.2 i, h.2.step i⟩)
    ⟨⟨fun some_ => absurd rfl some_⟩, .of_start all⟩ schedule).1

/-- A request that has not read the version when the tables are there does not create them. -/
theorem spares_interleave (admissible : ∀ r ∈ rs, r.Admissible) {before : List Nat}
    (made : ((start rs).interleave before).creators ≠ []) {i : Nat} {r : Request}
    (waits : ((start rs).interleave before).calls[i]? = some (r, .waiting)) (after : List Nat) :
    ((start rs).interleave (before ++ after)).Spares i := by
  have marked := marked_interleave (fun r hr => (admissible r hr).establishes_version) before
  have tracked := tracked_interleave admissible before
  have all : ((start rs).interleave before).All Request.Admissible :=
    All.interleave (.of_start admissible) before
  have first : ((start rs).interleave before).Spares i := by
    refine ⟨marked.mark made, fun mem => ?_, fun c at_ misled => ?_⟩
    · have late := tracked.past i mem _ waits
      cases late
    · rw [waits] at at_
      cases at_
      cases misled
  rw [interleave_append]
  exact (interleave_keeps (P := fun w => w.Spares i ∧ w.All Request.Admissible)
    (fun _ j h => ⟨h.1.step h.2 j, h.2.step j⟩) ⟨first, all⟩ after).1

theorem once_interleave {name : String} (guards : ∀ r ∈ rs, r.script.Guards name)
    (hooks : ∀ r ∈ rs, r.lifecycle.Preserves (Session.Declares name)) (schedule : List Nat) :
    ((start rs).interleave schedule).creators.length ≤ 1 := by
  have lasts : ∀ r ∈ rs, r.Establishes fun db => db.declares name :=
    fun r hr => .of_guards (guards r hr) (hooks r hr)
  have none : (start rs).creators.length ≤ 1 := Nat.zero_le 1
  refine (interleave_keeps (P := fun w => w.creators.length ≤ 1 ∧
      (w.Marked fun db => db.declares name) ∧ (w.All fun r => r.script.Guards name) ∧
      w.All fun r => r.Establishes fun db => db.declares name)
    (fun _ i h => ⟨step_once h.2.1 h.1 h.2.2.1 i, h.2.1.step h.2.2.2 i, h.2.2.1.step i,
      h.2.2.2.step i⟩)
    ⟨none, ⟨fun some_ => absurd rfl some_⟩, .of_start guards, .of_start lasts⟩ schedule).1

end World

open World (start)

/-- Whatever the order of their steps, each of the requests creates the tables once at most, and the
hook for a new database is called once at most for each creation. Requests that read the version
once the tables are there create none; only requests that have read it before can create them a
second time. They cannot if there is a table of which nothing says that it may be there already,
and which no statement and no hook removes. -/
theorem creation_interleaved {doc : Document} {hooks : Hooks} {c : Compiled}
    (compiled : doc.compile hooks = .ok c) {callers : List Lifecycle}
    (admissible : ∀ h ∈ callers, Request.Admissible ⟨h, c.script⟩) (schedule : List Nat) :
    let rs : List Request := callers.map fun h => ⟨h, c.script⟩
    let w := (start rs).interleave schedule
    w.creators.Nodup ∧ w.session.createHooks ≤ w.creators.length ∧
      (∀ before after i r, schedule = before ++ after →
        ((start rs).interleave before).creators ≠ [] →
        ((start rs).interleave before).calls[i]? = some (r, .waiting) → i ∉ w.creators) ∧
      ((∀ text ∈ c.script.texts, keepsTables text) → ∀ t ∈ doc.database.tables,
        t.ifNotExists = false → (∀ h ∈ callers, h.Preserves (Session.Declares t.name)) →
        w.creators.length ≤ 1 ∧ w.session.createHooks ≤ 1) := by
  intro rs w
  have all : ∀ r ∈ rs, r.Admissible := List.forall_mem_map.2 admissible
  have tracked : w.Tracked := World.tracked_interleave all schedule
  have counted : w.session.createHooks ≤ w.creators.length :=
    Nat.le_trans (Nat.le_add_right _ _) tracked.hooks
  refine ⟨tracked.places, counted, ?_, ?_⟩
  · rintro before after i r rfl made waits
    exact (World.spares_interleave all made waits after).place
  · intro keeps t mem plain leaves
    have guards := Document.guards_compiled compiled mem plain keeps
    have once : w.creators.length ≤ 1 :=
      World.once_interleave (List.forall_mem_map.2 fun _ _ => guards)
        (List.forall_mem_map.2 leaves) schedule
    exact ⟨once, Nat.le_trans counted once⟩

end Lifecycle

namespace Tasks

open Lifecycle (Request World)

/-- The tasks, whose table may or may not be there already, with a first task. -/
def seeded (ifNotExists : Bool) : Document :=
  { document with database := { document.database with
      tables := document.database.tables.map fun t => { t with ifNotExists }
      execOnCreate := ["INSERT INTO tasks (title) VALUES ('first')"] } }

/-- The hook for a new database does nothing. -/
def watching : Lifecycle :=
  ⟨none, some (pure ()), none⟩

/-- Both requests read the version before either creates the tables. -/
def race : List Nat :=
  [0, 1, 0, 0, 1, 1]

/-- What two requests at the same time leave. -/
def raced (script : Script) : World :=
  (World.start ([watching, watching].map fun h => ⟨h, script⟩)).interleave race

theorem watching_admissible {doc : Document} {c : Compiled} (h : doc.compile hooks = .ok c) :
    Request.Admissible ⟨watching, c.script⟩ where
  compiled := ⟨doc, hooks, c, h, rfl⟩
  createHook := by
    intro x same
    cases same
    exact ⟨.pure (), .pure ()⟩
  upgradeHook := by
    intro x none
    cases none

end Tasks

/-- Where the table may not be there already, the second creation is undone. -/
theorem creation_interleaved_tasks :
    ∃ c, (Tasks.seeded false).compile Tasks.hooks = .ok c ∧
      (∀ h ∈ [Tasks.watching, Tasks.watching], Lifecycle.Request.Admissible ⟨h, c.script⟩) ∧
      (∀ text ∈ c.script.texts, keepsTables text) ∧
      (∃ t ∈ (Tasks.seeded false).database.tables, t.ifNotExists = false ∧
        ∀ h ∈ [Tasks.watching, Tasks.watching], h.Preserves (Session.Declares t.name)) ∧
      (Tasks.raced c.script).creators.length ≤ 1 ∧
      (Tasks.raced c.script).session.createHooks ≤ 1 := by
  obtain ⟨c, hc, keeps⟩ : ∃ c, (Tasks.seeded false).compile Tasks.hooks = .ok c ∧
      ∀ text ∈ c.script.texts, keepsTables text := ⟨_, rfl, by decide +kernel⟩
  have admissible : ∀ h ∈ [Tasks.watching, Tasks.watching],
      Lifecycle.Request.Admissible ⟨h, c.script⟩ := by
    simp only [List.forall_mem_cons]
    exact ⟨Tasks.watching_admissible hc, Tasks.watching_admissible hc, by simp⟩
  obtain ⟨t, mem, plain⟩ : ∃ t ∈ (Tasks.seeded false).database.tables, t.ifNotExists = false :=
    ⟨_, List.mem_cons_self, rfl⟩
  have willing : Tasks.watching.Preserves (Session.Declares t.name) := by
    constructor
    · intro x same
      cases same
      exact .pure ()
    · intro x none
      cases none
  have leaves : ∀ h ∈ [Tasks.watching, Tasks.watching], h.Preserves (Session.Declares t.name) := by
    simp only [List.forall_mem_cons]
    exact ⟨willing, willing, by simp⟩
  obtain ⟨-, -, -, once⟩ := Lifecycle.creation_interleaved hc admissible Tasks.race
  exact ⟨c, hc, admissible, keeps, ⟨t, mem, plain, leaves⟩, once keeps t mem plain leaves⟩

/-- Where the table may be there already, both requests create the tables: the first task is there
twice, and both call the hook. -/
theorem created_twice_interleaved :
    ∃ c, (Tasks.seeded true).compile Tasks.hooks = .ok c ∧
      (Tasks.raced c.script).creators = [0, 1] ∧
      (Tasks.raced c.script).session.createHooks = 2 ∧
      ((Tasks.raced c.script).session.database.table? "tasks").map
        (fun t => t.rows.map Engine.Row.rowid) = some [1, 2] := by
  exact ⟨_, rfl, by decide +kernel⟩

end ResourceProvider
