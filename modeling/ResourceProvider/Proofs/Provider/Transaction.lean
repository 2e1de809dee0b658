import ResourceProvider.Proofs.Provider.Prepared
/-!
# Requests in one piece

A transaction that succeeds is kept, unless a foreign key was put off in it and still refers to
nothing; then, and if it fails, the database is as it was before, but for the number of the last
row (`transaction_run`). What happened in the session stays on record either way.
-/
namespace ResourceProvider

open Engine (Database)

/-! ## Views of a session -/

namespace Session

@[simp] theorem signals_signal (s : Session) (ls : List String) :
    (s.signal ls).signals = s.signals ++ ls := by
  simp [signals, signal, List.filterMap_append, List.filterMap_map]

@[simp] theorem statements_signal (s : Session) (ls : List String) :
    (s.signal ls).statements = s.statements := by
  simp [statements, signal, List.filterMap_append, List.filterMap_map]

@[simp] theorem signals_issued (s : Session) (statement : Sql.Statement) (db : Database) :
    (s.issued statement db).signals = s.signals := by
  simp [signals, issued]

@[simp] theorem statements_issued (s : Session) (statement : Sql.Statement) (db : Database) :
    (s.issued statement db).statements = s.statements ++ [statement.text] := by
  simp [statements, issued]

/-! ## Transactions -/

/-- The session inside a transaction that begins. -/
def begun (s : Session) : Session :=
  { s with database := s.database.begin }

/-- The session after a transaction that is kept. -/
def committed (s : Session) : Session :=
  { s with database := s.database.commit }

/-- The session after a transaction that is undone, which began with `before`. -/
def undone (s before : Session) : Session :=
  { s with database := s.database.rollback before.database }

@[simp] theorem signals_committed (s : Session) : s.committed.signals = s.signals := rfl

@[simp] theorem signals_undone (s before : Session) : (s.undone before).signals = s.signals := rfl

@[simp] theorem statements_committed (s : Session) : s.committed.statements = s.statements := rfl

@[simp] theorem statements_undone (s before : Session) :
    (s.undone before).statements = s.statements := rfl

@[simp] theorem tables_undone (s before : Session) :
    (s.undone before).database.tables = before.database.tables := rfl

end Session

namespace Action

variable {α β : Type} {x : Action α} {s t u : Session} {e : ProviderError}

theorem reach_closed (h : s.isOpen = false) : reach.run s = .error (.storage .closed) s := by
  simp [reach, h]

theorem tryCatch_run (x : Action α) (f : ProviderError → Action α) (s : Session) :
    (tryCatch x f).run s =
      match x.run s with
      | .ok a t => .ok a t
      | .error e t => (f e).run t := by
  change EStateM.tryCatch x f s = _
  delta EStateM.tryCatch
  cases h : x.run s with
  | ok a t =>
    rw [EStateM.run] at h
    simp only [h]
  | error e t =>
    rw [EStateM.run] at h
    simp only [h]
    rfl

theorem commit_run (before : Database) (s : Session) :
    (commit before).run s =
      if before.isOverdue s.database then .error (.storage (.violation .foreignKey)) s
      else .ok () s.committed := by
  simp only [commit, EStateM.run_bind, EStateM.run_get]
  split <;> rfl

theorem transaction_closed (x : Action α) (h : s.isOpen = false) :
    (transaction x).run s = .error (.storage .closed) s := by
  simp only [transaction, EStateM.run_bind, reach_closed h]

theorem transaction_run (x : Action α) (h : s.isOpen) :
    (transaction x).run s =
      match x.run s.begun with
      | .ok a t =>
        if s.database.isOverdue t.database then
          .error (.storage (.violation .foreignKey)) (t.undone s)
        else .ok a t.committed
      | .error e t => .error e (t.undone s) := by
  simp only [transaction, EStateM.run_bind, reach_run h, EStateM.run_get, EStateM.run_modify,
    tryCatch_run, commit_run]
  rw [← Session.begun]
  cases x.run s.begun with
  | error e t => rfl
  | ok a t =>
    dsimp only
    cases s.database.isOverdue t.database <;> rfl

/-- A transaction succeeds if what is in it does, and it can be kept. -/
theorem transaction_ok_iff {a : α} : (transaction x).run s = .ok a u ↔
    s.isOpen ∧ ∃ t, x.run s.begun = .ok a t ∧ s.database.isOverdue t.database = false ∧
      u = t.committed := by
  cases isOpen : s.isOpen with
  | false => simp [transaction_closed x isOpen]
  | true =>
    rw [transaction_run x isOpen]
    constructor
    · intro h
      split at h
      · rename_i b t ran
        split at h
        · cases h
        · rename_i kept
          cases h
          exact ⟨rfl, t, ran, by simpa using kept, rfl⟩
      · cases h
    · rintro ⟨-, t, ran, kept, rfl⟩
      rw [ran]
      exact if_neg (by simp [kept])

/-- A transaction fails if what is in it does, or it cannot be kept; then it is undone. -/
theorem transaction_error_iff (isOpen : s.isOpen) : (transaction x).run s = .error e u ↔
    ∃ t, (x.run s.begun = .error e t ∨ (∃ a, x.run s.begun = .ok a t) ∧
      s.database.isOverdue t.database ∧ e = .storage (.violation .foreignKey)) ∧
        u = t.undone s := by
  rw [transaction_run x isOpen]
  constructor
  · intro h
    split at h
    · rename_i a t ran
      split at h
      · rename_i overdue
        cases h
        exact ⟨t, .inr ⟨⟨a, ran⟩, overdue, rfl⟩, rfl⟩
      · cases h
    · rename_i e t ran
      cases h
      exact ⟨t, .inl ran, rfl⟩
  · rintro ⟨t, ran | ⟨⟨a, ran⟩, overdue, rfl⟩, rfl⟩
    · rw [ran]
    · rw [ran]
      exact if_pos overdue

/-- A transaction that fails leaves every table as it was. -/
theorem transaction_error (h : (transaction x).run s = .error e u) :
    u.database.tables = s.database.tables := by
  cases isOpen : s.isOpen with
  | false =>
    rw [transaction_closed x isOpen] at h
    cases h
    rfl
  | true =>
    obtain ⟨t, -, rfl⟩ := (transaction_error_iff isOpen).1 h
    rfl

/-! ## One action after another -/

theorem ok_of_bind {f : α → Action β} {b : β} (h : (x >>= f).run s = .ok b u) :
    ∃ a t, x.run s = .ok a t ∧ (f a).run t = .ok b u := by
  rw [EStateM.run_bind] at h
  cases first : x.run s with
  | error e t =>
    rw [first] at h
    cases h
  | ok a t =>
    rw [first] at h
    exact ⟨a, t, rfl, h⟩

theorem ok_of_ofExcept_bind {y : Except ProviderError α} {f : α → Action β} {b : β}
    (h : (ofExcept y >>= f).run s = .ok b u) : ∃ a, y = .ok a ∧ (f a).run s = .ok b u := by
  cases y with
  | error e => cases h
  | ok a => exact ⟨a, rfl, h⟩

/-- Two steps fail if the first does, or the second after it. -/
theorem error_of_bind {f : α → Action β} (h : (x >>= f).run s = .error e u) :
    x.run s = .error e u ∨ ∃ a t, x.run s = .ok a t ∧ (f a).run t = .error e u := by
  rw [EStateM.run_bind] at h
  cases first : x.run s with
  | error e t =>
    rw [first] at h
    cases h
    exact .inl rfl
  | ok a t =>
    rw [first] at h
    exact .inr ⟨a, t, rfl, h⟩

theorem issue_ok {statement : Sql.Statement} {outcome : Engine.Outcome}
    (h : (issue statement).run s = .ok outcome t) :
    s.database.answer statement = (t.database, .ok outcome) ∧
      t = s.issued statement t.database := by
  cases isOpen : s.isOpen with
  | false =>
    simp only [issue, EStateM.run_bind, reach_closed isOpen] at h
    cases h
  | true =>
    rw [issue_run statement isOpen] at h
    cases answer : s.database.answer statement with
    | mk db answered =>
      rw [answer] at h
      cases answered with
      | error e => cases h
      | ok outcome =>
        cases h
        exact ⟨rfl, rfl⟩

end Action

namespace Tasks

/-- One task in a database of tasks. -/
def session : Session :=
  ⟨⟨[⟨"tasks", [⟨"id", .integer, none, none⟩, ⟨"list", .integer, none, none⟩,
    ⟨"title", .text, none, none⟩], some ⟨0, .none, false⟩, [], [], [],
    [⟨1, [.int 1, .int 7, .text "draft"]⟩], 0⟩], [], 1, true, 1, false⟩, true, []⟩

end Tasks

end ResourceProvider
