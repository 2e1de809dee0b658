import ResourceProvider.Proofs.Provider.Transaction
/-!
# Where calls are signalled

`Dispatch.signalsOf` says at which locators one call is signalled: none if it fails or only reads,
else the locators of its slot, which an update or a removal has only if the database says that its
statement affected a row (`Dispatch.rowsAffected`). A run of calls signals exactly these, call by
call (`signals_run`). What runs before a change is signalled is quiet, so a failure anywhere in it
is too.
-/
namespace ResourceProvider

open Engine (Database)
open Route (Locator)

/-! ## Calls -/

/-- A call of a provider; `change` is an insertion, an update or a removal as a request of its
own. -/
inductive Call where
  | query (l : Locator) (q : Lookup)
  | typeOf (l : Locator)
  | change (op : BatchOperation)
  | bulkInsert (l : Locator) (records : List Record)
  | batch (ops : List BatchOperation)

/-- What a call answers. -/
inductive Answer where
  | found (f : Found)
  | type (name : String)
  | changed (r : BatchResult)
  | added (count : Nat)
  | made (rs : List BatchResult)

/-- Makes a call. -/
def Dispatch.call (d : Dispatch) : Call → Action Answer
  | .query l q => return .found (← d.query l q)
  | .typeOf l => return .type (← Action.ofExcept (d.typeOf l))
  | .change op => return .changed (← d.applyAlone op)
  | .bulkInsert l records => return .added (← d.bulkInsert l records)
  | .batch ops => return .made (← d.applyBatch ops)

/-- The session that an action leaves, whether it succeeds or not. -/
def Action.after {α : Type} (x : Action α) (s : Session) : Session :=
  match x.run s with
  | .ok _ t => t
  | .error _ t => t

/-- The session after calls, one after another; one that fails does not stop those after it. -/
def Dispatch.runCalls (d : Dispatch) : List Call → Session → Session
  | [], s => s
  | c :: rest, s => d.runCalls rest ((d.call c).after s)

/-! ## The locators of a call -/

/-- The locators of a slot: what its hook gives, or else the locator of the request. -/
def Plan.slotLocators (p : Plan) (n : Notice) : List String :=
  match p.notify n.mutation with
  | .none => [n.locator.raw]
  | .byPath hook => hook n
  | .byDefault hook => hook n

/-- Where an update or a removal that affected `count` rows is signalled. -/
def Plan.selectedLocators (p : Plan) (op : Operation) (m : Mutation) (l : Locator)
    (r : Option Record) (f : Filter) (count : Nat) : List String :=
  if count = 0 then []
  else
    match p.selection op l f.condition f.args with
    | .error _ => []
    | .ok s => p.slotLocators ⟨m, l, r, [], [], count, s.condition, s.args⟩

/-- Where a change is signalled that affected `count` rows, with `rowid` the number of the last row
that was added. -/
def Dispatch.changeLocators (d : Dispatch) (op : BatchOperation) (count : Nat) (rowid : Int) :
    List String :=
  match d.planFor op.operation op.locator with
  | .error _ => []
  | .ok p =>
    match op with
    | .insert l r => p.slotLocators ⟨.insert, l, some r, [], [rowid], 1, "", []⟩
    | .update l r f => p.selectedLocators .update .update l (some r) f count
    | .delete l f => p.selectedLocators .delete .delete l none f count

/-- How many rows the statement of a change affects, as the database reports it. -/
def Dispatch.rowsAffected (d : Dispatch) (db : Database) (op : BatchOperation) : Nat :=
  match d.prepare op with
  | .error _ => 0
  | .ok r =>
    match (db.answer r.statement).2 with
    | .error _ => 0
    | .ok outcome => outcome.changes

/-- Where the operations of a batch are signalled, one after another. -/
def Dispatch.batchLocators (d : Dispatch) : List BatchOperation → Session → List String
  | [], _ => []
  | op :: rest, s =>
    match (d.applyOne op).run s with
    | .ok _ t =>
      d.changeLocators op (d.rowsAffected s.database op) t.database.lastRowid ++
        d.batchLocators rest t
    | .error _ _ => []

/-- The numbers that rows get when they are added one after another. -/
def Plan.rowids (p : Plan) : List Record → Session → List Int
  | [], _ => []
  | r :: rest, s =>
    match (p.insertRow r).run s with
    | .ok _ t => t.database.lastRowid :: p.rowids rest t
    | .error _ _ => []

/-- Where a call is signalled. -/
def Dispatch.signalsOf (d : Dispatch) (s : Session) (c : Call) : List String :=
  match (d.call c).run s with
  | .error _ _ => []
  | .ok answer t =>
    match c, answer with
    | .change op, .changed _ =>
      d.changeLocators op (d.rowsAffected s.database op) t.database.lastRowid
    | .bulkInsert l records, .added _ =>
      match d.planFor .insert l with
      | .error _ => []
      | .ok p => p.slotLocators
          ⟨.bulkInsert, l, none, records, p.rowids records s.begun, records.length, "", []⟩
    | .batch ops, .made _ => d.batchLocators ops s.begun
    | _, _ => []

/-- Where the calls of a run are signalled. -/
def Dispatch.signalsOfRun (d : Dispatch) : List Call → Session → List String
  | [], _ => []
  | c :: rest, s => d.signalsOf s c ++ d.signalsOfRun rest ((d.call c).after s)

/-! ## What actions keep -/

namespace Action

variable {α β γ : Type}

/-- The action keeps what `f` reads off a session, whether it succeeds or not. -/
def Keeps (f : Session → γ) (x : Action α) : Prop :=
  ∀ s, f (x.after s) = f s

namespace Keeps

variable {f : Session → γ}

theorem pure (a : α) : Keeps f (pure a : Action α) :=
  fun _ => rfl

theorem throw (e : ProviderError) : Keeps f (throw e : Action α) :=
  fun _ => rfl

theorem get : Keeps f (get : Action Session) :=
  fun _ => rfl

theorem bind {x : Action α} {g : α → Action β} (hx : Keeps f x) (hg : ∀ a, Keeps f (g a)) :
    Keeps f (x >>= g) := by
  intro s
  have first := hx s
  unfold Action.after at first ⊢
  rw [EStateM.run_bind]
  cases h : x.run s with
  | error e t =>
    rw [h] at first
    exact first
  | ok a t =>
    rw [h] at first
    exact (hg a t).trans first

theorem ok {x : Action α} (hx : Keeps f x) {s t : Session} {a : α} (h : x.run s = .ok a t) :
    f t = f s := by
  have kept := hx s
  unfold Action.after at kept
  rwa [h] at kept

theorem error {x : Action α} (hx : Keeps f x) {s t : Session} {e : ProviderError}
    (h : x.run s = .error e t) : f t = f s := by
  have kept := hx s
  unfold Action.after at kept
  rwa [h] at kept

end Keeps

theorem Keeps.reach {f : Session → γ} : Keeps f reach := by
  intro s
  unfold Action.after
  cases h : s.isOpen with
  | false => rw [reach_closed h]
  | true => rw [reach_run h]

/-- Issuing a statement keeps what reads neither the database nor the statements. -/
theorem Keeps.issue {f : Session → γ} (statement : Sql.Statement)
    (blind : ∀ s db, f (s.issued statement db) = f s) : Keeps f (issue statement) := by
  intro s
  unfold Action.after
  cases h : s.isOpen with
  | false => simp only [Action.issue, EStateM.run_bind, reach_closed h]
  | true =>
    rw [issue_run statement h]
    cases hans : s.database.answer statement with
    | mk db answer => cases answer <;> exact blind s db

/-! ## Quiet actions -/

/-- The action signals nothing, whether it succeeds or not. -/
def Quiet {α : Type} (x : Action α) : Prop :=
  ∀ s, (x.after s).signals = s.signals

theorem Quiet.pure (a : α) : Quiet (pure a : Action α) :=
  Keeps.pure a

theorem Quiet.throw (e : ProviderError) : Quiet (throw e : Action α) :=
  Keeps.throw e

theorem Quiet.bind {x : Action α} {f : α → Action β} (hx : Quiet x) (hf : ∀ a, Quiet (f a)) :
    Quiet (x >>= f) :=
  Keeps.bind hx hf

theorem Quiet.ofExcept (x : Except ProviderError α) : Quiet (ofExcept x) := by
  cases x with
  | error e => exact Quiet.throw e
  | ok a => exact Quiet.pure a

theorem Quiet.mapM {f : α → Action β} (h : ∀ a, Quiet (f a)) (xs : List α) : Quiet (xs.mapM f) := by
  induction xs with
  | nil => exact Quiet.pure []
  | cons x xs ih =>
    rw [List.mapM_cons]
    exact (h x).bind fun _ => ih.bind fun _ => Quiet.pure _

theorem Quiet.get : Quiet (get : Action Session) :=
  Keeps.get

theorem Quiet.reach : Quiet reach :=
  Keeps.reach

theorem Quiet.issue (statement : Sql.Statement) : Quiet (issue statement) :=
  Keeps.issue statement fun s db => Session.signals_issued s statement db

theorem Quiet.transaction {x : Action α} (hx : Quiet x) : Quiet (transaction x) := by
  intro s
  unfold Action.after
  cases h : s.isOpen with
  | false => rw [transaction_closed x h]
  | true =>
    have inside := hx s.begun
    rw [transaction_run x h]
    unfold Action.after at inside
    cases hrun : x.run s.begun with
    | ok a t =>
      rw [hrun] at inside
      dsimp only
      cases s.database.isOverdue t.database <;> exact inside
    | error e t =>
      rw [hrun] at inside
      exact inside

/-- What is announced is all that a quiet change signals. -/
theorem Quiet.announce {x : Action (Changed α)} (hx : Quiet x) (s : Session) :
    ((x >>= Changed.announce).after s).signals = s.signals ++
      match x.run s with
      | .ok c _ => c.targets
      | .error _ _ => [] := by
  have first := hx s
  unfold Action.after at first ⊢
  rw [EStateM.run_bind]
  cases h : x.run s with
  | error e t =>
    rw [h] at first
    simpa using first
  | ok c t =>
    rw [h] at first
    simpa [Changed.announce_run] using first

theorem after_wrap (x : Action α) (f : α → β) (s : Session) :
    (do return f (← x) : Action β).after s = x.after s := by
  unfold Action.after
  rw [EStateM.run_bind]
  cases x.run s <;> rfl

theorem run_wrap (x : Action α) (f : α → β) (s : Session) :
    (do return f (← x) : Action β).run s =
      match x.run s with
      | .ok a t => .ok (f a) t
      | .error e t => .error e t := by
  rw [EStateM.run_bind]
  cases x.run s <;> rfl

variable {f : α → Action β} {x : α} {xs : List α} {ys : List β} {s t : Session}
  {e : ProviderError}

theorem mapM_cons_ok_iff : ((x :: xs).mapM f).run s = .ok ys t ↔
    ∃ y u ys', (f x).run s = .ok y u ∧ (xs.mapM f).run u = .ok ys' t ∧ ys = y :: ys' := by
  rw [List.mapM_cons, EStateM.run_bind]
  cases (f x).run s with
  | error e u => simp
  | ok y u =>
    simp only [run_wrap]
    cases rest : (xs.mapM f).run u with
    | error e v => simp [rest]
    | ok ys' v => simp [rest, and_comm, eq_comm]

theorem mapM_cons_error_iff : ((x :: xs).mapM f).run s = .error e t ↔
    (f x).run s = .error e t ∨
      ∃ y u, (f x).run s = .ok y u ∧ (xs.mapM f).run u = .error e t := by
  rw [List.mapM_cons, EStateM.run_bind]
  cases (f x).run s with
  | error e' u => simp
  | ok y u =>
    simp only [run_wrap]
    cases rest : (xs.mapM f).run u with
    | error e' v => simp [rest]
    | ok ys v => simp [rest]

end Action

/-! ## What runs before the signals -/

open ResourceProvider.Action (Quiet)

theorem Dispatch.quiet_applyOne (d : Dispatch) (op : BatchOperation) : Quiet (d.applyOne op) := by
  rw [d.applyOne_eq op]
  refine (Quiet.ofExcept _).bind fun r => ?_
  exact (Quiet.issue _).bind fun _ => Quiet.get.bind fun _ => Quiet.pure _

theorem Dispatch.quiet_query (d : Dispatch) (l : Locator) (q : Lookup) : Quiet (d.query l q) := by
  unfold Dispatch.query
  refine (Quiet.ofExcept _).bind fun p => (Quiet.ofExcept _).bind fun s => ?_
  refine Quiet.reach.bind fun _ => ?_
  exact (Quiet.ofExcept _).bind fun _ => (Quiet.issue _).bind fun _ => Quiet.pure _

theorem Plan.quiet_insertRow (p : Plan) (r : Record) : Quiet (p.insertRow r) :=
  (Quiet.issue _).bind fun _ => Quiet.get.bind fun _ => Quiet.pure _

/-! ## What is announced -/

theorem Plan.targets_eq (p : Plan) (n : Notice) : p.targets n = p.slotLocators n := by
  unfold Plan.targets Plan.slotLocators
  cases p.notify n.mutation <;> rfl

theorem Plan.affected_targets {p : Plan} {op : Operation} {l : Locator} {f : Filter}
    {s : Sql.Selection} (h : p.selection op l f.condition f.args = .ok s) (m : Mutation)
    (r : Option Record) (n : Nat) :
    (p.affected m l r n s).targets = p.selectedLocators op m l r f n := by
  unfold Plan.affected Plan.selectedLocators
  split
  · rfl
  · simp [h, p.targets_eq]

/-- A prepared change announces itself at the locators of its slot. -/
theorem Dispatch.prepare_targets {d : Dispatch} {op : BatchOperation} {r : Prepared}
    (h : d.prepare op = .ok r) (n : Nat) (id : Int) :
    (r.result n id).targets = d.changeLocators op n id := by
  obtain ⟨p, planned, prepares⟩ := Dispatch.prepares_of_prepare h
  unfold Dispatch.changeLocators
  rw [planned]
  cases prepares with
  | insert _ => exact p.targets_eq _
  | update _ selected _ _ => exact Plan.affected_targets selected .update _ n
  | delete selected _ => exact Plan.affected_targets selected .delete none n

theorem Dispatch.applyOne_ok {d : Dispatch} {op : BatchOperation} {s t : Session}
    {changed : Changed BatchResult} (h : (d.applyOne op).run s = .ok changed t) :
    ∃ r outcome, d.prepare op = .ok r ∧
      s.database.answer r.statement = (t.database, .ok outcome) ∧
      changed = r.result outcome.changes t.database.lastRowid ∧
      t = s.issued r.statement t.database := by
  rw [d.applyOne_eq op] at h
  obtain ⟨r, prepared, h⟩ := Action.ok_of_ofExcept_bind h
  obtain ⟨outcome, u, issued, h⟩ := Action.ok_of_bind h
  cases h
  obtain ⟨answer, same⟩ := Action.issue_ok issued
  exact ⟨r, outcome, prepared, answer, rfl, same⟩

theorem Dispatch.applyOne_targets {d : Dispatch} {op : BatchOperation} {s t : Session}
    {c : Changed BatchResult} (h : (d.applyOne op).run s = .ok c t) :
    c.targets = d.changeLocators op (d.rowsAffected s.database op) t.database.lastRowid := by
  obtain ⟨r, outcome, prepared, answer, rfl, -⟩ := Dispatch.applyOne_ok h
  rw [Dispatch.prepare_targets prepared, Dispatch.rowsAffected, prepared]
  simp only [answer]

theorem Dispatch.batch_targets {d : Dispatch} {ops : List BatchOperation} {s t : Session}
    {cs : List (Changed BatchResult)} (h : (ops.mapM d.applyOne).run s = .ok cs t) :
    cs.flatMap Changed.targets = d.batchLocators ops s := by
  induction ops generalizing s cs with
  | nil =>
    cases h
    rfl
  | cons op ops ih =>
    obtain ⟨c, t', cs', hop, hrest, rfl⟩ := Action.mapM_cons_ok_iff.1 h
    rw [Dispatch.batchLocators, hop, List.flatMap_cons, ih hrest, Dispatch.applyOne_targets hop]

theorem Plan.insertRow_rowid {p : Plan} {r : Record} {s t : Session} {id : Int}
    (h : (p.insertRow r).run s = .ok id t) : id = t.database.lastRowid := by
  simp only [Plan.insertRow, EStateM.run_bind] at h
  cases hi : (Action.issue (Sql.insert p.endpoint.table r)).run s with
  | error e t' =>
    rw [hi] at h
    cases h
  | ok outcome t' =>
    rw [hi] at h
    cases h
    rfl

theorem Plan.insertRows_rowids {p : Plan} {records : List Record} {s t : Session} {ids : List Int}
    (h : (records.mapM p.insertRow).run s = .ok ids t) : ids = p.rowids records s := by
  induction records generalizing s ids with
  | nil =>
    cases h
    rfl
  | cons r records ih =>
    obtain ⟨id, t', ids', hr, hrest, rfl⟩ := Action.mapM_cons_ok_iff.1 h
    rw [Plan.rowids, hr, Plan.insertRow_rowid hr, ih hrest]

/-! ## Calls and runs -/

/-- The bulk insertion of a plan, before it is signalled. -/
def Plan.bulkInsert (p : Plan) (l : Locator) (records : List Record) : Action (Changed Nat) :=
  Action.transaction do
    let ids ← records.mapM p.insertRow
    return ⟨records.length,
      p.targets ⟨.bulkInsert, l, none, records, ids, records.length, "", []⟩⟩

theorem Plan.quiet_bulkInsert (p : Plan) (l : Locator) (records : List Record) :
    Quiet (p.bulkInsert l records) :=
  ((Quiet.mapM p.quiet_insertRow records).bind fun _ => Quiet.pure _).transaction

theorem Plan.bulkInsert_targets {p : Plan} {l : Locator} {records : List Record} {s t : Session}
    {c : Changed Nat} (h : (p.bulkInsert l records).run s = .ok c t) :
    c.targets = p.slotLocators
      ⟨.bulkInsert, l, none, records, p.rowids records s.begun, records.length, "", []⟩ := by
  obtain ⟨-, u, ran, -, -⟩ := Action.transaction_ok_iff.1 h
  obtain ⟨ids, v, added, ran⟩ := Action.ok_of_bind ran
  cases ran
  rw [← Plan.insertRows_rowids added]
  exact p.targets_eq _

theorem Dispatch.bulkInsert_eq {d : Dispatch} {l : Locator} {p : Plan} {records : List Record}
    (planned : d.planFor .insert l = .ok p) (checked : records.forM p.checkRecord = .ok ()) :
    d.bulkInsert l records = p.bulkInsert l records >>= Changed.announce := by
  rw [Dispatch.bulkInsert, Plan.bulkInsert, planned, Action.ofExcept_ok, pure_bind, checked]
  rfl

/-- A change of a closed database fails: there is no plan for it, or the database is not reached. -/
theorem Dispatch.applyAlone_closed (d : Dispatch) (op : BatchOperation) {s : Session}
    (h : s.isOpen = false) : ∃ e, (d.applyAlone op).run s = .error e s ∧
      (d.planFor op.operation op.locator = .error e ∨ e = .storage .closed) := by
  have refused {α : Type} (x : Except ProviderError Plan) (f : Plan → Action α) :
      ∃ e, (Action.ofExcept x >>= fun p => Action.reach >>= fun _ => f p).run s = .error e s ∧
        (x = .error e ∨ e = .storage .closed) := by
    cases x with
    | error e => exact ⟨e, rfl, .inl rfl⟩
    | ok p =>
      refine ⟨.storage .closed, ?_, .inr rfl⟩
      simp only [Action.ofExcept_ok, pure_bind, EStateM.run_bind, Action.reach_closed h]
  cases op with
  | insert l r =>
    simp only [Dispatch.applyAlone, Dispatch.insert, bind_assoc]
    exact refused (d.planFor .insert l) _
  | update l r f =>
    simp only [Dispatch.applyAlone, Dispatch.update, bind_assoc]
    exact refused (d.planFor .update l) _
  | delete l f =>
    simp only [Dispatch.applyAlone, Dispatch.delete, bind_assoc]
    exact refused (d.planFor .delete l) _

/-- A change of its own that succeeds is made, and signalled then. -/
theorem Dispatch.applyAlone_ok {d : Dispatch} {op : BatchOperation} {s t : Session}
    {result : BatchResult} (h : (d.applyAlone op).run s = .ok result t) :
    ∃ c u, (d.applyOne op).run s = .ok c u ∧ result = c.answer ∧ t = u.signal c.targets := by
  cases isOpen : s.isOpen with
  | false =>
    obtain ⟨e, refused, -⟩ := d.applyAlone_closed op isOpen
    rw [refused] at h
    cases h
  | true =>
    rw [d.applyAlone_run op isOpen] at h
    obtain ⟨c, u, made, h⟩ := Action.ok_of_bind h
    rw [Changed.announce_run] at h
    cases h
    exact ⟨c, u, made, rfl, rfl⟩

theorem Dispatch.signals_change (d : Dispatch) (op : BatchOperation) (s : Session) :
    ((d.applyAlone op).after s).signals = s.signals ++
      match (d.applyAlone op).run s with
      | .ok _ t => d.changeLocators op (d.rowsAffected s.database op) t.database.lastRowid
      | .error _ _ => [] := by
  cases h : s.isOpen with
  | false =>
    obtain ⟨e, he, -⟩ := d.applyAlone_closed op h
    simp [Action.after, he]
  | true =>
    have announced := (d.quiet_applyOne op).announce s
    unfold Action.after at announced ⊢
    rw [d.applyAlone_run op h, announced, EStateM.run_bind]
    cases hop : (d.applyOne op).run s with
    | error e t => rfl
    | ok c t =>
      simp only [Changed.announce_run]
      rw [Dispatch.applyOne_targets hop]
      rfl

theorem Dispatch.signals_bulkInsert (d : Dispatch) (l : Locator) (records : List Record)
    (s : Session) :
    ((d.bulkInsert l records).after s).signals = s.signals ++
      match (d.bulkInsert l records).run s with
      | .ok _ _ =>
        match d.planFor .insert l with
        | .error _ => []
        | .ok p => p.slotLocators
            ⟨.bulkInsert, l, none, records, p.rowids records s.begun, records.length, "", []⟩
      | .error _ _ => [] := by
  have refused {e : ProviderError} (h : (d.bulkInsert l records).run s = .error e s) :
      ((d.bulkInsert l records).after s).signals = s.signals ++ [] := by
    simp [Action.after, h]
  -- Nothing is reached before the plan is found and all records are checked.
  cases hp : d.planFor .insert l with
  | error e =>
    have h : (d.bulkInsert l records).run s = .error e s := by
      rw [Dispatch.bulkInsert, hp]
      rfl
    rw [refused h, h]
  | ok p =>
    cases hc : records.forM p.checkRecord with
    | error e =>
      have h : (d.bulkInsert l records).run s = .error e s := by
        rw [Dispatch.bulkInsert, hp, Action.ofExcept_ok, pure_bind, hc]
        rfl
      rw [refused h, h]
    | ok _ =>
      rw [Dispatch.bulkInsert_eq hp hc, (p.quiet_bulkInsert l records).announce s, EStateM.run_bind]
      cases hb : (p.bulkInsert l records).run s with
      | error e t => rfl
      | ok c t =>
        simp only [Changed.announce_run]
        rw [Plan.bulkInsert_targets hb]

theorem Dispatch.signals_batch (d : Dispatch) (ops : List BatchOperation) (s : Session) :
    ((d.applyBatch ops).after s).signals = s.signals ++
      match (d.applyBatch ops).run s with
      | .ok _ _ => d.batchLocators ops s.begun
      | .error _ _ => [] := by
  have quiet := (Quiet.mapM d.quiet_applyOne ops).transaction s
  unfold Action.after at quiet ⊢
  simp only [Dispatch.applyBatch, EStateM.run_bind]
  cases isOpen : s.isOpen with
  | false => simp [Action.transaction_closed _ isOpen]
  | true =>
    rw [Action.transaction_run _ isOpen] at quiet ⊢
    cases hb : (ops.mapM d.applyOne).run s.begun with
    | error e t =>
      rw [hb] at quiet
      simpa using quiet
    | ok cs t =>
      rw [hb] at quiet
      rw [← Dispatch.batch_targets hb]
      by_cases overdue : s.database.isOverdue t.database
      · simpa [overdue] using quiet
      · simpa [overdue, Action.signal_run] using quiet

/-- One call is signalled where it should be. -/
theorem Dispatch.signals_call (d : Dispatch) (c : Call) (s : Session) :
    ((d.call c).after s).signals = s.signals ++ d.signalsOf s c := by
  unfold Dispatch.signalsOf
  cases c with
  | query l q =>
    simp only [Dispatch.call, Action.after_wrap, Action.run_wrap, d.quiet_query l q s]
    cases (d.query l q).run s <;> simp
  | typeOf l =>
    simp only [Dispatch.call, Action.after_wrap, Action.run_wrap, Quiet.ofExcept (d.typeOf l) s]
    cases (Action.ofExcept (d.typeOf l)).run s <;> simp
  | change op =>
    simp only [Dispatch.call, Action.after_wrap, Action.run_wrap, d.signals_change op s]
    cases (d.applyAlone op).run s <;> rfl
  | bulkInsert l records =>
    simp only [Dispatch.call, Action.after_wrap, Action.run_wrap, d.signals_bulkInsert l records s]
    cases (d.bulkInsert l records).run s <;> rfl
  | batch ops =>
    simp only [Dispatch.call, Action.after_wrap, Action.run_wrap, d.signals_batch ops s]
    cases (d.applyBatch ops).run s <;> rfl

/-- A run of calls signals, call by call, the locators of the slots of the calls that succeed and
change something, and nothing else. -/
theorem signals_run (d : Dispatch) (calls : List Call) (s : Session) :
    (d.runCalls calls s).signals = s.signals ++ d.signalsOfRun calls s := by
  induction calls generalizing s with
  | nil => simp [Dispatch.runCalls, Dispatch.signalsOfRun]
  | cons c calls ih =>
    rw [Dispatch.runCalls, ih, d.signals_call, Dispatch.signalsOfRun, List.append_assoc]

end ResourceProvider
