import ResourceProvider.Proofs.Provider.Counts
/-!
# Bulk insertions are batches of insertions

A bulk insertion checks all records before it begins, and a batch checks each one before it adds
its row. Both come to the same rows (`insertAll_ok_iff`): where all records are fit, the two loops
issue the same statements, and where one is not, neither gets to its end. What they tell differs:
the locators of a bulk insertion are for all rows at once.
-/
namespace ResourceProvider

open Route (Locator)

/-! ## Two loops over records -/

/-- What a batch answers for a row with this number, and where it is signalled. -/
def Plan.inserted (p : Plan) (l : Locator) (r : Record) (id : Int) : Changed BatchResult :=
  ⟨⟨some (p.rowUri l r id), 1⟩, p.targets ⟨.insert, l, some r, [], [id], 1, "", []⟩⟩

/-- The numbers of the last added row after each operation of a batch. -/
def Dispatch.batchRowids (d : Dispatch) : List BatchOperation → Session → List Int
  | [], _ => []
  | op :: rest, s =>
    match (d.applyOne op).run s with
    | .ok _ t => t.database.lastRowid :: d.batchRowids rest t
    | .error _ _ => []

namespace Dispatch

variable {d : Dispatch} {l : Locator} {p : Plan} {records : List Record} {s t u : Session}

theorem insertOne_ok_iff (planned : d.planFor .insert l = .ok p) {r : Record}
    {c : Changed BatchResult} : (d.applyOne (.insert l r)).run s = .ok c t ↔
      p.checkRecord r = .ok () ∧
        ∃ id, (p.insertRow r).run s = .ok id t ∧ c = p.inserted l r id := by
  rw [applyOne, planned, Action.ofExcept_ok, pure_bind, Plan.insert]
  cases checked : p.checkRecord r with
  | error e =>
    refine iff_of_false (fun h => ?_) (by simp)
    cases h
  | ok _ =>
    simp only [Action.ofExcept_ok, pure_bind, bind_assoc, EStateM.run_bind]
    cases (p.insertRow r).run s <;> simp [Plan.inserted, and_comm, eq_comm]

theorem checkAll_cons_iff {r : Record} : (r :: records).forM p.checkRecord = .ok () ↔
    p.checkRecord r = .ok () ∧ records.forM p.checkRecord = .ok () := by
  change (p.checkRecord r >>= fun _ => records.forM p.checkRecord) = .ok () ↔ _
  cases p.checkRecord r with
  | error e => exact iff_of_false (fun h => by cases h) (fun h => by cases h.1)
  | ok _ => exact (and_iff_right rfl).symm

/-- A batch of insertions gets to its end exactly if all records are fit and all rows can be added,
and then it adds the same rows. -/
theorem insertAll_ok_iff (planned : d.planFor .insert l = .ok p) {cs : List (Changed BatchResult)} :
    ((records.map (.insert l)).mapM d.applyOne).run s = .ok cs t ↔
      records.forM p.checkRecord = .ok () ∧ ∃ ids, (records.mapM p.insertRow).run s = .ok ids t ∧
        cs = records.zipWith (p.inserted l) ids := by
  induction records generalizing s cs with
  | nil =>
    refine ⟨fun h => ?_, fun ⟨_, ids, h, made⟩ => ?_⟩
    · cases h
      exact ⟨rfl, [], rfl, rfl⟩
    · cases h
      rw [made]
      rfl
  | cons r records ih =>
    rw [List.map_cons, Action.mapM_cons_ok_iff, checkAll_cons_iff]
    simp only [insertOne_ok_iff planned, ih, Action.mapM_cons_ok_iff]
    constructor
    · rintro ⟨c, u, cs, ⟨fit, id, one, rfl⟩, ⟨fits, ids, rest, rfl⟩, rfl⟩
      exact ⟨⟨fit, fits⟩, id :: ids, ⟨id, u, ids, one, rest, rfl⟩, rfl⟩
    · rintro ⟨⟨fit, fits⟩, _, ⟨id, u, ids, one, rest, rfl⟩, rfl⟩
      exact ⟨_, u, _, ⟨fit, id, one, rfl⟩, ⟨fits, ids, rest, rfl⟩, rfl⟩

/-- The numbers of the rows are those that the batch comes to, one by one. -/
theorem insertAll_rowids (planned : d.planFor .insert l = .ok p)
    (checked : records.forM p.checkRecord = .ok ()) {ids : List Int}
    (added : (records.mapM p.insertRow).run s = .ok ids t) :
    d.batchRowids (records.map (.insert l)) s = ids ∧ ids.length = records.length := by
  induction records generalizing s ids with
  | nil =>
    cases added
    exact ⟨rfl, rfl⟩
  | cons r records ih =>
    obtain ⟨fit, fits⟩ := checkAll_cons_iff.1 checked
    obtain ⟨id, u, ids, one, rest, rfl⟩ := Action.mapM_cons_ok_iff.1 added
    obtain ⟨same, length⟩ := ih fits rest
    rw [List.map_cons, batchRowids, (insertOne_ok_iff planned).2 ⟨fit, id, one, rfl⟩]
    simp only [same, List.length_cons, length, Plan.insertRow_rowid one, and_self]

/-! ## The two requests -/

/-- The plan for the locator takes all records from here, in a transaction that adds rows with the
numbers `ids`. -/
structure Adds (d : Dispatch) (l : Locator) (records : List Record) (s : Session) (p : Plan)
    (ids : List Int) (t : Session) : Prop where
  planned : d.planFor .insert l = .ok p
  checked : records.forM p.checkRecord = .ok ()
  isOpen : s.isOpen
  added : (records.mapM p.insertRow).run s.begun = .ok ids t
  kept : s.database.isOverdue t.database = false

theorem bulkInsert_ok_iff {n : Nat} : (d.bulkInsert l records).run s = .ok n u ↔
    ∃ p ids t, d.Adds l records s p ids t ∧ n = records.length ∧
      u = t.committed.signal
        (p.targets ⟨.bulkInsert, l, none, records, ids, records.length, "", []⟩) := by
  constructor
  · intro h
    obtain ⟨p, planned, h⟩ := Action.ok_of_ofExcept_bind h
    obtain ⟨_, checked, h⟩ := Action.ok_of_ofExcept_bind h
    obtain ⟨c, v, kept, h⟩ := Action.ok_of_bind h
    obtain ⟨isOpen, t, ran, settled, rfl⟩ := Action.transaction_ok_iff.1 kept
    obtain ⟨ids, t, added, ran⟩ := Action.ok_of_bind ran
    cases ran
    rw [Changed.announce_run] at h
    cases h
    exact ⟨p, ids, t, ⟨planned, checked, isOpen, added, settled⟩, rfl, rfl⟩
  · rintro ⟨p, ids, t, adds, rfl, rfl⟩
    have kept : (p.bulkInsert l records).run s = .ok ⟨records.length,
        p.targets ⟨.bulkInsert, l, none, records, ids, records.length, "", []⟩⟩ t.committed := by
      refine Action.transaction_ok_iff.2 ⟨adds.isOpen, t, ?_, adds.kept, rfl⟩
      rw [EStateM.run_bind, adds.added]
      rfl
    rw [bulkInsert_eq adds.planned adds.checked, EStateM.run_bind, kept]
    exact Changed.announce_run _ _

theorem applyBatch_ok_iff {ops : List BatchOperation} {answers : List BatchResult} :
    (d.applyBatch ops).run s = .ok answers u ↔
      s.isOpen ∧ ∃ cs t, (ops.mapM d.applyOne).run s.begun = .ok cs t ∧
        s.database.isOverdue t.database = false ∧ answers = cs.map Changed.answer ∧
        u = t.committed.signal (cs.flatMap Changed.targets) := by
  constructor
  · intro h
    obtain ⟨cs, v, kept, h⟩ := Action.ok_of_bind h
    obtain ⟨isOpen, t, ran, settled, rfl⟩ := Action.transaction_ok_iff.1 kept
    simp only [EStateM.run_bind, Action.signal_run] at h
    cases h
    exact ⟨isOpen, cs, t, ran, settled, rfl, rfl⟩
  · rintro ⟨isOpen, cs, t, ran, settled, rfl, rfl⟩
    rw [applyBatch, EStateM.run_bind, Action.transaction_ok_iff.2 ⟨isOpen, t, ran, settled, rfl⟩]
    simp only [EStateM.run_bind, Action.signal_run]
    rfl

theorem insertBatch_ok_iff (nonempty : records ≠ []) {answers : List BatchResult} :
    (d.applyBatch (records.map (.insert l))).run s = .ok answers u ↔
      ∃ p ids t, d.Adds l records s p ids t ∧
        answers = records.zipWith (fun r id => (p.inserted l r id).answer) ids ∧
        u = t.committed.signal
          (records.zipWith (fun r id => (p.inserted l r id).targets) ids).flatten := by
  rw [applyBatch_ok_iff]
  constructor
  · rintro ⟨isOpen, cs, t, ran, settled, rfl, rfl⟩
    -- The first record needs the plan.
    obtain ⟨p, planned⟩ : ∃ p, d.planFor .insert l = .ok p := by
      obtain ⟨r, rest, rfl⟩ := List.exists_cons_of_ne_nil nonempty
      obtain ⟨c, v, cs', one, -, rfl⟩ := Action.mapM_cons_ok_iff.1 ran
      obtain ⟨p, planned, -⟩ := Action.ok_of_ofExcept_bind one
      exact ⟨p, planned⟩
    obtain ⟨checked, ids, added, rfl⟩ := (insertAll_ok_iff planned).1 ran
    refine ⟨p, ids, t, ⟨planned, checked, isOpen, added, settled⟩, ?_, ?_⟩
    · rw [List.map_zipWith]
    · rw [List.flatMap_def, List.map_zipWith]
  · rintro ⟨p, ids, t, adds, rfl, rfl⟩
    refine ⟨adds.isOpen, _, t,
      (insertAll_ok_iff adds.planned).2 ⟨adds.checked, ids, adds.added, rfl⟩, adds.kept, ?_, ?_⟩
    · rw [List.map_zipWith]
    · rw [List.flatMap_def, List.map_zipWith]

/-! ## Failures -/

/-- A bulk insertion that fails leaves every table as it was, and signals nothing. -/
theorem bulkInsert_error {e : ProviderError} (h : (d.bulkInsert l records).run s = .error e u) :
    u.database.tables = s.database.tables ∧ u.signals = s.signals := by
  refine ⟨?_, ?_⟩
  · cases planned : d.planFor .insert l with
    | error e =>
      rw [bulkInsert, planned] at h
      cases h
      rfl
    | ok p =>
      cases checked : records.forM p.checkRecord with
      | error e =>
        rw [bulkInsert, planned, Action.ofExcept_ok, pure_bind, checked] at h
        cases h
        rfl
      | ok _ =>
        rw [bulkInsert_eq planned checked] at h
        obtain failed | ⟨c, t, -, announced⟩ := Action.error_of_bind h
        · exact Action.transaction_error failed
        · rw [Changed.announce_run] at announced
          cases announced
  · have signalled := d.signals_bulkInsert l records s
    simpa [Action.after, h] using signalled

theorem applyBatch_error {ops : List BatchOperation} {e : ProviderError}
    (h : (d.applyBatch ops).run s = .error e u) :
    u.database.tables = s.database.tables ∧ u.signals = s.signals := by
  refine ⟨?_, ?_⟩
  · obtain failed | ⟨cs, t, -, announced⟩ := Action.error_of_bind h
    · exact Action.transaction_error failed
    · simp only [EStateM.run_bind, Action.signal_run] at announced
      cases announced
  · have signalled := d.signals_batch ops s
    simpa [Action.after, h] using signalled

/-- A bulk insertion does what a batch of insertions does. If both succeed they leave one database,
and the hook of the bulk insertion is told the numbers that the batch comes to, by which the batch
locates the rows and tells its own hook of each. If one fails so does the other; every table is as
it was, and nothing is signalled. -/
def BulkIsBatch (d : Dispatch) (l : Locator) (records : List Record) (s : Session) : Prop :=
  match (d.bulkInsert l records).run s, (d.applyBatch (records.map (.insert l))).run s with
  | .ok n t, .ok answers u =>
    n = records.length ∧ t.database = u.database ∧ t.statements = u.statements ∧
    ∃ p ids, d.planFor .insert l = .ok p ∧
      ids = d.batchRowids (records.map (.insert l)) s.begun ∧ ids.length = records.length ∧
      t.signals = s.signals ++
        p.targets ⟨.bulkInsert, l, none, records, ids, records.length, "", []⟩ ∧
      answers = records.zipWith (fun r id => ⟨some (p.rowUri l r id), 1⟩) ids ∧
      u.signals = s.signals ++ (records.zipWith (fun r id =>
        p.targets ⟨.insert, l, some r, [], [id], 1, "", []⟩) ids).flatten
  | .error _ t, .error _ u =>
    (t.database.tables = s.database.tables ∧ t.signals = s.signals) ∧
      u.database.tables = s.database.tables ∧ u.signals = s.signals
  | _, _ => False

end Dispatch

/-- Whatever the provider and the session, some records are inserted at once as they are in a
batch. -/
theorem bulkInsert_is_batch (d : Dispatch) (l : Locator) {records : List Record}
    (nonempty : records ≠ []) (s : Session) : d.BulkIsBatch l records s := by
  unfold Dispatch.BulkIsBatch
  cases bulk : (d.bulkInsert l records).run s with
  | ok n t =>
    obtain ⟨p, ids, v, adds, rfl, rfl⟩ := Dispatch.bulkInsert_ok_iff.1 bulk
    have quiet : v.signals = s.begun.signals :=
      Action.Keeps.ok (f := Session.signals) (Action.Quiet.mapM p.quiet_insertRow records)
        adds.added
    obtain ⟨same, length⟩ := Dispatch.insertAll_rowids adds.planned adds.checked adds.added
    rw [(Dispatch.insertBatch_ok_iff nonempty).2 ⟨p, ids, v, adds, rfl, rfl⟩]
    have signalled (targets : List String) :
        (v.committed.signal targets).signals = s.signals ++ targets := by
      rw [Session.signals_signal]
      exact congrArg (· ++ targets) quiet
    have issued (targets : List String) :
        (v.committed.signal targets).statements = v.statements := by
      rw [Session.statements_signal]
      rfl
    refine ⟨rfl, rfl, ?_, p, ids, adds.planned, same.symm, length, signalled _, rfl, signalled _⟩
    rw [issued, issued]
  | error e t =>
    cases batch : (d.applyBatch (records.map (.insert l))).run s with
    | ok answers u =>
      obtain ⟨p, ids, v, adds, -, -⟩ := (Dispatch.insertBatch_ok_iff nonempty).1 batch
      rw [Dispatch.bulkInsert_ok_iff.2 ⟨p, ids, v, adds, rfl, rfl⟩] at bulk
      cases bulk
    | error e' u => exact ⟨Dispatch.bulkInsert_error bulk, Dispatch.applyBatch_error batch⟩

/-- Of two tasks both are added; and none of two is, since the second has a column that tasks do not
have. -/
theorem bulkInsert_is_batch_tasks :
    ∃ c, Tasks.document.compile Tasks.hooks = .ok c ∧
      (c.dispatch.BulkIsBatch ⟨"tasks"⟩ (["a", "b"].map Tasks.task) Tasks.session ∧
        ∃ t, (c.dispatch.bulkInsert ⟨"tasks"⟩ (["a", "b"].map Tasks.task)).run Tasks.session =
          .ok 2 t) ∧
      c.dispatch.BulkIsBatch ⟨"tasks"⟩ [Tasks.task "a", [("due", .null)]] Tasks.session ∧
        ∃ e t, (c.dispatch.bulkInsert ⟨"tasks"⟩ [Tasks.task "a", [("due", .null)]]).run
          Tasks.session = .error e t := by
  obtain ⟨c, hc, added, refused⟩ : ∃ c, Tasks.document.compile Tasks.hooks = .ok c ∧
      Tasks.answered ((c.dispatch.bulkInsert ⟨"tasks"⟩ (["a", "b"].map Tasks.task)).run
        Tasks.session) = some 2 ∧
      Tasks.fails (fun _ => true)
        ((c.dispatch.bulkInsert ⟨"tasks"⟩ [Tasks.task "a", [("due", .null)]]).run Tasks.session) :=
    ⟨Tasks.compiled, Tasks.compiles, by decide +kernel, by decide +kernel⟩
  obtain ⟨e, t, failed, -⟩ := Tasks.exists_of_fails refused
  exact ⟨c, hc, ⟨bulkInsert_is_batch _ _ (by simp) _, Tasks.exists_of_answered added⟩,
    bulkInsert_is_batch _ _ (by simp) _, e, t, failed⟩

end ResourceProvider
