import ResourceProvider.Proofs.Dispatch.Composition
import ResourceProvider.Proofs.Dispatch.Resolution
import ResourceProvider.Proofs.Provider.Texts
/-!
# Requests are checked before the database is asked

`Dispatch.check` finds out whatever a call can be refused for. A call that fails the check ends
there, in the session it found; past the check, nothing but the storage can fail. In a compiled
document the check says no more than `Dispatch.Admits`: the locator leads to a plan that allows the
operation, records name columns of its table, an update sets something, and arguments stand with a
condition (`checked_before_asked`).
-/
namespace ResourceProvider

open Route (Locator)

/-! ## Refusals -/

namespace ProviderError

/-- The request was refused for what it says. -/
def IsRefusal : ProviderError → Prop
  | .route _ => True
  | .notAllowed _ _ => True
  | .badRequest _ => True
  | .composition _ => True
  | _ => False

/-- The storage did not answer. -/
def IsStorage : ProviderError → Prop
  | .storage _ => True
  | _ => False

end ProviderError

/-! ## What fails, and what it leaves -/

namespace Action

variable {α β γ : Type}

/-- Nothing but the storage can fail. -/
def FailsInStorage (x : Action α) : Prop :=
  ∀ s e t, x.run s = .error e t → e.IsStorage

namespace FailsInStorage

theorem pure (a : α) : FailsInStorage (pure a : Action α) := by
  intro s e t h
  cases h

theorem get : FailsInStorage (get : Action Session) := by
  intro s e t h
  cases h

theorem bind {x : Action α} {f : α → Action β} (hx : FailsInStorage x)
    (hf : ∀ a, FailsInStorage (f a)) : FailsInStorage (x >>= f) := by
  intro s e t h
  rw [EStateM.run_bind] at h
  cases hr : x.run s with
  | error e' t' =>
    rw [hr] at h
    cases h
    exact hx s e t hr
  | ok a t' =>
    rw [hr] at h
    exact hf a t' e t h

theorem mapM {f : α → Action β} (h : ∀ a, FailsInStorage (f a)) (xs : List α) :
    FailsInStorage (xs.mapM f) := by
  induction xs with
  | nil => exact pure []
  | cons x xs ih =>
    rw [List.mapM_cons]
    exact (h x).bind fun _ => ih.bind fun _ => pure _

theorem reach : FailsInStorage reach := by
  intro s e t h
  cases isOpen : s.isOpen with
  | false =>
    rw [reach_closed isOpen] at h
    cases h
    trivial
  | true =>
    rw [reach_run isOpen] at h
    cases h

theorem issue (statement : Sql.Statement) : FailsInStorage (issue statement) := by
  intro s e t h
  cases isOpen : s.isOpen with
  | false =>
    simp only [Action.issue, EStateM.run_bind, reach_closed isOpen] at h
    cases h
    trivial
  | true =>
    rw [issue_run statement isOpen] at h
    cases hans : s.database.answer statement with
    | mk db answer =>
      rw [hans] at h
      cases answer with
      | ok outcome => cases h
      | error e' =>
        cases h
        trivial

theorem announce (c : Changed α) : FailsInStorage c.announce := by
  intro s e t h
  rw [Changed.announce_run] at h
  cases h

theorem transaction {x : Action α} (hx : FailsInStorage x) : FailsInStorage (transaction x) := by
  intro s e t h
  cases isOpen : s.isOpen with
  | false =>
    rw [transaction_closed x isOpen] at h
    cases h
    trivial
  | true =>
    obtain ⟨t', failed | ⟨-, -, rfl⟩, -⟩ := (transaction_error_iff isOpen).1 h
    · exact hx _ _ _ failed
    · trivial

end FailsInStorage

/-- A check decides whether an action is refused. If it is, that is all that happens; else nothing
but the storage can fail. -/
structure Decides (check : Except ProviderError γ) (x : Action α) : Prop where
  /-- A check that fails is a refusal, in the session that was found. -/
  refused : ∀ e, check = .error e → e.IsRefusal ∧ ∀ s, s.isOpen → x.run s = .error e s
  passed : ∀ c, check = .ok c → FailsInStorage x
  guarded : ∀ s e t, x.run s = .error e t → e.IsStorage ∨ e.IsRefusal ∧ t = s

namespace Decides

theorem storage {x : Action α} (h : FailsInStorage x) (c : γ) : Decides (.ok c) x where
  refused := fun _ h => by cases h
  passed := fun _ _ => h
  guarded := fun s e t failed => .inl (h s e t failed)

/-- One check stands before the others. -/
theorem check {y : Except ProviderError β} {rest : β → Except ProviderError γ} {f : β → Action α}
    (refusal : FailsBy ProviderError.IsRefusal y) (h : ∀ b, Decides (rest b) (f b)) :
    Decides (y >>= rest) (ofExcept y >>= f) := by
  cases y with
  | error e =>
    refine ⟨fun e' failed => ?_, fun c passed => ?_, fun s e' t failed => ?_⟩
    · cases failed
      exact ⟨refusal e rfl, fun _ _ => rfl⟩
    · cases passed
    · cases failed
      exact .inr ⟨refusal e rfl, rfl⟩
  | ok b => exact h b

/-- One check stands last. -/
theorem last {y : Except ProviderError β} {f : β → Action α}
    (refusal : FailsBy ProviderError.IsRefusal y) (h : ∀ b, FailsInStorage (f b)) :
    Decides y (ofExcept y >>= f) := by
  have both : Decides (y >>= Pure.pure) (ofExcept y >>= f) :=
    check refusal fun b => storage (h b) b
  rwa [bind_pure] at both

/-- Reaching for the database is no check, and changes nothing yet. -/
theorem reach {y : Except ProviderError γ} {x : Action α} (h : Decides y x) :
    Decides y (reach >>= fun _ => x) where
  refused := fun e failed => ⟨(h.refused e failed).1, fun s isOpen => by
    rw [EStateM.run_bind, reach_run isOpen]
    exact (h.refused e failed).2 s isOpen⟩
  passed := fun c passed => FailsInStorage.reach.bind fun _ => h.passed c passed
  guarded := by
    intro s e t failed
    rw [EStateM.run_bind] at failed
    cases isOpen : s.isOpen with
    | false =>
      rw [reach_closed isOpen] at failed
      cases failed
      exact .inl trivial
    | true =>
      rw [reach_run isOpen] at failed
      exact h.guarded s e t failed

/-- What a check finds does not matter, only whether it is passed. -/
theorem forget {y : Except ProviderError γ} {x : Action α} (h : Decides y x) :
    Decides (do let _ ← y : Except ProviderError Unit) x where
  refused := fun e failed => h.refused e (by cases y <;> cases failed; rfl)
  passed := fun _ passed => by
    obtain ⟨c, ok, -⟩ := ResourceProvider.ok_of_bind passed
    exact h.passed c ok
  guarded := h.guarded

/-- What follows the action is not checked any more. -/
theorem bind {y : Except ProviderError γ} {x : Action α} {f : α → Action β} (h : Decides y x)
    (hf : ∀ a, FailsInStorage (f a)) : Decides y (x >>= f) where
  refused := fun e failed => ⟨(h.refused e failed).1, fun s isOpen => by
    rw [EStateM.run_bind, (h.refused e failed).2 s isOpen]⟩
  passed := fun c passed => (h.passed c passed).bind hf
  guarded := by
    intro s e t failed
    rw [EStateM.run_bind] at failed
    cases hr : x.run s with
    | error e' t' =>
      rw [hr] at failed
      cases failed
      exact h.guarded s e t hr
    | ok a t' =>
      rw [hr] at failed
      exact .inl (hf a t' e t failed)

end Decides

end Action

open ResourceProvider.Action (FailsInStorage Decides)

/-! ## How the checks fail -/

theorem Plan.checkRecord_refuses (p : Plan) (r : Record) :
    FailsBy ProviderError.IsRefusal (p.checkRecord r) := by
  intro e h
  unfold Plan.checkRecord at h
  split at h
  · cases h
    trivial
  · cases h

theorem Plan.checkRecords_refuses (p : Plan) (records : List Record) :
    FailsBy ProviderError.IsRefusal (records.forM p.checkRecord) := by
  induction records with
  | nil => exact .ok _
  | cons r records ih => exact .bind (p.checkRecord_refuses r) fun _ _ => ih

theorem refuses_of_composed {α : Type} (x : Except CompositionError α) :
    FailsBy ProviderError.IsRefusal (x.mapError .composition) :=
  .mapError (fun _ => trivial) x

theorem Plan.bindSegments_refuses (l : Locator) (bs : List Document.Binding) (s : Sql.Selection) :
    FailsBy ProviderError.IsRefusal (bindSegments l bs s) := by
  induction bs generalizing s with
  | nil => exact .ok s
  | cons b bs ih =>
    intro e h
    unfold bindSegments at h
    split at h
    · cases h
      trivial
    · split at h
      · cases h
        trivial
      · exact ih _ e h

theorem Plan.selection_refuses (p : Plan) (op : Operation) (l : Locator)
    (condition : Option String) (args : List String) :
    FailsBy ProviderError.IsRefusal (p.selection op l condition args) := by
  unfold Plan.selection
  dsimp only
  split
  case' isTrue => refine .bind (Plan.bindSegments_refuses l _ _) fun _ _ => ?_
  case' isFalse => refine .bind (.ok _) fun _ _ => ?_
  -- The filters, the caller's condition and the filter hook are composed either way.
  all_goals
    exact .bind (refuses_of_composed _) fun _ _ => .bind (refuses_of_composed _) fun _ _ =>
      .bind (refuses_of_composed _) fun _ _ => .ok _

theorem Dispatch.planFor_refuses (d : Dispatch) (op : Operation) (l : Locator) :
    FailsBy ProviderError.IsRefusal (d.planFor op l) := by
  intro e h
  unfold Dispatch.planFor at h
  split at h
  · cases h
    trivial
  · split at h
    · cases h
    · cases h
      trivial

/-! ## The check decides -/

theorem Plan.inStorage_insertRow (p : Plan) (r : Record) : FailsInStorage (p.insertRow r) :=
  (FailsInStorage.issue _).bind fun _ => FailsInStorage.get.bind fun _ => .pure _

theorem Plan.decides_insert (p : Plan) (l : Locator) (r : Record) :
    Decides (p.prepare (.insert l r)) (p.insert l r) :=
  .check (p.checkRecord_refuses r) fun _ =>
    .storage ((p.inStorage_insertRow r).bind fun _ => .pure _) _

theorem Plan.decides_update (p : Plan) (l : Locator) (r : Record) (f : Filter) :
    Decides (p.prepare (.update l r f)) (p.update l r f) := by
  refine .check (p.checkRecord_refuses r) fun _ => .check (p.selection_refuses _ _ _ _) fun s => ?_
  have composed : Decides (do
      let statement ← (s.update r).mapError ProviderError.composition
      return (⟨statement, fun n _ =>
        let c := p.affected .update l (some r) n s
        ⟨⟨none, c.answer⟩, c.targets⟩⟩ : Prepared)) (do
      let statement ← Action.composed (s.update r)
      let outcome ← Action.issue statement
      return p.affected .update l (some r) outcome.changes s) :=
    .check (refuses_of_composed _) fun _ =>
      .storage ((FailsInStorage.issue _).bind fun _ => .pure _) _
  dsimp only
  split
  · have nothing : FailsBy ProviderError.IsRefusal
        (.error (.badRequest "update requires at least one column") : Except ProviderError PUnit) :=
      fun _ h => by cases h; trivial
    exact .check nothing fun _ => composed
  · exact composed

theorem Plan.decides_delete (p : Plan) (l : Locator) (f : Filter) :
    Decides (p.prepare (.delete l f)) (p.delete l f) :=
  .check (p.selection_refuses _ _ _ _) fun _ => .check (refuses_of_composed _) fun _ =>
    .storage ((FailsInStorage.issue _).bind fun _ => .pure _) _

theorem Dispatch.decides_query (d : Dispatch) (l : Locator) (q : Lookup) :
    Decides (d.compose (.lookup l q)) (d.query l q) := by
  refine .check (d.planFor_refuses _ l) fun p => .check (p.selection_refuses _ _ _ _) fun s => ?_
  exact .reach (.last (refuses_of_composed _) fun _ =>
    (FailsInStorage.issue _).bind fun _ => .pure _)

theorem Dispatch.decides_bulkInsert (d : Dispatch) (l : Locator) (records : List Record) :
    Decides (do let p ← d.planFor .insert l; records.forM p.checkRecord)
      (d.bulkInsert l records) := by
  refine .check (d.planFor_refuses _ l) fun p => .last (p.checkRecords_refuses records) fun _ => ?_
  have added : FailsInStorage (records.mapM p.insertRow) := .mapM p.inStorage_insertRow records
  exact (FailsInStorage.transaction (added.bind fun _ => .pure _)).bind FailsInStorage.announce

theorem Dispatch.decides_applyAlone (d : Dispatch) (op : BatchOperation) :
    Decides (d.prepare op) (d.applyAlone op) := by
  -- A request of its own finds its plan, reaches for the database, and makes the other checks.
  have own {α : Type} {x : Plan → Action (Changed α)} (answer : α → BatchResult)
      (h : ∀ p : Plan, Decides (p.prepare op) (x p)) : Decides (d.prepare op) (do
        let p ← Action.ofExcept (d.planFor op.operation op.locator)
        Action.reach
        return answer (← (← x p).announce)) :=
    .check (d.planFor_refuses _ _) fun p => .reach ((h p).bind fun c =>
      (FailsInStorage.announce c).bind fun _ => .pure _)
  cases op with
  | insert l r =>
    simp only [applyAlone, Dispatch.insert, bind_assoc]
    exact own (fun u => ⟨some u, 1⟩) fun p => p.decides_insert l r
  | update l r f =>
    simp only [applyAlone, Dispatch.update, bind_assoc]
    exact own (fun n => ⟨none, n⟩) fun p => p.decides_update l r f
  | delete l f =>
    simp only [applyAlone, Dispatch.delete, bind_assoc]
    exact own (fun n => ⟨none, n⟩) fun p => p.decides_delete l f

/-! ## Calls -/

/-- What a call asks for at its locator. The type of a locator can always be asked for, and a batch
asks for several things. -/
def Call.asks? : Call → Option (Operation × Locator)
  | .query l _ => some (.query, l)
  | .typeOf _ => none
  | .change op => some (op.operation, op.locator)
  | .bulkInsert l _ => some (.insert, l)
  | .batch _ => none

/-- Finds out what a call can be refused for, without the database. -/
def Dispatch.check (d : Dispatch) : Call → Except ProviderError Unit
  | .query l q => do let _ ← d.compose (.lookup l q)
  | .typeOf l => do let _ ← d.typeOf l
  | .change op => do let _ ← d.prepare op
  | .bulkInsert l records => do (records.forM (← d.planFor .insert l).checkRecord)
  | .batch _ => return ()

theorem Dispatch.decides_call (d : Dispatch) {call : Call} (single : call.asks? ≠ none) :
    Decides (d.check call) (d.call call) := by
  cases call with
  | query l q => exact ((d.decides_query l q).forget).bind fun _ => .pure _
  | typeOf l => exact absurd rfl single
  | change op => exact ((d.decides_applyAlone op).forget).bind fun _ => .pure _
  | bulkInsert l records => exact (d.decides_bulkInsert l records).bind fun _ => .pure _
  | batch ops => exact absurd rfl single

/-- The columns of a record are columns of the table. -/
def Plan.Knows (p : Plan) (r : Record) : Prop :=
  ∀ name ∈ r.columns, ∃ c ∈ p.table.columns, c.name = name

/-- Arguments stand with a condition that is not blank. -/
def Supports (condition : Option String) (args : List String) : Prop :=
  args = [] ∨ ∃ c, condition = some c ∧ ¬ Text.isBlank c

theorem not_supports_iff {condition : Option String} {args : List String} :
    ¬ Supports condition args ↔ condition.all Text.isBlank ∧ args ≠ [] := by
  unfold Supports
  cases condition with
  | none => simp
  | some c => simp [and_comm]

/-- A plan has no objection to what a call says. -/
def Plan.Accepts (p : Plan) : Call → Prop
  | .query _ q => Supports q.condition q.args
  | .typeOf _ => True
  | .change (.insert _ r) => p.Knows r
  | .change (.update _ r f) => p.Knows r ∧ r ≠ [] ∧ Supports f.condition f.args
  | .change (.delete _ f) => Supports f.condition f.args
  | .bulkInsert _ records => ∀ r ∈ records, p.Knows r
  | .batch _ => True

/-- A call passes every check: its locator leads to a plan that allows what is asked for, and
accepts what is said. -/
def Dispatch.Admits (d : Dispatch) (call : Call) (op : Operation) (l : Locator) : Prop :=
  ∃ p, d.resolve l = .ok p ∧ p.endpoint.allows op ∧ p.Accepts call

theorem Dispatch.planFor_eq_ok_iff {d : Dispatch} {op : Operation} {l : Locator} {p : Plan} :
    d.planFor op l = .ok p ↔ d.resolve l = .ok p ∧ p.endpoint.allows op := by
  unfold Dispatch.planFor
  cases d.resolve l with
  | error e => simp
  | ok q =>
    by_cases allowed : q.endpoint.allows op
    · simp only [allowed, if_true, Except.ok.injEq]
      exact ⟨fun h => ⟨h, h ▸ allowed⟩, And.left⟩
    · simp only [allowed]
      refine ⟨fun h => (by cases h), fun h => ?_⟩
      cases h.1
      exact absurd h.2 allowed

theorem Plan.checkRecord_eq_ok_iff {p : Plan} {r : Record} :
    p.checkRecord r = .ok () ↔ p.Knows r := by
  refine ⟨fun h => Schema.exists_column (fits_of_checkRecord h), fun knows => ?_⟩
  have fits : Record.misfit? p.table r = none := by
    rw [Record.misfit?, Option.map_eq_none_iff, List.find?_eq_none]
    intro f hf
    obtain ⟨c, hc, name⟩ := knows f.1 (List.mem_map_of_mem hf)
    simp only [Table.column?, Option.isNone_iff_eq_none, List.find?_eq_none, decide_eq_true_eq]
    exact fun missing => missing c hc name
  rw [Plan.checkRecord, fits]

theorem Plan.checkRecords_eq_ok_iff {p : Plan} {records : List Record} :
    records.forM p.checkRecord = .ok () ↔ ∀ r ∈ records, p.Knows r := by
  constructor
  · exact fun h r hr => checkRecord_eq_ok_iff.1 (Dispatch.checkRecord_of_forM h r hr)
  · intro knows
    induction records with
    | nil => rfl
    | cons r records ih =>
      rw [List.forall_mem_cons] at knows
      change (p.checkRecord r >>= fun _ => records.forM p.checkRecord) = _
      rw [checkRecord_eq_ok_iff.2 knows.1]
      exact ih knows.2

/-- In a compiled document only arguments without a condition keep a selection from being
composed. -/
theorem Plan.selection_ok_iff {p : Plan} {l : Locator} (h : p.Serves l) (op : Operation)
    (condition : Option String) (args : List String) :
    (∃ s table, p.selection op l condition args = .ok s ∧ s.table = some table) ↔
      Supports condition args := by
  have composed := p.selection_serves h op condition args
  split at composed
  · rename_i refused
    refine ⟨fun ⟨s, _, hs, _⟩ => ?_, fun h => absurd h (not_supports_iff.2 refused)⟩
    rw [composed] at hs
    cases hs
  · rename_i accepted
    obtain ⟨s, -, hs, -, -, table⟩ := composed
    exact ⟨fun _ => not_not.1 (mt not_supports_iff.1 accepted), fun _ => ⟨s, _, hs, table⟩⟩

theorem exists_ok_bind {ε α β : Type} {x : Except ε α} {f : α → Except ε β} :
    (∃ b, (x >>= f) = .ok b) ↔ ∃ a, x = .ok a ∧ ∃ b, f a = .ok b := by
  constructor
  · rintro ⟨b, h⟩
    obtain ⟨a, first, rest⟩ := ok_of_bind h
    exact ⟨a, first, b, rest⟩
  · rintro ⟨a, rfl, b, rest⟩
    exact ⟨b, rest⟩

theorem exists_ok_pure {ε α : Type} (a : α) : ∃ b, (pure a : Except ε α) = .ok b :=
  ⟨a, rfl⟩

/-- A statement is composed if the table is set. -/
theorem Selection.composed_ok_iff {s : Sql.Selection} {f : String → Sql.Statement} :
    (∃ statement, (s.requiredTable.map f).mapError ProviderError.composition = .ok statement) ↔
      ∃ table, s.table = some table := by
  unfold Sql.Selection.requiredTable
  cases s.table with
  | none => exact ⟨fun ⟨_, h⟩ => (by cases h), fun ⟨_, h⟩ => (by cases h)⟩
  | some table => exact ⟨fun _ => ⟨table, rfl⟩, fun _ => ⟨f table, rfl⟩⟩

theorem Plan.lookup_ok_iff {p : Plan} {l : Locator} (h : p.Serves l) (q : Lookup) :
    (∃ statement, (do
      let s ← p.selection .query l q.condition q.args
      (s.query q.projection (p.shape q.sort)).mapError ProviderError.composition) =
        .ok statement) ↔ p.Accepts (.query l q) := by
  simp only [exists_ok_bind, Plan.Accepts, ← p.selection_ok_iff h .query, Sql.Selection.query,
    Selection.composed_ok_iff, exists_and_left]

theorem Plan.prepare_ok_iff {p : Plan} {op : BatchOperation} (h : p.Serves op.locator) :
    (∃ r, p.prepare op = .ok r) ↔ p.Accepts (.change op) := by
  cases op with
  | insert l r =>
    rw [Plan.prepare, exists_ok_bind, Plan.Accepts, ← checkRecord_eq_ok_iff]
    constructor
    · rintro ⟨_, ok, _⟩
      exact ok
    · intro ok
      exact ⟨(), ok, _, rfl⟩
  | update l r f =>
    rw [Plan.prepare, exists_ok_bind, Plan.Accepts, ← checkRecord_eq_ok_iff]
    by_cases nothing : r = []
    · constructor
      · rintro ⟨_, _, _, h⟩
        obtain ⟨s, -, h⟩ := ok_of_bind h
        rw [if_pos nothing] at h
        cases h
      · exact fun h => absurd nothing h.2.1
    · simp only [nothing, if_false, exists_ok_bind, exists_ok_pure, and_true,
        ← p.selection_ok_iff h .update, Sql.Selection.update, Selection.composed_ok_iff,
        exists_and_left, ne_eq, not_false_eq_true, true_and]
      constructor
      · rintro ⟨_, ok, rest⟩
        exact ⟨ok, rest⟩
      · rintro ⟨ok, rest⟩
        exact ⟨(), ok, rest⟩
  | delete l f =>
    simp only [Plan.prepare, exists_ok_bind, exists_ok_pure, and_true, Plan.Accepts,
      ← p.selection_ok_iff h .delete, Sql.Selection.delete, Selection.composed_ok_iff,
      exists_and_left]
    rfl

/-- In a compiled document a call passes the check if it is admitted, and only then. -/
theorem Dispatch.check_eq_ok_iff {doc : Document} {hooks : Hooks} {c : Compiled}
    (compiled : doc.compile hooks = .ok c) {call : Call} {op : Operation} {l : Locator}
    (asks : call.asks? = some (op, l)) :
    c.dispatch.check call = .ok () ↔ c.dispatch.Admits call op l := by
  have serves {p : Plan} (found : c.dispatch.resolve l = .ok p) : p.Serves l := by
    obtain ⟨g, e, schema, -, fits, endpoint, accepts⟩ := Document.resolve_compiled compiled found
    exact Plan.serves_of_fault fits endpoint accepts
  have discarded {α : Type} {x : Except ProviderError α} :
      (do let _ ← x : Except ProviderError Unit) = .ok () ↔ ∃ a, x = .ok a := by
    cases x with
    | error e => exact ⟨fun h => (by cases h), fun ⟨_, h⟩ => (by cases h)⟩
    | ok a => exact ⟨fun _ => ⟨a, rfl⟩, fun _ => rfl⟩
  -- A plan that is found serves the locator, so it says no more than what it accepts.
  have planned {α : Type} {k : Plan → Except ProviderError α} {accepts : Plan → Prop}
      (h : ∀ p : Plan, p.Serves l → ((∃ a, k p = .ok a) ↔ accepts p)) :
      (∃ a, (c.dispatch.planFor op l >>= k) = .ok a) ↔
        ∃ p, c.dispatch.resolve l = .ok p ∧ p.endpoint.allows op ∧ accepts p := by
    simp only [exists_ok_bind, planFor_eq_ok_iff, and_assoc]
    refine exists_congr fun p => and_congr_right fun found => and_congr_right fun _ => ?_
    exact h p (serves found)
  cases call with
  | query l' q =>
    cases asks
    exact discarded.trans (planned fun p serves => p.lookup_ok_iff serves q)
  | typeOf l' => cases asks
  | change op' =>
    cases asks
    exact discarded.trans (planned fun p serves => p.prepare_ok_iff serves)
  | bulkInsert l' records =>
    cases asks
    have unit {x : Except ProviderError Unit} : x = .ok () ↔ ∃ a, x = .ok a :=
      ⟨fun h => ⟨(), h⟩, fun ⟨(), h⟩ => h⟩
    rw [check, unit]
    exact planned fun p _ => unit.symm.trans Plan.checkRecords_eq_ok_iff
  | batch ops => cases asks

/-! ## Compiled documents -/

/-- Whatever a request can be refused for is found out before the database is asked. A call that is
refused leaves the session as it was: nothing is issued, no row changes and nothing is signalled. A
call that passes every check can fail in the storage only, and one that does not is refused. A bulk
insertion is checked as a whole: one record that does not fit is enough. -/
theorem checked_before_asked {doc : Document} {hooks : Hooks} {c : Compiled}
    (compiled : doc.compile hooks = .ok c) {call : Call} {op : Operation} {l : Locator}
    (asks : call.asks? = some (op, l)) (s : Session) :
    (∀ e t, (c.dispatch.call call).run s = .error e t → e.IsStorage ∨ e.IsRefusal ∧ t = s) ∧
    (c.dispatch.Admits call op l →
      ∀ e t, (c.dispatch.call call).run s = .error e t → e.IsStorage) ∧
    (¬ c.dispatch.Admits call op l → s.isOpen →
      ∃ e, e.IsRefusal ∧ (c.dispatch.call call).run s = .error e s) := by
  have single : call.asks? ≠ none := by simp [asks]
  have decides := c.dispatch.decides_call single
  have admitted := Dispatch.check_eq_ok_iff compiled asks
  refine ⟨decides.guarded s, fun admits => ?_, fun refused isOpen => ?_⟩
  · exact decides.passed () (admitted.2 admits) s
  · cases checked : c.dispatch.check call with
    | ok u => exact absurd (admitted.1 checked) refused
    | error e =>
      obtain ⟨refusal, run⟩ := decides.refused e checked
      exact ⟨e, refusal, run s isOpen⟩

namespace Tasks

/-- Adds tasks, of which the last one has a column that no task has. -/
def misfits : Call :=
  .bulkInsert ⟨"/tasks/"⟩
    [[("title", .str "plan")], [], [("owner", .str "me"), ("title", .str "draft")]]

end Tasks

/-- One record that does not fit is enough, wherever it stands. -/
theorem checked_before_asked_tasks :
    ∃ c, Tasks.document.compile Tasks.hooks = .ok c ∧
      Tasks.misfits.asks? = some (.insert, ⟨"/tasks/"⟩) ∧
      ¬ c.dispatch.Admits Tasks.misfits .insert ⟨"/tasks/"⟩ ∧
      ∃ e, e.IsRefusal ∧
        (c.dispatch.call Tasks.misfits).run Tasks.session = .error e Tasks.session := by
  have refused : ¬ Tasks.compiled.dispatch.Admits Tasks.misfits .insert ⟨"/tasks/"⟩ := by
    rintro ⟨p, found, -, knows⟩
    cases found
    have columns := knows _ (.tail _ (.tail _ (.head _))) "owner" (by decide)
    revert columns
    decide
  exact ⟨Tasks.compiled, Tasks.compiles, rfl, refused,
    (checked_before_asked Tasks.compiles rfl Tasks.session).2.2 refused rfl⟩

end ResourceProvider
