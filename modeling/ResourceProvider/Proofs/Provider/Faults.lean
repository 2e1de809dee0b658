import ResourceProvider.Http.Failure
import ResourceProvider.Proofs.Provider.Checked
import ResourceProvider.Proofs.Provider.Counts
/-!
# Whose fault a failure is

A call of a compiled document fails for what the caller said, for a statement that the database
refuses, or because the database is closed; and it fails to be composed exactly if it leaves
arguments without a condition (`call_fails`, `call_strandsArgs`). This failure, and a placeholder
with a name, are put down to the service although the caller caused them.
-/
namespace ResourceProvider

open Route (Locator)

/-! ## Faults of the client -/

namespace ProviderError

/-- The failure is put down to the client. -/
def IsClient (e : ProviderError) : Prop :=
  400 ≤ e.status ∧ e.status < 500

theorem isClient_of_status {e : ProviderError} (n : Nat) (status : e.status = n)
    (range : 400 ≤ n ∧ n < 500) : e.IsClient := by
  unfold IsClient
  rwa [status]

theorem isClient_route (e : RouteError) : (route e).IsClient :=
  isClient_of_status 400 rfl (by decide)

theorem isClient_notAllowed (op : Operation) (path : String) : (notAllowed op path).IsClient :=
  isClient_of_status 405 rfl (by decide)

theorem isClient_badRequest (reason : String) : (badRequest reason).IsClient :=
  isClient_of_status 400 rfl (by decide)

/-- The failure comes of what the caller said: it is put down to the client, or a placeholder has a
name that no value belongs to. -/
def IsOfCaller (e : ProviderError) : Prop :=
  e.IsClient ∨ ∃ name, e = .storage (.unbound name)

theorem isOfCaller_storage (refusal : Engine.Refusal) : (storage refusal.error).IsOfCaller := by
  cases refusal with
  | violation v => exact .inl (isClient_of_status 409 rfl (by decide))
  | restricted => exact .inl (isClient_of_status 400 rfl (by decide))
  | rejected => exact .inl (isClient_of_status 400 rfl (by decide))
  | unbound name => exact .inr ⟨name, rfl⟩

end ProviderError

open ProviderError (IsClient IsOfCaller)

theorem Dispatch.planFor_client (d : Dispatch) (op : Operation) (l : Locator) :
    FailsBy IsClient (d.planFor op l) := by
  intro e h
  unfold planFor at h
  split at h
  · cases h
    exact ProviderError.isClient_route _
  · split at h
    · cases h
    · cases h
      exact ProviderError.isClient_notAllowed _ _

theorem Dispatch.typeOf_client (d : Dispatch) (l : Locator) : FailsBy IsClient (d.typeOf l) := by
  intro e h
  unfold typeOf at h
  split at h
  · cases h
    exact ProviderError.isClient_route _
  · cases h

theorem Plan.checkRecord_client (p : Plan) (r : Record) : FailsBy IsClient (p.checkRecord r) := by
  intro e h
  unfold checkRecord at h
  split at h
  · cases h
    exact ProviderError.isClient_badRequest _
  · cases h

theorem Plan.checkRecords_client (p : Plan) (records : List Record) :
    FailsBy IsClient (records.forM p.checkRecord) := by
  induction records with
  | nil => exact .ok _
  | cons r records ih => exact .bind (p.checkRecord_client r) fun _ _ => ih

/-! ## Arguments without a condition -/

namespace Plan

variable {p : Plan} {l : Locator} {op : Operation} {condition : Option String} {args : List String}

/-- The selection of a request is composed, unless it has arguments without a condition. -/
theorem selection_fails (h : p.Serves l) :
    FailsBy (fun e => ¬ Supports condition args ∧ e = .composition .argsWithoutSelection)
      (p.selection op l condition args) := by
  intro e failed
  have composed := p.selection_serves h op condition args
  split at composed
  · rw [composed] at failed
    cases failed
    exact ⟨not_supports_iff.2 ‹_›, rfl⟩
  · obtain ⟨s, -, selected, -⟩ := composed
    rw [selected] at failed
    cases failed

theorem selection_unsupported (h : p.Serves l) (alone : ¬ Supports condition args) :
    p.selection op l condition args = .error (.composition .argsWithoutSelection) := by
  have composed := p.selection_serves h op condition args
  rwa [if_pos (not_supports_iff.1 alone)] at composed

/-- A selection has its table set, so a statement can be made of it. -/
theorem requiredTable_of_selection {s : Sql.Selection}
    (h : p.selection op l condition args = .ok s) : ∃ table, s.requiredTable = .ok table := by
  obtain ⟨-, -, -, s₄, -, -, -, -, rfl⟩ := stages_of_selection h
  exact ⟨_, rfl⟩

end Plan

namespace Dispatch

/-- Every plan that a locator leads to has the segments that it binds. -/
def Serves (d : Dispatch) : Prop :=
  ∀ l p, d.resolve l = .ok p → p.Serves l

/-- A change passes what is checked before its selection, and has arguments without a condition. -/
def LeavesArgs (d : Dispatch) : BatchOperation → Prop
  | .insert _ _ => False
  | .update l r f =>
    ∃ p, d.planFor .update l = .ok p ∧ p.Knows r ∧ ¬ Supports f.condition f.args
  | .delete l f => ∃ p, d.planFor .delete l = .ok p ∧ ¬ Supports f.condition f.args

variable {d : Dispatch}

theorem Serves.plan (served : d.Serves) {op : Operation} {l : Locator} {p : Plan}
    (planned : d.planFor op l = .ok p) : p.Serves l :=
  served l p (planFor_eq_ok_iff.1 planned).1

/-- Before the database is asked a change fails for the client, or it leaves arguments. -/
theorem prepare_fails (served : d.Serves) (op : BatchOperation) :
    FailsBy (fun e => e.IsClient ∨ d.LeavesArgs op ∧ e = .composition .argsWithoutSelection)
      (d.prepare op) := by
  refine .bind ((d.planFor_client _ _).mono fun e => .inl) fun p planned => ?_
  cases op with
  | insert l r => exact .bind ((p.checkRecord_client r).mono fun e => .inl) fun _ _ => .ok _
  | update l r f =>
    refine .bind ((p.checkRecord_client r).mono fun e => .inl) fun _ known => ?_
    refine .bind ((p.selection_fails (served.plan planned)).mono fun e alone => .inr
      ⟨⟨p, planned, Plan.checkRecord_eq_ok_iff.1 known, alone.1⟩, alone.2⟩) fun s selected => ?_
    split
    · intro e failed
      cases failed
      exact .inl (ProviderError.isClient_badRequest _)
    · obtain ⟨table, set⟩ := Plan.requiredTable_of_selection selected
      rw [Sql.Selection.update, set]
      exact .ok _
  | delete l f =>
    refine .bind ((p.selection_fails (served.plan planned)).mono fun e alone => .inr
      ⟨⟨p, planned, alone.1⟩, alone.2⟩) fun s selected => ?_
    obtain ⟨table, set⟩ := Plan.requiredTable_of_selection selected
    rw [Sql.Selection.delete, set]
    exact .ok _

theorem prepare_leavesArgs (served : d.Serves) {op : BatchOperation} (h : d.LeavesArgs op) :
    d.prepare op = .error (.composition .argsWithoutSelection) := by
  cases op with
  | insert => cases h
  | update l r f =>
    obtain ⟨p, planned, known, alone⟩ := h
    simp only [prepare, BatchOperation.operation, BatchOperation.locator, planned, Plan.prepare,
      bind, Except.bind, Plan.checkRecord_eq_ok_iff.2 known,
      Plan.selection_unsupported (served.plan planned) alone]
  | delete l f =>
    obtain ⟨p, planned, alone⟩ := h
    simp only [prepare, BatchOperation.operation, BatchOperation.locator, planned, Plan.prepare,
      bind, Except.bind, Plan.selection_unsupported (served.plan planned) alone]

end Dispatch

/-! ## How actions fail -/

namespace Action

variable {α β : Type} {P : ProviderError → Prop}

/-- The action fails only as `P` says or because the database is closed, and neither opens nor
closes it. -/
def FailsAs (P : ProviderError → Prop) (x : Action α) : Prop :=
  ∀ s, match x.run s with
    | .ok _ t => t.isOpen = s.isOpen
    | .error e t => (P e ∨ s.isOpen = false ∧ e = .storage .closed) ∧ t.isOpen = s.isOpen

namespace FailsAs

theorem ok {x : Action α} (h : FailsAs P x) {s t : Session} {a : α} (ran : x.run s = .ok a t) :
    t.isOpen = s.isOpen := by
  have kept := h s
  rwa [ran] at kept

theorem error {x : Action α} (h : FailsAs P x) {s t : Session} {e : ProviderError}
    (ran : x.run s = .error e t) : P e ∨ s.isOpen = false ∧ e = .storage .closed := by
  have failed := h s
  rw [ran] at failed
  exact failed.1

theorem pure (a : α) : FailsAs P (pure a : Action α) :=
  fun _ => rfl

theorem get : FailsAs P (get : Action Session) :=
  fun _ => rfl

theorem ofExcept {x : Except ProviderError α} (h : FailsBy P x) : FailsAs P (ofExcept x) := by
  intro s
  cases x with
  | error e => exact ⟨.inl (h e rfl), rfl⟩
  | ok a => rfl

theorem bind {x : Action α} {f : α → Action β} (hx : FailsAs P x) (hf : ∀ a, FailsAs P (f a)) :
    FailsAs P (x >>= f) := by
  intro s
  have first := hx s
  rw [EStateM.run_bind]
  cases hr : x.run s with
  | error e t =>
    rw [hr] at first
    exact first
  | ok a t =>
    rw [hr] at first
    have rest := hf a t
    rw [first] at rest
    exact rest

theorem reach : FailsAs P reach := by
  intro s
  cases isOpen : s.isOpen with
  | false =>
    rw [reach_closed isOpen]
    exact ⟨.inr ⟨rfl, rfl⟩, isOpen⟩
  | true =>
    rw [reach_run isOpen]
    exact isOpen

/-- A statement fails for what the caller said. -/
theorem issue (caller : ∀ e, IsOfCaller e → P e) (statement : Sql.Statement) :
    FailsAs P (issue statement) := by
  intro s
  cases isOpen : s.isOpen with
  | false =>
    simp only [Action.issue, EStateM.run_bind, reach_closed isOpen]
    exact ⟨.inr ⟨trivial, trivial⟩, isOpen⟩
  | true =>
    rw [issue_run statement isOpen]
    cases answer : s.database.answer statement with
    | mk db answered =>
      cases answered with
      | ok outcome => exact isOpen
      | error refusal => exact ⟨.inl (caller _ (ProviderError.isOfCaller_storage refusal)), isOpen⟩

theorem announce (c : Changed α) : FailsAs P c.announce := by
  intro s
  rw [Changed.announce_run]
  rfl

theorem mapM {f : α → Action β} (h : ∀ a, FailsAs P (f a)) (xs : List α) :
    FailsAs P (xs.mapM f) := by
  induction xs with
  | nil => exact pure []
  | cons x xs ih =>
    rw [List.mapM_cons]
    exact (h x).bind fun _ => ih.bind fun _ => pure _

theorem transaction (caller : ∀ e, IsOfCaller e → P e) {x : Action α} (h : FailsAs P x) :
    FailsAs P (transaction x) := by
  intro s
  cases isOpen : s.isOpen with
  | false =>
    rw [transaction_closed x isOpen]
    exact ⟨.inr ⟨rfl, rfl⟩, isOpen⟩
  | true =>
    have inside := h s.begun
    rw [transaction_run x isOpen]
    cases hr : x.run s.begun with
    | ok a t =>
      rw [hr] at inside
      dsimp only
      cases s.database.isOverdue t.database with
      | true =>
        have violated := ProviderError.isOfCaller_storage (.violation .foreignKey)
        exact ⟨.inl (caller _ violated), inside.trans isOpen⟩
      | false => exact inside.trans isOpen
    | error e t =>
      rw [hr] at inside
      obtain ⟨inside, kept⟩ := inside
      refine ⟨.inl (inside.resolve_right fun h => ?_), kept.trans isOpen⟩
      exact Bool.false_ne_true (h.1.symm.trans isOpen)

end FailsAs

/-- One of some steps fails after those before it. -/
theorem mapM_error_iff {f : α → Action β} {xs : List α} {s t : Session} {e : ProviderError} :
    (xs.mapM f).run s = .error e t ↔ ∃ before x after ys u, xs = before ++ x :: after ∧
      (before.mapM f).run s = .ok ys u ∧ (f x).run u = .error e t := by
  induction xs generalizing s with
  | nil =>
    refine iff_of_false (fun h => by cases h) ?_
    rintro ⟨before, x, after, ys, u, none, -⟩
    simp at none
  | cons x xs ih =>
    rw [mapM_cons_error_iff]
    constructor
    · rintro (failed | ⟨y, v, first, failed⟩)
      · exact ⟨[], x, xs, [], s, rfl, rfl, failed⟩
      · obtain ⟨before, x', after, ys, u, rfl, passed, failed⟩ := ih.1 failed
        exact ⟨x :: before, x', after, y :: ys, u, rfl,
          mapM_cons_ok_iff.2 ⟨y, v, ys, first, passed, rfl⟩, failed⟩
    · rintro ⟨before, x', after, ys, u, cut, passed, failed⟩
      cases before with
      | nil =>
        cases cut
        cases passed
        exact .inl failed
      | cons b before =>
        cases cut
        obtain ⟨y, v, ys', first, passed, -⟩ := mapM_cons_ok_iff.1 passed
        exact .inr ⟨y, v, first, ih.2 ⟨before, x', after, ys', u, rfl, passed, failed⟩⟩

end Action

/-! ## Calls -/

namespace Dispatch

variable {d : Dispatch} {s t : Session} {e : ProviderError}

/-- A call comes to the selection of a request that has arguments without a condition. A change and
a batch need the database to be open for that, a query does not. -/
def StrandsArgs (d : Dispatch) (s : Session) : Call → Prop
  | .query l q => (∃ p, d.planFor .query l = .ok p) ∧ ¬ Supports q.condition q.args
  | .change op => s.isOpen ∧ d.LeavesArgs op
  | .batch ops => s.isOpen ∧ ∃ before op after, ops = before ++ op :: after ∧
      (∃ made t, (before.mapM d.applyOne).run s.begun = .ok made t) ∧ d.LeavesArgs op
  | _ => False

/-- The ways in which a call can fail. -/
def Fails (d : Dispatch) (s : Session) (c : Call) (e : ProviderError) : Prop :=
  (e.IsOfCaller ∨ s.isOpen = false ∧ e = .storage .closed) ∨
    d.StrandsArgs s c ∧ e = .composition .argsWithoutSelection

open ResourceProvider.Action (FailsAs)

theorem make_failsAs (r : Prepared) : FailsAs IsOfCaller r.make :=
  (FailsAs.issue (fun _ => id) _).bind fun _ => FailsAs.get.bind fun _ => .pure _

theorem query_fails (served : d.Serves) {l : Locator} {q : Lookup}
    (h : (d.query l q).run s = .error e t) : d.Fails s (.query l q) e := by
  cases planned : d.planFor .query l with
  | error e' =>
    rw [Dispatch.query, planned] at h
    cases h
    exact .inl (.inl (.inl (d.planFor_client _ _ _ planned)))
  | ok p =>
    cases selected : p.selection .query l q.condition q.args with
    | error e' =>
      rw [Dispatch.query, planned, Action.ofExcept_ok, pure_bind, selected] at h
      cases h
      obtain ⟨alone, rfl⟩ := Plan.selection_fails (served.plan planned) _ selected
      exact .inr ⟨⟨⟨p, planned⟩, alone⟩, rfl⟩
    | ok selection =>
      obtain ⟨table, set⟩ := Plan.requiredTable_of_selection selected
      rw [Dispatch.query, planned, Action.ofExcept_ok, pure_bind, selected, Action.ofExcept_ok,
        pure_bind, Sql.Selection.query, set] at h
      simp only [Action.composed, Except.map, Except.mapError, Action.ofExcept_ok, pure_bind] at h
      have rest (statement : Sql.Statement) : FailsAs IsOfCaller (do
          Action.reach
          let outcome ← Action.issue statement
          return (⟨outcome.rows.map Sql.recordOfRow, p.watched l⟩ : Found)) :=
        .bind .reach fun _ => .bind (.issue (fun _ => id) statement) fun _ => .pure _
      exact .inl ((rest _).error h)

theorem applyAlone_fails (served : d.Serves) {op : BatchOperation}
    (h : (d.applyAlone op).run s = .error e t) : d.Fails s (.change op) e := by
  cases isOpen : s.isOpen with
  | false =>
    obtain ⟨e', closed, why⟩ := d.applyAlone_closed op isOpen
    rw [closed] at h
    cases h
    rcases why with planned | rfl
    · exact .inl (.inl (.inl (d.planFor_client _ _ _ planned)))
    · exact .inl (.inr ⟨isOpen, rfl⟩)
  | true =>
    rw [d.applyAlone_run op isOpen, d.applyOne_eq op, bind_assoc] at h
    cases prepared : d.prepare op with
    | error e' =>
      rw [prepared] at h
      cases h
      rcases prepare_fails served op _ prepared with client | ⟨leaves, rfl⟩
      · exact .inl (.inl (.inl client))
      · exact .inr ⟨⟨isOpen, leaves⟩, rfl⟩
    | ok r =>
      rw [prepared, Action.ofExcept_ok, pure_bind] at h
      exact .inl (((make_failsAs r).bind FailsAs.announce).error h)

theorem bulkInsert_fails {l : Locator} {records : List Record}
    (h : (d.bulkInsert l records).run s = .error e t) : d.Fails s (.bulkInsert l records) e := by
  have one (p : Plan) (r : Record) : FailsAs IsOfCaller (p.insertRow r) :=
    (FailsAs.issue (fun _ => id) _).bind fun _ => FailsAs.get.bind fun _ => .pure _
  have added (p : Plan) : FailsAs IsOfCaller (records.mapM p.insertRow) := .mapM (one p) records
  have whole : FailsAs IsOfCaller (d.bulkInsert l records) :=
    (FailsAs.ofExcept ((d.planFor_client _ _).mono fun _ => .inl)).bind fun p =>
      (FailsAs.ofExcept ((p.checkRecords_client _).mono fun _ => .inl)).bind fun _ =>
        (FailsAs.transaction (fun _ => id) ((added p).bind fun _ => .pure _)).bind FailsAs.announce
  exact .inl (whole.error h)

/-- In a batch an operation fails like one on its own, after those before it were made. -/
theorem applyAll_fails (served : d.Serves) {ops : List BatchOperation} (isOpen : s.isOpen)
    (h : (ops.mapM d.applyOne).run s = .error e t) : e.IsOfCaller ∨
      (∃ before op after, ops = before ++ op :: after ∧
        (∃ made t, (before.mapM d.applyOne).run s = .ok made t) ∧ d.LeavesArgs op) ∧
        e = .composition .argsWithoutSelection := by
  have one (op : BatchOperation) :
      FailsAs (fun e => e.IsOfCaller ∨ e = .composition .argsWithoutSelection) (d.applyOne op) := by
    rw [d.applyOne_eq op]
    refine (FailsAs.ofExcept ((prepare_fails served op).mono fun e => Or.imp .inl And.right)).bind
      fun r => ?_
    exact (FailsAs.issue (fun _ => .inl) _).bind fun _ => FailsAs.get.bind fun _ => .pure _
  obtain ⟨before, op, after, made, v, rfl, passed, failed⟩ := Action.mapM_error_iff.1 h
  have stillOpen : v.isOpen = true := ((FailsAs.mapM one before).ok passed).trans isOpen
  rw [d.applyOne_eq op] at failed
  cases prepared : d.prepare op with
  | error e' =>
    rw [prepared] at failed
    cases failed
    rcases prepare_fails served op _ prepared with client | ⟨leaves, rfl⟩
    · exact .inl (.inl client)
    · exact .inr ⟨⟨before, op, after, rfl, ⟨made, _, passed⟩, leaves⟩, rfl⟩
  | ok r =>
    rw [prepared, Action.ofExcept_ok, pure_bind] at failed
    refine .inl (((make_failsAs r).error failed).resolve_right fun h => ?_)
    exact Bool.false_ne_true (h.1.symm.trans stillOpen)

theorem applyBatch_fails (served : d.Serves) {ops : List BatchOperation}
    (h : (d.applyBatch ops).run s = .error e t) : d.Fails s (.batch ops) e := by
  cases isOpen : s.isOpen with
  | false =>
    simp only [applyBatch, EStateM.run_bind, Action.transaction_closed _ isOpen] at h
    cases h
    exact .inl (.inr ⟨isOpen, rfl⟩)
  | true =>
    obtain failed | ⟨cs, u, -, announced⟩ := Action.error_of_bind h
    · obtain ⟨u, ran | ⟨-, -, rfl⟩, -⟩ := (Action.transaction_error_iff isOpen).1 failed
      · rcases applyAll_fails served (s := s.begun) isOpen ran with caller | ⟨leaves, rfl⟩
        · exact .inl (.inl caller)
        · exact .inr ⟨⟨isOpen, leaves⟩, rfl⟩
      · exact .inl (.inl (ProviderError.isOfCaller_storage (.violation .foreignKey)))
    · simp only [EStateM.run_bind, Action.signal_run] at announced
      cases announced

/-- A call fails for what the caller said, because the database is closed, or since it strands
arguments. -/
theorem call_fails (served : d.Serves) {c : Call} (h : (d.call c).run s = .error e t) :
    d.Fails s c e := by
  have inner {α : Type} {x : Action α} {f : α → Answer}
      (h : (do return f (← x) : Action Answer).run s = .error e t) : x.run s = .error e t := by
    rw [Action.run_wrap] at h
    cases ran : x.run s with
    | ok a u =>
      rw [ran] at h
      cases h
    | error e' u =>
      rw [ran] at h
      cases h
      rfl
  cases c with
  | query l q => exact query_fails served (inner h)
  | typeOf l =>
    have located : FailsAs IsOfCaller (Action.ofExcept (d.typeOf l)) :=
      .ofExcept ((d.typeOf_client l).mono fun _ => .inl)
    exact .inl (located.error (inner h))
  | change op => exact applyAlone_fails served (inner h)
  | bulkInsert l records => exact bulkInsert_fails (inner h)
  | batch ops => exact applyBatch_fails served (inner h)

/-- A call that strands arguments fails to be composed. -/
theorem call_strandsArgs (served : d.Serves) {c : Call} (h : d.StrandsArgs s c) :
    ∃ t, (d.call c).run s = .error (.composition .argsWithoutSelection) t := by
  cases c with
  | query l q =>
    obtain ⟨⟨p, planned⟩, alone⟩ := h
    refine ⟨s, ?_⟩
    rw [call, Dispatch.query, planned, Action.ofExcept_ok, pure_bind,
      Plan.selection_unsupported (served.plan planned) alone]
    rfl
  | typeOf l => cases h
  | change op =>
    obtain ⟨isOpen, leaves⟩ := h
    refine ⟨s, ?_⟩
    rw [call, Action.run_wrap, d.applyAlone_run op isOpen, d.applyOne_eq op,
      prepare_leavesArgs served leaves]
    rfl
  | bulkInsert l records => cases h
  | batch ops =>
    obtain ⟨isOpen, before, op, after, cut, ⟨made, u, passed⟩, leaves⟩ := h
    have failed : (d.applyOne op).run u = .error (.composition .argsWithoutSelection) u := by
      rw [d.applyOne_eq op, prepare_leavesArgs served leaves]
      rfl
    have ran := Action.mapM_error_iff.2 ⟨before, op, after, made, u, cut, passed, failed⟩
    refine ⟨u.undone s, ?_⟩
    rw [call, Action.run_wrap, applyBatch, EStateM.run_bind, Action.transaction_run _ isOpen, ran]

end Dispatch

/-- In a compiled document every plan serves the locators that lead to it. -/
theorem Document.serves_compiled {doc : Document} {hooks : Hooks} {c : Compiled}
    (compiled : doc.compile hooks = .ok c) : c.dispatch.Serves := by
  intro l p found
  obtain ⟨g, e, s, -, fits, endpoint, accepts⟩ := Document.resolve_compiled compiled found
  exact Plan.serves_of_fault fits endpoint accepts

end ResourceProvider
