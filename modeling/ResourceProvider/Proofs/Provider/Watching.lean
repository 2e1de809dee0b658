import ResourceProvider.Proofs.Provider.Checked
import ResourceProvider.Proofs.Provider.Counts
/-!
# What a query watches and what a change signals

Locators with the same segments lead to the same plan, and to the same records unless a hook looks
at the text of the locator. But where nothing else is said, a query reports the text of its own
locator, and a change is signalled at the text of its own. So the two meet exactly if both requests
spell the locator in one way (`watched_as_spelled`).
-/
namespace ResourceProvider

open Route (Locator)

/-! ## One plan for all spellings -/

namespace Dispatch

variable {d : Dispatch} {l l' : Locator} {p : Plan}

theorem resolve_of_segments (same : l.segments = l'.segments) (found : d.resolve l = .ok p) :
    d.resolve l' = .ok p := by
  obtain ⟨code, located⟩ : ∃ code, d.routes.find l = .ok code := by
    unfold resolve at found
    split at found
    · cases found
    · exact ⟨_, ‹_›⟩
  have located' : d.routes.find l' = .ok code := by
    rw [Route.Table.find_eq_ok_iff] at located ⊢
    rwa [← same]
  unfold resolve at found ⊢
  rw [located] at found
  rw [located']
  dsimp only at found ⊢
  split at found
  · cases found
    rfl
  · cases found

theorem planFor_of_segments {op : Operation} (same : l.segments = l'.segments)
    (found : d.planFor op l = .ok p) : d.planFor op l' = .ok p := by
  rw [planFor_eq_ok_iff] at found ⊢
  exact ⟨resolve_of_segments same found.1, found.2⟩

end Dispatch

namespace Plan

variable {p : Plan} {l l' : Locator}

theorem bindSegments_of_segments (same : l.segments = l'.segments) {bs : List Document.Binding}
    {s s' : Sql.Selection} (h : bindSegments l bs s = .ok s') : bindSegments l' bs s = .ok s' := by
  induction bs generalizing s with
  | nil => exact h
  | cons b bs ih =>
    unfold bindSegments at h ⊢
    rw [← same]
    split at h
    · cases h
    · split at h
      · cases h
      · exact ih h

theorem joinedTable_of_fragments {op : Operation} (fragments : p.SameFragments op l l') :
    p.joinedTable op l' = p.joinedTable op l := by
  have joins := fragments.2
  unfold joinedTable
  cases hook : p.joinHook with
  | none => rfl
  | some hook =>
    rw [hook, Option.map_some, Option.map_some, Option.some.injEq] at joins
    simp only [joins]

/-- A selection is the same for all spellings that the hooks answer alike. -/
theorem selection_of_segments {op : Operation} (same : l.segments = l'.segments)
    (fragments : p.SameFragments op l l') {condition : Option String} {args : List String}
    {s : Sql.Selection} (h : p.selection op l condition args = .ok s) :
    p.selection op l' condition args = .ok s := by
  obtain ⟨s₁, s₂, s₃, s₄, bound, declared, caller, hooked, rfl⟩ := stages_of_selection h
  rw [fragments.1] at hooked
  unfold selection
  dsimp only
  by_cases pattern : p.endpoint.isPattern
  · rw [if_pos pattern] at bound ⊢
    rw [bindSegments_of_segments same bound]
    simp only [bind, Except.bind, declared, caller, hooked, Except.mapError,
      joinedTable_of_fragments fragments]
    rfl
  · rw [if_neg pattern] at bound ⊢
    cases bound
    simp only [bind, Except.bind, declared, caller, hooked, Except.mapError,
      joinedTable_of_fragments fragments]
    rfl

end Plan

/-! ## Queries -/

/-- A query answers with the locator to watch. Any other spelling is answered with the same records,
and with its own text. -/
theorem Dispatch.query_watch {d : Dispatch} {l : Locator} {p : Plan}
    (found : d.resolve l = .ok p) {q : Lookup} {s t : Session} {f : Found}
    (h : (d.query l q).run s = .ok f t) :
    f.watch = p.watched l ∧ ∀ l', l.segments = l'.segments → p.SameFragments .query l l' →
      (d.query l' q).run s = .ok { f with watch := p.watched l' } t := by
  obtain ⟨p', planned, h⟩ := Action.ok_of_ofExcept_bind h
  obtain rfl := Dispatch.planFor_resolve found planned
  obtain ⟨selection, selected, h⟩ := Action.ok_of_ofExcept_bind h
  obtain ⟨_, u, reached, h⟩ := Action.ok_of_bind h
  obtain ⟨statement, composed, h⟩ := Action.ok_of_ofExcept_bind h
  obtain ⟨outcome, v, issued, h⟩ := Action.ok_of_bind h
  cases h
  refine ⟨rfl, fun l' same fragments => ?_⟩
  rw [Dispatch.query, planFor_of_segments same planned, Action.ofExcept_ok, pure_bind,
    Plan.selection_of_segments same fragments selected, Action.ofExcept_ok, pure_bind,
    EStateM.run_bind, reached]
  simp only [Action.composed, composed, Action.ofExcept_ok, pure_bind, EStateM.run_bind, issued]
  rfl

/-! ## Changes -/

/-- The mutation that an operation makes. -/
def BatchOperation.mutation : BatchOperation → Mutation
  | .insert .. => .insert
  | .update .. => .update
  | .delete .. => .delete

/-- The mutation that a call makes, and where. -/
def Call.mutation? : Call → Option (Mutation × Locator)
  | .change op => some (op.mutation, op.locator)
  | .bulkInsert l _ => some (.bulkInsert, l)
  | _ => none

/-- How many rows a call reports to have changed. -/
def Answer.count : Answer → Nat
  | .changed r => r.count
  | .added n => n
  | _ => 0

/-- How many rows a call changes, as the database reports it. -/
def Dispatch.rowsChanged (d : Dispatch) (s : Session) : Call → Nat
  | .change op => d.rowsAffected s.database op
  | .bulkInsert l records =>
    match d.planFor .insert l with
    | .error _ => 0
    | .ok p => ((s.database.begin.reported
        (records.map (Sql.insert p.endpoint.table))).map Prod.fst).getD 0
  | _ => 0

theorem Plan.targets_unhooked {p : Plan} {n : Notice} (unhooked : p.notify n.mutation = .none) :
    p.targets n = [n.locator.raw] := by
  simp [Plan.targets, unhooked, Assigned.hook?]

theorem Plan.affected_unhooked {p : Plan} {m : Mutation} (unhooked : p.notify m = .none)
    {l : Locator} {r : Option Record} {n : Nat} {s : Sql.Selection}
    (rows : n ≠ 0) : (p.affected m l r n s).targets = [l.raw] := by
  rw [Plan.affected, if_neg rows]
  exact Plan.targets_unhooked (n := ⟨m, l, r, [], [], n, s.condition, s.args⟩) unhooked

namespace Dispatch

variable {d : Dispatch} {p : Plan} {s t : Session}

theorem prepare_unhooked {op : BatchOperation} {r : Prepared} (prepared : d.prepare op = .ok r)
    (found : d.resolve op.locator = .ok p) (unhooked : p.notify op.mutation = .none) {n : Nat}
    {id : Int} (rows : (r.result n id).answer.count ≠ 0) :
    (r.result n id).targets = [op.locator.raw] := by
  obtain ⟨p', planned, prepares⟩ := prepares_of_prepare prepared
  obtain rfl := Dispatch.planFor_resolve found planned
  cases prepares with
  | @insert l record _ =>
    exact Plan.targets_unhooked (n := ⟨.insert, l, some record, [], [id], 1, "", []⟩) unhooked
  | update => exact Plan.affected_unhooked unhooked rows
  | delete => exact Plan.affected_unhooked unhooked rows

theorem count_ne_zero_of_prepare {op : BatchOperation} {r : Prepared}
    (prepared : d.prepare op = .ok r) {n : Nat} (rows : n ≠ 0) (id : Int) :
    (r.result n id).answer.count ≠ 0 := by
  obtain ⟨p, -, prepares⟩ := prepares_of_prepare prepared
  cases prepares with
  | insert => exact Nat.one_ne_zero
  | update => exact rows
  | delete => exact rows

/-- A call that changes rows reports that it does. -/
theorem count_of_rowsChanged {c : Call} {a : Answer} (h : (d.call c).run s = .ok a t)
    (rows : d.rowsChanged s c ≠ 0) : a.count ≠ 0 := by
  cases c with
  | query | typeOf | batch => exact absurd rfl rows
  | change op =>
    obtain ⟨r, u, h, answered⟩ := Action.ok_of_bind h
    cases answered
    obtain ⟨changed, v, made, rfl, -⟩ := applyAlone_ok h
    obtain ⟨r, outcome, prepared, answer, rfl, -⟩ := applyOne_ok made
    rw [rowsChanged, rowsAffected, prepared] at rows
    simp only [answer] at rows
    exact count_ne_zero_of_prepare prepared rows _
  | bulkInsert l records =>
    obtain ⟨n, u, h, answered⟩ := Action.ok_of_bind h
    cases answered
    obtain ⟨p, planned, h⟩ := Action.ok_of_ofExcept_bind h
    obtain ⟨_, -, h⟩ := Action.ok_of_ofExcept_bind h
    obtain ⟨changed, v, made, h⟩ := Action.ok_of_bind h
    rw [Changed.announce_run] at h
    cases h
    obtain ⟨-, w, inside, -, -⟩ := Action.transaction_ok_iff.1 made
    obtain ⟨ids, x, -, inside⟩ := Action.ok_of_bind inside
    cases inside
    -- Without records nothing is changed.
    intro none
    obtain rfl := List.eq_nil_of_length_eq_zero none
    rw [rowsChanged, planned] at rows
    exact rows rfl

/-- A change of rows is signalled at the text of its locator if no hook chooses another. -/
theorem signals_unhooked {c : Call} {m : Mutation} {l : Locator} (makes : c.mutation? = some (m, l))
    (found : d.resolve l = .ok p) (unhooked : p.notify m = .none) {a : Answer}
    (h : (d.call c).run s = .ok a t) (rows : a.count ≠ 0) : t.signals = s.signals ++ [l.raw] := by
  cases c with
  | query => cases makes
  | typeOf => cases makes
  | batch => cases makes
  | change op =>
    cases makes
    obtain ⟨r, u, h, answered⟩ := Action.ok_of_bind h
    cases answered
    obtain ⟨changed, v, made, rfl, rfl⟩ := applyAlone_ok h
    obtain ⟨r, outcome, prepared, -, rfl, -⟩ := applyOne_ok made
    rw [Session.signals_signal, applyOne_signals made,
      prepare_unhooked prepared found unhooked rows]
  | bulkInsert l records =>
    cases makes
    obtain ⟨n, u, h, answered⟩ := Action.ok_of_bind h
    cases answered
    have signals := d.signals_bulkInsert l records s
    rw [Action.after, h] at signals
    obtain ⟨p', planned, -⟩ := Action.ok_of_ofExcept_bind h
    obtain rfl := Dispatch.planFor_resolve found planned
    simp only [planned, ← Plan.targets_eq] at signals
    rwa [Plan.targets_unhooked (by exact unhooked)] at signals

end Dispatch

/-! ## Spellings -/

/-- Where no locator and no hook is configured, a query watches the text of its own locator and a
call that reports rows is signalled at the text of its own, whatever other spellings lead to the same
records. A call reports rows if the database says that it changed some. -/
theorem watched_as_spelled {d : Dispatch} {l l' : Locator} {p : Plan} {m : Mutation}
    (same : l.segments = l'.segments) (found : d.resolve l = .ok p)
    (unlocated : p.notificationUri = none) (unhooked : p.notify m = .none) :
    d.resolve l' = .ok p ∧
    (∀ q s f t, (d.query l q).run s = .ok f t → f.watch = l.raw ∧
      (p.SameFragments .query l l' →
        (d.query l' q).run s = .ok { f with watch := l'.raw } t)) ∧
    (∀ c s a t, c.mutation? = some (m, l') → (d.call c).run s = .ok a t → a.count ≠ 0 →
      t.signals = s.signals ++ [l'.raw]) ∧
    (∀ c s a t, (d.call c).run s = .ok a t → d.rowsChanged s c ≠ 0 → a.count ≠ 0) ∧
    (∀ q s f t, (d.query l q).run s = .ok f t →
      ∀ c s' a t', c.mutation? = some (m, l') → (d.call c).run s' = .ok a t' → a.count ≠ 0 →
        (t'.signals = s'.signals ++ [f.watch] ↔ l = l')) := by
  have found' := Dispatch.resolve_of_segments same found
  have watched (l : Locator) : p.watched l = l.raw := by
    rw [Plan.watched, unlocated, Option.getD_none]
  refine ⟨found', fun q s f t h => ?_, fun c s a t makes h rows =>
    Dispatch.signals_unhooked makes found' unhooked h rows,
    fun c s a t h rows => Dispatch.count_of_rowsChanged h rows,
    fun q s f t h c s' a t' makes h' rows => ?_⟩
  · obtain ⟨watch, others⟩ := Dispatch.query_watch found h
    refine ⟨watch.trans (watched l), fun fragments => ?_⟩
    rw [← watched l']
    exact others l' same fragments
  · rw [(Dispatch.query_watch found h).1, watched,
      Dispatch.signals_unhooked makes found' unhooked h' rows, List.append_cancel_left_eq,
      List.cons.injEq]
    constructor
    · rintro ⟨spelled, -⟩
      exact (congrArg Locator.mk spelled).symm
    · rintro rfl
      exact ⟨rfl, rfl⟩

namespace Tasks

/-- Asks for all tasks. -/
def everything : Lookup :=
  ⟨[], none, [], none⟩

/-- Adds a task at a locator. -/
def addAt (locator : String) : Call :=
  .change (.insert ⟨locator⟩ (task "plan"))

/-- A query watches one locator, and a call that changes rows is signalled at another one. -/
def parts (watch signal : String) (query : EStateM.Result ProviderError Session Found)
    (call : EStateM.Result ProviderError Session Answer) : Bool :=
  match query, call with
  | .ok f _, .ok a t => f.watch = watch && a.count ≠ 0 && t.signals = [signal]
  | _, _ => false

theorem exists_of_parts {watch signal : String} {query : EStateM.Result ProviderError Session Found}
    {call : EStateM.Result ProviderError Session Answer} (h : parts watch signal query call) :
    ∃ f s a t, query = .ok f s ∧ call = .ok a t ∧ f.watch = watch ∧ a.count ≠ 0 ∧
      t.signals = [signal] := by
  cases query with
  | error e s => cases h
  | ok f s =>
    cases call with
    | error e t => cases h
    | ok a t =>
      simp only [parts, Bool.and_eq_true, decide_eq_true_eq] at h
      exact ⟨f, s, a, t, rfl, rfl, h.1.1, h.1.2, h.2⟩

/-- All spellings of the path of all tasks lead to one plan. -/
theorem resolve_all (l : Locator) (segments : l.segments = ["tasks"]) :
    compiled.dispatch.resolve l = .ok whole :=
  Dispatch.resolve_of_segments (l := ⟨"tasks"⟩) (by rw [segments]; decide +kernel) rfl

end Tasks

/-- One spelling on both sides is enough. -/
theorem watched_as_spelled_tasks :
    ∃ c p, Tasks.document.compile Tasks.hooks = .ok c ∧
      Locator.segments ⟨"/tasks/"⟩ = Locator.segments ⟨"/tasks/"⟩ ∧
      c.dispatch.resolve ⟨"/tasks/"⟩ = .ok p ∧ p.notificationUri = none ∧
      p.notify .insert = .none ∧
      ∃ f t a t', (c.dispatch.query ⟨"/tasks/"⟩ Tasks.everything).run Tasks.session = .ok f t ∧
        (c.dispatch.call (Tasks.addAt "/tasks/")).run Tasks.session = .ok a t' ∧
        t'.signals = Tasks.session.signals ++ [f.watch] := by
  have found := Tasks.resolve_all ⟨"/tasks/"⟩ (by decide +kernel)
  obtain ⟨f, t, a, t', asked, called, -, rows, -⟩ : ∃ f t a t',
      (Tasks.compiled.dispatch.query ⟨"/tasks/"⟩ Tasks.everything).run Tasks.session = .ok f t ∧
      (Tasks.compiled.dispatch.call (Tasks.addAt "/tasks/")).run Tasks.session = .ok a t' ∧
      f.watch = "/tasks/" ∧ a.count ≠ 0 ∧ t'.signals = ["/tasks/"] :=
    Tasks.exists_of_parts (by decide +kernel)
  have unhooked : Tasks.whole.notify .insert = .none := rfl
  obtain ⟨-, -, -, -, agree⟩ := watched_as_spelled rfl found rfl unhooked
  exact ⟨Tasks.compiled, _, Tasks.compiles, rfl, found, rfl, unhooked, f, t, a, t', asked, called,
    (agree _ _ _ _ asked _ _ _ _ rfl called rows).2 rfl⟩

/-- Who watches what a query reports is not told of a task that is added by another spelling. -/
theorem watched_apart :
    ∃ c p, Tasks.document.compile Tasks.hooks = .ok c ∧
      Locator.segments ⟨"tasks"⟩ = Locator.segments ⟨"/tasks/"⟩ ∧
      c.dispatch.resolve ⟨"tasks"⟩ = .ok p ∧ c.dispatch.resolve ⟨"/tasks/"⟩ = .ok p ∧
      p.notificationUri = none ∧ p.notify .insert = .none ∧
      ∃ f t a t', (c.dispatch.query ⟨"tasks"⟩ Tasks.everything).run Tasks.session = .ok f t ∧
        (c.dispatch.call (Tasks.addAt "/tasks/")).run Tasks.session = .ok a t' ∧
        f.watch = "tasks" ∧ a.count ≠ 0 ∧ t'.signals = ["/tasks/"] := by
  have found := Tasks.resolve_all ⟨"tasks"⟩ (by decide +kernel)
  have same : Locator.segments ⟨"tasks"⟩ = Locator.segments ⟨"/tasks/"⟩ := by decide +kernel
  exact ⟨Tasks.compiled, _, Tasks.compiles, same, found, Dispatch.resolve_of_segments same found,
    rfl, rfl, Tasks.exists_of_parts (by decide +kernel)⟩

end ResourceProvider
