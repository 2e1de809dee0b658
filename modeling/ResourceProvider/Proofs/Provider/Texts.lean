import Mathlib.Data.List.Sort
import Mathlib.Data.String.Basic
import ResourceProvider.Proofs.Provider.Signals
import ResourceProvider.Proofs.Schema.Names
import ResourceProvider.Proofs.Sql.Building
/-!
# What statements say

A call is made step by step, and each step issues at most one statement: `Call.steps` and
`Dispatch.text?`. Whatever the database answers, the statements of a call are the texts of its
first steps (`Dispatch.call_issues`). Steps that differ in values only have the same text, and a
step names no columns but those of its table (`texts_blind`).
-/
namespace ResourceProvider

open Route (Locator)
open Sql (Selection)

/-! ## Steps -/

/-- A part of a call that issues one statement. -/
inductive Step where
  | lookup (l : Locator) (q : Lookup)
  | change (op : BatchOperation)

/-- The steps of a call; a bulk insertion inserts its records one by one. -/
def Call.steps : Call → List Step
  | .query l q => [.lookup l q]
  | .typeOf _ => []
  | .change op => [.change op]
  | .bulkInsert l records => records.map fun r => .change (.insert l r)
  | .batch ops => ops.map .change

/-- The statement of a step, unless it is refused before anything is issued. -/
def Dispatch.compose (d : Dispatch) : Step → Except ProviderError Sql.Statement
  | .lookup l q => do
    let p ← d.planFor .query l
    let s ← p.selection .query l q.condition q.args
    (s.query q.projection (p.shape q.sort)).mapError .composition
  | .change op => do return (← d.prepare op).statement

theorem Dispatch.compose_of_prepare {d : Dispatch} {op : BatchOperation} {r : Prepared}
    (prepared : d.prepare op = .ok r) : d.compose (.change op) = .ok r.statement := by
  rw [compose, prepared]
  rfl

/-- The text of the statement of a step. -/
def Dispatch.text? (d : Dispatch) (step : Step) : Option String :=
  (d.compose step).toOption.map Sql.Statement.text

/-- The statements that a call issues, in order. -/
def Dispatch.issued (d : Dispatch) (c : Call) (s : Session) : List String :=
  ((d.call c).after s).statements.drop s.statements.length

/-! ## What actions issue -/

namespace Action

variable {α β : Type}

/-- An action issues the given texts, or the first of them if it fails; one that is missing stands
for a failure. -/
def Issues (x : Action α) (texts : List (Option String)) : Prop :=
  ∀ s, ∃ issued : List String, (x.after s).statements = s.statements ++ issued ∧
    match x.run s with
    | .ok .. => issued.map some = texts
    | .error .. => issued.map some <+: texts

namespace Issues

theorem pure (a : α) : Issues (pure a : Action α) [] :=
  fun _ => ⟨[], (List.append_nil _).symm, rfl⟩

theorem throw (e : ProviderError) (texts : List (Option String)) :
    Issues (throw e : Action α) texts :=
  fun _ => ⟨[], (List.append_nil _).symm, List.nil_prefix⟩

theorem get : Issues (get : Action Session) [] :=
  fun _ => ⟨[], (List.append_nil _).symm, rfl⟩

theorem bind {x : Action α} {f : α → Action β} {xs ys : List (Option String)} (hx : Issues x xs)
    (hf : ∀ a, Issues (f a) ys) : Issues (x >>= f) (xs ++ ys) := by
  intro s
  obtain ⟨first, after, texts⟩ := hx s
  unfold Action.after at after ⊢
  rw [EStateM.run_bind]
  cases h : x.run s with
  | error e t =>
    rw [h] at after texts
    exact ⟨first, after, texts.trans (List.prefix_append _ _)⟩
  | ok a t =>
    rw [h] at after texts
    obtain ⟨more, after', texts'⟩ := hf a t
    unfold Action.after at after'
    refine ⟨first ++ more, by rw [after', after, List.append_assoc], ?_⟩
    rw [List.map_append, texts]
    dsimp only
    cases hr : (f a).run t with
    | ok b u =>
      rw [hr] at texts'
      exact congrArg (xs ++ ·) texts'
    | error e u =>
      rw [hr] at texts'
      exact (List.prefix_append_right_inj xs).2 texts'

/-- What follows a result that may be missing issues nothing if it is. -/
theorem ofExcept_bind {x : Except ProviderError α} {f : α → Action β}
    {texts : List (Option String)} (h : ∀ a, x = .ok a → Issues (f a) texts) :
    Issues (ofExcept x >>= f) texts := by
  cases x with
  | error e => exact throw e texts
  | ok a => exact h a rfl

theorem wrap {x : Action α} {texts : List (Option String)} (h : Issues x texts) (f : α → β) :
    Issues (do return f (← x)) texts := by
  have both := h.bind fun a => pure (f a)
  rwa [List.append_nil] at both

theorem reach : Issues reach [] := by
  intro s
  unfold Action.after
  cases h : s.isOpen with
  | false =>
    rw [reach_closed h]
    exact ⟨[], (List.append_nil _).symm, List.nil_prefix⟩
  | true =>
    rw [reach_run h]
    exact ⟨[], (List.append_nil _).symm, rfl⟩

theorem issue (statement : Sql.Statement) : Issues (issue statement) [some statement.text] := by
  intro s
  unfold Action.after
  cases h : s.isOpen with
  | false =>
    refine ⟨[], ?_, ?_⟩ <;> simp [Action.issue, EStateM.run_bind, reach_closed h]
  | true =>
    rw [issue_run statement h]
    refine ⟨[statement.text], ?_⟩
    cases hans : s.database.answer statement with
    | mk db answer => cases answer <;> simp

theorem signal (locators : List String) : Issues (signal locators) [] := by
  intro s
  refine ⟨[], ?_, ?_⟩ <;> simp [Action.after, signal_run]

theorem announce {x : Action (Changed α)} {texts : List (Option String)} (h : Issues x texts) :
    Issues (x >>= Changed.announce) texts := by
  have both := h.bind fun c => (signal c.targets).bind fun _ => pure c.answer
  rwa [List.append_nil, List.append_nil] at both

theorem mapM {f : α → Action β} {text : α → Option String} {xs : List α}
    (h : ∀ x ∈ xs, Issues (f x) [text x]) : Issues (xs.mapM f) (xs.map text) := by
  induction xs with
  | nil => exact pure []
  | cons x xs ih =>
    rw [List.forall_mem_cons] at h
    rw [List.mapM_cons, List.map_cons]
    exact h.1.bind fun _ => (ih h.2).wrap _

/-- What is undone was issued all the same. -/
theorem transaction {x : Action α} {texts : List (Option String)} (h : Issues x texts) :
    Issues (transaction x) texts := by
  intro s
  unfold Action.after
  cases isOpen : s.isOpen with
  | false =>
    rw [transaction_closed x isOpen]
    exact ⟨[], (List.append_nil _).symm, List.nil_prefix⟩
  | true =>
    obtain ⟨issued, after, texts⟩ := h s.begun
    unfold Action.after at after
    rw [transaction_run x isOpen]
    refine ⟨issued, ?_⟩
    cases hr : x.run s.begun with
    | ok a t =>
      rw [hr] at after texts
      dsimp only
      cases s.database.isOverdue t.database with
      | true => exact ⟨after, texts ▸ List.prefix_rfl⟩
      | false => exact ⟨after, texts⟩
    | error e t =>
      rw [hr] at after texts
      exact ⟨after, texts⟩

end Issues

end Action

/-! ## What calls issue -/

open ResourceProvider.Action (Issues)

namespace Dispatch

theorem text?_of_compose {d : Dispatch} {step : Step} {statement : Sql.Statement}
    (h : d.compose step = .ok statement) : d.text? step = some statement.text := by
  rw [text?, h]
  rfl

theorem applyOne_issues (d : Dispatch) (op : BatchOperation) :
    Issues (d.applyOne op) [d.text? (.change op)] := by
  rw [d.applyOne_eq op]
  refine Issues.ofExcept_bind fun r hr => ?_
  rw [text?_of_compose (compose_of_prepare hr)]
  exact (Issues.issue r.statement).bind fun _ => Issues.get.bind fun _ => Issues.pure _

theorem applyAlone_issues (d : Dispatch) (op : BatchOperation) :
    Issues (d.applyAlone op) [d.text? (.change op)] := by
  intro s
  unfold Action.after
  cases h : s.isOpen with
  | false =>
    obtain ⟨e, he, -⟩ := d.applyAlone_closed op h
    rw [he]
    exact ⟨[], (List.append_nil _).symm, List.nil_prefix⟩
  | true =>
    rw [d.applyAlone_run op h]
    exact (d.applyOne_issues op).announce s

theorem query_issues (d : Dispatch) (l : Locator) (q : Lookup) :
    Issues (d.query l q) [d.text? (.lookup l q)] := by
  refine Issues.ofExcept_bind fun p hp => Issues.ofExcept_bind fun s hs => ?_
  refine Issues.reach.bind fun _ => Issues.ofExcept_bind fun statement hstatement => ?_
  have composed : d.compose (.lookup l q) = .ok statement := by
    rw [compose, hp, ← hstatement]
    change (p.selection .query l q.condition q.args >>= _) = _
    rw [hs]
    rfl
  rw [text?_of_compose composed]
  exact (Issues.issue statement).bind fun _ => Issues.pure _

theorem checkRecord_of_forM {p : Plan} {records : List Record} {u : Unit}
    (h : records.forM p.checkRecord = .ok u) : ∀ r ∈ records, p.checkRecord r = .ok () := by
  induction records with
  | nil => simp
  | cons r records ih =>
    obtain ⟨_, first, rest⟩ := ok_of_bind h
    exact List.forall_mem_cons.2 ⟨first, ih rest⟩

theorem bulkInsert_issues (d : Dispatch) (l : Locator) (records : List Record) :
    Issues (d.bulkInsert l records)
      (records.map fun r => d.text? (.change (.insert l r))) := by
  refine Issues.ofExcept_bind fun p hp => Issues.ofExcept_bind fun _ checked => ?_
  have composed : ∀ r ∈ records,
      d.compose (.change (.insert l r)) = .ok (Sql.insert p.endpoint.table r) := by
    intro r hr
    have prepared : d.prepare (.insert l r) = p.prepare (.insert l r) := by
      rw [prepare, BatchOperation.operation, BatchOperation.locator, hp]
      rfl
    rw [compose, prepared, Plan.prepare, checkRecord_of_forM checked r hr]
    rfl
  refine Issues.announce (Issues.transaction (Issues.wrap (Issues.mapM fun r hr => ?_) _))
  rw [text?_of_compose (composed r hr)]
  exact (Issues.issue _).bind fun _ => Issues.get.bind fun _ => Issues.pure _

theorem applyBatch_issues (d : Dispatch) (ops : List BatchOperation) :
    Issues (d.applyBatch ops) (ops.map fun op => d.text? (.change op)) := by
  have made := (Issues.mapM fun op (_ : op ∈ ops) => d.applyOne_issues op).transaction
  have both := made.bind fun changed =>
    (Issues.signal (changed.flatMap Changed.targets)).wrap fun _ => changed.map Changed.answer
  rwa [List.append_nil] at both

/-- A call issues the texts of its steps one after another, as far as it gets. -/
theorem call_issues (d : Dispatch) (c : Call) : Issues (d.call c) (c.steps.map d.text?) := by
  cases c with
  | query l q => exact (d.query_issues l q).wrap _
  | typeOf l =>
    exact Issues.ofExcept_bind fun name _ => Issues.pure (Answer.type name)
  | change op => exact (d.applyAlone_issues op).wrap _
  | bulkInsert l records =>
    rw [Call.steps, List.map_map]
    exact (d.bulkInsert_issues l records).wrap _
  | batch ops =>
    rw [Call.steps, List.map_map]
    exact (d.applyBatch_issues ops).wrap _

/-- Each statement of a call is the text of the step at its position. -/
theorem exists_step_of_issued {d : Dispatch} {c : Call} {s : Session} {k : Nat} {x : String}
    (h : (d.issued c s)[k]? = some x) :
    ∃ step, c.steps[k]? = some step ∧ d.text? step = some x := by
  obtain ⟨issued, after, texts⟩ := d.call_issues c s
  have first : issued.map some <+: c.steps.map d.text? := by
    cases hr : (d.call c).run s with
    | ok a t =>
      rw [hr] at texts
      exact texts ▸ List.prefix_refl _
    | error e t =>
      rw [hr] at texts
      exact texts
  rw [Dispatch.issued, after, List.drop_left] at h
  obtain ⟨bound, same⟩ := List.getElem?_eq_some_iff.1 h
  have text := List.prefix_iff_getElem?.1 first k (by simpa using bound)
  rw [List.getElem_map, same, List.getElem?_map] at text
  exact Option.map_eq_some_iff.1 text

end Dispatch

/-! ## Steps that differ in values -/

/-- Two records give values to the same columns. -/
def Record.SameColumns (r r' : Record) : Prop :=
  r.IsOrdered ∧ r'.IsOrdered ∧ ∀ c, c ∈ r.columns ↔ c ∈ r'.columns

theorem Record.SameColumns.eq {r r' : Record} (h : r.SameColumns r') : r.columns = r'.columns :=
  h.1.eq_of_mem_iff h.2.1 h.2.2

/-- Where a step is made. -/
def Step.locator : Step → Locator
  | .lookup l _ => l
  | .change op => op.locator

/-- What a plan must allow for a step. -/
def Step.operation : Step → Operation
  | .lookup .. => .query
  | .change op => op.operation

/-- Two steps ask for the same, up to values: the same columns, conditions and sort. -/
def Step.SameTerms : Step → Step → Prop
  | .lookup _ q, .lookup _ q' =>
    q.projection = q'.projection ∧ q.condition = q'.condition ∧ q.sort = q'.sort
  | .change (.insert _ r), .change (.insert _ r') => r.SameColumns r'
  | .change (.update _ r f), .change (.update _ r' f') =>
    r.SameColumns r' ∧ f.condition = f'.condition
  | .change (.delete _ f), .change (.delete _ f') => f.condition = f'.condition
  | _, _ => False

/-- The filter hook and the join hook of a plan give the same texts at two locators. -/
def Plan.SameFragments (p : Plan) (op : Operation) (l l' : Locator) : Prop :=
  p.filterHook.map (fun hook => hook op l) = p.filterHook.map (fun hook => hook op l') ∧
    p.joinHook.map (fun hook => hook op l) = p.joinHook.map (fun hook => hook op l')

/-- Two steps at one endpoint differ in values only: those of their records, the arguments of
their conditions, and the segments of their locators. An insertion asks no hook for texts. -/
def Dispatch.Alike (d : Dispatch) (a b : Step) : Prop :=
  a.SameTerms b ∧ ∃ p, d.resolve a.locator = .ok p ∧ d.resolve b.locator = .ok p ∧
    (a.operation ≠ .insert → p.SameFragments a.operation a.locator b.locator)

/-- Two selections differ in their arguments only. -/
def Sql.Selection.SameTexts (s s' : Selection) : Prop :=
  s.table = s'.table ∧ s.condition = s'.condition ∧ s.aliases = s'.aliases

namespace Sql.Selection.SameTexts

variable {s s' t t' : Selection}

theorem filter (same : s.SameTexts s') {f : String} {args args' : List String}
    (h : s.filter f args = .ok t) (h' : s'.filter f args' = .ok t') : t.SameTexts t' := by
  obtain ⟨table, condition, aliases⟩ := same
  unfold Selection.filter at h h'
  by_cases blank : Text.isBlank f
  · simp only [blank, if_true] at h h'
    split at h
    · split at h'
      · cases h
        cases h'
        exact ⟨table, condition, aliases⟩
      · cases h'
    · cases h
  · simp only [blank] at h h'
    cases h
    cases h'
    exact ⟨table, by simp only [condition], aliases⟩

theorem filterAll (same : s.SameTexts s') {fs : List String} (h : s.filterAll fs = .ok t)
    (h' : s'.filterAll fs = .ok t') : t.SameTexts t' := by
  induction fs generalizing s s' with
  | nil =>
    cases h
    cases h'
    exact same
  | cons f fs ih =>
    unfold Selection.filterAll at h h'
    split at h
    · cases h
    · rename_i first
      split at h'
      · cases h'
      · rename_i first'
        exact ih (same.filter first first') h h'

theorem bindSegments (same : s.SameTexts s') {l l' : Locator} {bs : List Document.Binding}
    (h : Plan.bindSegments l bs s = .ok t) (h' : Plan.bindSegments l' bs s' = .ok t') :
    t.SameTexts t' := by
  induction bs generalizing s s' with
  | nil =>
    cases h
    cases h'
    exact same
  | cons b bs ih =>
    unfold Plan.bindSegments at h h'
    split at h
    · cases h
    · split at h
      · cases h
      · rename_i first
        split at h'
        · cases h'
        · split at h'
          · cases h'
          · rename_i first'
            exact ih (same.filter first first') h h'

end Sql.Selection.SameTexts

/-- The stages of a selection: the bound segments, the filters of the endpoint, the condition of the
caller, and the filter hook. -/
theorem Plan.stages_of_selection {p : Plan} {op : Operation} {l : Locator}
    {condition : Option String} {args : List String} {s : Selection}
    (h : p.selection op l condition args = .ok s) :
    ∃ s₁ s₂ s₃ s₄,
      (if p.endpoint.isPattern then bindSegments l p.endpoint.bindings
        (p.aliases.foldl (fun s a => s.withAlias a.1 a.2) Selection.empty)
      else .ok (p.aliases.foldl (fun s a => s.withAlias a.1 a.2) Selection.empty)) = .ok s₁ ∧
      s₁.filterAll p.endpoint.filters = .ok s₂ ∧ s₂.filter (condition.getD "") args = .ok s₃ ∧
      s₃.filterAll ((p.filterHook.map fun hook => hook op l).getD []) = .ok s₄ ∧
      s = s₄.fromTable (if op = .query then p.joinedTable op l else p.endpoint.table) := by
  unfold Plan.selection at h
  dsimp only at h
  split at h
  all_goals
    rename_i pattern
    obtain ⟨s₁, bound, h⟩ := ok_of_bind h
    obtain ⟨s₂, declared, h⟩ := ok_of_bind h
    obtain ⟨s₃, caller, h⟩ := ok_of_bind h
    obtain ⟨s₄, hooked, h⟩ := ok_of_bind h
    cases h
    exact ⟨s₁, s₂, s₃, s₄, by simpa [pattern] using bound, ok_of_mapError declared,
      ok_of_mapError caller, ok_of_mapError hooked, rfl⟩

/-- The texts of a selection come from the plan, its hooks and the condition of the caller. -/
theorem Plan.selection_texts {p : Plan} {op : Operation} {l l' : Locator}
    (fragments : p.SameFragments op l l') {condition : Option String} {args args' : List String}
    {s s' : Selection} (h : p.selection op l condition args = .ok s)
    (h' : p.selection op l' condition args' = .ok s') : s.SameTexts s' := by
  obtain ⟨s₁, s₂, s₃, s₄, bound, declared, caller, hooked, rfl⟩ := stages_of_selection h
  obtain ⟨s₁', s₂', s₃', s₄', bound', declared', caller', hooked', rfl⟩ := stages_of_selection h'
  have first : s₁.SameTexts s₁' := by
    split at bound
    · rename_i pattern
      rw [if_pos pattern] at bound'
      exact Selection.SameTexts.bindSegments ⟨rfl, rfl, rfl⟩ bound bound'
    · rename_i literal
      rw [if_neg literal] at bound'
      cases bound
      cases bound'
      exact ⟨rfl, rfl, rfl⟩
  rw [fragments.1] at hooked
  obtain ⟨-, conditions, aliases⟩ :=
    ((first.filterAll declared declared').filter caller caller').filterAll hooked hooked'
  have joined : p.joinedTable op l = p.joinedTable op l' := by
    have joins := fragments.2
    unfold Plan.joinedTable
    cases hook : p.joinHook with
    | none => rfl
    | some hook =>
      rw [hook, Option.map_some, Option.map_some, Option.some.injEq] at joins
      simp only [joins]
  exact ⟨by simp only [Selection.fromTable, joined], conditions, aliases⟩

/-! ## The wording of statements -/

theorem Record.map_columns (r : Record) (f : String → String) :
    r.columns.map f = List.map (fun c => f c.1) r :=
  List.map_map

namespace Sql

/-- Adds a row, column by column. -/
def insertText (table : String) (columns : List String) : String :=
  if columns = [] then "INSERT INTO " ++ table ++ " DEFAULT VALUES"
  else "INSERT INTO " ++ table ++ " (" ++ Text.join ", " columns ++ ") VALUES (" ++
    Text.join ", " (columns.map fun _ => "?") ++ ")"

/-- Sets columns; the conditions follow. -/
def updateText (table : String) (columns : List String) (rest : String) : String :=
  "UPDATE " ++ table ++ " SET " ++ Text.join ", " (columns.map fun c => c ++ "=?") ++ rest

theorem insert_text (table : String) (r : Record) :
    (insert table r).text = insertText table r.columns := by
  have empty : r.columns = [] ↔ r = [] := List.map_eq_nil_iff
  unfold insert insertText
  simp only [empty, Record.map_columns]
  split <;> rfl

namespace Selection

theorem ok_of_requiredTable {s : Selection} {f : String → Statement} {statement : Statement}
    (h : s.requiredTable.map f = .ok statement) :
    ∃ table, s.table = some table ∧ statement = f table := by
  unfold requiredTable at h
  split at h
  · rename_i table found
    cases h
    exact ⟨table, found, rfl⟩
  · cases h

theorem update_text {s : Selection} {r : Record} {statement : Statement}
    (h : s.update r = .ok statement) :
    ∃ table, s.table = some table ∧ statement.text = updateText table r.columns s.whereClause := by
  obtain ⟨table, found, rfl⟩ := ok_of_requiredTable h
  refine ⟨table, found, ?_⟩
  rw [updateText, Record.map_columns]

namespace SameTexts

variable {s s' : Selection} {statement statement' : Statement}

theorem whereClause (same : s.SameTexts s') : s.whereClause = s'.whereClause := by
  rw [Selection.whereClause, Selection.whereClause, same.2.1]

theorem query (same : s.SameTexts s') {projection : List String} {shape : Shape}
    (h : s.query projection shape = .ok statement)
    (h' : s'.query projection shape = .ok statement') : statement.text = statement'.text := by
  have projected : s.projected = s'.projected := by
    funext column
    rw [Selection.projected, Selection.projected, same.2.2]
  obtain ⟨table, found, rfl⟩ := ok_of_requiredTable h
  obtain ⟨table', found', rfl⟩ := ok_of_requiredTable h'
  obtain rfl : table = table' := by simpa [found, found'] using same.1
  simp only [projected, same.whereClause]

theorem update (same : s.SameTexts s') {r r' : Record} (columns : r.columns = r'.columns)
    (h : s.update r = .ok statement) (h' : s'.update r' = .ok statement') :
    statement.text = statement'.text := by
  obtain ⟨table, found, text⟩ := update_text h
  obtain ⟨table', found', text'⟩ := update_text h'
  obtain rfl : table = table' := by simpa [found, found'] using same.1
  rw [text, text', columns, same.whereClause]

theorem delete (same : s.SameTexts s') (h : s.delete = .ok statement)
    (h' : s'.delete = .ok statement') : statement.text = statement'.text := by
  obtain ⟨table, found, rfl⟩ := ok_of_requiredTable h
  obtain ⟨table', found', rfl⟩ := ok_of_requiredTable h'
  obtain rfl : table = table' := by simpa [found, found'] using same.1
  simp only [same.whereClause]

end SameTexts

end Selection

end Sql

/-! ## The statement of a step -/

theorem Dispatch.resolve_of_planFor {d : Dispatch} {op : Operation} {l : Locator} {p : Plan}
    (h : d.planFor op l = .ok p) : d.resolve l = .ok p := by
  unfold Dispatch.planFor at h
  split at h
  · cases h
  · rename_i found
    split at h
    · cases h
      exact found
    · cases h

/-- A plan composes a statement for a step. -/
def Plan.Composes? (p : Plan) (statement : Sql.Statement) : Step → Prop
  | .lookup l q => ∃ s, p.selection .query l q.condition q.args = .ok s ∧
      s.query q.projection (p.shape q.sort) = .ok statement
  | .change (.insert _ r) => p.checkRecord r = .ok () ∧ statement = Sql.insert p.endpoint.table r
  | .change (.update l r f) => p.checkRecord r = .ok () ∧
      ∃ s, p.selection .update l f.condition f.args = .ok s ∧ s.update r = .ok statement
  | .change (.delete l f) =>
      ∃ s, p.selection .delete l f.condition f.args = .ok s ∧ s.delete = .ok statement

theorem Dispatch.exists_plan_of_compose {d : Dispatch} {step : Step} {statement : Sql.Statement}
    (composed : d.compose step = .ok statement) :
    ∃ p, d.resolve step.locator = .ok p ∧ p.Composes? statement step := by
  cases step with
  | lookup l q =>
    obtain ⟨p, found, composed⟩ := ok_of_bind composed
    obtain ⟨s, selected, composed⟩ := ok_of_bind composed
    exact ⟨p, resolve_of_planFor found, s, selected, ok_of_mapError composed⟩
  | change op =>
    obtain ⟨r, prepared, composed⟩ := ok_of_bind composed
    obtain ⟨p, found, prepares⟩ := prepares_of_prepare prepared
    cases composed
    refine ⟨p, resolve_of_planFor found, ?_⟩
    cases prepares with
    | insert fits => exact ⟨fits, rfl⟩
    | update fits selected _ updated => exact ⟨fits, _, selected, updated⟩
    | delete selected removed => exact ⟨_, selected, removed⟩

theorem Dispatch.exists_plan_of_text? {d : Dispatch} {step : Step} {x : String}
    (h : d.text? step = some x) : ∃ p statement, d.resolve step.locator = .ok p ∧
      p.Composes? statement step ∧ statement.text = x := by
  obtain ⟨statement, composed, rfl⟩ := Option.map_eq_some_iff.1 h
  replace composed : d.compose step = .ok statement := by
    cases hc : d.compose step with
    | error e =>
      rw [hc] at composed
      cases composed
    | ok _ =>
      rw [hc] at composed
      cases composed
      rfl
  obtain ⟨p, found, composes⟩ := exists_plan_of_compose composed
  exact ⟨p, statement, found, composes, rfl⟩

/-- Steps that differ in values only have the same text. -/
theorem Dispatch.Alike.text_eq {d : Dispatch} {a b : Step} (h : d.Alike a b) {x y : String}
    (hx : d.text? a = some x) (hy : d.text? b = some y) : x = y := by
  obtain ⟨terms, p, found, found', fragments⟩ := h
  obtain ⟨q, statement, hq, composed, rfl⟩ := exists_plan_of_text? hx
  obtain ⟨q', statement', hq', composed', rfl⟩ := exists_plan_of_text? hy
  rw [found] at hq
  cases hq
  rw [found'] at hq'
  cases hq'
  rcases a with ⟨l, q⟩ | ⟨l, r⟩ | ⟨l, r, f⟩ | ⟨l, f⟩ <;>
    rcases b with ⟨l', q'⟩ | ⟨l', r'⟩ | ⟨l', r', f'⟩ | ⟨l', f'⟩ <;>
    try exact terms.elim
  · obtain ⟨projection, condition, sort⟩ := terms
    obtain ⟨s, selected, query⟩ := composed
    obtain ⟨s', selected', query'⟩ := composed'
    rw [condition] at selected
    rw [projection, sort] at query
    exact (Plan.selection_texts (fragments (by simp [Step.operation])) selected selected').query
      query query'
  · obtain ⟨-, rfl⟩ := composed
    obtain ⟨-, rfl⟩ := composed'
    rw [Sql.insert_text, Sql.insert_text, terms.eq]
  · obtain ⟨columns, condition⟩ := terms
    obtain ⟨-, s, selected, updated⟩ := composed
    obtain ⟨-, s', selected', updated'⟩ := composed'
    rw [condition] at selected
    exact (Plan.selection_texts (fragments (by simp [Step.operation, BatchOperation.operation]))
      selected selected').update columns.eq updated updated'
  · obtain ⟨s, selected, removed⟩ := composed
    obtain ⟨s', selected', removed'⟩ := composed'
    have condition : f.condition = f'.condition := terms
    rw [condition] at selected
    exact (Plan.selection_texts (fragments (by simp [Step.operation, BatchOperation.operation]))
      selected selected').delete removed removed'

/-! ## Columns of a statement -/

/-- The columns to which a step gives values. -/
def Step.columns : Step → List String
  | .change (.insert _ r) => r.columns
  | .change (.update _ r _) => r.columns
  | _ => []

/-- The text of a step: a query and a removal give values to no column, an insertion and an update
to those of their record. -/
def Step.Reads (step : Step) (table x : String) : Prop :=
  match step with
  | .lookup .. => ∃ rest, x = "SELECT " ++ rest
  | .change (.insert ..) => x = Sql.insertText table step.columns
  | .change (.update ..) => ∃ s : Selection, x = Sql.updateText table step.columns s.whereClause
  | .change (.delete ..) => ∃ s : Selection, x = "DELETE FROM " ++ table ++ s.whereClause

theorem Plan.table_of_selection {p : Plan} {op : Operation} {l : Locator}
    {condition : Option String} {args : List String} {s : Selection}
    (h : p.selection op l condition args = .ok s) (change : op ≠ .query) :
    s.table = some p.endpoint.table := by
  obtain ⟨-, -, -, s₄, -, -, -, -, rfl⟩ := stages_of_selection h
  simp [Selection.fromTable, change]

theorem Plan.reads_of_composes {p : Plan} {step : Step} {statement : Sql.Statement}
    (h : p.Composes? statement step) :
    step.Reads p.endpoint.table statement.text ∧
      ∀ column ∈ step.columns, ∃ c ∈ p.table.columns, c.name = column := by
  rcases step with ⟨l, q⟩ | ⟨l, r⟩ | ⟨l, r, f⟩ | ⟨l, f⟩
  · obtain ⟨s, -, query⟩ := h
    obtain ⟨table, -, rfl⟩ := Selection.ok_of_requiredTable query
    refine ⟨?_, by simp [Step.columns]⟩
    simp only [Step.Reads, String.append_assoc]
    exact ⟨_, rfl⟩
  · obtain ⟨fits, rfl⟩ := h
    exact ⟨Sql.insert_text _ _, Schema.exists_column (fits_of_checkRecord fits)⟩
  · obtain ⟨fits, s, selected, updated⟩ := h
    obtain ⟨table, found, text⟩ := Selection.update_text updated
    rw [table_of_selection selected (by decide), Option.some.injEq] at found
    subst found
    exact ⟨⟨s, text⟩, Schema.exists_column (fits_of_checkRecord fits)⟩
  · obtain ⟨s, selected, removed⟩ := h
    obtain ⟨table, found, rfl⟩ := Selection.ok_of_requiredTable removed
    rw [table_of_selection selected (by decide), Option.some.injEq] at found
    subst found
    exact ⟨⟨s, rfl⟩, by simp [Step.columns]⟩

/-! ## Compiled documents -/

/-- Values never get into a statement. Wherever two calls issue a statement for steps that differ in
values only, the statements are the same text, whatever the databases hold. And each statement of a
call is that of the step at its position, and gives values to no columns but those that the table of
the endpoint declares, by names that can stand as they are. -/
theorem texts_blind {doc : Document} {hooks : Hooks} {c : Compiled}
    (compiled : doc.compile hooks = .ok c) :
    (∀ (a b : Call) (i j : Nat) (step step' : Step), a.steps[i]? = some step →
      b.steps[j]? = some step' → c.dispatch.Alike step step' →
      ∀ (s t : Session) (x y : String), (c.dispatch.issued a s)[i]? = some x →
        (c.dispatch.issued b t)[j]? = some y → x = y) ∧
    ∀ (a : Call) (s : Session) (k : Nat) (x : String), (c.dispatch.issued a s)[k]? = some x →
      ∃ step p schema t, a.steps[k]? = some step ∧ c.dispatch.resolve step.locator = .ok p ∧
        Schema.ofDatabase doc.database = .ok schema ∧ schema.table? p.endpoint.table = some t ∧
        step.Reads p.endpoint.table x ∧
        ∀ column ∈ step.columns, IsName column ∧ ∃ c ∈ t.columns, c.name = column := by
  constructor
  · intro a b i j step step' ha hb alike s t x y hx hy
    obtain ⟨_, same, text⟩ := Dispatch.exists_step_of_issued hx
    obtain ⟨_, same', text'⟩ := Dispatch.exists_step_of_issued hy
    rw [ha] at same
    cases same
    rw [hb] at same'
    cases same'
    exact alike.text_eq text text'
  · intro a s k x hx
    obtain ⟨step, mem, text⟩ := Dispatch.exists_step_of_issued hx
    obtain ⟨p, statement, found, composed, rfl⟩ := Dispatch.exists_plan_of_text? text
    obtain ⟨schema, hschema, table⟩ := Document.table_compiled compiled found
    obtain ⟨reads, declared⟩ := Plan.reads_of_composes composed
    refine ⟨step, p, schema, p.table, mem, found, hschema, table, reads, fun column mem => ?_⟩
    obtain ⟨c, hc, rfl⟩ := declared column mem
    have named := (Schema.named_of_ofDatabase hschema).columns p.table
      (List.mem_of_find?_eq_some table) c hc
    exact ⟨Schema.isIdentifier_iff.1 named, c, hc, rfl⟩

namespace Tasks

/-- Renames the tasks of a list, from a number on. -/
def rename (list : String) (title start : String) : BatchOperation :=
  .update ⟨list⟩ [("title", .str title)] ⟨some "id > ?", [start]⟩

/-- A task is added before another list is renamed. -/
def renames : Call :=
  .batch [.insert ⟨"tasks"⟩ [("list", .num (.int 8))], rename "/lists/8/" "'); DELETE --" "0"]

end Tasks

/-- Two lists are renamed by one text, alone and in a batch. -/
theorem texts_blind_tasks :
    ∃ c x y, Tasks.document.compile Tasks.hooks = .ok c ∧
      (c.dispatch.issued (.change (Tasks.rename "lists/7" "plan" "1")) Tasks.session)[0]? = some x ∧
      (c.dispatch.issued Tasks.renames Tasks.session)[1]? = some y ∧ x = y ∧
      ∀ name ∈ (Step.change (Tasks.rename "lists/7" "plan" "1")).columns, IsName name := by
  have blind := texts_blind Tasks.compiles
  have issued : (Tasks.compiled.dispatch.issued (.change (Tasks.rename "lists/7" "plan" "1"))
      Tasks.session)[0]? = some ("UPDATE tasks SET title=? WHERE (list=?) AND (title <> '') AND " ++
        "(id > ?) AND (title <> 'done')") := by
    decide +kernel
  have issued' : (Tasks.compiled.dispatch.issued Tasks.renames Tasks.session)[1]? =
      some ("UPDATE tasks SET title=? WHERE (list=?) AND (title <> '') AND " ++
        "(id > ?) AND (title <> 'done')") := by
    decide +kernel
  have alike : Tasks.compiled.dispatch.Alike (.change (Tasks.rename "lists/7" "plan" "1"))
      (.change (Tasks.rename "/lists/8/" "'); DELETE --" "0")) := by
    refine ⟨⟨⟨?_, ?_, fun _ => Iff.rfl⟩, rfl⟩, _, rfl, rfl, fun _ => ⟨rfl, rfl⟩⟩ <;>
      exact List.pairwise_singleton _ _
  refine ⟨Tasks.compiled, _, _, Tasks.compiles, issued, issued', ?_, ?_⟩
  · exact blind.1 _ _ 0 1 _ _ rfl rfl alike _ _ _ _ issued issued'
  · obtain ⟨step, p, schema, t, same, -, -, -, -, named⟩ := blind.2 _ _ 0 _ issued
    cases same
    exact fun name mem => (named name mem).1

end ResourceProvider
