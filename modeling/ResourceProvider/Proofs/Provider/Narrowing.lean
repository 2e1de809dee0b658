import ResourceProvider.Proofs.Dispatch.Composition
import ResourceProvider.Proofs.Engine.Restricted
import ResourceProvider.Proofs.Provider.Signals
import ResourceProvider.Proofs.Schema.Names
import ResourceProvider.Proofs.Sql.Nesting
/-!
# Conditions that narrow

A condition of a caller stands in parentheses of its own, beside the conditions of the endpoint. It
stays there if its own parentheses are balanced. If its placeholders take the values in order, too,
and its words are the names of columns, an update or a removal acts on exactly the rows that meet it
and every other condition of the request, where no trigger acts on others (`filter_narrows`). One that
closes a parenthesis it did not open gets out of it, and selects what the other conditions leave out.
-/
namespace ResourceProvider

open Engine (Cell Database Row Slots isOrdinary)
open Route (Locator)
open Sql (Selection conjunction conjuncts isBalanced)

/-! ## Statements of a request -/

namespace Plan

/-- The arguments of a request: the bound segments of the locator, then those of the caller. -/
def arguments (p : Plan) (l : Locator) (args : List String) : List Cell :=
  (p.endpoint.bindings.filterMap (fun b => l.segments[b.segment]?) ++ args).map .text

/-- A selection of a plan, with the clauses and parameters of its statement. -/
structure Filters (p : Plan) (op : Operation) (l : Locator) (f : Filter) (s : Selection) :
    Prop where
  whereClause : s.whereClause = " WHERE " ++ conjunction (p.conditions op l f.condition)
  params : s.argValues.map Sql.cellOfValue = p.arguments l f.args
  table : s.requiredTable = .ok p.endpoint.table

theorem selection_filters {p : Plan} {op : Operation} {l : Locator} {f : Filter} {s : Selection}
    (serves : p.Serves l) (change : op ≠ .query) (some_ : p.conditions op l f.condition ≠ [])
    (h : p.selection op l f.condition f.args = .ok s) : p.Filters op l f s := by
  have composed := selection_serves serves op f.condition f.args
  rw [h] at composed
  split at composed
  · cases composed
  · obtain ⟨s', values, same, bound, selects, table⟩ := composed
    cases same
    have segments : p.endpoint.bindings.filterMap (fun b => l.segments[b.segment]?) = values := by
      simpa [List.filterMap_map, Function.comp_def] using congrArg (List.filterMap id) bound
    refine ⟨?_, ?_, ?_⟩
    · rw [Selection.whereClause, selects.condition, if_neg (mt Sql.conjunction_eq_empty.1 some_)]
    · rw [arguments, segments, Selection.argValues, selects.args, List.map_map]
      rfl
    · rw [Selection.requiredTable, table]

variable {p : Plan} {op : Operation} {l : Locator} {f : Filter} {s : Selection}

theorem Filters.delete (h : p.Filters op l f s) :
    s.delete = .ok ⟨"DELETE FROM " ++ p.endpoint.table ++ " WHERE " ++
      conjunction (p.conditions op l f.condition), s.argValues⟩ := by
  rw [Selection.delete, h.table, h.whereClause]
  simp only [Except.map, String.append_assoc]

theorem Filters.update (h : p.Filters op l f s) (r : Record) :
    s.update r = .ok ⟨"UPDATE " ++ p.endpoint.table ++ " SET " ++
      Engine.assignments (List.map Prod.fst r) ++ " WHERE " ++
        conjunction (p.conditions op l f.condition), List.map Prod.snd r ++ s.argValues⟩ := by
  rw [Selection.update, h.table, h.whereClause, Engine.assignments, List.map_map]
  simp only [Except.map, String.append_assoc]
  rfl

end Plan

/-! ## What a change does to a database -/

/-- A change on its own leaves the database alone, or asks it once. -/
theorem Dispatch.applyAlone_database (d : Dispatch) (op : BatchOperation) (s : Session) :
    ((d.applyAlone op).after s).database = s.database ∨
      ∃ r, d.prepare op = .ok r ∧
        ((d.applyAlone op).after s).database = (s.database.answer r.statement).1 := by
  unfold Action.after
  cases h : s.isOpen with
  | false =>
    obtain ⟨e, he, -⟩ := d.applyAlone_closed op h
    exact .inl (by rw [he])
  | true =>
    rw [d.applyAlone_run op h, EStateM.run_bind, d.applyOne_eq op]
    cases hr : d.prepare op with
    | error e => exact .inl rfl
    | ok r =>
      refine .inr ⟨r, rfl, ?_⟩
      rw [Action.ofExcept_ok, pure_bind, r.make_run h]
      cases s.database.answer r.statement with
      | mk db answer => cases answer <;> simp [Changed.announce_run, Session.signal, Session.issued]

namespace Plan

/-- Rows are those of a table that meet the conditions of a request. -/
def Reaches (p : Plan) (op : Operation) (l : Locator) (f : Filter) (db : Database) (slots : Slots)
    (params : List Cell) (t : Engine.Table) (rows : List Row) : Prop :=
  db.table? p.endpoint.table = some t ∧
    ∀ r, r ∈ rows ↔ r ∈ t.rows ∧ t.Meets params r slots (p.conditions op l f.condition)

/-- A removal does nothing, or it removes exactly the rows that meet every condition of the
request. -/
def Removes (p : Plan) (l : Locator) (f : Filter) (before after : Database) : Prop :=
  after = before ∨ ∃ t rows, p.Reaches .delete l f before [] (p.arguments l f.args) t rows ∧
    after = (before.removeRows t.name rows).1

/-- An update does nothing, or it sets columns of exactly the rows that meet every condition of the
request. -/
def Changes (p : Plan) (l : Locator) (r : Record) (f : Filter) (before after : Database) : Prop :=
  let params := r.map (fun c => Sql.cellOfValue c.2) ++ p.arguments l f.args
  after = before ∨ ∃ t rows assigned,
    p.Reaches .update l f before (List.replicate r.length none) params t rows ∧
      after = (before.settle (before.changeEach (fun row db =>
        (db, Database.changeRow params .none t.name assigned row.rowid db)) rows 0)).1

end Plan

theorem Dispatch.planFor_resolve {d : Dispatch} {op : Operation} {l : Locator} {p q : Plan}
    (found : d.resolve l = .ok p) (h : d.planFor op l = .ok q) : q = p := by
  rw [Dispatch.planFor, found] at h
  dsimp only at h
  split at h
  · cases h
    rfl
  · cases h

theorem Dispatch.delete_removes {d : Dispatch} {l : Locator} {p : Plan} {f : Filter}
    (found : d.resolve l = .ok p) (serves : p.Serves l)
    (name : Schema.isIdentifier p.endpoint.table)
    (some_ : p.conditions .delete l f.condition ≠ [])
    (plain : ∀ e ∈ p.conditions .delete l f.condition, isBalanced e ∧ isOrdinary e) (s : Session) :
    p.Removes l f s.database ((d.delete l f).after s).database := by
  have alone := d.applyAlone_database (.delete l f) s
  rw [Dispatch.applyAlone, Action.after_wrap] at alone
  rcases alone with same | ⟨r, prepared, after⟩
  · exact .inl same
  · obtain ⟨q, plan, prepares⟩ := Dispatch.prepares_of_prepare prepared
    obtain rfl := Dispatch.planFor_resolve found plan
    cases prepares with
    | delete selected composed =>
      have filters := Plan.selection_filters serves (by decide) some_ selected
      rw [filters.delete] at composed
      cases composed
      rw [after, Database.answer, filters.params]
      rcases s.database.run_delete (q.arguments l f.args) name some_ (fun e mem => (plain e mem).1)
        (fun e mem => (plain e mem).2) with refused | ⟨t, rows, table, mem, run⟩
      · exact .inl (by rw [refused]; rfl)
      · exact .inr ⟨t, rows, ⟨table, mem⟩, by rw [run]⟩

theorem Dispatch.update_changes {d : Dispatch} {l : Locator} {p : Plan} {f : Filter}
    (found : d.resolve l = .ok p) (serves : p.Serves l) (r : Record)
    (name : Schema.isIdentifier p.endpoint.table)
    (names : Record.misfit? p.table r = none → ∀ c ∈ List.map Prod.fst r, Schema.isIdentifier c)
    (some_ : p.conditions .update l f.condition ≠ [])
    (plain : ∀ e ∈ p.conditions .update l f.condition, isBalanced e ∧ isOrdinary e) (s : Session) :
    p.Changes l r f s.database ((d.update l r f).after s).database := by
  have alone := d.applyAlone_database (.update l r f) s
  rw [Dispatch.applyAlone, Action.after_wrap] at alone
  rcases alone with same | ⟨prepared, found', after⟩
  · exact .inl same
  · obtain ⟨q, plan, prepares⟩ := Dispatch.prepares_of_prepare found'
    obtain rfl := Dispatch.planFor_resolve found plan
    cases prepares with
    | update fits selected columns composed =>
      have filters := Plan.selection_filters serves (by decide) some_ selected
      rw [filters.update] at composed
      cases composed
      rw [after, Database.answer, List.map_append, filters.params]
      have fits := Plan.fits_of_checkRecord fits
      rcases s.database.run_update
        (List.map Sql.cellOfValue (List.map Prod.snd r) ++ q.arguments l f.args) name
        (by simpa using columns) (names fits) some_ (fun e mem => (plain e mem).1)
        (fun e mem => (plain e mem).2) with refused | ⟨t, assigned, rows, table, -, mem, run⟩
      · exact .inl (by rw [refused]; rfl)
      · refine .inr ⟨t, rows, assigned, ⟨table, ?_⟩, by rw [run, List.map_map]; rfl⟩
        simpa [List.map_map, Function.comp_def] using mem

/-! ## Requests with balanced conditions -/

/-- A condition that is added to a selection becomes one more conjunct beside those that were there
exactly if it is balanced; a blank one changes nothing. So at an endpoint with conditions of its
own, where there are no triggers, an update or a removal whose conditions are balanced and say what
they say in a place of their own acts on no row but those that meet all of them. -/
theorem filter_narrows (s : Selection) (e : String) (args : List String) :
    (∀ s', s.filter e args = .ok s' →
      if Text.isVisible e then
        ∀ es, conjuncts s'.condition = some (es ++ [e]) ↔
          conjuncts s.condition = some es ∧ isBalanced e
      else s' = s) ∧
    ∀ (doc : Document) (hooks : Hooks) (c : Compiled) (l : Locator) (p : Plan),
      doc.compile hooks = .ok c → c.dispatch.resolve l = .ok p →
      p.endpoint.bindings ≠ [] ∨ p.endpoint.filters ≠ [] →
      ∀ (f : Filter) (s : Session), s.database.triggers = [] →
        ((∀ e ∈ p.conditions .delete l f.condition, isBalanced e ∧ isOrdinary e) →
          p.Removes l f s.database ((c.dispatch.delete l f).after s).database) ∧
        ((∀ e ∈ p.conditions .update l f.condition, isBalanced e ∧ isOrdinary e) → ∀ r,
          p.Changes l r f s.database ((c.dispatch.update l r f).after s).database) := by
  constructor
  · intro s' added
    split
    · exact Selection.conjuncts_filter added ‹_›
    · rename_i blank
      rw [Selection.filter_blank s args (by simpa [Text.isVisible] using blank)] at added
      split at added
      · cases added
        rfl
      · cases added
  · intro doc hooks c l p compiled found own f s _
    obtain ⟨g, e, _, -, fits, endpoint, accepts⟩ := Document.resolve_compiled compiled found
    obtain ⟨schema, hschema, table⟩ := Document.table_compiled compiled found
    have serves := Plan.serves_of_fault fits endpoint accepts
    have named := Schema.named_of_ofDatabase hschema
    have some_ (op : Operation) : p.conditions op l f.condition ≠ [] := by
      rcases own with bindings | filters
      · simp [Plan.conditions, bindings]
      · simp [Plan.conditions, filters]
    exact ⟨fun plain =>
        Dispatch.delete_removes found serves (named.table table) (some_ .delete) plain s,
      fun plain r => Dispatch.update_changes found serves r (named.table table)
        (named.record table) (some_ .update) plain s⟩

namespace Tasks

/-- A task of another list beside the task of `session`. -/
def lists : Session :=
  ⟨⟨[⟨"tasks", [⟨"id", .integer, none, none⟩, ⟨"list", .integer, none, none⟩,
    ⟨"title", .text, none, none⟩], some ⟨0, .none, false⟩, [], [], [],
    [⟨1, [.int 1, .int 7, .text "draft"]⟩, ⟨2, [.int 2, .int 8, .text "plan"]⟩], 0⟩],
    [], 2, true, 1, false⟩, true, []⟩

/-- How many rows were removed, and the numbers of those that are left. -/
def left : EStateM.Result ProviderError Session Nat → Option (Nat × List Int)
  | .ok n s => some (n, s.database.tables.flatMap fun t => t.rows.map Engine.Row.rowid)
  | .error .. => none

end Tasks

/-- A removal in a list leaves the tasks of other lists. -/
theorem filter_narrows_list :
    (∀ es, conjuncts "(list=?)" = some (es ++ ["list=?"]) ↔
      conjuncts "" = some es ∧ isBalanced "list=?") ∧
    ∃ c p, Tasks.document.compile Tasks.hooks = .ok c ∧ c.dispatch.resolve ⟨"/lists/7"⟩ = .ok p ∧
      Tasks.left ((c.dispatch.delete ⟨"/lists/7"⟩ ⟨some "id > ?", ["0"]⟩).run Tasks.lists) =
        some (1, [2]) ∧
      p.Removes ⟨"/lists/7"⟩ ⟨some "id > ?", ["0"]⟩ Tasks.lists.database
        ((c.dispatch.delete ⟨"/lists/7"⟩ ⟨some "id > ?", ["0"]⟩).after Tasks.lists).database := by
  have narrows := filter_narrows Selection.empty "list=?" ["7"]
  refine ⟨narrows.1 ⟨none, "(list=?)", ["7"], []⟩ rfl, ?_⟩
  have found : Tasks.compiled.dispatch.resolve ⟨"/lists/7"⟩ = .ok Tasks.ofList := rfl
  have request := narrows.2 _ _ _ _ _ Tasks.compiles found
  exact ⟨Tasks.compiled, _, Tasks.compiles, found, by decide +kernel,
    (request (.inl (by decide)) ⟨some "id > ?", ["0"]⟩ Tasks.lists rfl).1 (by decide +kernel)⟩

/-- A condition that closes the parenthesis it stands in gets out of it. -/
theorem filter_escapes_list :
    (∃ s s', Selection.empty.filter "list=?" ["7"] = .ok s ∧ s.filter "1=1) OR (1=1" [] = .ok s' ∧
      conjuncts s.condition = some ["list=?"] ∧
      conjuncts s'.condition ≠ some ["list=?", "1=1) OR (1=1"]) ∧
    ∃ c, Tasks.document.compile Tasks.hooks = .ok c ∧
      Tasks.left ((c.dispatch.delete ⟨"/lists/7"⟩ ⟨some "1=1) OR (1=1", []⟩).run Tasks.lists) =
        some (2, []) := by
  constructor
  · exact ⟨_, _, rfl, rfl, by decide +kernel, by decide +kernel⟩
  · exact ⟨Tasks.compiled, Tasks.compiles, by decide +kernel⟩

end ResourceProvider
