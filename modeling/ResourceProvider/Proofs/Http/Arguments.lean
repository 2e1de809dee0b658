import ResourceProvider.Proofs.Http.Answers
import ResourceProvider.Proofs.Provider.Texts
import ResourceProvider.Proofs.Sql.Alignment
/-!
# Arguments in a query

The arguments of a condition come as a list in the query of a request. The list is read like a list
of columns: its blank items are left out. So an item is bound to the placeholder of the condition
that has the number of visible items before it (`args_bound`), which is its own place only if no
item before it is blank.
-/
namespace ResourceProvider

open Route (Locator)
open Sql (IsMark Selection Statement marks)
open Sql.Selection (Condition)
open Sql.Statement
open Text (isVisible)

/-! ## Items -/

namespace Http

/-- The items of a list, trimmed, blank ones and all. -/
def items (s : String) : List String :=
  (Text.split ',' s.toList).map fun part => Text.trim (String.ofList part)

theorem listItems_eq (s : String) : listItems s = (items s).filter isVisible := by
  unfold listItems items
  induction Text.split ',' s.toList with
  | nil => rfl
  | cons part parts ih =>
    have same := Text.isBlank_trim (String.ofList part)
    rw [List.filterMap_cons, List.map_cons, List.filter_cons, ih, isVisible, same, Text.visible?]
    cases Text.isBlank (String.ofList part) <;> rfl

/-- A visible item comes behind the visible items before it. -/
theorem getElem?_visible (before after : List String) {item : String} (visible : isVisible item) :
    ((before ++ item :: after).filter isVisible)[before.countP isVisible]? = some item := by
  rw [List.filter_append, List.filter_cons_of_pos visible, List.countP_eq_length_filter,
    List.getElem?_append_right le_rfl, Nat.sub_self]
  rfl

end Http

/-! ## Where the condition of a caller stands -/

namespace Sql.Statement

theorem parenthesized {text : String} {k : Nat} {inside : List Char}
    (h : IsMark text k inside) : IsMark ("(" ++ text ++ ")") k ('(' :: inside) := by
  obtain ⟨⟨after, split⟩, rfl⟩ := h
  refine ⟨⟨after ++ [')'], by simp [split]⟩, ?_⟩
  rw [List.count_cons_of_ne (by decide)]

/-- The part with number `xs.length` of a separated list, with all that stands before it. -/
theorem separated_split (sep : String) (xs : List Statement) (y : Statement) (zs : List Statement) :
    ∃ ps qs, separated sep (xs ++ y :: zs) = ps ++ y :: qs ∧
      (assemble ps).params = xs.flatMap Statement.params ∧ ∀ p ∈ ps, p ∈ xs ∨ p = fixed sep := by
  unfold separated
  induction xs with
  | nil =>
    cases zs with
    | nil => exact ⟨[], [], rfl, rfl, by simp⟩
    | cons z zs => exact ⟨[], _, List.intersperse_cons_cons, rfl, by simp⟩
  | cons x xs ih =>
    obtain ⟨ps, qs, split, params, known⟩ := ih
    obtain ⟨next, rest, more⟩ : ∃ next rest, xs ++ y :: zs = next :: rest :=
      List.exists_cons_of_ne_nil (by simp)
    refine ⟨x :: fixed sep :: ps, qs, ?_, ?_, ?_⟩
    · rw [List.cons_append, more, List.intersperse_cons_cons, ← more, split]
      rfl
    · rw [assemble_cons, assemble_cons, params]
      rfl
    · intro p mem
      rcases List.mem_cons.1 mem with rfl | mem
      · exact .inl (List.mem_cons_self ..)
      · rcases List.mem_cons.1 mem with rfl | mem
        · exact .inr rfl
        · exact (known p mem).imp_left (List.mem_cons_of_mem _)

/-- A condition of a statement has its placeholders behind those of the conditions before it. -/
theorem condition_split {head : List Statement} (fit : ∀ p ∈ head, p.Fits)
    {before after : List Condition} (fits : ∀ c ∈ before, marks c.1 = c.2.length) (c : Condition)
    (tail : List Statement) :
    ∃ ps qs, head ++ whereParts (before ++ c :: after) ++ tail = ps ++ conditionPart c :: qs ∧
      (∀ p ∈ ps, p.Fits) ∧ (assemble ps).params.length =
        (assemble head).params.length + (before.flatMap Prod.snd).length := by
  obtain ⟨ps, qs, split, params, known⟩ := separated_split " AND " (before.map conditionPart)
    (conditionPart c) (after.map conditionPart)
  have some_ : before ++ c :: after ≠ [] := by simp
  refine ⟨head ++ fixed " WHERE " :: ps, qs ++ tail, ?_, ?_, ?_⟩
  · rw [whereParts, if_neg some_, List.map_append, List.map_cons, split]
    simp
  · rw [List.forall_mem_append, List.forall_mem_cons]
    refine ⟨fit, rfl, fun p mem => ?_⟩
    rcases known p mem with own | rfl
    · obtain ⟨earlier, taken, rfl⟩ := List.mem_map.1 own
      exact fits_conditionPart (fits earlier taken)
    · rfl
  · rw [assemble_append, assemble_cons, params, List.length_append]
    simp [fixed, conditionPart, List.flatMap_map, List.length_flatMap]

end Sql.Statement

namespace Plan

/-- The conditions of a request before that of the caller: of the bound segments and of the
endpoint. -/
def leading (p : Plan) (l : Locator) : List Condition :=
  p.endpoint.bindings.map (fun b => (b.condition, (l.segments[b.segment]?).toList)) ++
    p.endpoint.filters.map (·, [])

/-- The conditions of a request behind that of the caller: of the filter hook. -/
def trailing (p : Plan) (op : Operation) (l : Locator) : List Condition :=
  (((p.filterHook.map fun hook => hook op l).getD []).filter isVisible).map (·, [])

variable {p : Plan} {op : Operation} {l : Locator}

theorem leading_args {values : List String}
    (bound : p.endpoint.bindings.map (fun b => l.segments[b.segment]?) = values.map some) :
    (p.leading l).flatMap Prod.snd = values := by
  have segments := congrArg (List.flatMap Option.toList) bound
  have none : p.endpoint.filters.flatMap (fun _ => ([] : List String)) = [] := by simp
  simpa [leading, List.flatMap_map, none] using segments

/-- The condition of a caller with arguments is taken as it is, between those of the plan. -/
theorem selection_selects (serves : p.Serves l) {condition : Option String} {args : List String}
    {s : Selection} (selected : p.selection op l condition args = .ok s) (given : args ≠ []) :
    ∃ c, condition = some c ∧
      s.Selects ((p.leading l ++ (c, args) :: p.trailing op l).map Prod.fst)
        ((p.leading l ++ (c, args) :: p.trailing op l).flatMap Prod.snd) ∧
      s.table = some (if op = .query then p.joinedTable op l else p.endpoint.table) ∧
      ((p.leading l).flatMap Prod.snd).length = p.endpoint.bindings.length := by
  have composed := selection_serves serves op condition args
  rw [selected] at composed
  split at composed
  · cases composed
  · rename_i accepted
    obtain ⟨s', values, same, bound, selects, table⟩ := composed
    cases same
    obtain ⟨c, rfl, visible⟩ : ∃ c, condition = some c ∧ isVisible c := by
      cases condition with
      | none => exact absurd ⟨rfl, given⟩ accepted
      | some c => exact ⟨c, rfl, by simpa [given, isVisible] using accepted⟩
    refine ⟨c, rfl, ?_, table, ?_⟩
    · convert selects using 1
      · simp [conditions, leading, trailing, visible, Function.comp_def]
      · simp [leading_args bound, trailing, List.flatMap_map]
    · rw [leading_args bound]
      simpa using (congrArg List.length bound).symm

/-- The conditions before that of the caller have one placeholder for each bound segment. -/
theorem leading_fits (serves : p.Serves l)
    (bindings : ∀ b ∈ p.endpoint.bindings, marks b.column = 0)
    (filters : ∀ f ∈ p.endpoint.filters, marks f = 0) :
    ∀ c ∈ p.leading l, marks c.1 = c.2.length := by
  refine List.forall_mem_append.2 ⟨List.forall_mem_map.2 fun b mem => ?_,
    List.forall_mem_map.2 filters⟩
  rw [Document.Binding.condition, Sql.marks_append, bindings b mem,
    List.getElem?_eq_getElem (serves.present b mem)]
  rfl

/-! ## Aliases -/

theorem filterAll_aliases {s s' : Selection} {fs : List String} (taken : s.filterAll fs = .ok s') :
    s'.aliases = s.aliases := by
  induction fs generalizing s with
  | nil =>
    cases taken
    rfl
  | cons f fs ih =>
    unfold Selection.filterAll at taken
    split at taken
    · cases taken
    · rename_i next first
      rw [ih taken, (Selection.filter_keeps first).2]

theorem bindSegments_aliases {bs : List Document.Binding} {s s' : Selection}
    (taken : bindSegments l bs s = .ok s') : s'.aliases = s.aliases := by
  induction bs generalizing s with
  | nil =>
    cases taken
    rfl
  | cons b bs ih =>
    unfold bindSegments at taken
    split at taken
    · cases taken
    · split at taken
      · cases taken
      · rename_i next first
        rw [ih taken, (Selection.filter_keeps first).2]

/-- A selection has the aliases of the group. -/
theorem aliases_of_selection {condition : Option String} {args : List String}
    {s : Selection} (selected : p.selection op l condition args = .ok s) :
    s.aliases = p.aliases.reverse := by
  have given (aliases : List (String × String)) (s : Selection) :
      (aliases.foldl (fun s a => s.withAlias a.1 a.2) s).aliases =
        aliases.reverse ++ s.aliases := by
    induction aliases generalizing s with
    | nil => rfl
    | cons a aliases ih =>
      rw [List.foldl_cons, ih, List.reverse_cons, List.append_assoc]
      rfl
  obtain ⟨s₁, s₂, s₃, s₄, bound, declared, caller, hooked, rfl⟩ := stages_of_selection selected
  have first : s₁.aliases = p.aliases.reverse := by
    split at bound
    · rw [bindSegments_aliases bound, given]
      simp [Selection.empty]
    · cases bound
      rw [given]
      simp [Selection.empty]
  rw [← first, ← filterAll_aliases declared, ← (Selection.filter_keeps caller).2,
    ← filterAll_aliases hooked]
  rfl

/-- No text that a statement has before the condition of a caller has a placeholder of its own. -/
structure Unmarked (p : Plan) (step : Step) : Prop where
  bindings : ∀ b ∈ p.endpoint.bindings, marks b.column = 0
  filters : ∀ f ∈ p.endpoint.filters, marks f = 0
  lookup : ∀ l q, step = .lookup l q → marks (p.joinedTable .query l) = 0 ∧
    (∀ column ∈ q.projection, marks column = 0) ∧ ∀ a ∈ p.aliases, marks a.2 = 0

end Plan

/-! ## Statements of a request -/

/-- The rows that a step selects, unless it adds one. -/
def Step.filter? : Step → Option Filter
  | .lookup _ q => some ⟨q.condition, q.args⟩
  | .change (.insert ..) => none
  | .change (.update _ _ f) | .change (.delete _ f) => some f

theorem marks_identifier {name : String} (fit : Schema.isIdentifier name) : marks name = 0 := by
  obtain ⟨c, rest, same, start, more⟩ := Schema.isIdentifier_iff.1 fit
  rw [marks, same, List.count_eq_zero]
  intro mem
  rcases List.mem_cons.1 mem with rfl | mem
  · revert start
    decide
  · have char := more _ mem
    revert char
    decide

/-- Names of a compiled document have no placeholder. -/
theorem names_unmarked {doc : Document} {hooks : Hooks} {c : Compiled}
    (compiled : doc.compile hooks = .ok c) {step : Step} {p : Plan} {x : Statement}
    (found : c.dispatch.resolve step.locator = .ok p) (composes : p.Composes? x step) :
    marks p.endpoint.table = 0 ∧ ∀ column ∈ step.columns, marks column = 0 := by
  obtain ⟨schema, accepted, table⟩ := Document.table_compiled compiled found
  have named := Schema.named_of_ofDatabase accepted
  refine ⟨marks_identifier (named.table table), fun column mem => ?_⟩
  obtain ⟨c, declared, rfl⟩ := (Plan.reads_of_composes composes).2 column mem
  exact marks_identifier (named.columns _ (List.mem_of_find?_eq_some table) c declared)

/-- The condition of a caller with arguments is a part of the statement; the parameters before it
are those of the columns that are set and of the bound segments. -/
theorem Plan.condition_composed {p : Plan} {step : Step} {x : Statement} {f : Filter}
    (composes : p.Composes? x step) (serves : p.Serves step.locator) (unmarked : p.Unmarked step)
    (table : marks p.endpoint.table = 0) (columns : ∀ column ∈ step.columns, marks column = 0)
    (selects : step.filter? = some f) (given : f.args ≠ []) :
    ∃ c ps qs, f.condition = some c ∧ x = assemble (ps ++ conditionPart (c, f.args) :: qs) ∧
      (∀ p ∈ ps, p.Fits) ∧
      (assemble ps).params.length = step.columns.length + p.endpoint.bindings.length := by
  have fits := leading_fits serves unmarked.bindings unmarked.filters
  rcases step with ⟨l, q⟩ | ⟨l, r⟩ | ⟨l, r, f'⟩ | ⟨l, f'⟩ <;> cases selects
  · obtain ⟨s, selected, query⟩ := composes
    obtain ⟨c, condition, selects, set, length⟩ := selection_selects serves selected given
    obtain ⟨joined, projection, aliases⟩ := unmarked.lookup l q rfl
    rw [selects.query_eq set] at query
    cases query
    have plain : marks (s.columnsText q.projection) = 0 := by
      refine Selection.marks_columnsText (fun a mem _ => aliases a ?_) projection
      simpa [aliases_of_selection selected] using mem
    obtain ⟨ps, qs, split, fit, params⟩ := condition_split
      (List.forall_mem_singleton.2 (fits_queryHead plain joined)) fits (c, q.args) [fixed _]
    refine ⟨c, ps, qs, condition, congrArg assemble split, fit, ?_⟩
    rw [params, length]
    rfl
  · obtain ⟨-, s, selected, update⟩ := composes
    obtain ⟨c, condition, selects, set, length⟩ := selection_selects serves selected given
    rw [selects.update_eq set] at update
    cases update
    have keys : ∀ f ∈ r, marks f.1 = 0 := by
      simpa [Step.columns, Record.columns] using columns
    obtain ⟨ps, qs, split, fit, params⟩ := condition_split
      (fits_updateHead table keys) fits (c, f.args) []
    rw [List.append_nil] at split
    refine ⟨c, ps, qs, condition, congrArg assemble split, fit, ?_⟩
    rw [params, length, assemble_cons, assemble_separated]
    simp [fixed, columnPart, Step.columns, Record.columns, List.flatMap_map]
  · obtain ⟨s, selected, delete⟩ := composes
    obtain ⟨c, condition, selects, set, length⟩ := selection_selects serves selected given
    rw [selects.delete_eq set] at delete
    cases delete
    obtain ⟨ps, qs, split, fit, params⟩ := condition_split
      (List.forall_mem_singleton.2 (fits_deleteHead table)) fits (c, f.args) []
    rw [List.append_nil] at split
    refine ⟨c, ps, qs, condition, congrArg assemble split, fit, ?_⟩
    rw [params, length]
    rfl

/-! ## Requests -/

namespace Http

/-- A call that adds rows selects none. -/
theorem filter?_of_post {l : Locator} {v : Json.Value} {call : Call}
    (made : postCall? l v = some call) {step : Step} (mem : step ∈ call.steps) :
    step.filter? = none := by
  unfold postCall? at made
  split at made
  · obtain ⟨records, -, same⟩ := Option.bind_eq_some_iff.1 made
    cases same
    obtain ⟨record, -, rfl⟩ := List.mem_map.1 mem
    rfl
  · obtain ⟨record, -, same⟩ := Option.bind_eq_some_iff.1 made
    cases same
    rw [List.mem_singleton.1 mem]
    rfl

/-- The rows that a request for a resource selects are given by its query. -/
theorem filter_of_call {r : Request} {tail : String}
    (place : Place.ofPath? r.path = some (.resource tail)) {params : Params}
    (read : Params.ofQuery? r.query = some params) {call : Call} (made : r.call? = some call)
    {step : Step} (mem : step ∈ call.steps) {f : Filter} (selects : step.filter? = some f) :
    f = params.filter := by
  have part : paramsPart r.served = .ok params := by
    unfold paramsPart
    rw [show Params.ofQuery? r.served.query = some params from read]
    rfl
  rw [Request.call?, place, Option.bind_some, Place.call?, resourceCall?, part] at made
  obtain ⟨l, -, made⟩ := Option.bind_eq_some_iff.1 made
  split at made
  · cases made
    rw [List.mem_singleton.1 mem] at selects
    cases selects
    rfl
  · obtain ⟨v, -, made⟩ := Option.bind_eq_some_iff.1 made
    rw [filter?_of_post made mem] at selects
    cases selects
  · obtain ⟨_, given, made⟩ := Option.bind_eq_some_iff.1 made
    obtain ⟨v, -, made⟩ := Option.bind_eq_some_iff.1 made
    obtain ⟨record, -, made⟩ := Option.bind_eq_some_iff.1 made
    cases given
    cases made
    rw [List.mem_singleton.1 mem] at selects
    cases selects
    rfl
  · cases made
    rw [List.mem_singleton.1 mem] at selects
    cases selects
    rfl
  · cases made

/-- The arguments of a request are the visible items of its list, in order; they are the items if
none of these is blank. A visible item is bound to a placeholder of the condition that stands in the
statement of the request: to the one whose number is that of the visible items before it. -/
theorem args_bound {doc : Document} {hooks : Hooks} {c : Compiled}
    (compiled : doc.compile hooks = .ok c) {r : Request} {tail : String}
    (place : Place.ofPath? r.path = some (.resource tail)) {params : Params}
    (read : Params.ofQuery? r.query = some params) {text : String}
    (given : params.args = some text) :
    params.filter.args = (items text).filter isVisible ∧
    (params.filter.args = items text ↔ ∀ item ∈ items text, isVisible item) ∧
    ∀ call step f p x, r.call? = some call → step ∈ call.steps → step.filter? = some f →
      c.dispatch.resolve step.locator = .ok p → p.Unmarked step →
      c.dispatch.compose step = .ok x →
      ∀ before item after, items text = before ++ item :: after → isVisible item →
        ∃ condition ps qs, params.filter.condition = some condition ∧
          x = assemble (ps ++ conditionPart (condition, params.filter.args) :: qs) ∧
          ∀ inside, IsMark condition (before.countP isVisible) inside →
            let i := step.columns.length + p.endpoint.bindings.length + before.countP isVisible
            IsMark x.text i ((assemble ps).text.toList ++ '(' :: inside) ∧
              x.params[i]? = some (.str item) := by
  have args : params.filter.args = (items text).filter isVisible := by
    rw [← listItems_eq, Params.filter, given]
    rfl
  refine ⟨args, by rw [args, List.filter_eq_self], ?_⟩
  intro call step f p x made mem selects found unmarked composed before item after split visible
  obtain rfl := filter_of_call place read made mem selects
  have served := Document.serves_compiled compiled
  obtain ⟨q, found', composes⟩ := Dispatch.exists_plan_of_compose composed
  rw [found] at found'
  cases found'
  obtain ⟨table, columns⟩ := names_unmarked compiled found composes
  have bound : params.filter.args[before.countP isVisible]? = some item := by
    rw [args, split, getElem?_visible before after visible]
  have some_ : params.filter.args ≠ [] := by
    intro none
    rw [none] at bound
    cases bound
  obtain ⟨condition, ps, qs, same, rfl, fit, length⟩ :=
    Plan.condition_composed composes (served _ _ found) unmarked table columns selects some_
  refine ⟨condition, ps, qs, same, rfl, fun inside mark => ?_⟩
  have within : IsMark (conditionPart (condition, params.filter.args)).text
      (before.countP isVisible) ('(' :: inside) := parenthesized mark
  have lt : before.countP isVisible <
      (conditionPart (condition, params.filter.args)).params.length := by
    simpa [conditionPart] using (List.getElem?_eq_some_iff.1 bound).1
  obtain ⟨stands, param⟩ := mark_assemble qs fit within lt
  rw [length] at stands param
  refine ⟨stands, param.trans ?_⟩
  simp [conditionPart, bound]

namespace Tasks

/-- Looks up the tasks with one of two titles. -/
def titles (args : String) : Request :=
  lookup ("selection=title=?%20OR%20title=?&args=" ++ args)

/-- What the query of such a request says. -/
def titlesParams (args : String) : Params :=
  ⟨none, some "title=? OR title=?", some args, none⟩

end Tasks

/-- The title behind a blank item is bound to the second placeholder. -/
theorem args_bound_tasks :
    ∃ c x, Tasks.document.compile Tasks.hooks = .ok c ∧
      (Tasks.titles "a,,b").call? = some (.query ⟨"/tasks"⟩ (Tasks.titlesParams "a,,b").lookup) ∧
      c.dispatch.compose (.lookup ⟨"/tasks"⟩ (Tasks.titlesParams "a,,b").lookup) = .ok x ∧
      items "a,,b" = ["a", "", "b"] ∧ x.params[1]? = some (.str "b") := by
  have place : Place.ofPath? (Tasks.titles "a,,b").path = some (.resource "tasks") := by
    decide +kernel
  have read : Params.ofQuery? (Tasks.titles "a,,b").query = some (Tasks.titlesParams "a,,b") := by
    decide +kernel
  have called := Tasks.lookup_call place read
  have found : Tasks.compiled.dispatch.resolve ⟨"/tasks"⟩ = .ok Tasks.whole := rfl
  obtain ⟨x, composed⟩ : ∃ x, Tasks.compiled.dispatch.compose
      (.lookup ⟨"/tasks"⟩ (Tasks.titlesParams "a,,b").lookup) = .ok x := ⟨_, rfl⟩
  have unmarked : Tasks.whole.Unmarked (.lookup ⟨"/tasks"⟩ (Tasks.titlesParams "a,,b").lookup) := by
    refine ⟨by simp [Tasks.whole], by simp [Tasks.whole], ?_⟩
    rintro l q ⟨⟩
    exact ⟨by decide +kernel, by decide, by decide⟩
  obtain ⟨condition, ps, qs, given, -, bound⟩ :=
    (args_bound Tasks.compiles place read rfl).2.2 _ _ _ _ x called (.head _) rfl found unmarked
      composed ["a", ""] "b" [] (by decide +kernel) (by decide +kernel)
  cases given
  have mark : IsMark "title=? OR title=?" 1 "title=? OR title=".toList :=
    ⟨⟨[], by decide⟩, by decide⟩
  exact ⟨Tasks.compiled, x, Tasks.compiles, called, composed, by decide +kernel, (bound _ mark).2⟩

/-- A blank item does not keep its place: the title behind it is bound to the first placeholder. -/
theorem args_shifted :
    ∃ c x, Tasks.document.compile Tasks.hooks = .ok c ∧
      (Tasks.titles ",a").call? = some (.query ⟨"/tasks"⟩ (Tasks.titlesParams ",a").lookup) ∧
      items ",a" = ["", "a"] ∧ (Tasks.titlesParams ",a").filter.args = ["a"] ∧
      c.dispatch.compose (.lookup ⟨"/tasks"⟩ (Tasks.titlesParams ",a").lookup) = .ok x ∧
      x.text = "SELECT * FROM tasks WHERE (title=? OR title=?)" ∧ x.params = [.str "a"] := by
  have place : Place.ofPath? (Tasks.titles ",a").path = some (.resource "tasks") := by
    decide +kernel
  have read : Params.ofQuery? (Tasks.titles ",a").query = some (Tasks.titlesParams ",a") := by
    decide +kernel
  exact ⟨Tasks.compiled, _, Tasks.compiles, Tasks.lookup_call place read, by decide +kernel,
    by decide +kernel, rfl, by decide +kernel, rfl⟩

end Http

end ResourceProvider
