import ResourceProvider.Proofs.Dispatch.Compiled
import ResourceProvider.Proofs.Sql.Conjunction
/-!
# What a request selects by

A plan composes the selection of a request from the bound segments of the locator, the filters of
the endpoint, the condition of the caller and the filter hook. In a compiled document nothing but
arguments without a condition can go wrong there, and what comes out is known exactly.
-/
namespace ResourceProvider

open Document (Binding)
open Route (Locator)
open Sql (Selection conjunction)
open Text (isBlank isVisible)

/-! ## Bound segments -/

/-- The condition of a binding. -/
def Document.Binding.condition (b : Binding) : String :=
  b.column ++ "=?"

theorem isVisible_condition (b : Binding) : isVisible b.condition := by
  have mark : Text.isBlankChar '=' = false := by decide
  simp [isVisible, isBlank, Binding.condition, String.toList_append, mark]

/-- The segments of bindings are bound in order, if the locator has them. -/
theorem Plan.bindSegments_ok {l : Locator} {bs : List Binding} {s : Selection}
    {fs args : List String} (h : s.Selects fs args)
    (present : ∀ b ∈ bs, b.segment < l.segments.length) :
    ∃ s' values, bindSegments l bs s = .ok s' ∧
      bs.map (fun b => l.segments[b.segment]?) = values.map some ∧
      s'.Selects (fs ++ bs.map Binding.condition) (args ++ values) := by
  induction bs generalizing s fs args with
  | nil => exact ⟨s, [], rfl, rfl, by simpa using h⟩
  | cons b bs ih =>
    obtain ⟨value, hvalue⟩ : ∃ v, l.segments[b.segment]? = some v :=
      ⟨_, List.getElem?_eq_getElem (present b (List.mem_cons_self ..))⟩
    obtain ⟨s', hs', h'⟩ := h.filter [value] (isVisible_condition b)
    obtain ⟨s'', values, hs'', hvalues, h''⟩ :=
      ih h' fun b hb => present b (List.mem_cons_of_mem _ hb)
    rw [Binding.condition] at hs'
    refine ⟨s'', value :: values, by rw [bindSegments, hvalue, ← hs'']; simp only [hs'], ?_, ?_⟩
    · rw [List.map_cons, hvalue, hvalues, List.map_cons]
    · rw [List.map_cons, List.append_cons fs, List.append_cons args]
      exact h''

/-! ## Plans without fault -/

/-- The conditions of a request: of the bound segments, of the endpoint, of the caller, and of the
filter hook. -/
def Plan.conditions (p : Plan) (op : Operation) (l : Locator) (condition : Option String) :
    List String :=
  p.endpoint.bindings.map Binding.condition ++ p.endpoint.filters ++
    condition.toList.filter isVisible ++
    ((p.filterHook.map fun hook => hook op l).getD []).filter isVisible

/-- The locators of an endpoint have every segment that it binds, and its filters are visible. -/
structure Plan.Serves (p : Plan) (l : Locator) : Prop where
  literal : p.endpoint.isPattern = false → p.endpoint.bindings = []
  present : ∀ b ∈ p.endpoint.bindings, b.segment < l.segments.length
  filters : ∀ f ∈ p.endpoint.filters, isVisible f

theorem Selection.selects_aliased (aliases : List (String × String)) {s : Selection}
    {fs args : List String} (h : s.Selects fs args) :
    (aliases.foldl (fun s a => s.withAlias a.1 a.2) s).Selects fs args := by
  induction aliases generalizing s with
  | nil => exact h
  | cons a aliases ih => exact ih (h.withAlias a.1 a.2)

/-- The condition of the caller, which may be absent, is added like any other. -/
theorem Selection.filter_caller {s : Selection} {fs args : List String} (h : s.Selects fs args)
    (condition : Option String) (more : List String) :
    if condition.all isBlank ∧ more ≠ [] then
      s.filter (condition.getD "") more = .error .argsWithoutSelection
    else ∃ s', s.filter (condition.getD "") more = .ok s' ∧
      s'.Selects (fs ++ condition.toList.filter isVisible) (args ++ more) := by
  have all : condition.all isBlank = isBlank (condition.getD "") := by cases condition <;> rfl
  by_cases blank : isBlank (condition.getD "")
  · rw [Selection.filter_blank s more blank, all]
    by_cases none : more = []
    · have skipped : condition.toList.filter isVisible = [] := by
        cases condition with
        | none => rfl
        | some c => simpa [isVisible] using blank
      simpa [none, skipped] using h
    · simp [blank, none]
  · rw [if_neg (by simp [all, blank])]
    cases condition with
    | none => exact absurd rfl blank
    | some c =>
      have visible : isVisible c := by simpa [isVisible] using blank
      obtain ⟨s', hs', h'⟩ := h.filter more visible
      exact ⟨s', hs', by simpa [visible] using h'⟩

/-- What a plan selects by, once the caller's condition is accepted. -/
theorem Plan.selection_serves {p : Plan} {l : Locator} (h : p.Serves l) (op : Operation)
    (condition : Option String) (args : List String) :
    if condition.all isBlank ∧ args ≠ [] then
      p.selection op l condition args = .error (.composition .argsWithoutSelection)
    else ∃ s values, p.selection op l condition args = .ok s ∧
      p.endpoint.bindings.map (fun b => l.segments[b.segment]?) = values.map some ∧
      s.Selects (p.conditions op l condition) (values ++ args) ∧
      s.table = some (if op = .query then p.joinedTable op l else p.endpoint.table) := by
  have aliased := Selection.selects_aliased p.aliases Selection.Selects.empty
  obtain ⟨s₁, values, hs₁, hvalues, h₁⟩ := bindSegments_ok aliased h.present
  -- An exact path binds no segment, so both branches of the plan come to the same.
  have bound (k : Selection → Except ProviderError Selection) :
      (if p.endpoint.isPattern then bindSegments l p.endpoint.bindings
        (p.aliases.foldl (fun s a => s.withAlias a.1 a.2) Selection.empty) >>= k
      else .ok (p.aliases.foldl (fun s a => s.withAlias a.1 a.2) Selection.empty) >>= k) =
        k s₁ := by
    split
    · rw [hs₁]
      rfl
    · rename_i literal
      rw [h.literal (by simpa using literal)] at hs₁
      cases hs₁
      rfl
  -- The declared filters are visible, so none of them is dropped.
  obtain ⟨s₂, hs₂, h₂⟩ := h₁.filterAll p.endpoint.filters
  rw [List.filter_eq_self.2 h.filters] at h₂
  have caller := Selection.filter_caller h₂ condition args
  unfold Plan.selection
  simp only [bound, hs₂, mapError_ok_bind]
  split
  · rename_i refused
    rw [if_pos refused] at caller
    simp only [caller]
    rfl
  · rename_i accepted
    rw [if_neg accepted] at caller
    obtain ⟨s₃, hs₃, h₃⟩ := caller
    obtain ⟨s₄, hs₄, h₄⟩ := h₃.filterAll ((p.filterHook.map fun hook => hook op l).getD [])
    refine ⟨_, values, by simp only [hs₃, hs₄, mapError_ok_bind]; rfl, hvalues, ?_, rfl⟩
    have collected := h₄.fromTable (if op = .query then p.joinedTable op l else p.endpoint.table)
    simpa [conditions] using collected

/-! ## Compiled documents -/

/-- The plan that a locator leads to has every segment that it binds. -/
theorem Plan.serves_of_fault {p : Plan} {l : Locator} {g : Document.Group} {s : Schema}
    {e : Document.Endpoint} (fits : Endpoint.fault g s e = none)
    (endpoint : p.endpoint = Endpoint.ofDocument g e)
    (accepts : p.endpoint.pattern.accepts l.segments) : p.Serves l := by
  have bindings : p.endpoint.bindings =
      e.bindings.map fun b => { b with column := Text.trim b.column } := by
    rw [endpoint]
    rfl
  have wildcard {b : Binding} (hb : b ∈ p.endpoint.bindings) :
      ∃ w, p.endpoint.pattern[b.segment]? = some w ∧ w.isWildcard := by
    rw [bindings] at hb
    obtain ⟨b', hb', rfl⟩ := List.mem_map.1 hb
    obtain ⟨w, hw, wild, -⟩ := Endpoint.binding_of_fault fits hb'
    rw [endpoint]
    exact ⟨w, hw, wild⟩
  refine ⟨fun literal => ?_, fun b hb => ?_, fun f hf => ?_⟩
  · refine List.eq_nil_iff_forall_not_mem.2 fun b hb => ?_
    obtain ⟨w, hw, wild⟩ := wildcard hb
    rw [Endpoint.isPattern, List.any_eq_false] at literal
    exact literal w (List.mem_of_getElem? hw) wild
  · obtain ⟨w, hw, -⟩ := wildcard hb
    rw [Route.Pattern.length_of_accepts accepts]
    exact (List.getElem?_eq_some_iff.1 hw).1
  · rw [endpoint] at hf
    obtain ⟨f', -, visible⟩ := List.mem_filterMap.1 hf
    exact Text.isVisible_of_visible? visible

/-- A request is composed as its endpoint says. It fails exactly if there are arguments without a
condition. Otherwise it selects by the bound segments, the filters of the endpoint, the condition
of the caller and the filter hook, in this order, with the segments and the caller's arguments in
step, and only a query joins other tables. -/
def Plan.Composes (p : Plan) (g : Document.Group) (e : Document.Endpoint) (l : Locator)
    (op : Operation) (condition : Option String) (args : List String) : Prop :=
  (∀ err, p.selection op l condition args = .error err ↔
    condition.all isBlank ∧ args ≠ [] ∧ err = .composition .argsWithoutSelection) ∧
  ∀ s, p.selection op l condition args = .ok s →
    s.condition = Text.join " AND " (List.map (fun f => "(" ++ f ++ ")")
      (e.bindings.map (fun b => Text.trim b.column ++ "=?") ++
        e.filters.filterMap Text.visible? ++
        condition.toList.filter (fun f => !isBlank f) ++
        ((p.filterHook.map fun hook => hook op l).getD []).filter fun f => !isBlank f)) ∧
    s.args.map some = e.bindings.map (fun b => l.segments[b.segment]?) ++ args.map some ∧
    s.table = some (if op = .query then
        Text.join " " (Endpoint.effectiveTable g e :: ((e.join.bind Text.visible?).toList ++
          (p.joinHook.map fun hook => hook op l).getD []))
      else Endpoint.effectiveTable g e)

/-- In a compiled document every request at a locator is composed as a declared endpoint says. -/
theorem selection_compiled {doc : Document} {hooks : Hooks} {c : Compiled} {l : Locator} {p : Plan}
    (compiled : doc.compile hooks = .ok c) (found : c.dispatch.resolve l = .ok p) :
    ∃ g e, (g, e) ∈ Endpoint.declared doc.provider ∧ p.endpoint = Endpoint.ofDocument g e ∧
      ∀ op condition args, p.Composes g e l op condition args := by
  obtain ⟨g, e, schema, declared, fits, endpoint, accepts⟩ :=
    Document.resolve_compiled compiled found
  refine ⟨g, e, declared, endpoint, fun op condition args => ?_⟩
  have serves := Plan.serves_of_fault fits endpoint accepts
  have composed := Plan.selection_serves serves op condition args
  unfold Plan.Composes
  -- Only arguments without a condition are refused.
  split at composed
  · rename_i refused
    rw [composed]
    refine ⟨fun err => ⟨fun h => ?_, fun h => ?_⟩, fun s h => ?_⟩
    · cases h
      exact ⟨refused.1, refused.2, rfl⟩
    · rw [h.2.2]
    · cases h
  · rename_i accepted
    obtain ⟨s, values, hs, hvalues, selects, table⟩ := composed
    rw [hs]
    refine ⟨fun err => ⟨fun h => ?_, fun h => ?_⟩, fun s' h => ?_⟩
    · cases h
    · exact absurd ⟨h.1, h.2.1⟩ accepted
    · cases h
      refine ⟨?_, ?_, ?_⟩
      · rw [selects.condition, Plan.conditions, endpoint]
        simp only [Endpoint.ofDocument, List.map_map, Function.comp_def]
        rfl
      · rw [selects.args, List.map_append, ← hvalues, endpoint]
        simp only [Endpoint.ofDocument, List.map_map, Function.comp_def]
      · rw [table, Plan.joinedTable, endpoint]
        simp only [Endpoint.ofDocument]
        cases p.joinHook <;> rfl

theorem selection_compiled_tasks :
    ∃ c p, Tasks.document.compile Tasks.hooks = .ok c ∧ c.dispatch.resolve ⟨"/lists/7"⟩ = .ok p ∧
      ∃ g e, (g, e) ∈ Endpoint.declared Tasks.document.provider ∧
        p.endpoint = Endpoint.ofDocument g e ∧
        ∀ op condition args, p.Composes g e ⟨"/lists/7"⟩ op condition args :=
  ⟨_, _, rfl, rfl, @selection_compiled Tasks.document Tasks.hooks _ _ _ rfl rfl⟩

example : ((Tasks.document.compile Tasks.hooks).toOption.bind fun c =>
    (c.dispatch.resolve ⟨"/lists/7"⟩).toOption.bind fun p =>
      (p.selection .query ⟨"/lists/7"⟩ (some "id > ?") ["3"]).toOption.map fun s =>
        (s.condition, s.args, s.table)) =
    some ("(list=?) AND (title <> '') AND (id > ?) AND (title <> 'done')", ["7", "3"],
      some "tasks JOIN lists USING (list)") := by
  decide

end ResourceProvider
