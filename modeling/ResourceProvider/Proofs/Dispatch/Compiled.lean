import ResourceProvider.Dispatch.Compile
import ResourceProvider.Proofs.Route.Matching
/-!
# What compiling a document guarantees

`Dispatch.Built` says once what a provider is compiled from. The routes, the plans and the endpoints
of a compiled document stand in one order (`Dispatch.Built.aligned`). So the plan that a locator
leads to serves an endpoint that the document declares, free of faults, whose pattern accepts the
locator (`resolve_compiled`).
-/
namespace ResourceProvider

open Route (Locator)

/-! ## Results -/

theorem ok_of_bind {ε α β : Type} {x : Except ε α} {f : α → Except ε β} {b : β}
    (h : (x >>= f) = .ok b) : ∃ a, x = .ok a ∧ f a = .ok b := by
  cases x with
  | error e => cases h
  | ok a => exact ⟨a, rfl, h⟩

theorem ok_of_mapError {ε ε' α : Type} {x : Except ε α} {f : ε → ε'} {a : α}
    (h : x.mapError f = .ok a) : x = .ok a := by
  cases x with
  | error e => cases h
  | ok a => cases h; rfl

theorem mapError_ok_bind {ε ε' α β : Type} (f : ε → ε') (a : α) (k : α → Except ε' β) :
    (Except.mapError f (.ok a) >>= k) = k a := rfl

/-! ## Routes -/

namespace Route

theorem Table.register_ok {t t' : Table} {endpoint path : String} {pattern : Pattern} {code : Nat}
    (h : t.register endpoint path pattern = .ok (code, t')) :
    t'.routes = t.routes ++ [(canonicalPath path, pattern)] := by
  simp only [Table.register] at h
  split at h
  · cases h
  · split at h
    · cases h
    · cases h
      rfl

end Route

namespace Dispatch

theorem registerAll_routes {t t' : Route.Table} {es : List Endpoint}
    (h : registerAll t es = .ok t') :
    t'.routes.map Prod.snd = t.routes.map Prod.snd ++ es.map Endpoint.pattern := by
  induction es generalizing t with
  | nil =>
    cases h
    simp
  | cons e es ih =>
    unfold registerAll at h
    split at h
    · cases h
    · rename_i hr
      rw [ih h, Route.Table.register_ok hr]
      simp

/-! ## Plans -/

/-- A plan has what its endpoint, its group and the entries for its path give it. -/
structure Fills (c : Context) (code : Nat) (e : Endpoint) (p : Plan) : Prop where
  code : p.code = code
  endpoint : p.endpoint = e
  table : c.schema.table? e.table = some p.table
  aliases : p.aliases = ((partOf? c.groups e.group).map GroupPart.aliases).getD []
  notify : ∀ m, notifySlot c e m = .ok (p.notify m)

theorem plan_fills {c : Context} {code : Nat} {e : Endpoint} {p : Plan}
    (h : plan c code e = .ok p) : Fills c code e p := by
  unfold plan at h
  obtain ⟨_, insert, h⟩ := ok_of_bind h
  obtain ⟨_, bulkInsert, h⟩ := ok_of_bind h
  obtain ⟨_, update, h⟩ := ok_of_bind h
  obtain ⟨_, delete, h⟩ := ok_of_bind h
  obtain ⟨_, -, h⟩ := ok_of_bind h
  obtain ⟨_, -, h⟩ := ok_of_bind h
  obtain ⟨_, -, h⟩ := ok_of_bind h
  split at h
  · cases h
  · rename_i found
    cases h
    refine ⟨rfl, rfl, found, rfl, ?_⟩
    intro m
    cases m with
    | insert => exact insert
    | bulkInsert => exact bulkInsert
    | update => exact update
    | delete => exact delete

/-- There is a plan for each endpoint, at its position. -/
theorem planAll_plan {c : Context} {code : Nat} {es : List Endpoint} {ps : List Plan}
    (h : planAll c code es = .ok ps) :
    ps.length = es.length ∧
      ∀ i e, es[i]? = some e → ∃ p, ps[i]? = some p ∧ plan c (code + i) e = .ok p := by
  induction es generalizing code ps with
  | nil =>
    cases h
    simp
  | cons e es ih =>
    obtain ⟨p, hp, h⟩ := ok_of_bind h
    obtain ⟨ps, hps, h⟩ := ok_of_bind h
    cases h
    obtain ⟨length, rest⟩ := ih hps
    refine ⟨by rw [List.length_cons, List.length_cons, length], ?_⟩
    intro i e' he'
    cases i with
    | zero =>
      cases he'
      exact ⟨p, rfl, hp⟩
    | succ i =>
      obtain ⟨p', hp', planned⟩ := rest i e' he'
      refine ⟨p', hp', ?_⟩
      rwa [Nat.add_right_comm] at planned

theorem planAll_fills {c : Context} {code : Nat} {es : List Endpoint} {ps : List Plan}
    (h : planAll c code es = .ok ps) :
    ps.length = es.length ∧
      ∀ i e, es[i]? = some e → ∃ p, ps[i]? = some p ∧ Fills c (code + i) e p := by
  obtain ⟨length, planned⟩ := planAll_plan h
  refine ⟨length, fun i e he => ?_⟩
  obtain ⟨p, hp, made⟩ := planned i e he
  exact ⟨p, hp, plan_fills made⟩

end Dispatch

/-! ## Endpoints -/

theorem Endpoint.ofProvider_ok {p : Document.Provider} {s : Schema} {es : List Endpoint}
    (h : ofProvider p s = .ok es) :
    (∀ d ∈ declared p, fault d.1 s d.2 = none) ∧
      es = (declared p).map fun d => ofDocument d.1 d.2 := by
  unfold ofProvider at h
  split at h
  · cases h
  · rename_i hnone
    cases h
    exact ⟨fun d hd => List.findSome?_eq_none_iff.1 hnone d hd, rfl⟩

/-- Each binding of an endpoint without fault names a wildcard of its pattern and a column. -/
theorem Endpoint.binding_of_fault {g : Document.Group} {s : Schema} {e : Document.Endpoint}
    (h : fault g s e = none) {b : Document.Binding} (hb : b ∈ e.bindings) :
    ∃ w, (ofDocument g e).pattern[b.segment]? = some w ∧ w.isWildcard ∧
      Text.isBlank b.column = false := by
  have pattern : (ofDocument g e).pattern = .ofPath (Route.canonicalPath e.path) := by
    simp only [ofDocument]
  have fit : bindingFault (Route.canonicalPath e.path) (ofDocument g e).pattern b = none := by
    simp only [fault] at h
    split at h
    · cases h
    split at h
    · cases h
    split at h
    · cases h
    simp only [Option.map_eq_none_iff, List.findSome?_eq_none_iff] at h
    rw [pattern]
    exact h b hb
  simp only [bindingFault] at fit
  split at fit
  · cases fit
  · rename_i w hw
    refine ⟨w, hw, ?_⟩
    cases hwild : w.isWildcard <;> cases hblank : Text.isBlank b.column <;>
      simp [hwild, hblank] at fit ⊢

/-! ## Locators -/

/-- What a provider is compiled from: its endpoints, and what their plans share. -/
structure Dispatch.Built (p : Document.Provider) (c : Context) (es : List Endpoint)
    (d : Dispatch) : Prop where
  endpoints : Endpoint.ofProvider p c.schema = .ok es
  routes : registerAll .empty es = .ok d.routes
  bound : bindEntries (es.map Endpoint.path) [] (entries p) = .ok c.bound
  defaults : resolveDefaults c.hooks p.notifyDefaults = .ok c.defaults
  groups : groupParts c.hooks p.groups = .ok c.groups
  plans : planAll c 0 es = .ok d.plans

theorem Dispatch.compile_built {p : Document.Provider} {s : Schema} {hooks : Hooks} {d : Dispatch}
    (h : compile p s hooks = .ok d) :
    ∃ c es, c.schema = s ∧ c.hooks = hooks ∧ Built p c es d := by
  obtain ⟨es, hes, h⟩ := ok_of_bind h
  obtain ⟨routes, hroutes, h⟩ := ok_of_bind h
  obtain ⟨bound, hbound, h⟩ := ok_of_bind h
  obtain ⟨defaults, hdefaults, h⟩ := ok_of_bind h
  obtain ⟨groups, hgroups, h⟩ := ok_of_bind h
  obtain ⟨plans, hplans, h⟩ := ok_of_bind h
  cases h
  exact ⟨⟨s, hooks, bound, groups, defaults⟩, es, rfl, rfl, hes, ok_of_mapError hroutes,
    ok_of_mapError hbound, hdefaults, hgroups, hplans⟩

/-- A document is compiled from its schema and its provider. -/
theorem Document.compile_built {doc : Document} {hooks : Hooks} {c : Compiled}
    (compiled : doc.compile hooks = .ok c) :
    ∃ s ctx es, Schema.ofDatabase doc.database = .ok s ∧ c.script = Schema.script s ∧
      ctx.schema = s ∧ ctx.hooks = hooks ∧ Dispatch.Built doc.provider ctx es c.dispatch := by
  obtain ⟨s, hs, compiled⟩ := ok_of_bind compiled
  obtain ⟨d, hd, compiled⟩ := ok_of_bind compiled
  cases compiled
  obtain ⟨ctx, es, schema, same, built⟩ := Dispatch.compile_built hd
  exact ⟨s, ctx, es, ok_of_mapError hs, rfl, schema, same, built⟩

namespace Dispatch.Built

variable {p : Document.Provider} {c : Context} {es : List Endpoint} {d : Dispatch}

/-- The routes have the patterns of the endpoints, in order. -/
theorem patterns (h : Built p c es d) :
    d.routes.routes.map Prod.snd = es.map Endpoint.pattern :=
  registerAll_routes h.routes

theorem declared (h : Built p c es d) :
    es = (Endpoint.declared p).map fun d => Endpoint.ofDocument d.1 d.2 :=
  (Endpoint.ofProvider_ok h.endpoints).2

/-- Routes, plans and declarations stand in one order: at each position there is a route with the
pattern of the endpoint declared there, and a plan that serves it. -/
theorem aligned (h : Built p c es d) {code : Nat} {g : Document.Group} {e : Document.Endpoint}
    (decl : (Endpoint.declared p)[code]? = some (g, e)) :
    ∃ r q, d.routes.routes[code]? = some r ∧ r.2 = (Endpoint.ofDocument g e).pattern ∧
      d.plans[code]? = some q ∧ Fills c code (Endpoint.ofDocument g e) q := by
  have endpoint : es[code]? = some (Endpoint.ofDocument g e) := by
    rw [h.declared, List.getElem?_map, decl]
    rfl
  obtain ⟨q, hq, fills⟩ := (planAll_fills h.plans).2 code _ endpoint
  have pattern := congrArg (·[code]?) h.patterns
  simp only [List.getElem?_map, endpoint, Option.map_some, Option.map_eq_some_iff] at pattern
  obtain ⟨r, hr, same⟩ := pattern
  rw [Nat.zero_add] at fills
  exact ⟨r, q, hr, same, hq, fills⟩

/-- There are as many routes, and as many plans, as endpoints are declared. -/
theorem sizes (h : Built p c es d) :
    d.routes.routes.length = (Endpoint.declared p).length ∧
      d.plans.length = (Endpoint.declared p).length := by
  have routes := congrArg List.length h.patterns
  have plans := (planAll_fills h.plans).1
  rw [h.declared] at routes plans
  simpa using And.intro routes plans

/-- The declaration at the position of a plan or a route. -/
theorem exists_declared (h : Built p c es d) {code : Nat} (bound : code < d.plans.length) :
    ∃ g e, (Endpoint.declared p)[code]? = some (g, e) := by
  rw [h.sizes.2] at bound
  exact ⟨_, _, List.getElem?_eq_getElem bound⟩

end Dispatch.Built

/-- A locator leads to the plan at the position of the first route that accepts it. -/
theorem Dispatch.resolve_ok {d : Dispatch} {l : Locator} {p : Plan} (h : d.resolve l = .ok p) :
    ∃ (code : Nat) (r : String × Route.Pattern), d.plans[code]? = some p ∧
      d.routes.routes[code]? = some r ∧ r.2.accepts l.segments := by
  unfold resolve at h
  split at h
  · cases h
  · rename_i code hcode
    obtain ⟨⟨r, hr, accepts⟩, -⟩ := Route.Table.find_eq_ok_iff.1 hcode
    split at h
    · rename_i q hq
      cases h
      exact ⟨code, r, hq, hr, accepts⟩
    · cases h

/-- A locator leads to the plan of a declared endpoint whose pattern accepts it. -/
theorem Document.resolve_compiled {doc : Document} {hooks : Hooks} {c : Compiled} {l : Locator}
    {p : Plan} (compiled : doc.compile hooks = .ok c) (found : c.dispatch.resolve l = .ok p) :
    ∃ g e s, (g, e) ∈ Endpoint.declared doc.provider ∧ Endpoint.fault g s e = none ∧
      p.endpoint = Endpoint.ofDocument g e ∧ p.endpoint.pattern.accepts l.segments := by
  obtain ⟨s, ctx, es, -, -, rfl, -, built⟩ := Document.compile_built compiled
  obtain ⟨code, r, hp, hr, accepts⟩ := Dispatch.resolve_ok found
  obtain ⟨g, e, decl⟩ := built.exists_declared (List.getElem?_eq_some_iff.1 hp).1
  obtain ⟨r', p', hr', pattern, hp', fills⟩ := built.aligned decl
  rw [hr] at hr'
  cases hr'
  rw [hp] at hp'
  cases hp'
  have mem := List.mem_of_getElem? decl
  have fits := (Endpoint.ofProvider_ok built.endpoints).1 (g, e) mem
  refine ⟨g, e, ctx.schema, mem, fits, fills.endpoint, ?_⟩
  rw [fills.endpoint, ← pattern]
  exact accepts

/-- The plan that a locator leads to has its table from the schema of the document. -/
theorem Document.table_compiled {doc : Document} {hooks : Hooks} {c : Compiled} {l : Locator}
    {p : Plan} (compiled : doc.compile hooks = .ok c) (found : c.dispatch.resolve l = .ok p) :
    ∃ s, Schema.ofDatabase doc.database = .ok s ∧ s.table? p.endpoint.table = some p.table := by
  obtain ⟨s, ctx, es, hs, -, rfl, -, built⟩ := Document.compile_built compiled
  obtain ⟨code, -, hp, -⟩ := Dispatch.resolve_ok found
  obtain ⟨g, e, decl⟩ := built.exists_declared (List.getElem?_eq_some_iff.1 hp).1
  obtain ⟨-, p', -, -, hp', fills⟩ := built.aligned decl
  rw [hp] at hp'
  cases hp'
  refine ⟨ctx.schema, hs, ?_⟩
  rw [fills.endpoint]
  exact fills.table

/-! ## Tasks in lists -/

namespace Tasks

/-- A column that only has a type and may be the primary key. -/
def column (name : String) (type : DataType) (key : Option ConflictPolicy) : Document.Column :=
  ⟨name, type, none, key, none, false, none, none, none⟩

/-- A table of tasks, served as a whole and list by list. -/
def document : Document where
  database := ⟨"todo", 1, [⟨"tasks", false,
    [column "id" .integer (some .none), column "list" .integer none, column "title" .text none],
    none, [], [], []⟩], []⟩
  provider := ⟨"todo", [{
    name := "tasks"
    table := "tasks"
    mapColumns := []
    endpoints := [
      ⟨"all", "tasks", "task", none, [], none, none, none, none, none, Operation.all, []⟩,
      ⟨"list", "lists/#", "task", none, [" title <> '' ", ""], some "JOIN lists USING (list)", none,
        none, none, none, Operation.all, [⟨1, " list "⟩]⟩]
    overrides := [⟨.whereFragments, ["/lists/#"], "open"⟩, ⟨.notify .update, ["/lists/#"], "both"⟩]
    notificationUris := []
    notifyDefaults := .empty }], .empty⟩

/-- Hides finished tasks, and signals updates at a list and at all tasks. -/
def hooks : Hooks :=
  ⟨[("open", fun _ _ => ["title <> 'done'", " "])], [], [],
    [("both", fun n => [n.locator.raw, "tasks"])]⟩

/-- The table of the document. -/
def table : Table where
  name := "tasks"
  ifNotExists := false
  columns := document.database.tables.flatMap Document.Table.columns
  primaryKey := .column 0
  unique := []
  checks := []
  foreignKeys := []

/-- The plan that serves all tasks. -/
def whole : Plan where
  code := 0
  endpoint := ⟨"all", "tasks", "tasks", [.literal "tasks"], "task", "tasks", Operation.all, [], none,
    none, none, none, none, []⟩
  table := table
  aliases := []
  filterHook := none
  joinHook := none
  insertUriHook := none
  notify := fun | .insert => .none | .bulkInsert => .none | .update => .none | .delete => .none
  notificationUri := none

/-- The plan that serves the tasks of one list. -/
def ofList : Plan where
  code := 1
  endpoint := ⟨"list", "tasks", "lists/#", [.literal "lists", .number], "task", "tasks",
    Operation.all, ["title <> ''"], some "JOIN lists USING (list)", none, none, none, none,
    [⟨1, "list"⟩]⟩
  table := table
  aliases := []
  filterHook := some fun _ _ => ["title <> 'done'", " "]
  joinHook := none
  insertUriHook := none
  notify := fun
    | .insert => .none
    | .bulkInsert => .none
    | .update => .byPath fun n => [n.locator.raw, "tasks"]
    | .delete => .none
  notificationUri := none

/-- What the document compiles to, in full; what is evaluated at it does not compile it again. -/
def compiled : Compiled where
  script := ⟨"todo", 1,
    [("tasks", "CREATE TABLE tasks (id INTEGER PRIMARY KEY, list INTEGER, title TEXT)")], []⟩
  dispatch := ⟨"todo",
    ⟨[("tasks", [.literal "tasks"]), ("lists/#", [.literal "lists", .number])]⟩, [whole, ofList]⟩

theorem compiles : document.compile hooks = .ok compiled := by
  with_unfolding_all rfl

end Tasks

end ResourceProvider
