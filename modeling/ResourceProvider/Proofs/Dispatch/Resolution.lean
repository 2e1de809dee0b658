import ResourceProvider.Proofs.Dispatch.Compiled
import ResourceProvider.Proofs.Route.Matching
import ResourceProvider.Proofs.Route.Path
/-!
# Which endpoint serves a locator

A locator is served by the first declared endpoint whose path takes it (`resolve_first`). Routes
and plans stand in the order of the declarations, so the code that is found is the position of the
plan; and endpoints without a table are refused before any plan is made.
-/
namespace ResourceProvider

open Route (Locator)

/-! ## Paths that take a locator -/

/-- A part of a configured path stands for a segment of a locator: `*` for any, `#` for a number,
and every other part for itself. -/
def Route.Stands (part s : String) : Prop :=
  if part = "*" then True
  else if part = "#" then s ≠ "" ∧ ∀ c ∈ s.toList, '0' ≤ c ∧ c ≤ '9'
  else part = s

/-- The path of an endpoint has as many parts as the locator, and they stand for its segments. -/
def Document.Endpoint.Takes (e : Document.Endpoint) (l : Locator) : Prop :=
  List.Forall₂ Route.Stands (Route.segments (Text.trim e.path)) l.segments

theorem Route.Segment.accepts_ofText {part s : String} :
    (ofText part).accepts s ↔ Stands part s := by
  unfold ofText Stands
  by_cases any : part = "*"
  · simp [any, accepts]
  · by_cases number : part = "#"
    · simp [number, accepts, Text.isDigit]
    · simp [any, number, accepts]

/-- The pattern of an endpoint accepts what its path takes. -/
theorem Document.Endpoint.takes_iff {g : Document.Group} {e : Document.Endpoint} {l : Locator} :
    (ResourceProvider.Endpoint.ofDocument g e).pattern.accepts l.segments ↔ e.Takes l := by
  have pattern : (ResourceProvider.Endpoint.ofDocument g e).pattern =
      (Route.segments (Text.trim e.path)).map Route.Segment.ofText := by
    rw [← Route.segments_canonicalPath]
    simp only [ResourceProvider.Endpoint.ofDocument, Route.Pattern.ofPath]
  rw [pattern, Route.Pattern.accepts_iff, List.forall₂_map_left_iff]
  simp only [Route.Segment.accepts_ofText]
  rfl

/-! ## Codes and positions -/

namespace Dispatch.Built

variable {p : Document.Provider} {c : Context} {es : List Endpoint} {d : Dispatch} {l : Locator}

/-- The route at a position accepts what the path declared there takes. -/
theorem accepts_iff (h : Built p c es d) {code : Nat} {r : String × Route.Pattern}
    (hr : d.routes.routes[code]? = some r) :
    ∃ g e, (Endpoint.declared p)[code]? = some (g, e) ∧
      (r.2.accepts l.segments ↔ e.Takes l) := by
  have bound := (List.getElem?_eq_some_iff.1 hr).1
  rw [h.sizes.1, ← h.sizes.2] at bound
  obtain ⟨g, e, decl⟩ := h.exists_declared bound
  obtain ⟨r', -, hr', pattern, -⟩ := h.aligned decl
  rw [hr] at hr'
  cases hr'
  exact ⟨g, e, decl, by rw [pattern, Document.Endpoint.takes_iff]⟩

/-- Whatever is found has a plan. -/
theorem code_lt (h : Built p c es d) {code : Nat} (found : d.routes.find l = .ok code) :
    code < d.plans.length := by
  obtain ⟨⟨r, hr, -⟩, -⟩ := Route.Table.find_eq_ok_iff.1 found
  have bound := (List.getElem?_eq_some_iff.1 hr).1
  rwa [h.sizes.1, ← h.sizes.2] at bound

theorem resolve_eq_ok_iff (h : Built p c es d) {q : Plan} :
    d.resolve l = .ok q ↔ ∃ code, d.routes.find l = .ok code ∧ d.plans[code]? = some q := by
  unfold resolve
  cases found : d.routes.find l with
  | error e => simp
  | ok code =>
    have plan := List.getElem?_eq_getElem (h.code_lt found)
    simp [plan]

theorem resolve_eq_error_iff (h : Built p c es d) {e : RouteError} :
    d.resolve l = .error e ↔ d.routes.find l = .error e := by
  unfold resolve
  cases found : d.routes.find l with
  | error e => simp
  | ok code =>
    have plan := List.getElem?_eq_getElem (h.code_lt found)
    simp [plan]

end Dispatch.Built

/-! ## How compiling fails -/

/-- If the result is an error, then one of which `P` is true. -/
def FailsBy {ε α : Type} (P : ε → Prop) (x : Except ε α) : Prop :=
  ∀ e, x = .error e → P e

theorem FailsBy.ok {ε α : Type} {P : ε → Prop} (a : α) : FailsBy P (.ok a : Except ε α) := by
  intro e h
  cases h

theorem FailsBy.bind {ε α β : Type} {P : ε → Prop} {x : Except ε α} {f : α → Except ε β}
    (first : FailsBy P x) (rest : ∀ a, x = .ok a → FailsBy P (f a)) : FailsBy P (x >>= f) := by
  intro e h
  cases x with
  | error e' =>
    cases h
    exact first e rfl
  | ok a => exact rest a rfl e h

theorem FailsBy.mapError {ε ε' α : Type} {P : ε' → Prop} {f : ε → ε'} (h : ∀ e, P (f e))
    (x : Except ε α) : FailsBy P (x.mapError f) := by
  intro e failed
  cases x with
  | error e' =>
    cases failed
    exact h e'
  | ok a => cases failed

theorem FailsBy.map {ε α β : Type} {P : ε → Prop} {x : Except ε α} (h : FailsBy P x)
    (f : α → β) : FailsBy P (x.map f) := by
  intro e failed
  cases x with
  | error e' =>
    cases failed
    exact h e rfl
  | ok a => cases failed

theorem FailsBy.mono {ε α : Type} {P Q : ε → Prop} {x : Except ε α} (h : FailsBy P x)
    (le : ∀ e, P e → Q e) : FailsBy Q x :=
  fun e failed => le e (h e failed)

/-- A hook that a document names is not there. -/
def DocumentError.IsMissingHook (e : DocumentError) : Prop :=
  ∃ kind name, e = .missingHook kind name

theorem Hooks.named_failsBy {α : Type} (kind : HookKind) (hooks : List (String × α))
    (name : String) : FailsBy DocumentError.IsMissingHook (named kind hooks name) := by
  intro e h
  unfold named at h
  split at h
  · cases h
  · cases h
    exact ⟨kind, name, rfl⟩

theorem Hooks.named?_failsBy {α : Type} (kind : HookKind) (hooks : List (String × α))
    (name : Option String) : FailsBy DocumentError.IsMissingHook (named? kind hooks name) := by
  cases name with
  | none => exact .ok none
  | some name => exact (named_failsBy kind hooks name).map some

namespace Dispatch

theorem resolveDefaults_failsBy (hooks : Hooks) (d : Document.NotifyDefaults) :
    FailsBy DocumentError.IsMissingHook (resolveDefaults hooks d) := by
  have find (m : Mutation) := Hooks.named?_failsBy .notify hooks.notifiers (d.hook? m)
  unfold resolveDefaults
  refine .bind (find .insert) fun _ _ => ?_
  refine .bind (find .bulkInsert) fun _ _ => ?_
  refine .bind (find .update) fun _ _ => ?_
  refine .bind (find .delete) fun _ _ => ?_
  exact .ok _

theorem groupParts_failsBy (hooks : Hooks) (gs : List Document.Group) :
    FailsBy DocumentError.IsMissingHook (groupParts hooks gs) := by
  induction gs with
  | nil => exact .ok []
  | cons g gs ih =>
    unfold groupParts
    refine .bind (resolveDefaults_failsBy hooks _) fun _ _ => ?_
    refine .bind ih fun _ _ => ?_
    exact .ok _

theorem notifySlot_failsBy (c : Context) (e : Endpoint) (m : Mutation) :
    FailsBy DocumentError.IsMissingHook (notifySlot c e m) := by
  unfold notifySlot
  split
  · exact (Hooks.named_failsBy _ _ _).map Assigned.byPath
  · split
    · exact .ok _
    · exact .ok _

/-- If the table of an endpoint is there, its plan fails only for want of a hook. -/
theorem plan_failsBy {c : Context} (code : Nat) {e : Endpoint}
    (present : c.schema.table? e.table ≠ none) :
    FailsBy DocumentError.IsMissingHook (plan c code e) := by
  unfold plan
  refine .bind (notifySlot_failsBy c e .insert) fun _ _ => ?_
  refine .bind (notifySlot_failsBy c e .bulkInsert) fun _ _ => ?_
  refine .bind (notifySlot_failsBy c e .update) fun _ _ => ?_
  refine .bind (notifySlot_failsBy c e .delete) fun _ _ => ?_
  refine .bind (Hooks.named?_failsBy _ _ _) fun _ _ => ?_
  refine .bind (Hooks.named?_failsBy _ _ _) fun _ _ => ?_
  refine .bind (Hooks.named?_failsBy _ _ _) fun _ _ => ?_
  split
  · rename_i missing
    exact absurd missing present
  · exact .ok _

theorem planAll_failsBy {c : Context} (code : Nat) {es : List Endpoint}
    (present : ∀ e ∈ es, c.schema.table? e.table ≠ none) :
    FailsBy DocumentError.IsMissingHook (planAll c code es) := by
  induction es generalizing code with
  | nil => exact .ok []
  | cons e es ih =>
    rw [List.forall_mem_cons] at present
    unfold planAll
    refine .bind (plan_failsBy code present.1) fun _ _ => ?_
    refine .bind (ih (code + 1) present.2) fun _ _ => ?_
    exact .ok _

end Dispatch

theorem Endpoint.table_of_fault {g : Document.Group} {s : Schema} {e : Document.Endpoint}
    (h : fault g s e = none) : s.table? (effectiveTable g e) ≠ none := by
  simp only [fault] at h
  split at h
  · cases h
  split at h
  · cases h
  split at h
  · cases h
  · rename_i present
    simpa using present

/-- Endpoints that were resolved have their tables. -/
theorem Endpoint.tables_of_ofProvider {p : Document.Provider} {s : Schema} {es : List Endpoint}
    (h : ofProvider p s = .ok es) : ∀ e ∈ es, s.table? e.table ≠ none := by
  obtain ⟨fits, rfl⟩ := ofProvider_ok h
  intro e he
  obtain ⟨decl, hdecl, rfl⟩ := List.mem_map.1 he
  exact table_of_fault (fits decl hdecl)

/-- A missing table is found while the endpoints are resolved, and no later. -/
theorem Dispatch.missingTable_of_compile {p : Document.Provider} {s : Schema} {hooks : Hooks}
    {table : String} (h : compile p s hooks = .error (.schema (.missingTable table))) :
    Endpoint.ofProvider p s = .error (.schema (.missingTable table)) := by
  -- Past the endpoints, only routes and hooks are at fault.
  let Late (e : DocumentError) : Prop := Endpoint.ofProvider p s = .error e ∨ ∀ e', e ≠ .schema e'
  have route (e : RouteError) : Late (.route e) := .inr fun _ h => by cases h
  have hook (e : DocumentError) (missing : e.IsMissingHook) : Late e := by
    obtain ⟨_, _, rfl⟩ := missing
    exact .inr fun _ h => by cases h
  have late : FailsBy Late (compile p s hooks) := by
    unfold compile
    refine .bind (fun e h => .inl h) fun es hes => ?_
    have present := Endpoint.tables_of_ofProvider hes
    refine .bind (.mapError route _) fun _ _ => ?_
    refine .bind (.mapError route _) fun _ _ => ?_
    refine .bind ((resolveDefaults_failsBy hooks _).mono hook) fun _ _ => ?_
    refine .bind ((groupParts_failsBy hooks _).mono hook) fun _ _ => ?_
    refine .bind (FailsBy.mono ?_ hook) fun _ _ => .ok _
    exact planAll_failsBy 0 present
  rcases late _ h with early | other
  · exact early
  · exact absurd rfl (other _)

/-! ## The first endpoint -/

/-- The endpoint declared at a position takes a locator, and none before it does. -/
structure Document.Provider.Chooses (p : Document.Provider) (l : Locator) (code : Nat)
    (g : Document.Group) (e : Document.Endpoint) : Prop where
  declared : (ResourceProvider.Endpoint.declared p)[code]? = some (g, e)
  takes : e.Takes l
  first : ∀ i < code, ∀ other, (ResourceProvider.Endpoint.declared p)[i]? = some other →
    ¬ other.2.Takes l

namespace Dispatch.Built

variable {p : Document.Provider} {c : Context} {es : List Endpoint} {d : Dispatch} {l : Locator}

/-- The first endpoint that takes a locator is found. -/
theorem find_of_chooses (h : Built p c es d) {code : Nat} {g : Document.Group}
    {e : Document.Endpoint} (chosen : p.Chooses l code g e) : d.routes.find l = .ok code := by
  obtain ⟨r, -, hr, pattern, -⟩ := h.aligned chosen.declared
  refine Route.Table.find_eq_ok_iff.2 ⟨⟨r, hr, ?_⟩, ?_⟩
  · rw [pattern]
    exact Document.Endpoint.takes_iff.2 chosen.takes
  · intro i before r' hr' accepts
    obtain ⟨g', e', decl, taken⟩ := h.accepts_iff (l := l) hr'
    exact chosen.first i before (g', e') decl (taken.1 accepts)

/-- Nothing is found if no endpoint takes the locator, and only then. -/
theorem refuses_iff (h : Built p c es d) :
    (∀ r ∈ d.routes.routes, ¬ r.2.accepts l.segments) ↔
      ∀ decl ∈ Endpoint.declared p, ¬ decl.2.Takes l := by
  constructor
  · intro refused decl hdecl takes
    obtain ⟨code, hcode⟩ := List.getElem?_of_mem hdecl
    obtain ⟨r, -, hr, pattern, -⟩ := h.aligned (g := decl.1) (e := decl.2) hcode
    refine refused r (List.mem_of_getElem? hr) ?_
    rw [pattern]
    exact Document.Endpoint.takes_iff.2 takes
  · intro refused r hr accepts
    obtain ⟨code, hcode⟩ := List.getElem?_of_mem hr
    obtain ⟨g, e, decl, taken⟩ := h.accepts_iff (l := l) hcode
    exact refused (g, e) (List.mem_of_getElem? decl) (taken.1 accepts)

end Dispatch.Built

/-- A locator leads to the plan of the first declared endpoint that takes it: the plan stands at
the position of the endpoint and has its table from the schema. If no endpoint takes the locator, it
leads nowhere, and the error names it. What is found always has a plan, and only the segments of a
locator matter. -/
structure Dispatch.ServesFirst (d : Dispatch) (doc : Document) (l : Locator) : Prop where
  chosen : ∀ {code g e}, doc.provider.Chooses l code g e →
    ∃ p s, d.resolve l = .ok p ∧ d.plans[code]? = some p ∧ p.code = code ∧
      p.endpoint = Endpoint.ofDocument g e ∧ Schema.ofDatabase doc.database = .ok s ∧
      s.table? (Endpoint.effectiveTable g e) = some p.table
  unknown : ∀ err, d.resolve l = .error err ↔
    (∀ decl ∈ Endpoint.declared doc.provider, ¬ decl.2.Takes l) ∧ err = .unknown l.raw
  planned : ∀ code, d.routes.find l = .ok code → code < d.plans.length
  alike : ∀ l' : Locator, l'.segments = l.segments → ∀ p, d.resolve l' = .ok p ↔ d.resolve l = .ok p

/-- Every locator is served by the first declared endpoint that takes it, and a missing table is
only ever found while the endpoints are resolved. -/
theorem resolve_first {doc : Document} {hooks : Hooks} {c : Compiled}
    (compiled : doc.compile hooks = .ok c) :
    (∀ l, c.dispatch.ServesFirst doc l) ∧
      ∀ p s hooks table, Dispatch.compile p s hooks = .error (.schema (.missingTable table)) →
        Endpoint.ofProvider p s = .error (.schema (.missingTable table)) := by
  obtain ⟨s, ctx, es, hs, -, schema, -, built⟩ := Document.compile_built compiled
  refine ⟨?_, fun p s hooks table => Dispatch.missingTable_of_compile⟩
  intro l
  refine ⟨?_, ?_, fun code => built.code_lt, ?_⟩
  · intro code g e chosen
    obtain ⟨-, p, -, -, hp, fills⟩ := built.aligned chosen.declared
    have resolved := built.resolve_eq_ok_iff.2 ⟨code, built.find_of_chooses chosen, hp⟩
    refine ⟨p, s, resolved, hp, fills.code, fills.endpoint, hs, ?_⟩
    rw [← schema]
    exact fills.table
  · intro err
    rw [built.resolve_eq_error_iff, Route.Table.find_eq_error_iff, built.refuses_iff]
  · intro l' same p
    rw [built.resolve_eq_ok_iff, built.resolve_eq_ok_iff]
    simp only [Route.Table.find_eq_ok_iff, same]

theorem resolve_first_tasks :
    ∃ c, Tasks.document.compile Tasks.hooks = .ok c ∧
      (∀ l, c.dispatch.ServesFirst Tasks.document l) ∧
      ∀ p s hooks table, Dispatch.compile p s hooks = .error (.schema (.missingTable table)) →
        Endpoint.ofProvider p s = .error (.schema (.missingTable table)) := by
  have compiled : Tasks.document.compile Tasks.hooks = .ok _ := rfl
  exact ⟨_, compiled, resolve_first compiled⟩

end ResourceProvider
