import Mathlib.Data.List.Nodup
import Mathlib.Data.List.Perm.Basic
import ResourceProvider.Proofs.Dispatch.Owners
import ResourceProvider.Proofs.Dispatch.Resolution
/-!
# Which documents compile

`Document.WellFormed` says what a document must be like, rule by rule. Compiling is a chain of steps
each of which can fail, and each step succeeds exactly if the rules that it looks at hold. So a
document compiles exactly if it is well formed (`document_compiles_iff`).
-/
namespace ResourceProvider

/-! ## The rules -/

/-- A hook of the kind that a slot takes is registered under a name. -/
def Hooks.Has (hooks : Hooks) : Slot → String → Prop
  | .whereFragments, name => name ∈ hooks.filters.map Prod.fst
  | .joins, name => name ∈ hooks.joins.map Prod.fst
  | .insertUri, name => name ∈ hooks.insertUris.map Prod.fst
  | .notify _, name => name ∈ hooks.notifiers.map Prod.fst

namespace Document

/-- The rules for one endpoint of a group. -/
structure Endpoint.WellFormed (e : Endpoint) (g : Group) (d : Database) : Prop where
  path : Route.canonicalPath e.path ≠ ""
  type : Text.isBlank e.type = false
  table : ∃ t ∈ d.tables, t.name = ResourceProvider.Endpoint.effectiveTable g e
  /-- A binding names a wildcard of the path, and a column. -/
  bindings : ∀ b ∈ e.bindings,
    (∃ part, (Route.segments (Route.canonicalPath e.path))[b.segment]? = some part ∧
      (part = "#" ∨ part = "*")) ∧
    Text.isBlank b.column = false

/-- The form of the declared path by which routes are told apart. -/
def Endpoint.route (e : Endpoint) : String :=
  Route.canonicalPath (Route.canonicalPath e.path)

/-- An endpoint is declared at the path. -/
def Provider.Serves (p : Provider) (path : String) : Prop :=
  ∃ d ∈ ResourceProvider.Endpoint.declared p,
    Route.canonicalPath d.2.path = Route.canonicalPath path

/-- The slots that overrides fill, each with the path at which it is filled. -/
def Provider.filled (p : Provider) : List (Slot × String) :=
  p.groups.flatMap fun g => g.overrides.flatMap fun o =>
    o.paths.map fun path => (o.slot, Route.canonicalPath path)

/-- The paths for which notification locators are given. -/
def Provider.located (p : Provider) : List String :=
  p.groups.flatMap fun g => g.notificationUris.flatMap fun n => n.paths.map Route.canonicalPath

/-- The hooks that defaults name are registered. -/
def NotifyDefaults.Known (d : NotifyDefaults) (hooks : Hooks) : Prop :=
  ∀ m name, d.hook? m = some name → hooks.Has (.notify m) name

end Document

/-- The rules for a whole document. -/
structure Document.WellFormed (doc : Document) (hooks : Hooks) : Prop where
  database : ∃ s, Schema.ofDatabase doc.database = .ok s
  endpoints : ∀ d ∈ Endpoint.declared doc.provider, d.2.WellFormed d.1 doc.database
  /-- Every endpoint has a route of its own. -/
  routed : ∀ d ∈ Endpoint.declared doc.provider, d.2.route ≠ ""
  distinct : ((Endpoint.declared doc.provider).map fun d => d.2.route).Nodup
  /-- Overrides and notification locators are for paths of endpoints. -/
  overrides : ∀ g ∈ doc.provider.groups, ∀ o ∈ g.overrides, ∀ path ∈ o.paths,
    doc.provider.Serves path
  locators : ∀ g ∈ doc.provider.groups, ∀ n ∈ g.notificationUris, ∀ path ∈ n.paths,
    doc.provider.Serves path
  filledOnce : doc.provider.filled.Nodup
  locatedOnce : doc.provider.located.Nodup
  /-- The hooks of all defaults, and of all overrides with a path, are registered. -/
  defaults : doc.provider.notifyDefaults.Known hooks
  groupDefaults : ∀ g ∈ doc.provider.groups, g.notifyDefaults.Known hooks
  overrideHooks : ∀ g ∈ doc.provider.groups, ∀ o ∈ g.overrides, o.paths ≠ [] →
    hooks.Has o.slot o.hook

/-! ## Steps that succeed -/

/-- The result is not an error. -/
def Succeeds {ε α : Type} (x : Except ε α) : Prop :=
  ∃ a, x = .ok a

namespace Succeeds

variable {ε ε' α β : Type}

theorem ok (a : α) : Succeeds (.ok a : Except ε α) :=
  ⟨a, rfl⟩

theorem pure (a : α) : Succeeds (Pure.pure a : Except ε α) :=
  ⟨a, rfl⟩

theorem not_error (e : ε) : ¬ Succeeds (.error e : Except ε α) := by
  rintro ⟨_, h⟩
  cases h

theorem map_iff (f : α → β) (x : Except ε α) : Succeeds (x.map f) ↔ Succeeds x := by
  cases x with
  | error e => exact iff_of_false (not_error e) (not_error e)
  | ok a => exact iff_of_true (ok _) (ok a)

theorem mapError_iff (f : ε → ε') (x : Except ε α) : Succeeds (x.mapError f) ↔ Succeeds x := by
  cases x with
  | error e => exact iff_of_false (not_error _) (not_error e)
  | ok a => exact iff_of_true (ok _) (ok a)

/-- Two steps succeed if the first does and the second does with its result. -/
theorem bind_iff {x : Except ε α} {f : α → Except ε β} {P : Prop}
    (rest : ∀ a, x = .ok a → (Succeeds (f a) ↔ P)) : Succeeds (x >>= f) ↔ Succeeds x ∧ P := by
  cases x with
  | error e => exact iff_of_false (not_error e) fun h => not_error e h.1
  | ok a => exact (rest a rfl).trans (and_iff_right (ok a)).symm

end Succeeds

/-! ## Hooks -/

namespace Hooks

theorem named_succeeds {α : Type} {kind : HookKind} {hooks : List (String × α)} {name : String} :
    Succeeds (named kind hooks name) ↔ name ∈ hooks.map Prod.fst := by
  unfold named
  cases found : hooks.lookup name with
  | none =>
    refine iff_of_false (Succeeds.not_error _) fun mem => ?_
    obtain ⟨f, hf, rfl⟩ := List.mem_map.1 mem
    simpa using List.lookup_eq_none_iff.1 found f hf
  | some hook =>
    refine iff_of_true (.ok _) ?_
    obtain ⟨before, after, rfl, -⟩ := List.lookup_eq_some_iff.1 found
    simp

theorem named?_succeeds {α : Type} {kind : HookKind} {hooks : List (String × α)}
    {name : Option String} :
    Succeeds (named? kind hooks name) ↔ ∀ n, name = some n → n ∈ hooks.map Prod.fst := by
  cases name with
  | none => exact iff_of_true (.ok _) fun _ h => by cases h
  | some n =>
    unfold named?
    rw [Succeeds.map_iff, named_succeeds]
    constructor
    · rintro h _ ⟨⟩
      exact h
    · intro h
      exact h n rfl

end Hooks

namespace Dispatch

variable {hooks : Hooks} {c : Context}

theorem resolveDefaults_succeeds {d : Document.NotifyDefaults} :
    Succeeds (resolveDefaults hooks d) ↔ d.Known hooks := by
  unfold resolveDefaults
  refine (Succeeds.bind_iff fun _ _ => Succeeds.bind_iff fun _ _ => Succeeds.bind_iff fun _ _ =>
    Succeeds.bind_iff fun _ _ => iff_true_intro (.pure _)).trans ?_
  simp only [Hooks.named?_succeeds, and_true]
  constructor
  · rintro ⟨insert, bulkInsert, update, delete⟩ m
    cases m with
    | insert => exact insert
    | bulkInsert => exact bulkInsert
    | update => exact update
    | delete => exact delete
  · intro known
    exact ⟨known .insert, known .bulkInsert, known .update, known .delete⟩

theorem groupParts_succeeds {gs : List Document.Group} :
    Succeeds (groupParts hooks gs) ↔ ∀ g ∈ gs, g.notifyDefaults.Known hooks := by
  induction gs with
  | nil => exact iff_of_true (.ok _) (by simp)
  | cons g gs ih =>
    unfold groupParts
    rw [Succeeds.bind_iff fun _ _ => Succeeds.bind_iff fun _ _ => iff_true_intro (.pure _),
      resolveDefaults_succeeds, ih, and_true, List.forall_mem_cons]

/-! ## Plans -/

theorem notifySlot_succeeds {e : Endpoint} {m : Mutation} :
    Succeeds (notifySlot c e m) ↔
      ∀ name, boundValue? c.bound (.slot (.notify m)) e.path = some name →
        c.hooks.Has (.notify m) name := by
  unfold notifySlot
  cases boundValue? c.bound (.slot (.notify m)) e.path with
  | none =>
    refine iff_of_true ?_ fun _ h => by cases h
    cases ((partOf? c.groups e.group).bind fun g => g.defaults m).or (c.defaults m) with
    | none => exact .ok _
    | some hook => exact .ok _
  | some name =>
    simp only
    rw [Succeeds.map_iff, Hooks.named_succeeds]
    constructor
    · rintro h _ ⟨⟩
      exact h
    · intro h
      exact h name rfl

/-- What the plan of an endpoint needs: the hooks of its slots, and its table. -/
def Plannable (c : Context) (e : Endpoint) : Prop :=
  (∀ slot name, boundValue? c.bound (.slot slot) e.path = some name → c.hooks.Has slot name) ∧
    c.schema.table? e.table ≠ none

theorem plan_succeeds {code : Nat} {e : Endpoint} :
    Succeeds (plan c code e) ↔ Plannable c e := by
  unfold plan Plannable
  -- Seven hooks are looked up, one after the other, and then the table.
  refine (Succeeds.bind_iff fun _ _ => Succeeds.bind_iff fun _ _ => Succeeds.bind_iff fun _ _ =>
    Succeeds.bind_iff fun _ _ => Succeeds.bind_iff fun _ _ => Succeeds.bind_iff fun _ _ =>
    Succeeds.bind_iff (P := c.schema.table? e.table ≠ none) fun _ _ => ?_).trans ?_
  rotate_left
  · simp only [notifySlot_succeeds, Hooks.named?_succeeds]
    constructor
    · rintro ⟨insert, bulkInsert, update, delete, filter, join, uri, table⟩
      refine ⟨fun slot => ?_, table⟩
      cases slot with
      | whereFragments => exact filter
      | joins => exact join
      | insertUri => exact uri
      | notify m =>
        cases m with
        | insert => exact insert
        | bulkInsert => exact bulkInsert
        | update => exact update
        | delete => exact delete
    · rintro ⟨slots, table⟩
      exact ⟨slots (.notify .insert), slots (.notify .bulkInsert), slots (.notify .update),
        slots (.notify .delete), slots .whereFragments, slots .joins, slots .insertUri, table⟩
  · cases c.schema.table? e.table with
    | none => exact iff_of_false (Succeeds.not_error _) fun h => h rfl
    | some t => exact iff_of_true (.ok _) (by simp)

theorem planAll_succeeds {code : Nat} {es : List Endpoint} :
    Succeeds (planAll c code es) ↔ ∀ e ∈ es, Plannable c e := by
  induction es generalizing code with
  | nil => exact iff_of_true (.ok _) (by simp)
  | cons e es ih =>
    unfold planAll
    rw [Succeeds.bind_iff fun _ _ => Succeeds.bind_iff fun _ _ => iff_true_intro (.pure _),
      plan_succeeds, ih, and_true, List.forall_mem_cons]

/-! ## Routes -/

theorem registerAll_succeeds {t : Route.Table} {es : List Endpoint}
    (distinct : (t.routes.map Prod.fst).Nodup) :
    Succeeds (registerAll t es) ↔ (∀ e ∈ es, Route.canonicalPath e.path ≠ "") ∧
      (t.routes.map Prod.fst ++ es.map fun e => Route.canonicalPath e.path).Nodup := by
  induction es generalizing t with
  | nil => exact iff_of_true (.ok _) (by simpa using distinct)
  | cons e es ih =>
    unfold registerAll Route.Table.register
    rw [List.forall_mem_cons, List.map_cons, List.append_cons]
    by_cases empty : Route.canonicalPath e.path = ""
    · rw [if_pos empty]
      exact iff_of_false (Succeeds.not_error _) fun h => h.1.1 empty
    · rw [if_neg empty]
      by_cases old : Route.canonicalPath e.path ∈ t.routes.map Prod.fst
      · -- A route that is taken stands in the table and among those to come.
        rw [if_pos old]
        refine iff_of_false (Succeeds.not_error _) fun h => ?_
        exact List.disjoint_of_nodup_append h.2.of_append_left old (List.mem_singleton.2 rfl)
      · rw [if_neg old]
        have grown : (t.routes ++ [(Route.canonicalPath e.path, e.pattern)]).map Prod.fst =
            t.routes.map Prod.fst ++ [Route.canonicalPath e.path] := by simp
        have distinct' := distinct.concat old
        rw [List.concat_eq_append] at distinct'
        simp only
        rw [ih (by rw [grown]; exact distinct'), grown]
        simp only [empty, ne_eq, not_false_eq_true, true_and]

/-! ## Entries -/

/-- What an entry sets: a kind at a path. -/
def Entry.key (b : Entry) : OverrideKind × String :=
  (b.kind, b.path)

/-- The entry with the canonical form of its path. -/
def Entry.canonical (b : Entry) : Entry :=
  { b with path := Route.canonicalPath b.path }

theorem bindEntries_succeeds {known : List String} {bound es : List Entry}
    (distinct : (bound.map Entry.key).Nodup) :
    Succeeds (bindEntries known bound es) ↔
      (∀ b ∈ es, Route.canonicalPath b.path ∈ known) ∧
      (bound.map Entry.key ++ es.map fun b => b.canonical.key).Nodup := by
  induction es generalizing bound with
  | nil => exact iff_of_true (.ok _) (by simpa using distinct)
  | cons b es ih =>
    unfold bindEntries
    rw [List.forall_mem_cons, List.map_cons, List.append_cons]
    by_cases unknown : Route.canonicalPath b.path ∉ known
    · rw [if_pos unknown]
      exact iff_of_false (Succeeds.not_error _) fun h => unknown h.1.1
    · rw [if_neg unknown]
      have taken : (bound.any fun a => a.kind = b.kind ∧ a.path = Route.canonicalPath b.path) ↔
          b.canonical.key ∈ bound.map Entry.key := by
        simp [Entry.key, Entry.canonical]
      by_cases old : b.canonical.key ∈ bound.map Entry.key
      · rw [if_pos (taken.2 old)]
        refine iff_of_false (Succeeds.not_error _) fun h => ?_
        exact List.disjoint_of_nodup_append h.2.of_append_left old (List.mem_singleton.2 rfl)
      · rw [if_neg (mt taken.1 old)]
        have grown : (bound ++ [b.canonical]).map Entry.key =
            bound.map Entry.key ++ [b.canonical.key] := by simp
        have distinct' := distinct.concat old
        rw [List.concat_eq_append] at distinct'
        refine (ih (by rw [← Entry.canonical, grown]; exact distinct')).trans ?_
        rw [← Entry.canonical, grown]
        simp only [Decidable.not_not.1 unknown, true_and]

theorem boundValue?_eq_some_iff {bound : List Entry} (distinct : (bound.map Entry.key).Nodup)
    {kind : OverrideKind} {path value : String} :
    boundValue? bound kind path = some value ↔ ⟨kind, path, value⟩ ∈ bound := by
  unfold boundValue?
  rw [Option.map_eq_some_iff]
  constructor
  · rintro ⟨b, found, rfl⟩
    obtain ⟨rfl, rfl⟩ : b.kind = kind ∧ b.path = path := by simpa using List.find?_some found
    exact List.mem_of_find?_eq_some found
  · intro mem
    cases found : bound.find? fun b => b.kind = kind ∧ b.path = path with
    | none => simpa using List.find?_eq_none.1 found _ mem
    | some b =>
      have same : b.kind = kind ∧ b.path = path := by simpa using List.find?_some found
      have only : b = ⟨kind, path, value⟩ := by
        refine List.inj_on_of_nodup_map distinct (List.mem_of_find?_eq_some found) mem ?_
        rw [Entry.key, same.1, same.2]
        rfl
      exact ⟨b, rfl, by rw [only]⟩

variable {p : Document.Provider}

/-- Every entry comes from an override or from a notification locator. -/
theorem forall_entries {P : Entry → Prop} :
    (∀ b ∈ entries p, P b) ↔
      (∀ g ∈ p.groups, ∀ o ∈ g.overrides, ∀ path ∈ o.paths, P ⟨.slot o.slot, path, o.hook⟩) ∧
      ∀ g ∈ p.groups, ∀ n ∈ g.notificationUris, ∀ path ∈ n.paths,
        P ⟨.notificationUri, path, n.uri⟩ := by
  simp only [entries, groupEntries, List.forall_mem_flatMap, List.forall_mem_append,
    List.forall_mem_map]
  exact forall₂_and

/-- No two entries of a kind are for one path. -/
theorem nodup_entries :
    ((entries p).map fun b => b.canonical.key).Nodup ↔ p.filled.Nodup ∧ p.located.Nodup := by
  -- Each group has its overrides before its locators. In another order all overrides of the
  -- document come first, and no override has the key of a locator.
  have split : ((entries p).map fun b => b.canonical.key).Perm
      (p.filled.map (fun f => (OverrideKind.slot f.1, f.2)) ++
        p.located.map fun path => (.notificationUri, path)) := by
    have each : ((entries p).map fun b => b.canonical.key) = p.groups.flatMap fun g =>
        (g.overrides.flatMap fun o => o.paths.map fun path =>
          (OverrideKind.slot o.slot, Route.canonicalPath path)) ++
        g.notificationUris.flatMap fun n => n.paths.map fun path =>
          (OverrideKind.notificationUri, Route.canonicalPath path) := by
      simp [entries, groupEntries, List.map_flatMap, Entry.key, Entry.canonical, Function.comp_def]
    rw [each]
    refine (List.flatMap_append_perm _ _ _).symm.trans (.of_eq ?_)
    simp [Document.Provider.filled, Document.Provider.located, List.map_flatMap, Function.comp_def]
  have slots : Function.Injective fun f : Slot × String => (OverrideKind.slot f.1, f.2) := by
    rintro ⟨_, _⟩ ⟨_, _⟩ ⟨⟩
    rfl
  have locators : Function.Injective fun path : String => (OverrideKind.notificationUri, path) := by
    rintro _ _ ⟨⟩
    rfl
  rw [split.nodup_iff, List.nodup_append', List.nodup_map_iff slots, List.nodup_map_iff locators]
  refine and_congr_right fun _ => and_iff_left ?_
  intro k slot uri
  obtain ⟨_, -, rfl⟩ := List.mem_map.1 slot
  obtain ⟨_, -, same⟩ := List.mem_map.1 uri
  cases same

end Dispatch

/-! ## Endpoints -/

theorem Schema.table?_ofDatabase {d : Document.Database} {s : Schema} (hs : ofDatabase d = .ok s)
    {table : String} : s.table? table ≠ none ↔ ∃ t ∈ d.tables, t.name = table := by
  obtain ⟨-, rfl⟩ := ofDatabase_eq_ok_iff.1 hs
  simp only [Schema.table?, ne_eq, List.find?_eq_none, List.forall_mem_map, decide_eq_true_eq,
    not_forall, Decidable.not_not, resolveTable, exists_prop]

namespace Endpoint

theorem isWildcard_ofText {part : String} :
    (Route.Segment.ofText part).isWildcard ↔ part = "#" ∨ part = "*" := by
  unfold Route.Segment.ofText
  by_cases number : part = "#"
  · simp [number, Route.Segment.isWildcard]
  · by_cases any : part = "*"
    · simp [any, Route.Segment.isWildcard]
    · simp [number, any, Route.Segment.isWildcard]

theorem bindingFault_eq_none_iff {path : String} {b : Document.Binding} :
    bindingFault path (.ofPath path) b = none ↔
      (∃ part, (Route.segments path)[b.segment]? = some part ∧ (part = "#" ∨ part = "*")) ∧
        Text.isBlank b.column = false := by
  unfold bindingFault Route.Pattern.ofPath
  rw [List.getElem?_map]
  cases (Route.segments path)[b.segment]? with
  | none => simp
  | some part =>
    simp only [Option.map_some, Option.some.injEq, exists_eq_left', ← isWildcard_ofText]
    cases (Route.Segment.ofText part).isWildcard with
    | false => simp
    | true => cases Text.isBlank b.column <;> simp

theorem fault_eq_none_iff {d : Document.Database} {s : Schema} (hs : Schema.ofDatabase d = .ok s)
    {g : Document.Group} {e : Document.Endpoint} : fault g s e = none ↔ e.WellFormed g d := by
  have table : s.table? (effectiveTable g e) ≠ none ↔
      ∃ t ∈ d.tables, t.name = effectiveTable g e := Schema.table?_ofDatabase hs
  unfold fault
  by_cases empty : Route.canonicalPath e.path = ""
  · rw [if_pos empty]
    exact iff_of_false (by simp) fun h => h.path empty
  by_cases blank : Text.isBlank e.type
  · rw [if_neg empty, if_pos blank]
    exact iff_of_false (by simp) fun h => by simp [h.type] at blank
  by_cases missing : (s.table? (effectiveTable g e)).isNone
  · rw [if_neg empty, if_neg blank, if_pos missing]
    refine iff_of_false (by simp) fun h => table.2 h.table ?_
    simpa using missing
  · rw [if_neg empty, if_neg blank, if_neg missing, Option.map_eq_none_iff,
      List.findSome?_eq_none_iff]
    simp only [bindingFault_eq_none_iff]
    constructor
    · intro bindings
      refine ⟨empty, by simpa using blank, table.1 (by simpa using missing), bindings⟩
    · intro h
      exact h.bindings

theorem ofProvider_succeeds {p : Document.Provider} {s : Schema} :
    Succeeds (ofProvider p s) ↔ ∀ d ∈ declared p, fault d.1 s d.2 = none := by
  unfold ofProvider
  rw [← List.findSome?_eq_none_iff]
  cases (declared p).findSome? fun d => fault d.1 s d.2 with
  | some e => exact iff_of_false (Succeeds.not_error _) (by simp)
  | none => exact iff_of_true (.ok _) rfl

end Endpoint

/-! ## Documents -/

namespace Dispatch

variable {p : Document.Provider} {s : Schema} {hooks : Hooks} {c : Context}

/-- Once the entries are bound, plans need the hook of every entry for a slot: each entry is for the
path of some endpoint, and it is the one that is found there. -/
theorem plans_succeed {code : Nat} {es : List Endpoint}
    (tables : ∀ e ∈ es, c.schema.table? e.table ≠ none)
    (bound : bindEntries (es.map Endpoint.path) [] (entries p) = .ok c.bound) :
    Succeeds (planAll c code es) ↔
      ∀ b ∈ entries p, ∀ slot, b.kind = .slot slot → c.hooks.Has slot b.value := by
  obtain ⟨known, distinct⟩ := (bindEntries_succeeds (by simp)).1 ⟨_, bound⟩
  have same : c.bound = (entries p).map Entry.canonical := bindEntries_ok bound
  have once : (c.bound.map Entry.key).Nodup := by
    rw [same, List.map_map]
    simpa [Function.comp_def] using distinct
  rw [planAll_succeeds]
  constructor
  · -- An entry is for the path of an endpoint, whose plan needs the hook.
    intro plannable b hb slot kind
    obtain ⟨e, he, path⟩ := List.mem_map.1 (known b hb)
    refine (plannable e he).1 slot b.value ((boundValue?_eq_some_iff once).2 ?_)
    rw [same, path, ← kind]
    exact List.mem_map_of_mem hb
  · -- A plan looks up only what some entry has bound.
    intro has e he
    refine ⟨fun slot name found => ?_, tables e he⟩
    have mem := (boundValue?_eq_some_iff once).1 found
    rw [same] at mem
    obtain ⟨b, hb, canonical⟩ := List.mem_map.1 mem
    have kind := congrArg Entry.kind canonical
    have value := congrArg Entry.value canonical
    simp only [Entry.canonical] at kind value
    rw [← value]
    exact has b hb slot kind

/-- Each step of compiling looks at its own rules. -/
theorem compile_succeeds :
    Succeeds (compile p s hooks) ↔
      (∀ d ∈ Endpoint.declared p, Endpoint.fault d.1 s d.2 = none) ∧
      ((∀ d ∈ Endpoint.declared p, d.2.route ≠ "") ∧
        ((Endpoint.declared p).map fun d => d.2.route).Nodup) ∧
      ((∀ b ∈ entries p, p.Serves b.path) ∧ p.filled.Nodup ∧ p.located.Nodup) ∧
      p.notifyDefaults.Known hooks ∧ (∀ g ∈ p.groups, g.notifyDefaults.Known hooks) ∧
      ∀ b ∈ entries p, ∀ slot, b.kind = .slot slot → hooks.Has slot b.value := by
  rw [← Endpoint.ofProvider_succeeds]
  unfold compile
  refine Succeeds.bind_iff fun es hes => ?_
  have tables := Endpoint.tables_of_ofProvider hes
  obtain rfl := (Endpoint.ofProvider_ok hes).2
  have paths : ((Endpoint.declared p).map fun d => Endpoint.ofDocument d.1 d.2).map Endpoint.path =
      (Endpoint.declared p).map fun d => Route.canonicalPath d.2.path := by
    simp [Endpoint.ofDocument]
  have routes : Succeeds (registerAll .empty
        ((Endpoint.declared p).map fun d => Endpoint.ofDocument d.1 d.2)) ↔
      (∀ d ∈ Endpoint.declared p, d.2.route ≠ "") ∧
        ((Endpoint.declared p).map fun d => d.2.route).Nodup := by
    rw [registerAll_succeeds (by simp [Route.Table.empty])]
    simp only [List.forall_mem_map, Endpoint.ofDocument, Route.Table.empty, List.map_nil,
      List.nil_append, List.map_map, Function.comp_def, Document.Endpoint.route]
  have served (b : Entry) : Route.canonicalPath b.path ∈
      ((Endpoint.declared p).map fun d => Route.canonicalPath d.2.path) ↔ p.Serves b.path := by
    rw [List.mem_map]
    rfl
  rw [paths, ← routes, ← nodup_entries]
  -- The routes are registered, the entries are bound, and the defaults and plans come last.
  refine (Succeeds.bind_iff fun _ _ => ?_).trans (and_congr_left' (Succeeds.mapError_iff _ _))
  refine (Succeeds.bind_iff fun bound hbound => ?_).trans (and_congr_left' ?_)
  · rw [← resolveDefaults_succeeds, ← groupParts_succeeds]
    refine Succeeds.bind_iff fun defaults _ => Succeeds.bind_iff fun groups _ => ?_
    refine (Succeeds.bind_iff fun _ _ => iff_true_intro (.pure _)).trans ?_
    rw [← paths] at hbound
    rw [and_true, plans_succeed tables (ok_of_mapError hbound)]
  · rw [Succeeds.mapError_iff, bindEntries_succeeds (by simp)]
    simp only [served, List.map_nil, List.nil_append]

end Dispatch

/-- A document compiles exactly if it is well formed. -/
theorem document_compiles_iff (doc : Document) (hooks : Hooks) :
    (∃ c, doc.compile hooks = .ok c) ↔ doc.WellFormed hooks := by
  change Succeeds (doc.compile hooks) ↔ doc.WellFormed hooks
  unfold Document.compile
  cases hs : Schema.ofDatabase doc.database with
  | error e =>
    refine iff_of_false (Succeeds.not_error _) fun h => ?_
    obtain ⟨s, accepted⟩ := h.database
    rw [hs] at accepted
    cases accepted
  | ok s =>
    rw [mapError_ok_bind]
    refine (Succeeds.bind_iff fun _ _ => iff_true_intro (.pure _)).trans ?_
    rw [and_true, Dispatch.compile_succeeds, Dispatch.forall_entries, Dispatch.forall_entries]
    simp only [Endpoint.fault_eq_none_iff hs]
    constructor
    · rintro ⟨endpoints, ⟨routed, distinct⟩, ⟨⟨overrides, locators⟩, filled, located⟩, defaults,
        groupDefaults, slots, -⟩
      refine ⟨⟨s, hs⟩, endpoints, routed, distinct, overrides, locators, filled, located, defaults,
        groupDefaults, ?_⟩
      intro g hg o ho some
      obtain ⟨path, hpath⟩ := List.exists_mem_of_ne_nil _ some
      exact slots g hg o ho path hpath o.slot rfl
    · intro h
      refine ⟨h.endpoints, ⟨h.routed, h.distinct⟩, ⟨⟨h.overrides, h.locators⟩, h.filledOnce,
        h.locatedOnce⟩, h.defaults, h.groupDefaults, ?_, ?_⟩
      · rintro g hg o ho path hpath _ ⟨⟩
        exact h.overrideHooks g hg o ho (List.ne_nil_of_mem hpath)
      · rintro g hg n hn path hpath _ ⟨⟩

end ResourceProvider
