import ResourceProvider.Proofs.Dispatch.Acceptance
import ResourceProvider.Proofs.Provider.Watching
/-!
# What an entry for a path reaches

An entry of a document is for one kind at one path: an override with its hook, or a locator for
queries. A plan has at its path exactly what the document binds there (`plan_held`), in front of
every default. And an entry reaches nothing else: compiled without it, every other slot of every
plan is as it was (`compile_without`).
-/
namespace ResourceProvider

open Dispatch (Entry entries)
open Route (Locator)

/-! ## What entries give -/

/-- What an entry gives to a plan: a hook, or a locator. -/
abbrev OverrideKind.Given : OverrideKind → Type
  | .slot .whereFragments => SelectionHook
  | .slot .joins => SelectionHook
  | .slot .insertUri => InsertUriHook
  | .slot (.notify _) => NotifyHook
  | .notificationUri => String

/-- What stands behind the value of an entry: the hook of the name, or the locator itself. -/
def Hooks.given? (hooks : Hooks) : (kind : OverrideKind) → String → Option kind.Given
  | .slot .whereFragments, name => hooks.filters.lookup name
  | .slot .joins, name => hooks.joins.lookup name
  | .slot .insertUri, name => hooks.insertUris.lookup name
  | .slot (.notify _), name => hooks.notifiers.lookup name
  | .notificationUri, uri => some uri

/-- The hook that fills a slot for its path. -/
def Assigned.byPath? {α : Type} : Assigned α → Option α
  | .byPath hook => some hook
  | _ => Option.none

/-- What a plan has for its path, by kind. -/
def Plan.held? (q : Plan) : (kind : OverrideKind) → Option kind.Given
  | .slot .whereFragments => q.filterHook
  | .slot .joins => q.joinHook
  | .slot .insertUri => q.insertUriHook
  | .slot (.notify m) => (q.notify m).byPath?
  | .notificationUri => q.notificationUri

/-- Two plans are the same but for what an entry of the kind gives. -/
structure Plan.SameBut (kind : OverrideKind) (q q' : Plan) : Prop where
  code : q'.code = q.code
  endpoint : q'.endpoint = q.endpoint
  table : q'.table = q.table
  aliases : q'.aliases = q.aliases
  filterHook : kind ≠ .slot .whereFragments → q'.filterHook = q.filterHook
  joinHook : kind ≠ .slot .joins → q'.joinHook = q.joinHook
  insertUriHook : kind ≠ .slot .insertUri → q'.insertUriHook = q.insertUriHook
  notify : ∀ m, kind ≠ .slot (.notify m) → q'.notify m = q.notify m
  notificationUri : kind ≠ .notificationUri → q'.notificationUri = q.notificationUri

namespace Document

/-- Some group of the document gives the value to a path: an override of the kind with this hook
lists the path, or a notification locator does. -/
def Provider.Binds (p : Provider) : OverrideKind → (value path : String) → Prop
  | .slot slot, hook, path => ∃ g ∈ p.groups, ∃ o ∈ g.overrides, o.slot = slot ∧ o.hook = hook ∧
      ∃ listed ∈ o.paths, Route.canonicalPath listed = path
  | .notificationUri, uri, path => ∃ g ∈ p.groups, ∃ n ∈ g.notificationUris, n.uri = uri ∧
      ∃ listed ∈ n.paths, Route.canonicalPath listed = path

/-- The entries of a document for a kind at a path. -/
def Provider.entriesFor (p : Provider) (kind : OverrideKind) (path : String) : List Entry :=
  (entries p).filter fun b => b.kind = kind ∧ Route.canonicalPath b.path = path

/-- The second document is the first one without one path of one override or notification
locator. -/
inductive Provider.Without : Provider → Entry → Provider → Prop
  | override {name : String} {defaults : NotifyDefaults} {before after : List Group} {g : Group}
      {os os' : List Override} {o : Override} {paths paths' : List String} {path : String} :
    Without
      ⟨name, before ++ { g with
        overrides := os ++ { o with paths := paths ++ path :: paths' } :: os' } :: after, defaults⟩
      ⟨.slot o.slot, path, o.hook⟩
      ⟨name, before ++ { g with
        overrides := os ++ { o with paths := paths ++ paths' } :: os' } :: after, defaults⟩
  | locator {name : String} {defaults : NotifyDefaults} {before after : List Group} {g : Group}
      {ns ns' : List NotificationUri} {n : NotificationUri} {paths paths' : List String}
      {path : String} :
    Without
      ⟨name, before ++ { g with
        notificationUris := ns ++ { n with paths := paths ++ path :: paths' } :: ns' } :: after,
        defaults⟩
      ⟨.notificationUri, path, n.uri⟩
      ⟨name, before ++ { g with
        notificationUris := ns ++ { n with paths := paths ++ paths' } :: ns' } :: after, defaults⟩

/-- A plan has for its path what the document binds there: each kind once, and before any
default. -/
structure Provider.Equips (p : Provider) (hooks : Hooks) (q : Plan) : Prop where
  held : ∀ kind given, q.held? kind = some given ↔
    ∃ value, p.Binds kind value q.endpoint.path ∧ hooks.given? kind value = some given
  known : ∀ kind value, p.Binds kind value q.endpoint.path → hooks.given? kind value ≠ none
  once : ∀ kind value, p.Binds kind value q.endpoint.path →
    ∃ path, p.entriesFor kind q.endpoint.path = [⟨kind, path, value⟩]
  first : ∀ (n : Notice) (hook : NotifyHook), q.held? (.slot (.notify n.mutation)) = some hook →
    q.targets n = hook n

end Document

/-- Where the entry is left out, one plan is without what it gave, and nothing else differs. -/
structure Dispatch.Loses (d d' : Dispatch) (hooks : Hooks) (b : Entry) (code : Nat)
    (q q' : Plan) : Prop where
  routes : d'.routes = d.routes
  others : ∀ code', code' ≠ code → d'.plans[code']? = d.plans[code']?
  plan : d.plans[code]? = some q
  plan' : d'.plans[code]? = some q'
  path : q.endpoint.path = Route.canonicalPath b.path
  only : ∀ code' q', d.plans[code']? = some q' → q'.endpoint.path = Route.canonicalPath b.path →
    code' = code
  held : q.held? b.kind = hooks.given? b.kind b.value ∧ q.held? b.kind ≠ none
  lost : q'.held? b.kind = none
  same : q.SameBut b.kind q'

/-! ## Slots -/

namespace Hooks

theorem named?_ok_bind {α : Type} {kind : HookKind} {hooks : List (String × α)}
    {name : Option String} {hook : Option α} (h : named? kind hooks name = .ok hook) :
    hook = name.bind (fun n => hooks.lookup n) ∧ (name.isSome → hook.isSome) := by
  cases name with
  | none =>
    cases h
    exact ⟨rfl, id⟩
  | some name =>
    obtain ⟨a, rfl, found⟩ := named?_ok h
    exact ⟨found.symm, fun _ => rfl⟩

end Hooks

namespace Dispatch

variable {c : Context} {code : Nat} {e : Endpoint} {q : Plan}

theorem notifySlot_byPath {m : Mutation} {slot : Assigned NotifyHook}
    (h : notifySlot c e m = .ok slot) :
    slot.byPath? = (boundValue? c.bound (.slot (.notify m)) e.path).bind
        (fun n => c.hooks.notifiers.lookup n) ∧
      ((boundValue? c.bound (.slot (.notify m)) e.path).isSome → slot.byPath?.isSome) := by
  cases entry : boundValue? c.bound (.slot (.notify m)) e.path with
  | none =>
    simp only [notifySlot, entry] at h
    split at h <;> cases h <;> exact ⟨rfl, id⟩
  | some name =>
    simp only [notifySlot, entry] at h
    cases found : Hooks.named .notify c.hooks.notifiers name with
    | error err =>
      rw [found] at h
      cases h
    | ok hook =>
      rw [found] at h
      cases h
      exact ⟨(Hooks.named_ok found).symm, fun _ => rfl⟩

/-- A plan has what the entry for its path gives, and the entry gives something. -/
theorem plan_held (h : plan c code e = .ok q) (kind : OverrideKind) :
    q.held? kind = (boundValue? c.bound kind e.path).bind (c.hooks.given? kind) ∧
      ((boundValue? c.bound kind e.path).isSome → (q.held? kind).isSome) := by
  unfold plan at h
  obtain ⟨_, insert, h⟩ := ok_of_bind h
  obtain ⟨_, bulkInsert, h⟩ := ok_of_bind h
  obtain ⟨_, update, h⟩ := ok_of_bind h
  obtain ⟨_, delete, h⟩ := ok_of_bind h
  obtain ⟨_, filter, h⟩ := ok_of_bind h
  obtain ⟨_, join, h⟩ := ok_of_bind h
  obtain ⟨_, uri, h⟩ := ok_of_bind h
  split at h
  · cases h
  cases h
  cases kind with
  | notificationUri => exact ⟨(Option.bind_fun_some _).symm, id⟩
  | slot s =>
    cases s with
    | whereFragments => exact Hooks.named?_ok_bind filter
    | joins => exact Hooks.named?_ok_bind join
    | insertUri => exact Hooks.named?_ok_bind uri
    | notify m =>
      cases m with
      | insert => exact notifySlot_byPath insert
      | bulkInsert => exact notifySlot_byPath bulkInsert
      | update => exact notifySlot_byPath update
      | delete => exact notifySlot_byPath delete

/-- A plan looks at no entries but those for its path. -/
theorem plan_congr {bound' : List Entry}
    (same : ∀ kind, boundValue? bound' kind e.path = boundValue? c.bound kind e.path) :
    plan { c with bound := bound' } code e = plan c code e := by
  unfold plan notifySlot
  simp only [same]

/-! ## Entries of a document -/

/-- An element stands alone under its key, if no two have the same key. -/
theorem filter_of_nodup {α β : Type} [DecidableEq β] {f : α → β} {xs : List α} {x : α}
    (distinct : (xs.map f).Nodup) (mem : x ∈ xs) : xs.filter (fun y => f y = f x) = [x] := by
  obtain ⟨before, after, rfl⟩ := List.append_of_mem mem
  simp only [List.map_append, List.map_cons, List.nodup_append, List.nodup_cons, List.mem_map,
    List.mem_cons] at distinct
  obtain ⟨-, ⟨later, -⟩, earlier⟩ := distinct
  rw [List.filter_append, List.filter_cons_of_pos (by simp),
    List.filter_eq_nil_iff.2 fun y hy => by
      simpa using earlier (f y) ⟨y, hy, rfl⟩ (f x) (.inl rfl),
    List.filter_eq_nil_iff.2 fun y hy => by
      simpa using fun same => later ⟨y, hy, same⟩]
  rfl

variable {p p' : Document.Provider} {b : Entry}

theorem binds_iff {kind : OverrideKind} {value path : String} :
    p.Binds kind value path ↔ ∃ b ∈ entries p, b.canonical = ⟨kind, path, value⟩ := by
  simp only [entries, groupEntries, List.mem_flatMap, List.mem_append, List.mem_map,
    Entry.canonical, Entry.mk.injEq]
  cases kind with
  | slot slot =>
    constructor
    · rintro ⟨g, hg, o, ho, kind, hook, listed, hlisted, path⟩
      exact ⟨_, ⟨g, hg, .inl ⟨o, ho, listed, hlisted, rfl⟩⟩, congrArg _ kind, path, hook⟩
    · rintro ⟨b, ⟨g, hg, (⟨o, ho, listed, hlisted, rfl⟩ | ⟨n, -, listed, -, rfl⟩)⟩, kind, path,
        hook⟩
      · exact ⟨g, hg, o, ho, by simpa using kind, hook, listed, hlisted, path⟩
      · cases kind
  | notificationUri =>
    constructor
    · rintro ⟨g, hg, n, hn, uri, listed, hlisted, path⟩
      exact ⟨_, ⟨g, hg, .inr ⟨n, hn, listed, hlisted, rfl⟩⟩, rfl, path, uri⟩
    · rintro ⟨b, ⟨g, hg, (⟨o, -, listed, -, rfl⟩ | ⟨n, hn, listed, hlisted, rfl⟩)⟩, kind, path, uri⟩
      · cases kind
      · exact ⟨g, hg, n, hn, uri, listed, hlisted, path⟩

/-- What is left out of one of the lists that are put together is left out of the whole. -/
theorem flatMap_leaves_out {α β : Type} (f : α → List β) (x x' : α) {y : β}
    (before after : List β) (split : f x = before ++ y :: after) (split' : f x' = before ++ after)
    (xs xs' : List α) :
    ∃ before' after', (xs ++ x :: xs').flatMap f = before' ++ y :: after' ∧
      (xs ++ x' :: xs').flatMap f = before' ++ after' :=
  ⟨xs.flatMap f ++ before, after ++ xs'.flatMap f, by simp [split], by simp [split']⟩

/-- A document without an entry has all of its other entries, in order. -/
theorem entries_without (h : p.Without b p') :
    ∃ before after, entries p = before ++ b :: after ∧ entries p' = before ++ after := by
  let overrides (o : Document.Override) := o.paths.map fun p => Entry.mk (.slot o.slot) p o.hook
  let locators (n : Document.NotificationUri) :=
    n.paths.map fun p => Entry.mk .notificationUri p n.uri
  cases h with
  | @override _ _ _ _ g os os' o paths paths' path =>
    obtain ⟨before, after, split, split'⟩ := flatMap_leaves_out overrides
      { o with paths := paths ++ path :: paths' } { o with paths := paths ++ paths' } _ _
      (List.map_append ..) (List.map_append ..) os os'
    exact flatMap_leaves_out groupEntries _ _ before (after ++ g.notificationUris.flatMap locators)
      ((congrArg (· ++ _) split).trans (List.append_assoc ..))
      ((congrArg (· ++ _) split').trans (List.append_assoc ..)) _ _
  | @locator _ _ _ _ g ns ns' n paths paths' path =>
    obtain ⟨before, after, split, split'⟩ := flatMap_leaves_out locators
      { n with paths := paths ++ path :: paths' } { n with paths := paths ++ paths' } _ _
      (List.map_append ..) (List.map_append ..) ns ns'
    exact flatMap_leaves_out groupEntries _ _ (g.overrides.flatMap overrides ++ before) after
      ((congrArg (_ ++ ·) split).trans (List.append_assoc ..).symm)
      ((congrArg (_ ++ ·) split').trans (List.append_assoc ..).symm) _ _

/-- Every entry can be left out. -/
theorem exists_without (mem : b ∈ entries p) : ∃ p', p.Without b p' := by
  obtain ⟨name, groups, defaults⟩ := p
  obtain ⟨g, hg, hb⟩ := List.mem_flatMap.1 mem
  obtain ⟨before, after, rfl⟩ := List.append_of_mem hg
  rcases List.mem_append.1 hb with hb | hb
  · obtain ⟨o, ho, hb⟩ := List.mem_flatMap.1 hb
    obtain ⟨path, hpath, rfl⟩ := List.mem_map.1 hb
    obtain ⟨os, os', overrides⟩ := List.append_of_mem ho
    obtain ⟨paths, paths', listed⟩ := List.append_of_mem hpath
    have whole : g = { g with
        overrides := os ++ { o with paths := paths ++ path :: paths' } :: os' } := by
      rw [← listed, ← overrides]
    rw [whole]
    exact ⟨_, .override⟩
  · obtain ⟨n, hn, hb⟩ := List.mem_flatMap.1 hb
    obtain ⟨path, hpath, rfl⟩ := List.mem_map.1 hb
    obtain ⟨ns, ns', locators⟩ := List.append_of_mem hn
    obtain ⟨paths, paths', listed⟩ := List.append_of_mem hpath
    have whole : g = { g with
        notificationUris := ns ++ { n with paths := paths ++ path :: paths' } :: ns' } := by
      rw [← listed, ← locators]
    rw [whole]
    exact ⟨_, .locator⟩

/-! ## Compiling without an entry -/

end Dispatch

/-- The group without its entries. -/
def Document.Group.bare (g : Group) : Group :=
  { g with overrides := [], notificationUris := [] }

theorem Endpoint.fault_bare (g : Document.Group) (s : Schema) (e : Document.Endpoint) :
    fault g.bare s e = fault g s e :=
  rfl

theorem Endpoint.ofDocument_bare (g : Document.Group) (e : Document.Endpoint) :
    ofDocument g.bare e = ofDocument g e :=
  rfl

/-- The endpoints of a provider do not depend on its entries. -/
theorem Endpoint.ofProvider_bare {p p' : Document.Provider} (s : Schema)
    (same : p'.groups.map Document.Group.bare = p.groups.map Document.Group.bare) :
    ofProvider p' s = ofProvider p s := by
  have bare (p : Document.Provider) : (declared p).map (fun d => (d.1.bare, d.2)) =
      (p.groups.map Document.Group.bare).flatMap fun g => g.endpoints.map fun e => (g, e) := by
    simp only [declared, List.map_flatMap, List.flatMap_map, List.map_map]
    rfl
  have faults (p : Document.Provider) : ((declared p).findSome? fun d => fault d.1 s d.2) =
      ((declared p).map fun d => (d.1.bare, d.2)).findSome? fun d => fault d.1 s d.2 := by
    simp only [List.findSome?_map, Function.comp_def, fault_bare]
  have served (p : Document.Provider) : ((declared p).map fun d => ofDocument d.1 d.2) =
      ((declared p).map fun d => (d.1.bare, d.2)).map fun d => ofDocument d.1 d.2 := by
    simp only [List.map_map, Function.comp_def, ofDocument_bare]
  rw [ofProvider, ofProvider, faults p', faults p, served p', served p, bare, bare, same]

namespace Dispatch

variable {p p' : Document.Provider} {b : Entry} {c : Context} {es : List Endpoint} {d : Dispatch}

theorem groupParts_bare (hooks : Hooks) (gs : List Document.Group) :
    groupParts hooks (gs.map Document.Group.bare) = groupParts hooks gs := by
  induction gs with
  | nil => rfl
  | cons g gs ih =>
    rw [List.map_cons, groupParts, ih]
    rfl

theorem groups_without (h : p.Without b p') :
    p'.groups.map Document.Group.bare = p.groups.map Document.Group.bare ∧ p'.name = p.name ∧
      p'.notifyDefaults = p.notifyDefaults := by
  cases h <;> simp [Document.Group.bare]

/-- A provider is compiled from its parts. -/
theorem Built.compile (h : Built p c es d) :
    Dispatch.compile p c.schema c.hooks = .ok ⟨p.name, d.routes, d.plans⟩ := by
  unfold Dispatch.compile
  rw [h.endpoints, h.defaults, h.groups]
  simp only [bind, Except.bind, h.routes, h.bound, Except.mapError]
  rw [h.plans]
  rfl

theorem Entry.key_canonical (b : Entry) :
    b.canonical.key = (b.kind, Route.canonicalPath b.path) := by
  simp only [key, canonical]

theorem boundValue?_append_cons {before after : List Entry} {kind : OverrideKind} {path : String}
    (other : b.key ≠ (kind, path)) :
    boundValue? (before ++ b :: after) kind path = boundValue? (before ++ after) kind path := by
  have miss : ¬(b.kind = kind ∧ b.path = path) := fun hit => other (Prod.ext hit.1 hit.2)
  unfold boundValue?
  simp [List.find?_append, miss]

theorem boundValue?_dropped {before after : List Entry} {kind : OverrideKind} {path : String}
    (own : b.key = (kind, path)) (distinct : ((before ++ b :: after).map Entry.key).Nodup) :
    boundValue? (before ++ after) kind path = none := by
  rw [List.map_append, List.map_cons, List.nodup_middle, List.nodup_cons,
    ← List.map_append] at distinct
  refine Option.map_eq_none_iff.2 (List.find?_eq_none.2 fun a ha hit => distinct.1 ?_)
  rw [own]
  exact List.mem_map.2 ⟨a, ha, by simpa [Entry.key] using hit⟩

namespace Built

/-- The bound entries are those of the document in canonical form, for known paths and each for
another kind or path. -/
theorem canonical (h : Built p c es d) :
    c.bound = (entries p).map Entry.canonical ∧ (c.bound.map Entry.key).Nodup ∧
      ∀ b ∈ entries p, Route.canonicalPath b.path ∈ es.map Endpoint.path := by
  obtain ⟨known, distinct⟩ := (bindEntries_succeeds (by simp)).1 ⟨_, h.bound⟩
  have same : c.bound = (entries p).map Entry.canonical := bindEntries_ok h.bound
  refine ⟨same, ?_, known⟩
  rw [same, List.map_map]
  simpa [Function.comp_def] using distinct

/-- No two endpoints have one path. -/
theorem paths_nodup (h : Built p c es d) : (es.map Endpoint.path).Nodup := by
  have distinct := ((registerAll_succeeds (t := .empty) (by simp [Route.Table.empty])).1
    ⟨_, h.routes⟩).2
  simp only [Route.Table.empty, List.map_nil, List.nil_append] at distinct
  refine List.Nodup.of_map Route.canonicalPath ?_
  simpa only [List.map_map, Function.comp_def] using distinct

/-- What the document binds to a path is what an entry for the path gives. -/
theorem binds_iff_entry (h : Built p c es d) {kind : OverrideKind} {value path : String} :
    p.Binds kind value path ↔ boundValue? c.bound kind path = some value := by
  obtain ⟨same, once, -⟩ := h.canonical
  rw [boundValue?_eq_some_iff once, binds_iff, same, List.mem_map]

theorem equips (h : Built p c es d) {code : Nat} {e : Endpoint} {q : Plan}
    (planned : plan c code e = .ok q) : p.Equips c.hooks q := by
  have endpoint := (plan_fills planned).endpoint
  obtain ⟨same, once, -⟩ := h.canonical
  refine ⟨fun kind given => ?_, fun kind value bound => ?_, fun kind value bound => ?_, ?_⟩
  · rw [(plan_held planned kind).1, Option.bind_eq_some_iff, endpoint]
    simp only [h.binds_iff_entry]
  · rw [endpoint, h.binds_iff_entry] at bound
    have held := (plan_held planned kind).2 (by rw [bound]; rfl)
    rw [(plan_held planned kind).1, bound] at held
    exact Option.isSome_iff_ne_none.1 held
  · obtain ⟨b, hb, canonical⟩ := binds_iff.1 bound
    have alone := filter_of_nodup (f := fun b : Entry => b.canonical.key)
      (by simpa [same, Function.comp_def] using once) hb
    refine ⟨b.path, ?_⟩
    obtain ⟨kind', path, value'⟩ := b
    simp only [Entry.canonical, Entry.mk.injEq] at canonical
    obtain ⟨rfl, path_eq, rfl⟩ := canonical
    rw [← alone, Document.Provider.entriesFor]
    refine List.filter_congr fun a _ => ?_
    simp [Entry.key, Entry.canonical, path_eq]
  · intro n hook held
    have slot : (q.notify n.mutation).byPath? = some hook := held
    unfold Plan.targets
    cases assigned : q.notify n.mutation with
    | none => simp [assigned, Assigned.byPath?] at slot
    | byDefault hook' => simp [assigned, Assigned.byPath?] at slot
    | byPath hook' =>
      rw [assigned] at slot
      cases slot
      rfl

end Built

theorem plan_sameBut {bound' : List Entry} {code : Nat} {e : Endpoint} {q q' : Plan}
    {kind : OverrideKind}
    (same : ∀ k, k ≠ kind → boundValue? bound' k e.path = boundValue? c.bound k e.path)
    (planned : plan c code e = .ok q) (planned' : plan { c with bound := bound' } code e = .ok q') :
    q.SameBut kind q' := by
  have fills := plan_fills planned
  have fills' := plan_fills planned'
  have held (k : OverrideKind) (other : kind ≠ k) : q'.held? k = q.held? k := by
    rw [(plan_held planned' k).1, (plan_held planned k).1, same k other.symm]
  constructor
  · rw [fills'.code, fills.code]
  · rw [fills'.endpoint, fills.endpoint]
  · exact Option.some.inj (fills'.table.symm.trans fills.table)
  · rw [fills'.aliases, fills.aliases]
  · exact held (.slot .whereFragments)
  · exact held (.slot .joins)
  · exact held (.slot .insertUri)
  · intro m other
    refine Except.ok.inj ((fills'.notify m).symm.trans (Eq.trans ?_ (fills.notify m)))
    simp only [notifySlot, same _ other.symm]
  · exact held .notificationUri

/-- A document that compiles does so without an entry. -/
theorem Built.without (built : Built p c es d) (h : p.Without b p') :
    ∃ plans, Built p' { c with bound := (entries p').map Entry.canonical } es
      { d with plans } := by
  obtain ⟨before, after, all, rest⟩ := entries_without h
  obtain ⟨groups, -, defaults⟩ := groups_without h
  obtain ⟨known, distinct⟩ := (bindEntries_succeeds (by simp)).1 ⟨_, built.bound⟩
  have fewer : (entries p').Sublist (entries p) := by
    rw [all, rest]
    exact (List.sublist_cons_self ..).append_left _
  have bound : bindEntries (es.map Endpoint.path) [] (entries p') =
      .ok ((entries p').map Entry.canonical) := by
    have succeeds : Succeeds (bindEntries (es.map Endpoint.path) [] (entries p')) :=
      (bindEntries_succeeds (by simp)).2
        ⟨fun a ha => known a (fewer.subset ha), distinct.sublist (fewer.map _)⟩
    obtain ⟨bound, binds⟩ := succeeds
    rw [binds, bindEntries_ok binds]
    rfl
  have tables := Endpoint.tables_of_ofProvider built.endpoints
  have hooked := (plans_succeed tables built.bound).1 ⟨_, built.plans⟩
  have succeeds : Succeeds
      (planAll { c with bound := (entries p').map Entry.canonical } 0 es) :=
    (plans_succeed (c := { c with bound := (entries p').map Entry.canonical }) tables bound).2
      fun a ha => hooked a (fewer.subset ha)
  obtain ⟨plans, planned⟩ := succeeds
  refine ⟨plans, (Endpoint.ofProvider_bare _ groups).trans built.endpoints, built.routes, bound,
    ?_, ?_, planned⟩
  · rw [defaults]
    exact built.defaults
  · rw [← groupParts_bare, groups, groupParts_bare]
    exact built.groups

/-- Without an entry, entries for other kinds or paths are as they were, and there is none for its
own. -/
theorem boundValue?_without (built : Built p c es d) (h : p.Without b p') :
    (∀ kind path, kind ≠ b.kind ∨ path ≠ Route.canonicalPath b.path →
      boundValue? ((entries p').map Entry.canonical) kind path = boundValue? c.bound kind path) ∧
    boundValue? ((entries p').map Entry.canonical) b.kind (Route.canonicalPath b.path) = none ∧
    boundValue? c.bound b.kind (Route.canonicalPath b.path) = some b.value := by
  obtain ⟨before, after, all, rest⟩ := entries_without h
  obtain ⟨same, once, -⟩ := built.canonical
  rw [all, List.map_append, List.map_cons] at same
  rw [rest, List.map_append]
  refine ⟨fun kind path other => ?_, ?_, ?_⟩
  · rw [same, boundValue?_append_cons]
    rw [b.key_canonical]
    rintro ⟨⟩
    simp at other
  · rw [same] at once
    exact boundValue?_dropped b.key_canonical once
  · rw [boundValue?_eq_some_iff once, same]
    simp [Entry.canonical]

/-- Every plan is made for the endpoint at its position. -/
theorem Built.planned (h : Built p c es d) {code : Nat} {q : Plan}
    (hq : d.plans[code]? = some q) : ∃ e, es[code]? = some e ∧ plan c code e = .ok q := by
  obtain ⟨length, planned⟩ := planAll_plan h.plans
  have inside : code < es.length := length ▸ (List.getElem?_eq_some_iff.1 hq).1
  obtain ⟨q', hq', made⟩ := planned code _ (List.getElem?_eq_getElem inside)
  rw [hq] at hq'
  cases hq'
  exact ⟨_, List.getElem?_eq_getElem inside, by rwa [Nat.zero_add] at made⟩

/-- There is a plan for the endpoint at every position. -/
theorem Built.exists_plan (h : Built p c es d) {code : Nat} {e : Endpoint}
    (he : es[code]? = some e) : ∃ q, d.plans[code]? = some q ∧ plan c code e = .ok q := by
  simpa using (planAll_plan h.plans).2 code e he

/-- A path is the path of one endpoint. -/
theorem Built.position (h : Built p c es d) {code code' : Nat} {e e' : Endpoint}
    (he : es[code]? = some e) (he' : es[code']? = some e') (same : e.path = e'.path) :
    code = code' := by
  refine (List.getElem?_inj ?_ h.paths_nodup).1 (by simp [he, he', same])
  simpa using (List.getElem?_eq_some_iff.1 he).1

/-- Every entry fills one slot of one plan. -/
theorem Built.loses (built : Built p c es d) {plans : List Plan} (h : p.Without b p')
    (built' : Built p' { c with bound := (entries p').map Entry.canonical } es { d with plans }) :
    ∃ code q q', d.Loses { d with plans } c.hooks b code q q' := by
  obtain ⟨elsewhere, gone, here⟩ := boundValue?_without built h
  obtain ⟨before, after, all, -⟩ := entries_without h
  have known := built.canonical.2.2 b (by simp [all])
  obtain ⟨e, mem, path⟩ := List.mem_map.1 known
  obtain ⟨code, he⟩ := List.mem_iff_getElem?.1 mem
  obtain ⟨q, hq, made⟩ := built.exists_plan he
  obtain ⟨q', hq', made'⟩ := built'.exists_plan he
  have fills := plan_fills made
  refine ⟨code, q, q', rfl, fun code' other => ?_, hq, hq', ?_, fun code' q' hq' same => ?_, ?_, ?_,
    plan_sameBut (fun kind other => ?_) made made'⟩
  · cases he' : es[code']? with
    | none =>
      have outside := List.getElem?_eq_none_iff.1 he'
      rw [List.getElem?_eq_none ((planAll_plan built.plans).1.trans_le outside),
        List.getElem?_eq_none ((planAll_plan built'.plans).1.trans_le outside)]
    | some e' =>
      obtain ⟨q₁, hq₁, made₁⟩ := built.exists_plan he'
      obtain ⟨q₂, hq₂, made₂⟩ := built'.exists_plan he'
      have away : e'.path ≠ Route.canonicalPath b.path := fun same =>
        other (built.position he' he (same.trans path.symm))
      rw [plan_congr fun kind => elsewhere kind _ (.inr away), made₁] at made₂
      cases made₂
      exact hq₂.trans hq₁.symm
  · rw [fills.endpoint, path]
  · obtain ⟨e', he', made⟩ := built.planned hq'
    rw [(plan_fills made).endpoint] at same
    exact built.position he' he (same.trans path.symm)
  · rw [(plan_held made b.kind).1, path, here, Option.bind_some]
    have held := (plan_held made b.kind).2
    rw [(plan_held made b.kind).1, path, here] at held
    exact ⟨rfl, Option.isSome_iff_ne_none.1 (held rfl)⟩
  · rw [(plan_held made' b.kind).1, path, gone]
    rfl
  · rw [path]
    exact elsewhere kind _ (.inl other)

end Dispatch

/-! ## Documents -/

/-- A query reports the locator that the document binds to the path of its endpoint, or else its
own. -/
theorem Document.Provider.Equips.watch {p : Document.Provider} {hooks : Hooks} {q : Plan}
    (h : p.Equips hooks q) (l : Locator) :
    (∀ uri, p.Binds .notificationUri uri q.endpoint.path → q.watched l = uri) ∧
      ((∀ uri, ¬ p.Binds .notificationUri uri q.endpoint.path) → q.watched l = l.raw) := by
  have held (uri : String) : q.notificationUri = some uri ↔
      p.Binds .notificationUri uri q.endpoint.path := by
    refine (h.held .notificationUri uri).trans ?_
    simp [Hooks.given?]
  unfold Plan.watched
  refine ⟨fun uri bound => by rw [(held uri).2 bound]; rfl, fun free => ?_⟩
  cases located : q.notificationUri with
  | none => rfl
  | some uri => exact absurd ((held uri).1 located) (free uri)

/-- What a document binds to a path reaches the endpoint that is declared there, before any default,
and nothing else: the document compiles without the entry, to a dispatch that differs in one slot of
one plan. -/
theorem overrides_bound {doc : Document} {hooks : Hooks} {c : Compiled}
    (compiled : doc.compile hooks = .ok c) :
    (∀ (code : Nat) (g : Document.Group) (e : Document.Endpoint),
      (Endpoint.declared doc.provider)[code]? = some (g, e) →
      ∃ q, c.dispatch.plans[code]? = some q ∧ q.endpoint = Endpoint.ofDocument g e ∧
        doc.provider.Equips hooks q) ∧
    (∀ (l : Locator) (q : Plan) (lookup : Lookup) (s t : Session) (f : Found),
      c.dispatch.resolve l = .ok q → (c.dispatch.query l lookup).run s = .ok f t →
      (∀ uri, doc.provider.Binds .notificationUri uri q.endpoint.path → f.watch = uri) ∧
      ((∀ uri, ¬ doc.provider.Binds .notificationUri uri q.endpoint.path) → f.watch = l.raw)) ∧
    ∀ b ∈ Dispatch.entries doc.provider, (∃ p', doc.provider.Without b p') ∧
      ∀ p', doc.provider.Without b p' →
        ∃ c', Document.compile { doc with provider := p' } hooks = .ok c' ∧ c'.script = c.script ∧
          ∃ code q q', c.dispatch.Loses c'.dispatch hooks b code q q' := by
  obtain ⟨s, ctx, es, accepted, script, rfl, rfl, built⟩ := Document.compile_built compiled
  have equipped (code : Nat) (q : Plan) (hq : c.dispatch.plans[code]? = some q) :
      doc.provider.Equips ctx.hooks q := by
    obtain ⟨e, -, made⟩ := built.planned hq
    exact built.equips made
  refine ⟨fun code g e decl => ?_, fun l q lookup s t f found asked => ?_, fun b mem => ?_⟩
  · obtain ⟨-, q, -, -, hq, fills⟩ := built.aligned decl
    exact ⟨q, hq, fills.endpoint, equipped code q hq⟩
  · obtain ⟨code, -, hq, -⟩ := Dispatch.resolve_ok found
    rw [(Dispatch.query_watch found asked).1]
    exact (equipped code q hq).watch l
  · refine ⟨Dispatch.exists_without mem, fun p' without => ?_⟩
    obtain ⟨plans, built'⟩ := built.without without
    refine ⟨⟨c.script, p'.name, c.dispatch.routes, plans⟩, ?_, rfl, ?_⟩
    · unfold Document.compile
      rw [accepted, mapError_ok_bind]
      have again := built'.compile
      rw [again, script]
      rfl
    · obtain ⟨code, q, q', loses⟩ := built.loses without built'
      exact ⟨code, q, q', loses.routes, loses.others, loses.plan, loses.plan', loses.path,
        loses.only, loses.held, loses.lost, loses.same⟩

namespace Tasks

/-- The second group has no endpoint of its own: it hides finished tasks at the path of the first,
and gives the locator for the lists. The provider has a default for the updates. -/
def crossed : Document where
  database := document.database
  provider := ⟨"todo", document.provider.groups ++ [{
    name := "policy"
    table := "tasks"
    mapColumns := []
    endpoints := []
    overrides := [⟨.whereFragments, ["//tasks/"], "open"⟩, ⟨.notify .delete, ["tasks"], "both"⟩]
    notificationUris := [⟨["lists/#/"], "all-lists"⟩]
    notifyDefaults := .empty }], ⟨none, none, some "both", none⟩⟩

end Tasks

/-- Without the locator of the lists, only the plan of the lists differs. -/
theorem overrides_bound_crossed :
    ∃ c, Tasks.crossed.compile Tasks.hooks = .ok c ∧
      (∃ q, c.dispatch.plans[0]? = some q ∧ q.endpoint.path = "tasks" ∧
        Tasks.crossed.provider.Equips Tasks.hooks q ∧ q.filterHook.isSome) ∧
      ∃ p' c', Tasks.crossed.provider.Without ⟨.notificationUri, "lists/#/", "all-lists"⟩ p' ∧
        Document.compile { Tasks.crossed with provider := p' } Tasks.hooks = .ok c' ∧
        ∃ code q q', c.dispatch.Loses c'.dispatch Tasks.hooks
          ⟨.notificationUri, "lists/#/", "all-lists"⟩ code q q' := by
  have compiled : Tasks.crossed.compile Tasks.hooks = .ok _ := rfl
  obtain ⟨equipped, -, reached⟩ := overrides_bound compiled
  refine ⟨_, compiled, ?_, ?_⟩
  · obtain ⟨q, hq, endpoint, equips⟩ := equipped 0 _ _ rfl
    refine ⟨q, hq, by rw [endpoint]; decide +kernel, equips, ?_⟩
    cases hq
    rfl
  · obtain ⟨⟨p', without⟩, compiles⟩ := reached ⟨.notificationUri, "lists/#/", "all-lists"⟩
      (by decide +kernel)
    obtain ⟨c', compiled', -, loses⟩ := compiles p' without
    exact ⟨p', c', without, compiled', loses⟩

end ResourceProvider
