import ResourceProvider.Proofs.Dispatch.Compiled
/-!
# Whose aliases and defaults an endpoint gets

What a group gives to its endpoints is kept under the name of the group, and of groups with one name
the last is kept. So an endpoint is governed by the last group that has the name of its own group
(`endpoints_governed`). That is its own group unless a later one repeats the name, which compiling
lets pass (`not_governed_doubled`).
-/
namespace ResourceProvider

/-! ## Groups that govern -/

namespace Document

/-- Of the groups with a name, `owner` comes last. -/
def Provider.LastNamed (p : Provider) (name : String) (owner : Group) : Prop :=
  ∃ before after, p.groups = before ++ owner :: after ∧ owner.name = name ∧
    ∀ g ∈ after, g.name ≠ name

/-- Some override is for the notifications of a mutation at a path. -/
def Provider.Overrides (p : Provider) (m : Mutation) (path : String) : Prop :=
  ∃ g ∈ p.groups, ∃ o ∈ g.overrides, o.slot = .notify m ∧
    ∃ q ∈ o.paths, Route.canonicalPath q = Route.canonicalPath path

/-- Among the groups with the name of some group, one comes last. -/
theorem Provider.exists_lastNamed {p : Provider} {g : Group} (hg : g ∈ p.groups) :
    ∃ owner, p.LastNamed g.name owner := by
  have search (gs : List Group) : (∃ x ∈ gs, x.name = g.name) →
      ∃ owner before after, gs = before ++ owner :: after ∧ owner.name = g.name ∧
        ∀ x ∈ after, x.name ≠ g.name := by
    induction gs with
    | nil => simp
    | cons a gs ih =>
      rintro ⟨x, hx, same⟩
      by_cases later : ∃ x ∈ gs, x.name = g.name
      · obtain ⟨owner, before, after, rfl, rest⟩ := ih later
        exact ⟨owner, a :: before, after, rfl, rest⟩
      · have others : ∀ x ∈ gs, x.name ≠ g.name := fun x hx same => later ⟨x, hx, same⟩
        rcases List.mem_cons.1 hx with rfl | hx
        · exact ⟨x, [], gs, rfl, same, others⟩
        · exact absurd same (others x hx)
  exact search p.groups ⟨g, hg, rfl⟩

end Document

/-- What fills a slot by default: the hook of a name, or nothing without a name. -/
inductive Hooks.Fallback (hooks : Hooks) : Option String → Assigned NotifyHook → Prop
  | none : Fallback hooks none .none
  | named {name : String} {hook : NotifyHook} (found : hooks.notifiers.lookup name = some hook) :
      Fallback hooks (some name) (.byDefault hook)

/-- The plan of an endpoint has the aliases of the group. Where no override is for the endpoint, the
default of the group notifies, or else the one of the provider. -/
structure Document.Group.Governs (g : Group) (p : Provider) (hooks : Hooks) (e : Endpoint)
    (q : Plan) : Prop where
  aliases : q.aliases = g.mapColumns
  notify : ∀ m, ¬ p.Overrides m e.path →
    hooks.Fallback ((g.notifyDefaults.hook? m).or (p.notifyDefaults.hook? m)) (q.notify m)

/-! ## Defaults -/

namespace Hooks

theorem named_ok {α : Type} {kind : HookKind} {hooks : List (String × α)} {name : String} {hook : α}
    (h : named kind hooks name = .ok hook) : hooks.lookup name = some hook := by
  unfold named at h
  split at h
  · rename_i found
    cases h
    exact found
  · cases h

theorem named?_ok {α : Type} {kind : HookKind} {hooks : List (String × α)} {name : String}
    {hook : Option α} (h : named? kind hooks (some name) = .ok hook) :
    ∃ a, hook = some a ∧ hooks.lookup name = some a := by
  have mapped : (named kind hooks name).map some = .ok hook := h
  cases found : named kind hooks name with
  | error e =>
    rw [found] at mapped
    cases mapped
  | ok a =>
    rw [found] at mapped
    cases mapped
    exact ⟨a, rfl, named_ok found⟩

/-- The hook of one name, or else of another, is found where either is looked up. -/
theorem named?_or {α : Type} {kind : HookKind} {hooks : List (String × α)}
    {first second : Option String} {hook hook' : Option α}
    (h : named? kind hooks first = .ok hook) (h' : named? kind hooks second = .ok hook') :
    named? kind hooks (first.or second) = .ok (hook.or hook') := by
  cases first with
  | none =>
    cases h
    exact h'
  | some name =>
    obtain ⟨a, rfl, -⟩ := named?_ok h
    exact h

end Hooks

namespace Dispatch

theorem resolveDefaults_ok {hooks : Hooks} {d : Document.NotifyDefaults} {defaults : Defaults}
    (h : resolveDefaults hooks d = .ok defaults) (m : Mutation) :
    Hooks.named? .notify hooks.notifiers (d.hook? m) = .ok (defaults m) := by
  unfold resolveDefaults at h
  obtain ⟨_, insert, h⟩ := ok_of_bind h
  obtain ⟨_, bulkInsert, h⟩ := ok_of_bind h
  obtain ⟨_, update, h⟩ := ok_of_bind h
  obtain ⟨_, delete, h⟩ := ok_of_bind h
  cases h
  cases m with
  | insert => exact insert
  | bulkInsert => exact bulkInsert
  | update => exact update
  | delete => exact delete

/-! ## Groups by name -/

theorem groupParts_names {hooks : Hooks} {gs : List Document.Group} {parts : List GroupPart}
    (h : groupParts hooks gs = .ok parts) :
    parts.map GroupPart.name = gs.map Document.Group.name := by
  induction gs generalizing parts with
  | nil =>
    cases h
    rfl
  | cons g gs ih =>
    obtain ⟨_, -, h⟩ := ok_of_bind h
    obtain ⟨rest, hrest, h⟩ := ok_of_bind h
    cases h
    simp [ih hrest]

/-- Parts stand in the order of their groups. -/
theorem groupParts_append {hooks : Hooks} {before after : List Document.Group}
    {parts : List GroupPart} (h : groupParts hooks (before ++ after) = .ok parts) :
    ∃ ps qs, parts = ps ++ qs ∧ groupParts hooks after = .ok qs := by
  induction before generalizing parts with
  | nil => exact ⟨[], parts, rfl, h⟩
  | cons g gs ih =>
    obtain ⟨_, -, h⟩ := ok_of_bind h
    obtain ⟨_, hrest, h⟩ := ok_of_bind h
    cases h
    obtain ⟨ps, qs, rfl, hqs⟩ := ih hrest
    exact ⟨_ :: ps, qs, rfl, hqs⟩

/-- Under a name stands the part of the last group that has it. -/
theorem partOf?_lastNamed {hooks : Hooks} {p : Document.Provider} {parts : List GroupPart}
    (h : groupParts hooks p.groups = .ok parts) {name : String} {owner : Document.Group}
    (last : p.LastNamed name owner) :
    ∃ defaults, resolveDefaults hooks owner.notifyDefaults = .ok defaults ∧
      partOf? parts name = some ⟨name, defaults, owner.mapColumns⟩ := by
  obtain ⟨before, after, split, rfl, others⟩ := last
  rw [split] at h
  obtain ⟨ps, qs, rfl, hqs⟩ := groupParts_append h
  obtain ⟨defaults, hdefaults, hqs⟩ := ok_of_bind hqs
  obtain ⟨rest, hrest, hqs⟩ := ok_of_bind hqs
  cases hqs
  refine ⟨defaults, hdefaults, ?_⟩
  -- No part after the owner's has the name, for parts have the names of their groups.
  have later : rest.reverse.find? (fun q => q.name = owner.name) = none := by
    rw [List.find?_eq_none]
    intro q hq
    have mem : q.name ∈ rest.map GroupPart.name :=
      List.mem_map_of_mem (List.mem_reverse.1 hq)
    rw [groupParts_names hrest] at mem
    obtain ⟨g, hg, same⟩ := List.mem_map.1 mem
    rw [← same]
    simpa using others g hg
  unfold partOf?
  rw [List.reverse_append, List.reverse_cons, List.append_assoc, List.find?_append, later]
  simp

/-! ## Overrides -/

/-- Entries are bound in order, each to the canonical form of its path. -/
theorem bindEntries_ok {known : List String} {bound bound' entries : List Entry}
    (h : bindEntries known bound entries = .ok bound') :
    bound' = bound ++ entries.map fun b => { b with path := Route.canonicalPath b.path } := by
  induction entries generalizing bound with
  | nil =>
    cases h
    simp
  | cons b rest ih =>
    simp only [bindEntries] at h
    split at h
    · cases h
    split at h
    · cases h
    rw [ih h]
    simp

/-- An entry for the notifications of a mutation comes from an override. -/
theorem overrides_of_entry {p : Document.Provider} {m : Mutation} {b : Entry} (hb : b ∈ entries p)
    (kind : b.kind = .slot (.notify m)) : p.Overrides m b.path := by
  obtain ⟨g, hg, hb⟩ := List.mem_flatMap.1 hb
  rcases List.mem_append.1 hb with hb | hb
  · obtain ⟨o, ho, hb⟩ := List.mem_flatMap.1 hb
    obtain ⟨q, hq, rfl⟩ := List.mem_map.1 hb
    have slot : o.slot = .notify m := by simpa using kind
    exact ⟨g, hg, o, ho, slot, q, hq, rfl⟩
  · obtain ⟨n, -, hb⟩ := List.mem_flatMap.1 hb
    obtain ⟨q, -, rfl⟩ := List.mem_map.1 hb
    cases kind

/-- Without an override there is no entry. -/
theorem boundValue?_of_not_overrides {known : List String} {p : Document.Provider}
    {bound : List Entry} (h : bindEntries known [] (entries p) = .ok bound) {m : Mutation} {path : String}
    (free : ¬ p.Overrides m path) :
    boundValue? bound (.slot (.notify m)) (Route.canonicalPath path) = none := by
  unfold boundValue?
  rw [Option.map_eq_none_iff, List.find?_eq_none]
  intro b hb
  rw [bindEntries_ok h, List.nil_append] at hb
  obtain ⟨b, mem, rfl⟩ := List.mem_map.1 hb
  intro hit
  obtain ⟨kind, path⟩ : b.kind = .slot (.notify m) ∧ _ = _ := by simpa using hit
  obtain ⟨g, hg, o, ho, slot, q, hq, same⟩ := overrides_of_entry mem kind
  exact free ⟨g, hg, o, ho, slot, q, hq, same.trans path⟩

/-! ## Slots -/

/-- Without an override, the slot of a mutation has the default of the part that stands under the
name of the group, or else the one of the provider. -/
theorem notifySlot_fallback {c : Context} {e : Endpoint} {m : Mutation} {slot : Assigned NotifyHook}
    (h : notifySlot c e m = .ok slot) (free : boundValue? c.bound (.slot (.notify m)) e.path = none)
    {part : GroupPart} (owner : partOf? c.groups e.group = some part) {first second : Option String}
    (hfirst : Hooks.named? .notify c.hooks.notifiers first = .ok (part.defaults m))
    (hsecond : Hooks.named? .notify c.hooks.notifiers second = .ok (c.defaults m)) :
    c.hooks.Fallback (first.or second) slot := by
  have found := Hooks.named?_or hfirst hsecond
  simp only [notifySlot, free, owner, Option.bind_some] at h
  cases name : first.or second with
  | none =>
    rw [name] at found
    have nothing := Except.ok.inj found
    rw [← nothing] at h
    cases h
    exact .none
  | some name' =>
    rw [name] at found
    obtain ⟨hook, some, lookup⟩ := Hooks.named?_ok found
    rw [some] at h
    cases h
    exact .named lookup

end Dispatch

/-! ## Owners -/

/-- An endpoint is governed by the last group with the name of its own group, which always exists. -/
theorem endpoints_governed {doc : Document} {hooks : Hooks} {c : Compiled}
    (compiled : doc.compile hooks = .ok c) {code : Nat} {g : Document.Group} {e : Document.Endpoint}
    (decl : (Endpoint.declared doc.provider)[code]? = some (g, e)) :
    ∃ q, c.dispatch.plans[code]? = some q ∧ q.endpoint = Endpoint.ofDocument g e ∧
      (∃ owner, doc.provider.LastNamed g.name owner) ∧
      ∀ owner, doc.provider.LastNamed g.name owner → owner.Governs doc.provider hooks e q := by
  obtain ⟨s, ctx, es, -, -, -, rfl, built⟩ := Document.compile_built compiled
  obtain ⟨-, q, -, -, hq, fills⟩ := built.aligned decl
  have group : (Endpoint.ofDocument g e).group = g.name := by simp only [Endpoint.ofDocument]
  have path : (Endpoint.ofDocument g e).path = Route.canonicalPath e.path := by
    simp only [Endpoint.ofDocument]
  refine ⟨q, hq, fills.endpoint, ?_, ?_⟩
  · obtain ⟨g', hg', mem⟩ := List.mem_flatMap.1 (List.mem_of_getElem? decl)
    obtain ⟨e', -, same⟩ := List.mem_map.1 mem
    cases same
    exact Document.Provider.exists_lastNamed hg'
  · intro owner last
    obtain ⟨defaults, hdefaults, part⟩ := Dispatch.partOf?_lastNamed built.groups last
    rw [← group] at part
    refine ⟨?_, ?_⟩
    · rw [fills.aliases, part]
      rfl
    · intro m free
      have unbound := Dispatch.boundValue?_of_not_overrides built.bound free
      rw [← path] at unbound
      exact Dispatch.notifySlot_fallback (fills.notify m) unbound part
        (Dispatch.resolveDefaults_ok hdefaults m) (Dispatch.resolveDefaults_ok built.defaults m)

namespace Tasks

/-- Two groups with one name; the first has an alias and a default. -/
def doubled : Document where
  database := document.database
  provider := ⟨"todo", [
    { name := "tasks"
      table := "tasks"
      mapColumns := [("name", "title")]
      endpoints := [
        ⟨"all", "tasks", "task", none, [], none, none, none, none, none, Operation.all, []⟩]
      overrides := []
      notificationUris := []
      notifyDefaults := ⟨some "both", none, none, none⟩ },
    { name := "tasks"
      table := "tasks"
      mapColumns := []
      endpoints := [
        ⟨"one", "tasks/#", "task", none, [], none, none, none, none, none, Operation.all, []⟩]
      overrides := []
      notificationUris := []
      notifyDefaults := .empty }], .empty⟩

end Tasks

theorem endpoints_governed_doubled :
    ∃ c g e q owner, Tasks.doubled.compile Tasks.hooks = .ok c ∧
      (Endpoint.declared Tasks.doubled.provider)[0]? = some (g, e) ∧
      c.dispatch.plans[0]? = some q ∧ Tasks.doubled.provider.LastNamed g.name owner ∧
      owner.Governs Tasks.doubled.provider Tasks.hooks e q := by
  have compiled : Tasks.doubled.compile Tasks.hooks = .ok _ := rfl
  have decl : (Endpoint.declared Tasks.doubled.provider)[0]? = some (_, _) := rfl
  obtain ⟨q, hq, -, ⟨owner, last⟩, governs⟩ := endpoints_governed compiled decl
  exact ⟨_, _, _, q, owner, compiled, decl, hq, last, governs owner last⟩

/-- An endpoint need not be governed by its own group: the alias of the first group is lost. -/
theorem not_governed_doubled :
    ¬ ∀ (doc : Document) (hooks : Hooks) (c : Compiled) (code : Nat) (g : Document.Group)
      (e : Document.Endpoint), doc.compile hooks = .ok c →
      (Endpoint.declared doc.provider)[code]? = some (g, e) →
      ∃ q, c.dispatch.plans[code]? = some q ∧ g.Governs doc.provider hooks e q := by
  intro own
  obtain ⟨q, hq, governs⟩ := own Tasks.doubled Tasks.hooks _ 0 _ _ rfl rfl
  cases hq
  cases governs.aliases

end ResourceProvider
