import Mathlib.Data.List.Flatten
import ResourceProvider.Proofs.Dispatch.Acceptance
import ResourceProvider.Proofs.Text.Unambiguous
/-!
# Which endpoints are refused a route

An endpoint holds its path in canonical form, and it is registered under the canonical form of that.
The two are the same exactly if the path has no blank at its ends (`canonicalPath_eq_self_iff`);
a segment next to an outer slash may have one there. Registration stops at the first endpoint whose
key is empty or taken (`registerAll_eq_error_iff`). Among paths without such blanks this is the
first endpoint whose pattern an earlier one has (`registered_by_key`).
-/
namespace ResourceProvider

/-! ## Canonical forms -/

namespace Text

/-- Nothing is trimmed off a text that stays as long as it is. -/
theorem trimBoth_of_length_le {α : Type} {p : α → Bool} {xs : List α}
    (whole : xs.length ≤ (trimBoth p xs).length) : trimBoth p xs = xs := by
  have front := List.dropWhile_sublist p (l := xs)
  have back := List.dropWhile_sublist p (l := (xs.dropWhile p).reverse)
  have shorter := back.length_le
  rw [List.length_reverse] at shorter
  rw [trimBoth, List.length_reverse] at whole
  have left : xs.dropWhile p = xs := front.eq_of_length_le (Nat.le_trans whole shorter)
  rw [left] at back whole
  rw [trimBoth, left, back.eq_of_length_le (by rwa [List.length_reverse]), List.reverse_reverse]

theorem trim_eq_self_of_length {s : String} (whole : s.length ≤ (trim s).length) : trim s = s := by
  rw [trim, String.length_ofList, ← String.length_toList] at whole
  rw [trim, trimBoth_of_length_le whole, String.ofList_toList]

/-- The parts of a text with a separator before each are the text behind a separator. -/
theorem marked_split (sep : Char) (cs : List Char) :
    marked [sep] id (split sep cs) = sep :: cs := by
  unfold marked
  induction cs with
  | nil => rfl
  | cons c cs ih =>
    unfold split
    split
    · rename_i h
      rw [List.flatMap_cons, ih, h]
      rfl
    · cases parts : split sep cs with
      | nil => exact absurd parts (split_ne_nil sep cs)
      | cons part parts' =>
        rw [parts, List.flatMap_cons] at ih
        simp only [List.flatMap_cons, id, List.cons_append, List.nil_append, List.cons.injEq,
          true_and] at ih ⊢
        rw [ih]

end Text

namespace Route

/-- Segments are put together without what was dropped between them. -/
theorem length_join_segments (path : String) :
    (Text.join "/" (segments path)).length ≤ path.length := by
  have kept := List.filter_sublist (p := fun part => part ≠ []) (l := Text.split '/' path.toList)
  have shorter := (kept.flatMap fun part => ['/'] ++ part).length_le
  have whole := congrArg List.length (Text.marked_split '/' path.toList)
  unfold Text.marked at whole
  unfold segments
  cases filled : (Text.split '/' path.toList).filter fun part => part ≠ [] with
  | nil => simp [Text.join]
  | cons part parts =>
    have joined := congrArg List.length (Text.toList_join_cons "/" String.ofList part parts)
    rw [List.map_cons, ← String.length_toList, ← String.length_toList, joined]
    rw [filled] at shorter
    simp only [Text.marked, String.toList_ofList, String.reduceToList, List.flatMap_cons, id,
      List.length_append, List.length_cons, List.length_nil] at shorter whole ⊢
    omega

/-- A path in canonical form is its own canonical form exactly if no blank stands at its ends. -/
theorem canonicalPath_eq_self_iff {path : String} :
    canonicalPath (canonicalPath path) = canonicalPath path ↔
      Text.trim (canonicalPath path) = canonicalPath path := by
  constructor
  · intro same
    apply Text.trim_eq_self_of_length
    have shorter := length_join_segments (Text.trim (canonicalPath path))
    rw [← canonicalPath, same] at shorter
    exact shorter
  · intro trimmed
    rw [canonicalPath, trimmed, segments_canonicalPath]
    rfl

theorem Segment.text_ofText (s : String) : (Segment.ofText s).text = s := by
  unfold ofText
  split
  · rename_i h
    exact h.symm
  · split
    · rename_i h
      exact h.symm
    · rfl

/-- Paths in canonical form have different patterns unless they are the same. -/
theorem Pattern.ofPath_canonicalPath_inj {path path' : String} :
    Pattern.ofPath (canonicalPath path) = Pattern.ofPath (canonicalPath path') ↔
      canonicalPath path = canonicalPath path' := by
  constructor
  · intro same
    have texts := congrArg (List.map Segment.text) same
    simp only [Pattern.ofPath, List.map_map, Function.comp_def, Segment.text_ofText, List.map_id',
      segments_canonicalPath] at texts
    rw [canonicalPath, canonicalPath, texts]
  · intro same
    rw [same]

/-! ## Registering -/

/-- A route is refused if its key is empty, or else if the key is taken. -/
theorem Table.register_eq_error_iff {t : Table} {endpoint path : String} {pattern : Pattern}
    {err : RouteError} :
    t.register endpoint path pattern = .error err ↔
      (canonicalPath path = "" ∧ err = .emptyPath endpoint) ∨
      (canonicalPath path ≠ "" ∧ canonicalPath path ∈ t.routes.map Prod.fst ∧
        err = .duplicatePath (canonicalPath path)) := by
  unfold register
  by_cases empty : canonicalPath path = ""
  · simp [empty, eq_comm (a := err)]
  · by_cases old : canonicalPath path ∈ t.routes.map Prod.fst
    · simp only [empty, old, if_false, if_true, Except.error.injEq, false_and, false_or,
        ne_eq, not_false_eq_true, true_and, eq_comm (a := err)]
    · simp only [empty, old, if_false, reduceCtorEq, false_and, and_false, or_false]

end Route

namespace Endpoint

/-- A document declares the endpoint in a group, and a schema has what it needs. -/
def Resolved (e : Endpoint) : Prop :=
  ∃ g s d, fault g s d = none ∧ e = ofDocument g d

/-- The form of its path under which an endpoint is registered. -/
def key (e : Endpoint) : String :=
  Route.canonicalPath e.path

variable {e e' : Endpoint}

theorem path_ofDocument (g : Document.Group) (d : Document.Endpoint) :
    (ofDocument g d).path = Route.canonicalPath d.path := by
  simp only [ofDocument]

theorem pattern_ofDocument (g : Document.Group) (d : Document.Endpoint) :
    (ofDocument g d).pattern = .ofPath (Route.canonicalPath d.path) := by
  simp only [ofDocument]

theorem Resolved.path_ne_empty (h : e.Resolved) : e.path ≠ "" := by
  obtain ⟨g, s, d, fit, rfl⟩ := h
  rw [path_ofDocument]
  intro empty
  simp [fault, empty] at fit

theorem Resolved.key_eq_path_iff (h : e.Resolved) : e.key = e.path ↔ Text.trim e.path = e.path := by
  obtain ⟨g, s, d, -, rfl⟩ := h
  rw [key, path_ofDocument]
  exact Route.canonicalPath_eq_self_iff

theorem Resolved.pattern_inj (h : e.Resolved) (h' : e'.Resolved) :
    e.pattern = e'.pattern ↔ e.path = e'.path := by
  obtain ⟨g, s, d, -, rfl⟩ := h
  obtain ⟨g', s', d', -, rfl⟩ := h'
  simp only [path_ofDocument, pattern_ofDocument]
  exact Route.Pattern.ofPath_canonicalPath_inj

end Endpoint

namespace Dispatch

theorem registerAll_paths {t t' : Route.Table} {es : List Endpoint}
    (h : registerAll t es = .ok t') :
    t'.routes.map Prod.fst = t.routes.map Prod.fst ++ es.map Endpoint.key := by
  induction es generalizing t with
  | nil =>
    cases h
    simp
  | cons e es ih =>
    unfold registerAll at h
    split at h
    · cases h
    · rename_i hr
      rw [ih h, Route.Table.register_ok hr]
      simp [Endpoint.key]

/-- Registration stops at the first endpoint that the table built so far refuses. -/
theorem registerAll_eq_error_iff {t : Route.Table} {es : List Endpoint} {err : RouteError} :
    registerAll t es = .error err ↔ ∃ before e after t', es = before ++ e :: after ∧
      registerAll t before = .ok t' ∧ t'.register e.name e.path e.pattern = .error err := by
  induction es generalizing t with
  | nil =>
    refine iff_of_false (by simp [registerAll]) ?_
    rintro ⟨before, e, after, -, none, -⟩
    simp at none
  | cons e es ih =>
    rw [registerAll]
    cases first : t.register e.name e.path e.pattern with
    | error err' =>
      simp only [Except.error.injEq]
      constructor
      · rintro rfl
        exact ⟨[], e, es, t, rfl, rfl, first⟩
      · rintro ⟨before, e', after, t', cut, passed, refused⟩
        cases before with
        | nil =>
          cases cut
          cases passed
          rw [first] at refused
          exact Except.error.inj refused
        | cons b before =>
          cases cut
          rw [registerAll, first] at passed
          cases passed
    | ok grown =>
      obtain ⟨code, grown⟩ := grown
      simp only
      rw [ih]
      constructor
      · rintro ⟨before, e', after, t', rfl, passed, refused⟩
        refine ⟨e :: before, e', after, t', rfl, ?_, refused⟩
        rw [registerAll, first]
        exact passed
      · rintro ⟨before, e', after, t', cut, passed, refused⟩
        cases before with
        | nil =>
          cases cut
          cases passed
          rw [first] at refused
          cases refused
        | cons b before =>
          cases cut
          rw [registerAll, first] at passed
          exact ⟨before, e', after, t', rfl, passed, refused⟩

/-- All endpoints get a route exactly if their keys are not empty and pairwise different. -/
theorem registerAll_keys {es : List Endpoint} :
    (∃ t, registerAll .empty es = .ok t) ↔
      (∀ e ∈ es, e.key ≠ "") ∧ (es.map Endpoint.key).Nodup :=
  registerAll_succeeds (t := .empty) (by simp [Route.Table.empty])

/-- The endpoint that is refused has an empty key, or the key of one before it. -/
theorem registerAll_refusal {es : List Endpoint} {err : RouteError} :
    registerAll .empty es = .error err ↔ ∃ before e after, es = before ++ e :: after ∧
      ((∀ b ∈ before, b.key ≠ "") ∧ (before.map Endpoint.key).Nodup) ∧
      ((e.key = "" ∧ err = .emptyPath e.name) ∨
        (e.key ≠ "" ∧ e.key ∈ before.map Endpoint.key ∧ err = .duplicatePath e.key)) := by
  rw [registerAll_eq_error_iff]
  refine exists_congr fun before => exists_congr fun e => exists_congr fun after => ?_
  rw [← registerAll_keys]
  constructor
  · rintro ⟨t, cut, passed, refused⟩
    refine ⟨cut, ⟨t, passed⟩, ?_⟩
    rwa [Route.Table.register_eq_error_iff, registerAll_paths passed] at refused
  · rintro ⟨cut, ⟨t, passed⟩, refused⟩
    refine ⟨t, cut, passed, ?_⟩
    rwa [Route.Table.register_eq_error_iff, registerAll_paths passed]

/-! ## Distinct patterns -/

/-- Endpoints are registered by their keys, and keys that no blank was trimmed off tell exactly the
patterns apart. -/
theorem registered_by_key {es : List Endpoint} (resolved : ∀ e ∈ es, e.Resolved) :
    (∀ e ∈ es, e.key = e.path ↔ Text.trim e.path = e.path) ∧
    ((∃ t, registerAll .empty es = .ok t) ↔
      (∀ e ∈ es, e.key ≠ "") ∧ (es.map Endpoint.key).Nodup) ∧
    (∀ err, registerAll .empty es = .error err ↔ ∃ before e after, es = before ++ e :: after ∧
      ((∀ b ∈ before, b.key ≠ "") ∧ (before.map Endpoint.key).Nodup) ∧
      ((e.key = "" ∧ err = .emptyPath e.name) ∨
        (e.key ≠ "" ∧ e.key ∈ before.map Endpoint.key ∧ err = .duplicatePath e.key))) ∧
    ((∀ e ∈ es, Text.trim e.path = e.path) →
      ((∃ t, registerAll .empty es = .ok t) ↔ (es.map Endpoint.pattern).Nodup) ∧
      ∀ err, registerAll .empty es = .error err ↔ ∃ before e after, es = before ++ e :: after ∧
        (before.map Endpoint.pattern).Nodup ∧ e.pattern ∈ before.map Endpoint.pattern ∧
        err = .duplicatePath e.path) := by
  refine ⟨fun e he => (resolved e he).key_eq_path_iff, registerAll_keys,
    fun err => registerAll_refusal, fun trimmed => ?_⟩
  have own : ∀ e ∈ es, e.key = e.path := fun e he =>
    (resolved e he).key_eq_path_iff.2 (trimmed e he)
  have filled : ∀ e ∈ es, e.key ≠ "" := fun e he =>
    (own e he).symm ▸ (resolved e he).path_ne_empty
  have same : ∀ e ∈ es, ∀ e' ∈ es, e.key = e'.key ↔ e.pattern = e'.pattern := fun e he e' he' => by
    rw [own e he, own e' he', (resolved e he).pattern_inj (resolved e' he')]
  have distinct : ∀ part : List Endpoint, (∀ e ∈ part, e ∈ es) →
      ((part.map Endpoint.key).Nodup ↔ (part.map Endpoint.pattern).Nodup) := by
    intro part within
    unfold List.Nodup
    rw [List.pairwise_map, List.pairwise_map]
    exact List.Pairwise.iff_of_mem fun {e e'} he he' =>
      not_congr (same e (within e he) e' (within e' he'))
  refine ⟨?_, fun err => ?_⟩
  · rw [registerAll_keys, distinct es fun _ he => he]
    exact and_iff_right filled
  · rw [registerAll_refusal]
    refine exists_congr fun before => exists_congr fun e => exists_congr fun after =>
      and_congr_right fun cut => ?_
    have he : e ∈ es := by simp [cut]
    have within : ∀ b ∈ before, b ∈ es := fun b hb => by simp [cut, hb]
    have taken : e.key ∈ before.map Endpoint.key ↔ e.pattern ∈ before.map Endpoint.pattern := by
      rw [List.mem_map, List.mem_map]
      exact exists_congr fun b => and_congr_right fun hb => same b (within b hb) e he
    rw [distinct before within, taken, own e he]
    have nonempty := (resolved e he).path_ne_empty
    have filled' : ∀ b ∈ before, b.key ≠ "" := fun b hb => filled b (within b hb)
    simp only [nonempty, ne_eq, not_false_eq_true, true_and, false_and, false_or]
    exact ⟨fun h => ⟨h.1.2, h.2⟩, fun h => ⟨⟨filled', h.1⟩, h.2⟩⟩

end Dispatch

namespace Tasks

/-- The tasks at a path, by which the endpoint is also named. -/
def endpoint (path : String) : Document.Endpoint :=
  ⟨path, path, "task", none, [], none, none, none, none, none, Operation.all, []⟩

/-- A group of endpoints for the tasks. -/
def group : Document.Group :=
  ⟨"tasks", "tasks", [], [], [], [], .empty⟩

/-- The tasks as they are served at some paths. -/
def served (paths : List String) : List Endpoint :=
  paths.map fun path => Endpoint.ofDocument group (endpoint path)

/-- The paths suit the schema of the tasks. -/
def suits (paths : List String) : Bool :=
  (Schema.ofDatabase document.database).toOption.any fun s =>
    paths.all fun path => (Endpoint.fault group s (endpoint path)).isNone

theorem resolved_served {paths : List String} (fit : suits paths) :
    ∀ e ∈ served paths, e.Resolved := by
  obtain ⟨s, -, fit⟩ := (Option.any_eq_true _ _).1 fit
  rw [List.all_eq_true] at fit
  refine List.forall_mem_map.2 fun path hpath => ?_
  exact ⟨_, s, _, Option.isNone_iff_eq_none.1 (fit path hpath), rfl⟩

end Tasks

/-- The third path has the pattern of the first. -/
theorem registered_by_key_tasks :
    (∀ e ∈ Tasks.served ["tasks", "/lists/#", "//tasks/ "], e.Resolved) ∧
      Dispatch.registerAll .empty (Tasks.served ["tasks", "/lists/#", "//tasks/ "]) =
        .error (.duplicatePath "tasks") := by
  have resolved : ∀ e ∈ Tasks.served ["tasks", "/lists/#", "//tasks/ "], e.Resolved :=
    Tasks.resolved_served (by decide +kernel)
  refine ⟨resolved, ?_⟩
  obtain ⟨-, -, -, trimmed⟩ := Dispatch.registered_by_key resolved
  obtain ⟨-, refused⟩ := trimmed (by decide +kernel)
  refine (refused _).2 ⟨Tasks.served ["tasks", "/lists/#"], Endpoint.ofDocument Tasks.group
    (Tasks.endpoint "//tasks/ "), [], rfl, ?_⟩
  decide +kernel

/-- Two paths with different patterns are registered under one key, and a path that has a segment
is left without a key. -/
theorem distinct_patterns_refused :
    ((∀ e ∈ Tasks.served ["/ a", "a"], e.Resolved) ∧
      ((Tasks.served ["/ a", "a"]).map Endpoint.pattern).Nodup ∧
      Dispatch.registerAll .empty (Tasks.served ["/ a", "a"]) = .error (.duplicatePath "a")) ∧
    (∀ e ∈ Tasks.served ["/ /"], e.Resolved) ∧
      Dispatch.registerAll .empty (Tasks.served ["/ /"]) = .error (.emptyPath "/ /") :=
  ⟨⟨Tasks.resolved_served (by decide +kernel), by decide +kernel, by decide +kernel⟩,
    Tasks.resolved_served (by decide +kernel), by decide +kernel⟩

end ResourceProvider
