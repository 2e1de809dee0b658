import ResourceProvider.Proofs.Dispatch.Registration
/-!
# The codes of routes

Endpoints are offered to a route table one after another, and some of them are refused. The others
are granted the codes from zero on, without gaps, and the table holds the pattern of each under its
code. A refusal leaves nothing behind: without it, all other answers and the table are the same
(`codes_granted`).
-/
namespace ResourceProvider.Dispatch

/-! ## Offers -/

/-- What a table answers to an endpoint, and the table after that. -/
def offer (t : Route.Table) (e : Endpoint) : Except RouteError Nat × Route.Table :=
  match t.register e.name e.path e.pattern with
  | .ok (code, t') => (.ok code, t')
  | .error err => (.error err, t)

/-- An endpoint with the answer it was given. -/
abbrev Answered := Endpoint × Except RouteError Nat

/-- Offers endpoints one after another: each of them with its answer, and the table at the end. -/
def offerAll : Route.Table → List Endpoint → List Answered × Route.Table
  | t, [] => ([], t)
  | t, e :: es =>
    let rest := offerAll (offer t e).2 es
    ((e, (offer t e).1) :: rest.1, rest.2)

/-- The endpoints that were granted a code. -/
def granted (log : List Answered) : List (Endpoint × Nat) :=
  log.filterMap fun a => a.2.toOption.map fun code => (a.1, code)

/-- An endpoint is refused if its key is empty, or else if one of the keys is the same. -/
def IsRefused (keys : List String) (e : Endpoint) (err : RouteError) : Prop :=
  (e.key = "" ∧ err = .emptyPath e.name) ∨
    (e.key ≠ "" ∧ e.key ∈ keys ∧ err = .duplicatePath e.key)

variable {t t' : Route.Table} {e : Endpoint} {es : List Endpoint} {log before after : List Answered}

/-- An endpoint takes the next code with a new key, or it is refused and the table stays. -/
theorem offer_cases (t : Route.Table) (e : Endpoint) :
    (offer t e = (.ok t.size, ⟨t.routes ++ [(e.key, e.pattern)]⟩) ∧
      e.key ∉ t.routes.map Prod.fst ∧ ∀ err, ¬ IsRefused (t.routes.map Prod.fst) e err) ∨
    ∃ err, offer t e = (.error err, t) ∧
      ∀ err', IsRefused (t.routes.map Prod.fst) e err' ↔ err = err' := by
  unfold offer
  cases answer : t.register e.name e.path e.pattern with
  | error err =>
    refine .inr ⟨err, rfl, fun err' => ?_⟩
    rw [IsRefused, Endpoint.key, ← Route.Table.register_eq_error_iff, answer, Except.error.injEq]
  | ok granted =>
    have refuses (err : RouteError) : ¬ IsRefused (t.routes.map Prod.fst) e err := by
      rw [IsRefused, Endpoint.key, ← Route.Table.register_eq_error_iff, answer]
      rintro ⟨⟩
    have new : e.key ∉ t.routes.map Prod.fst := fun old => by
      by_cases empty : e.key = ""
      · exact refuses _ (.inl ⟨empty, rfl⟩)
      · exact refuses _ (.inr ⟨empty, old, rfl⟩)
    refine .inl ⟨?_, new, refuses⟩
    obtain ⟨code, t'⟩ := granted
    simp only [Route.Table.register] at answer
    split at answer
    · cases answer
    · split at answer
      · cases answer
      · cases answer
        rfl

/-! ## Runs -/

theorem granted_cons (a : Answered) (log : List Answered) :
    granted (a :: log) = (a.2.toOption.map fun code => (a.1, code)).toList ++ granted log := by
  rw [granted, List.filterMap_cons]
  cases a.2 <;> rfl

theorem offerAll_endpoints (t : Route.Table) (es : List Endpoint) :
    (offerAll t es).1.map Prod.fst = es := by
  induction es generalizing t with
  | nil => rfl
  | cons e es ih => rw [offerAll, List.map_cons, ih]

theorem offerAll_append (t : Route.Table) (es es' : List Endpoint) :
    offerAll t (es ++ es') = ((offerAll t es).1 ++ (offerAll (offerAll t es).2 es').1,
      (offerAll (offerAll t es).2 es').2) := by
  induction es generalizing t with
  | nil => rfl
  | cons e es ih => simp only [List.cons_append, offerAll, ih]

/-- A table keeps its routes, and what is granted follows them in order. -/
theorem offerAll_grants (t : Route.Table) (es : List Endpoint) :
    (offerAll t es).2.routes =
        t.routes ++ (granted (offerAll t es).1).map (fun g => (g.1.key, g.1.pattern)) ∧
      (granted (offerAll t es).1).map Prod.snd =
        List.range' t.size (granted (offerAll t es).1).length := by
  induction es generalizing t with
  | nil => simp [offerAll, granted]
  | cons e es ih =>
    rw [offerAll, granted_cons]
    obtain ⟨routes, codes⟩ := ih (offer t e).2
    obtain ⟨same, -, -⟩ | ⟨err, same, -⟩ := offer_cases t e
    · rw [same] at routes codes ⊢
      constructor
      · simp [routes, Except.toOption]
      · have next : Route.Table.size ⟨t.routes ++ [(e.key, e.pattern)]⟩ = t.size + 1 := by
          simp [Route.Table.size]
        rw [next] at codes
        simp [codes, Except.toOption, List.range'_succ]
    · rw [same] at routes codes ⊢
      exact ⟨by simpa [Except.toOption] using routes, by simpa [Except.toOption] using codes⟩

theorem offerAll_nodup (distinct : (t.routes.map Prod.fst).Nodup) (es : List Endpoint) :
    ((offerAll t es).2.routes.map Prod.fst).Nodup := by
  induction es generalizing t with
  | nil => exact distinct
  | cons e es ih =>
    refine ih ?_
    obtain ⟨same, new, -⟩ | ⟨err, same, -⟩ := offer_cases t e
    · have grown := distinct.concat new
      rw [List.concat_eq_append] at grown
      rw [same]
      simpa using grown
    · rw [same]
      exact distinct

/-- A run, seen at one of its answers. -/
theorem offerAll_at {answer : Except RouteError Nat}
    (run : offerAll t es = (before ++ (e, answer) :: after, t')) :
    (offerAll t (before.map Prod.fst)).1 = before ∧
      (offer (offerAll t (before.map Prod.fst)).2 e).1 = answer ∧
      offerAll (offer (offerAll t (before.map Prod.fst)).2 e).2 (after.map Prod.fst) =
        (after, t') := by
  have cut : es = before.map Prod.fst ++ e :: after.map Prod.fst := by
    have all := offerAll_endpoints t es
    rw [run, List.map_append, List.map_cons] at all
    exact all.symm
  rw [cut, offerAll_append, Prod.mk.injEq, offerAll] at run
  obtain ⟨answers, last⟩ := run
  have long := congrArg List.length (offerAll_endpoints t (before.map Prod.fst))
  rw [List.length_map, List.length_map] at long
  obtain ⟨first, rest⟩ := List.append_inj answers long
  rw [List.cons.injEq, Prod.mk.injEq] at rest
  exact ⟨first, rest.1.2, Prod.ext_iff.2 ⟨rest.2, last⟩⟩

theorem granted_keys (es : List Endpoint) :
    ((offerAll .empty es).2.routes.map Prod.fst) =
      (granted (offerAll .empty es).1).map fun g => g.1.key := by
  rw [(offerAll_grants .empty es).1]
  simp [Route.Table.empty]

/-- The codes are granted in order, without gaps. -/
theorem codes_from_zero (run : offerAll .empty es = (log, t)) :
    t.size = (granted log).length ∧ (granted log).map Prod.snd = List.range t.size := by
  obtain ⟨routes, codes⟩ := offerAll_grants .empty es
  rw [run] at routes codes
  have size : t.size = (granted log).length := by
    rw [Route.Table.size, routes]
    simp [Route.Table.empty]
  refine ⟨size, ?_⟩
  rw [codes, size, List.range_eq_range']
  rfl

/-- The table holds what was granted, each under its code. -/
theorem route_granted (run : offerAll .empty es = (log, t)) {code : Nat}
    (mem : (e, code) ∈ granted log) : t.routes[code]? = some (e.key, e.pattern) := by
  obtain ⟨size, codes⟩ := codes_from_zero run
  obtain ⟨i, bound, here⟩ := List.getElem_of_mem mem
  -- The place of an endpoint among those that are granted is its code.
  have place : code = i := by
    have own := congrArg (·[i]?) codes
    rw [List.getElem?_map, List.getElem?_eq_getElem bound, here,
      List.getElem?_range (size ▸ bound)] at own
    exact Option.some.inj own
  have routes := (offerAll_grants .empty es).1
  rw [run] at routes
  rw [place, routes, Route.Table.empty, List.nil_append, List.getElem?_map,
    List.getElem?_eq_getElem bound, here]
  rfl

/-- An endpoint is refused for an empty key or one that is taken, and nothing comes of it. -/
theorem answer_iff {answer : Except RouteError Nat}
    (run : offerAll .empty es = (before ++ (e, answer) :: after, t)) :
    (∀ err, answer = .error err ↔ IsRefused ((granted before).map fun g => g.1.key) e err) ∧
    ∀ err, answer = .error err →
      (offerAll .empty (before.map Prod.fst ++ [e])).2 =
        (offerAll .empty (before.map Prod.fst)).2 ∧
      offerAll .empty (before.map Prod.fst ++ after.map Prod.fst) = (before ++ after, t) := by
  obtain ⟨first, own, rest⟩ := offerAll_at run
  have keys := granted_keys (before.map Prod.fst)
  rw [first] at keys
  rw [← keys, offerAll_append, offerAll_append, first, offerAll, offerAll]
  obtain ⟨same, -, refuses⟩ | ⟨err, same, refuses⟩ :=
    offer_cases (offerAll .empty (before.map Prod.fst)).2 e
  · rw [same] at own
    refine ⟨fun err => iff_of_false ?_ (refuses err), ?_⟩
    · rw [← own]
      exact nofun
    · rintro err rfl
      cases own
  · rw [same] at own rest ⊢
    refine ⟨fun err' => ?_, fun err' _ => ⟨rfl, ?_⟩⟩
    · rw [← own, refuses, Except.error.injEq]
    · rw [rest]

/-- Endpoints that are offered one after another are each answered. What is granted has the codes
from zero on, in this order, and the table holds nothing else: under each code the key and the
pattern of its endpoint, no key twice. An endpoint is refused exactly for an empty key or for one
that has been granted; then the table stays, and the rest of the run is what it is without the
refused endpoint. -/
theorem codes_granted (es : List Endpoint) :
    ∃ log t, offerAll .empty es = (log, t) ∧ log.map Prod.fst = es ∧
      t.size = (granted log).length ∧ (granted log).map Prod.snd = List.range t.size ∧
      (∀ e code, (e, code) ∈ granted log → t.routes[code]? = some (e.key, e.pattern)) ∧
      ((granted log).map fun g => g.1.key).Nodup ∧
      ∀ before e answer after, log = before ++ (e, answer) :: after →
        (∀ err, answer = .error err ↔ IsRefused ((granted before).map fun g => g.1.key) e err) ∧
        ∀ err, answer = .error err →
          (offerAll .empty (before.map Prod.fst ++ [e])).2 =
            (offerAll .empty (before.map Prod.fst)).2 ∧
          offerAll .empty (before.map Prod.fst ++ after.map Prod.fst) = (before ++ after, t) := by
  have all := offerAll_endpoints .empty es
  have distinct := offerAll_nodup (t := .empty) (by simp [Route.Table.empty]) es
  rw [granted_keys] at distinct
  cases run : offerAll .empty es with
  | mk log t =>
    rw [run] at all distinct
    obtain ⟨size, codes⟩ := codes_from_zero run
    refine ⟨log, t, rfl, all, size, codes, fun e code mem => route_granted run mem, distinct, ?_⟩
    rintro before e answer after rfl
    exact answer_iff run

end ResourceProvider.Dispatch
