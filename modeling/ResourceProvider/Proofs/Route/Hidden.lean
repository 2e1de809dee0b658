import Mathlib.Algebra.Order.BigOperators.Group.List
import Mathlib.Algebra.Order.Group.Nat
import ResourceProvider.Proofs.Dispatch.Compiled
import ResourceProvider.Proofs.Route.Matching
import ResourceProvider.Proofs.Route.Path
/-!
# Routes that no locator finds

A route is hidden by an earlier one whose pattern subsumes its own, segment by segment. Only such a
route is never found (`found_iff_not_hidden`): every other route has a locator, its probe, which
each earlier pattern that does not subsume it refuses. The probe writes a text longer than every
literal of the table where the pattern leaves a choice, so it serves against all earlier patterns at
once, and routes never hide another one together that none of them hides alone.
-/
namespace ResourceProvider

namespace Route

/-! ## Subsumption -/

/-- The first segment stands for every text that the second stands for. -/
def Segment.Subsumes : Segment → Segment → Prop
  | .any, _ => True
  | .number, .number => True
  | .number, .literal t => ∀ c ∈ t.toList, Text.isDigit c
  | .literal s, .literal t => s = t
  | _, _ => False

/-- The patterns are equally long, and the first subsumes the second in each segment. -/
def Pattern.Subsumes (p q : Pattern) : Prop :=
  List.Forall₂ Segment.Subsumes p q

/-- A literal of the pattern can be a segment of a locator. -/
def Pattern.IsWritten (p : Pattern) : Prop :=
  ∀ s, .literal s ∈ p → IsSegment s

theorem Pattern.isWritten_ofPath (path : String) : (Pattern.ofPath path).IsWritten := by
  intro s hs
  obtain ⟨part, hpart, same⟩ := List.mem_map.1 hs
  have segment := isSegment_of_mem hpart
  unfold Segment.ofText at same
  split at same
  · cases same
  · split at same
    · cases same
    · cases same
      exact segment

theorem Segment.Subsumes.accepts {p q : Segment} (h : p.Subsumes q)
    (written : ∀ s, q = .literal s → s ≠ "") {s : String} (accepts : q.accepts s) :
    p.accepts s := by
  cases p with
  | any => rfl
  | number =>
    cases q with
    | any => cases h
    | number => exact accepts
    | literal t =>
      obtain rfl : t = s := by simpa [Segment.accepts] using accepts
      have digits : ∀ c ∈ t.toList, Text.isDigit c := h
      simpa [Segment.accepts, written t rfl] using digits
  | literal u =>
    cases q with
    | any => cases h
    | number => cases h
    | literal t =>
      obtain rfl : u = t := h
      exact accepts

/-- What a pattern accepts, a pattern that subsumes it accepts too. -/
theorem Pattern.Subsumes.accepts {p q : Pattern} (h : p.Subsumes q) (written : q.IsWritten)
    {ss : List String} (accepts : q.accepts ss) : p.accepts ss := by
  rw [Pattern.accepts_iff] at accepts ⊢
  induction h generalizing ss with
  | nil =>
    cases accepts
    exact .nil
  | cons first _ ih =>
    cases accepts with
    | cons head tail =>
      refine .cons (first.accepts ?_ head) (ih ?_ tail)
      · intro s hs
        exact (written s (hs ▸ List.mem_cons_self ..)).1
      · intro s hs
        exact written s (List.mem_cons_of_mem _ hs)

/-! ## Probes -/

/-- A text that the segment stands for; where it has a choice, one of more than `n` characters,
and no number unless it has to be one. -/
def Segment.probe (n : Nat) : Segment → String
  | .literal s => s
  | .number => String.ofList (List.replicate (n + 1) '0')
  | .any => String.ofList (List.replicate (n + 1) 'x')

theorem Segment.accepts_probe (n : Nat) (p : Segment) : p.accepts (p.probe n) := by
  cases p with
  | literal s => simp [accepts, probe]
  | number =>
    have digit : Text.isDigit '0' := by decide
    simp [accepts, probe, List.replicate_succ, digit]
  | any => rfl

theorem Segment.isSegment_probe (n : Nat) {p : Segment}
    (written : ∀ s, p = .literal s → IsSegment s) : IsSegment (p.probe n) := by
  cases p with
  | literal s => exact written s rfl
  | number => simp [IsSegment, probe, List.replicate_succ]
  | any => simp [IsSegment, probe, List.replicate_succ]

/-- A segment that stands for the probe of another subsumes it, unless it is a long literal. -/
theorem Segment.subsumes_of_accepts_probe {n : Nat} {p q : Segment}
    (short : ∀ s, p = .literal s → s.length ≤ n) (accepts : p.accepts (q.probe n)) :
    p.Subsumes q := by
  cases p with
  | any => trivial
  | number =>
    cases q with
    | any =>
      have letter : Text.isDigit 'x' = false := by decide
      simp [Segment.accepts, probe, List.replicate_succ, letter] at accepts
    | number => trivial
    | literal t =>
      simp only [Segment.accepts, probe, Bool.and_eq_true, List.all_eq_true] at accepts
      exact accepts.2
  | literal s =>
    have same : s = q.probe n := by simpa [Segment.accepts] using accepts
    have bound := short s rfl
    cases q with
    | any => exact absurd bound (by simp [same, probe])
    | number => exact absurd bound (by simp [same, probe])
    | literal t => exact same

/-- The locator that writes the probe of each segment of a pattern. -/
def Pattern.probe (n : Nat) (p : Pattern) : Locator :=
  ⟨Text.join "/" (p.map (Segment.probe n))⟩

theorem Pattern.segments_probe (n : Nat) {p : Pattern} (written : p.IsWritten) :
    (p.probe n).segments = p.map (Segment.probe n) := by
  refine segments_join ?_
  intro s hs
  obtain ⟨q, hq, rfl⟩ := List.mem_map.1 hs
  exact Segment.isSegment_probe n fun s literal => written s (literal ▸ hq)

theorem Pattern.accepts_probe (n : Nat) {p : Pattern} (written : p.IsWritten) :
    p.accepts (p.probe n).segments := by
  rw [segments_probe n written, accepts_iff, List.forall₂_map_right_iff]
  exact List.forall₂_same.2 fun q _ => q.accepts_probe n

/-- A pattern that accepts the probe of another subsumes it, if its literals are short. -/
theorem Pattern.subsumes_of_accepts_probe {n : Nat} {p q : Pattern} (written : q.IsWritten)
    (short : ∀ s, .literal s ∈ p → s.length ≤ n) (accepts : p.accepts (q.probe n).segments) :
    p.Subsumes q := by
  rw [segments_probe n written, accepts_iff, List.forall₂_map_right_iff] at accepts
  clear written
  unfold Subsumes
  induction accepts with
  | nil => exact .nil
  | cons first _ ih =>
    refine .cons (Segment.subsumes_of_accepts_probe ?_ first) (ih ?_)
    · intro s hs
      exact short s (hs ▸ List.mem_cons_self ..)
    · intro s hs
      exact short s (List.mem_cons_of_mem _ hs)

/-! ## Hidden routes -/

namespace Table

/-- An earlier route subsumes the route of a code. -/
def IsHidden (t : Table) (code : Nat) : Prop :=
  ∃ i < code, ∃ r q, t.routes[i]? = some r ∧ t.routes[code]? = some q ∧ r.2.Subsumes q.2

/-- Every literal of the table can be a segment of a locator. -/
def IsWritten (t : Table) : Prop :=
  ∀ r ∈ t.routes, r.2.IsWritten

/-- No literal of a table is longer than all of its segments together. -/
theorem exists_bound (t : Table) : ∃ n, ∀ r ∈ t.routes, ∀ s, .literal s ∈ r.2 → s.length ≤ n := by
  refine ⟨((t.routes.flatMap Prod.snd).map fun p => p.text.length).sum, ?_⟩
  intro r hr s hs
  have mem := List.mem_flatMap.2 ⟨r, hr, hs⟩
  exact List.le_sum_of_mem (List.mem_map.2 ⟨.literal s, mem, rfl⟩)

/-- A route that is not hidden is found by its probe. -/
theorem exists_find {t : Table} (written : t.IsWritten) {code : Nat} {r : String × Pattern}
    (hr : t.routes[code]? = some r) (shown : ¬ t.IsHidden code) : ∃ l, t.find l = .ok code := by
  obtain ⟨n, short⟩ := t.exists_bound
  have own := written r (List.mem_of_getElem? hr)
  refine ⟨r.2.probe n, find_eq_ok_iff.2 ⟨⟨r, hr, r.2.accepts_probe n own⟩, ?_⟩⟩
  intro i before q hq accepts
  have subsumes := Pattern.subsumes_of_accepts_probe own (short q (List.mem_of_getElem? hq)) accepts
  exact shown ⟨i, before, q, r, hq, hr, subsumes⟩

/-- A route that is found is not hidden. -/
theorem not_isHidden {t : Table} (written : t.IsWritten) {code : Nat} {l : Locator}
    (found : t.find l = .ok code) : ¬ t.IsHidden code := by
  obtain ⟨⟨r, hr, accepts⟩, others⟩ := find_eq_ok_iff.1 found
  rintro ⟨i, before, q, r', hq, hr', subsumes⟩
  rw [hr] at hr'
  cases hr'
  exact others i before q hq (subsumes.accepts (written r (List.mem_of_getElem? hr)) accepts)

end Table

end Route

/-! ## Compiled documents -/

open Route (Locator)

/-- The literals of compiled routes are segments of the paths that the document declares. -/
theorem Document.routes_written {doc : Document} {hooks : Hooks} {c : Compiled}
    (compiled : doc.compile hooks = .ok c) : c.dispatch.routes.IsWritten := by
  obtain ⟨s, ctx, es, -, -, -, -, built⟩ := Document.compile_built compiled
  intro r hr
  have mem : r.2 ∈ c.dispatch.routes.routes.map Prod.snd := List.mem_map_of_mem hr
  rw [built.patterns, built.declared, List.map_map] at mem
  obtain ⟨decl, -, same⟩ := List.mem_map.1 mem
  have pattern : r.2 = .ofPath (Route.canonicalPath decl.2.path) := by
    rw [← same]
    simp only [Function.comp_apply, Endpoint.ofDocument]
  rw [pattern]
  exact Route.Pattern.isWritten_ofPath _

/-- A route of a compiled document is found by some locator exactly if it is not hidden by an
earlier one. If earlier routes accept all that it accepts, one of them does so alone. -/
theorem found_iff_not_hidden {doc : Document} {hooks : Hooks} {c : Compiled}
    (compiled : doc.compile hooks = .ok c) {code : Nat} {r : String × Route.Pattern}
    (route : c.dispatch.routes.routes[code]? = some r) :
    ((∃ l, c.dispatch.routes.find l = .ok code) ↔ ¬ c.dispatch.routes.IsHidden code) ∧
    ((∀ l : Locator, r.2.accepts l.segments →
        ∃ i < code, ∃ q, c.dispatch.routes.routes[i]? = some q ∧ q.2.accepts l.segments) →
      ∃ i < code, ∃ q, c.dispatch.routes.routes[i]? = some q ∧
        ∀ l : Locator, r.2.accepts l.segments → q.2.accepts l.segments) := by
  have written := Document.routes_written compiled
  have found : (∃ l, c.dispatch.routes.find l = .ok code) ↔ ¬ c.dispatch.routes.IsHidden code :=
    ⟨fun ⟨_, h⟩ => Route.Table.not_isHidden written h, Route.Table.exists_find written route⟩
  refine ⟨found, ?_⟩
  intro covered
  -- Were the route not hidden, the locator that finds it would be refused by all earlier routes.
  have hidden : c.dispatch.routes.IsHidden code := by
    by_contra shown
    obtain ⟨l, hl⟩ := found.2 shown
    obtain ⟨⟨r', hr', accepts⟩, others⟩ := Route.Table.find_eq_ok_iff.1 hl
    rw [route] at hr'
    cases hr'
    obtain ⟨i, before, q, hq, hit⟩ := covered l accepts
    exact others i before q hq hit
  obtain ⟨i, before, q, r', hq, hr', subsumes⟩ := hidden
  rw [route] at hr'
  cases hr'
  refine ⟨i, before, q, hq, ?_⟩
  intro l accepts
  exact subsumes.accepts (written r (List.mem_of_getElem? route)) accepts

namespace Tasks

/-- Tasks by number, by any name, and one of them by its own. -/
def overlapping : Document where
  database := document.database
  provider := ⟨"todo", [{
    name := "tasks"
    table := "tasks"
    mapColumns := []
    endpoints := [
      ⟨"one", "tasks/#", "task", none, [], none, none, none, none, none, Operation.all, []⟩,
      ⟨"named", "tasks/*", "task", none, [], none, none, none, none, none, Operation.all, []⟩,
      ⟨"seventh", "/tasks/7/", "task", none, [], none, none, none, none, none, Operation.all, []⟩]
    overrides := []
    notificationUris := []
    notifyDefaults := .empty }], .empty⟩

end Tasks

theorem found_iff_not_hidden_tasks :
    ∃ c r, Tasks.overlapping.compile .empty = .ok c ∧
      c.dispatch.routes.routes[2]? = some r ∧
      ((∃ l, c.dispatch.routes.find l = .ok 2) ↔ ¬ c.dispatch.routes.IsHidden 2) ∧
      ((∀ l : Locator, r.2.accepts l.segments →
          ∃ i < 2, ∃ q, c.dispatch.routes.routes[i]? = some q ∧ q.2.accepts l.segments) →
        ∃ i < 2, ∃ q, c.dispatch.routes.routes[i]? = some q ∧
          ∀ l : Locator, r.2.accepts l.segments → q.2.accepts l.segments) := by
  have compiled : Tasks.overlapping.compile .empty = .ok _ := rfl
  exact ⟨_, _, compiled, rfl, found_iff_not_hidden compiled rfl⟩

end ResourceProvider
