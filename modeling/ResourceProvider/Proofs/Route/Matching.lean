import Mathlib.Data.List.Forall2
import ResourceProvider.Route.Table
/-!
# Which route a locator finds

A pattern accepts a locator segment by segment. A locator finds the first route of a table whose
pattern accepts it, and it finds none only if no pattern does.
-/
namespace ResourceProvider.Route

theorem Pattern.accepts_iff {p : Pattern} {ss : List String} :
    p.accepts ss ↔ List.Forall₂ (fun q s => q.accepts s) p ss := by
  induction p generalizing ss with
  | nil => cases ss <;> simp [Pattern.accepts]
  | cons q p ih => cases ss <;> simp [Pattern.accepts, ih]

theorem Pattern.length_of_accepts {p : Pattern} {ss : List String} (h : p.accepts ss) :
    ss.length = p.length :=
  (accepts_iff.1 h).length_eq.symm

theorem Pattern.accepts_append {p p' : Pattern} {ss ss' : List String}
    (length : p.length = ss.length) :
    (p ++ p').accepts (ss ++ ss') = (p.accepts ss && p'.accepts ss') := by
  induction p generalizing ss with
  | nil =>
    rw [List.eq_nil_of_length_eq_zero length.symm]
    rfl
  | cons s p ih =>
    cases ss with
    | nil => cases length
    | cons s ss => simp [Pattern.accepts, ih (Nat.succ.inj length), Bool.and_assoc]

namespace Table

variable {t : Table} {l : Locator}

/-- A code is found if its route accepts the locator and none before it does. -/
theorem find_eq_ok_iff {code : Nat} :
    t.find l = .ok code ↔ (∃ r, t.routes[code]? = some r ∧ r.2.accepts l.segments) ∧
      ∀ i < code, ∀ r, t.routes[i]? = some r → ¬ r.2.accepts l.segments := by
  have found : t.find l = .ok code ↔
      (t.routes.findIdx? fun r => r.2.accepts l.segments) = some code := by
    unfold find
    cases t.routes.findIdx? fun r => r.2.accepts l.segments with
    | none => simp
    | some i => simp
  rw [found, List.findIdx?_eq_some_iff_getElem]
  constructor
  · rintro ⟨bound, accepts, others⟩
    refine ⟨⟨_, List.getElem?_eq_getElem bound, accepts⟩, ?_⟩
    intro i before r hr
    obtain ⟨_, rfl⟩ := List.getElem?_eq_some_iff.1 hr
    exact others i before
  · rintro ⟨⟨r, hr, accepts⟩, others⟩
    obtain ⟨bound, rfl⟩ := List.getElem?_eq_some_iff.1 hr
    refine ⟨bound, accepts, ?_⟩
    intro i before
    exact others i before _ (List.getElem?_eq_getElem (Nat.lt_trans before bound))

/-- Nothing is found if no route accepts the locator, and the error names what was asked for. -/
theorem find_eq_error_iff {e : RouteError} :
    t.find l = .error e ↔ (∀ r ∈ t.routes, ¬ r.2.accepts l.segments) ∧ e = .unknown l.raw := by
  unfold find
  split
  · rename_i code found
    obtain ⟨bound, accepts, -⟩ := List.findIdx?_eq_some_iff_getElem.1 found
    constructor
    · intro h
      cases h
    · rintro ⟨none, -⟩
      exact absurd accepts (none _ (List.getElem_mem bound))
  · rename_i missing
    rw [List.findIdx?_eq_none_iff] at missing
    simp only [Except.error.injEq, eq_comm (a := e), Bool.not_eq_true]
    exact ⟨fun h => ⟨missing, h⟩, fun h => h.2⟩

end Table

end ResourceProvider.Route
