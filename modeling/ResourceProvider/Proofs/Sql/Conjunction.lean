import ResourceProvider.Sql.Selection
/-!
# The conditions of a selection

A selection joins its conditions by `AND`, each in parentheses of its own, and keeps the arguments
in the order of the conditions. `Selects` says which conditions and arguments a selection has
collected; each way to add one has a lemma that says what it adds.
-/
namespace ResourceProvider

/-! ## Blank texts -/

namespace Text

theorem all_trimBoth {α : Type} (p : α → Bool) (xs : List α) :
    (trimBoth p xs).all p = xs.all p := by
  have drop (ys : List α) : (ys.dropWhile p).all p = ys.all p := by
    induction ys with
    | nil => rfl
    | cons y ys ih =>
      rw [List.dropWhile_cons]
      split
      · rename_i h
        rw [ih, List.all_cons, h, Bool.true_and]
      · rfl
  rw [trimBoth, List.all_reverse, drop, List.all_reverse, drop]

theorem isBlank_trim (s : String) : isBlank (trim s) = isBlank s := by
  simp [isBlank, trim, all_trimBoth]

/-- The text has a visible character. -/
def isVisible (s : String) : Bool :=
  !isBlank s

theorem isVisible_of_visible? {s t : String} (h : visible? s = some t) : isVisible t := by
  unfold visible? at h
  split at h
  · cases h
  · rename_i visible
    cases h
    simpa [isVisible, isBlank_trim] using visible

end Text

namespace Sql

open Text (isBlank isVisible)

/-! ## Conjunctions -/

/-- Conditions in parentheses, joined by `AND`. -/
def conjunction (fs : List String) : String :=
  Text.join " AND " (fs.map fun f => "(" ++ f ++ ")")

theorem conjunction_concat (fs : List String) (f : String) :
    conjunction (fs ++ [f]) =
      (if fs = [] then "" else conjunction fs ++ " AND ") ++ "(" ++ f ++ ")" := by
  unfold conjunction Text.join
  split
  · rename_i h
    simp [h]
  · rename_i h
    rw [List.map_append, String.intercalate_append_of_ne_nil (by simpa using h) (by simp)]
    simp only [List.map_cons, List.map_nil, String.intercalate_singleton, String.append_assoc]

theorem conjunction_eq_empty {fs : List String} : conjunction fs = "" ↔ fs = [] := by
  constructor
  · intro h
    rcases List.eq_nil_or_concat fs with rfl | ⟨gs, g, rfl⟩
    · rfl
    · rw [List.concat_eq_append, conjunction_concat] at h
      simp at h
  · rintro rfl
    rfl

namespace Selection

/-- The selection has collected conditions, with arguments, in this order. -/
structure Selects (s : Selection) (fs args : List String) : Prop where
  condition : s.condition = conjunction fs
  args : s.args = args

theorem Selects.empty : Selects Selection.empty [] [] :=
  ⟨rfl, rfl⟩

theorem Selects.withAlias {s : Selection} {fs args : List String} (h : Selects s fs args)
    (column expression : String) : Selects (s.withAlias column expression) fs args :=
  ⟨h.condition, h.args⟩

theorem Selects.fromTable {s : Selection} {fs args : List String} (h : Selects s fs args)
    (table : String) : Selects (s.fromTable table) fs args :=
  ⟨h.condition, h.args⟩

/-- A blank condition is refused if it comes with arguments. -/
theorem filter_blank (s : Selection) {f : String} (args : List String) (blank : isBlank f) :
    s.filter f args = if args = [] then .ok s else .error .argsWithoutSelection := by
  simp [filter, blank]

/-- A visible condition is added with its arguments. -/
theorem Selects.filter {s : Selection} {fs args : List String} (h : Selects s fs args) {f : String}
    (more : List String) (visible : isVisible f) :
    ∃ s', s.filter f more = .ok s' ∧ Selects s' (fs ++ [f]) (args ++ more) := by
  have blank : isBlank f = false := by simpa [isVisible] using visible
  simp only [Selection.filter, blank, Bool.false_eq_true, if_false]
  refine ⟨_, rfl, ?_, ?_⟩
  · simp only [conjunction_concat, h.condition, conjunction_eq_empty]
  · rw [h.args]

/-- Conditions without arguments are always added, but for the blank ones. -/
theorem Selects.filterAll {s : Selection} {fs args : List String} (h : Selects s fs args)
    (more : List String) :
    ∃ s', s.filterAll more = .ok s' ∧ Selects s' (fs ++ more.filter isVisible) args := by
  induction more generalizing s fs with
  | nil => exact ⟨s, rfl, by simpa using h⟩
  | cons f more ih =>
    unfold Selection.filterAll
    by_cases visible : isVisible f
    · obtain ⟨s', hs', h'⟩ := h.filter [] visible
      rw [List.append_nil] at h'
      obtain ⟨s'', hs'', h''⟩ := ih h'
      rw [hs']
      refine ⟨s'', hs'', ?_⟩
      rwa [List.filter_cons_of_pos visible, List.append_cons]
    · have blank : isBlank f := by simpa [isVisible] using visible
      rw [filter_blank s [] blank, if_pos rfl, List.filter_cons_of_neg visible]
      exact ih h

end Selection

end Sql

end ResourceProvider
