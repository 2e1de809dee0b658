import Mathlib.Data.List.DropRight
import ResourceProvider.Proofs.Sql.Alignment
import ResourceProvider.Proofs.Sql.Building
/-!
# The state of a selection

A selection is put together in steps and may be reset in between. It holds what the steps behind the
last reset say: the conditions that are visible, with their arguments, the last table, and the last
alias of each column (`state_recent`).
-/
namespace ResourceProvider.Sql.Selection

open Text (isBlank isVisible)

/-! ## What steps say -/

namespace Step

/-- The condition that is added, unless it is blank. -/
def condition? : Step → Option Condition
  | .filter condition args => if isBlank condition then none else some (condition, args)
  | _ => none

/-- The table that is set. -/
def table? : Step → Option String
  | .fromTable table => some table
  | _ => none

/-- What a column is projected as. -/
def alias? (column : String) : Step → Option String
  | .withAlias column' expression => if column = column' then some expression else none
  | .withTableAlias column' table =>
    if column = column' then some (table ++ "." ++ column) else none
  | _ => none

end Step

/-- The steps behind the last reset. -/
def recent (steps : List Step) : List Step :=
  steps.rtakeWhile (· ≠ .reset)

/-- The conditions that are added in some steps. -/
def added (steps : List Step) : List Condition :=
  steps.filterMap Step.condition?

/-- The selection holds what the steps say, each of them one after another. -/
structure Reflects (s : Selection) (steps : List Step) : Prop where
  selects : s.Selects ((added steps).map Prod.fst) ((added steps).flatMap Prod.snd)
  table : s.table = (steps.filterMap Step.table?).getLast?
  aliases : ∀ column, s.aliases.lookup column = (steps.filterMap (Step.alias? column)).getLast?

theorem recent_concat (steps : List Step) (step : Step) :
    recent (steps ++ [step]) = if step = .reset then [] else recent steps ++ [step] := by
  rw [recent, List.rtakeWhile_concat]
  by_cases last : step = .reset <;> simp [last, recent]

/-! ## Steps -/

/-- A condition is refused exactly if it is blank and comes with arguments. -/
theorem filter_eq_error_iff {s : Selection} {condition : String} {args : List String}
    {e : CompositionError} : s.filter condition args = .error e ↔
      isBlank condition ∧ args ≠ [] ∧ e = .argsWithoutSelection := by
  by_cases blank : isBlank condition
  · rw [filter_blank s args blank]
    by_cases none : args = []
    · simp [none]
    · simp [none, blank, eq_comm]
  · simp [Selection.filter, blank]

/-- A blank condition changes nothing, whether or not it is refused. -/
theorem apply_blank (s : Selection) {condition : String} (args : List String)
    (blank : isBlank condition) : Step.apply s (.filter condition args) = s := by
  rw [Step.apply, filter_blank s args blank]
  by_cases none : args = [] <;> simp [none]

theorem build_concat (steps : List Step) (step : Step) :
    build (steps ++ [step]) = step.apply (build steps) :=
  List.foldl_concat ..

/-- The last item of a kind is the one behind all others, if it is of the kind. -/
theorem getLast?_filterMap_concat {α β : Type} (f : α → Option β) (xs : List α) (x : α) :
    ((xs ++ [x]).filterMap f).getLast? = (f x).or (xs.filterMap f).getLast? := by
  rw [List.filterMap_append]
  cases h : f x <;> simp [h]

theorem added_concat (steps : List Step) (step : Step) :
    added (steps ++ [step]) = added steps ++ step.condition?.toList := by
  rw [added, List.filterMap_append]
  cases h : step.condition? <;> simp [h, added]

/-- A step that is no reset changes what it says, and nothing else. -/
theorem Reflects.step {s : Selection} {steps : List Step} (h : Reflects s steps) {step : Step}
    (other : step ≠ .reset) : Reflects (step.apply s) (steps ++ [step]) := by
  -- What the selection has, if the step adds no condition, sets no table or gives no alias.
  have selects (none : step.condition? = none) : s.Selects
      ((added (steps ++ [step])).map Prod.fst) ((added (steps ++ [step])).flatMap Prod.snd) := by
    simpa [added_concat, none] using h.selects
  have table (none : step.table? = none) :
      s.table = ((steps ++ [step]).filterMap Step.table?).getLast? := by
    rw [getLast?_filterMap_concat, none, h.table, Option.none_or]
  have aliases (none : ∀ column, step.alias? column = none) (column : String) :
      s.aliases.lookup column =
        ((steps ++ [step]).filterMap (Step.alias? column)).getLast? := by
    rw [getLast?_filterMap_concat, none, h.aliases, Option.none_or]
  have aliased (column expression : String)
      (own : ∀ c, step.alias? c = if c = column then some expression else none) (c : String) :
      ((column, expression) :: s.aliases).lookup c =
        ((steps ++ [step]).filterMap (Step.alias? c)).getLast? := by
    rw [getLast?_filterMap_concat, own, Json.lookup_cons, h.aliases]
    split <;> simp
  cases step with
  | filter condition args =>
    by_cases blank : isBlank condition
    · rw [apply_blank s args blank]
      exact ⟨selects (if_pos blank), table rfl, aliases fun _ => rfl⟩
    · obtain ⟨s', taken, selects'⟩ := h.selects.filter args (by simpa [isVisible] using blank)
      obtain ⟨sameTable, sameAliases⟩ := filter_keeps taken
      rw [Step.apply, taken]
      refine ⟨?_, sameTable.trans (table rfl), fun column => ?_⟩
      · simpa [added_concat, Step.condition?, blank] using selects'
      · rw [sameAliases]
        exact aliases (fun _ => rfl) column
  | fromTable name =>
    exact ⟨(selects rfl).fromTable name, by simp [Step.table?, Step.apply, Selection.fromTable],
      aliases fun _ => rfl⟩
  | withAlias column expression =>
    refine ⟨(selects rfl).withAlias column expression, table rfl, aliased column expression ?_⟩
    exact fun _ => rfl
  | withTableAlias column name =>
    refine ⟨(selects rfl).withAlias column _, table rfl, aliased column (name ++ "." ++ column) ?_⟩
    intro c
    rw [Step.alias?]
    by_cases own : c = column <;> simp [own]
  | reset => exact absurd rfl other

/-- A selection reflects the steps behind the last reset. -/
theorem reflects_recent (steps : List Step) : Reflects (build steps) (recent steps) := by
  induction steps using List.reverseRecOn with
  | nil => exact ⟨.empty, rfl, fun _ => rfl⟩
  | append_singleton steps step ih =>
    rw [build_concat, recent_concat]
    split
    · rename_i last
      subst last
      exact ⟨.empty, rfl, fun _ => rfl⟩
    · exact ih.step ‹_›

/-- A column as it is projected. -/
def emitted (steps : List Step) (column : String) : String :=
  match (steps.filterMap (Step.alias? column)).getLast? with
  | some expression => expression ++ " AS " ++ column
  | none => column

/-- The columns of a query. -/
def emittedList (steps : List Step) (projection : List String) : String :=
  if projection = [] then "*" else Text.join ", " (projection.map (emitted steps))

/-- The clause of the conditions of some steps. -/
def addedClause (steps : List Step) : String :=
  if added steps = [] then "" else " WHERE " ++ conjunction ((added steps).map Prod.fst)

theorem Reflects.projected {s : Selection} {steps : List Step} (h : Reflects s steps)
    (column : String) : s.projected column = emitted steps column := by
  cases found : (steps.filterMap (Step.alias? column)).getLast? <;>
    simp only [Selection.projected, emitted, h.aliases, found]

theorem Reflects.whereClause {s : Selection} {steps : List Step} (h : Reflects s steps) :
    s.whereClause = addedClause steps := by
  simp only [Selection.whereClause, addedClause, h.selects.condition, conjunction_eq_empty,
    List.map_eq_nil_iff]

/-- A selection that is put together in steps holds what those behind the last reset say: the
visible conditions, each in parentheses, with their arguments, the last table, and for each column
its last alias, under which a query reads it. A condition is refused exactly if it is blank and has
arguments, and no blank condition changes the selection. Behind a reset all is as from the start. -/
theorem state_recent (steps : List Step) :
    (build steps).condition = conjunction ((added (recent steps)).map Prod.fst) ∧
    (build steps).args = (added (recent steps)).flatMap Prod.snd ∧
    (build steps).table = ((recent steps).filterMap Step.table?).getLast? ∧
    (∀ column, (build steps).projected column = emitted (recent steps) column) ∧
    (∀ table, (build steps).table = some table → ∀ projection shape,
      (build steps).query projection shape = .ok ⟨"SELECT " ++
        emittedList (recent steps) projection ++ " FROM " ++ table ++ addedClause (recent steps) ++
        optionalClause "GROUP BY" shape.groupBy ++ optionalClause "HAVING" shape.having ++
        optionalClause "ORDER BY" shape.orderBy ++ optionalClause "LIMIT" shape.limit,
        ((added (recent steps)).flatMap Prod.snd).map .str⟩) ∧
    (∀ condition args e, (build steps).filter condition args = .error e ↔
      isBlank condition ∧ args ≠ [] ∧ e = .argsWithoutSelection) ∧
    (∀ condition args, isBlank condition →
      build (steps ++ [.filter condition args]) = build steps) ∧
    ∀ later, build (steps ++ .reset :: later) = build later := by
  have h := reflects_recent steps
  refine ⟨h.selects.condition, h.selects.args, h.table, h.projected, ?_,
    fun _ _ _ => filter_eq_error_iff, fun condition args blank => ?_, fun later => ?_⟩
  · intro table set projection shape
    have columns : (if projection = [] then "*"
        else Text.join ", " (projection.map (build steps).projected)) =
          emittedList (recent steps) projection := by
      rw [emittedList, funext h.projected]
    rw [Selection.query, requiredTable, set]
    simp only [Except.map, columns, h.whereClause, argValues, h.selects.args]
  · rw [build_concat, apply_blank _ _ blank]
  · rw [build, List.foldl_append, List.foldl_cons]
    rfl

end ResourceProvider.Sql.Selection
