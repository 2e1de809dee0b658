import Mathlib.Data.List.Infix
import ResourceProvider.Proofs.Sql.Conjunction
/-!
# Placeholders and parameters

A statement is written in parts: fixed text, the columns of a record and the conditions of a
selection. Parts bring their own parameters, as many as they have placeholders, so each placeholder
of the statement is bound to a parameter of the part in which it stands (`aligned_assemble`). The
four kinds of statements are assembled from such parts (`statements_aligned`).
-/
namespace ResourceProvider.Sql

open Json (Value)

/-! ## Placeholders -/

/-- How many placeholders a text has. -/
def marks (text : String) : Nat :=
  text.toList.count '?'

@[simp] theorem marks_append (s t : String) : marks (s ++ t) = marks s + marks t := by
  simp [marks]

theorem marks_join {sep : String} (fixed : marks sep = 0) {texts : List String}
    (free : ∀ text ∈ texts, marks text = 0) : marks (Text.join sep texts) = 0 := by
  induction texts with
  | nil => rfl
  | cons text texts ih =>
    rw [List.forall_mem_cons] at free
    cases texts with
    | nil => simpa [Text.join] using free.1
    | cons next texts =>
      rw [Text.join, String.intercalate_cons_cons, ← Text.join, marks_append, marks_append, free.1,
        fixed, ih free.2]

/-- The placeholder number `i` of a text stands behind `before`. -/
def IsMark (text : String) (i : Nat) (before : List Char) : Prop :=
  (∃ after, text.toList = before ++ '?' :: after) ∧ before.count '?' = i

theorem IsMark.lt {text : String} {i : Nat} {before : List Char} (h : IsMark text i before) :
    i < marks text := by
  obtain ⟨⟨after, split⟩, rfl⟩ := h
  rw [marks, split, List.count_append, List.count_cons_self]
  omega

/-! ## Parts -/

namespace Statement

/-- Text without parameters. -/
def fixed (text : String) : Statement :=
  ⟨text, []⟩

/-- Parts with a separator between each two. -/
def separated (sep : String) (parts : List Statement) : List Statement :=
  parts.intersperse (fixed sep)

/-- The statement that is written in parts. -/
def assemble (parts : List Statement) : Statement :=
  ⟨String.join (parts.map Statement.text), parts.flatMap Statement.params⟩

/-- A part has as many parameters as placeholders. -/
def Fits (p : Statement) : Prop :=
  marks p.text = p.params.length

/-- The statement is written in these parts, it has as many placeholders as parameters, and each
placeholder stands in a part that has its parameter, under the number that the placeholder has
there. -/
structure IsAligned (x : Statement) (parts : List Statement) : Prop where
  assembled : x = assemble parts
  count : marks x.text = x.params.length
  bound : ∀ i before, IsMark x.text i before → ∃ ps p qs k inside, parts = ps ++ p :: qs ∧
    before = (assemble ps).text.toList ++ inside ∧ IsMark p.text k inside ∧
    i = (assemble ps).params.length + k ∧ k < p.params.length ∧ x.params[i]? = p.params[k]?

theorem assemble_cons (p : Statement) (parts : List Statement) : assemble (p :: parts) =
    ⟨p.text ++ (assemble parts).text, p.params ++ (assemble parts).params⟩ := by
  simp [assemble]

theorem assemble_append (ps qs : List Statement) : assemble (ps ++ qs) =
    ⟨(assemble ps).text ++ (assemble qs).text, (assemble ps).params ++ (assemble qs).params⟩ := by
  simp [assemble]

theorem fits_assemble {parts : List Statement} (fit : ∀ p ∈ parts, p.Fits) :
    (assemble parts).Fits := by
  induction parts with
  | nil => rfl
  | cons p parts ih =>
    rw [List.forall_mem_cons] at fit
    have rest := ih fit.2
    unfold Fits at rest ⊢
    rw [assemble_cons, marks_append, List.length_append, rest, fit.1]

/-- The placeholder number `k` of a part comes behind those of the parts before it, and so does its
parameter. -/
theorem mark_assemble {ps : List Statement} {p : Statement} (qs : List Statement)
    (fit : ∀ p ∈ ps, p.Fits) {k : Nat} {inside : List Char} (mark : IsMark p.text k inside)
    (bound : k < p.params.length) :
    IsMark (assemble (ps ++ p :: qs)).text ((assemble ps).params.length + k)
      ((assemble ps).text.toList ++ inside) ∧
    (assemble (ps ++ p :: qs)).params[(assemble ps).params.length + k]? = p.params[k]? := by
  have before : marks (assemble ps).text = _ := fits_assemble fit
  obtain ⟨⟨after, split⟩, rfl⟩ := mark
  rw [assemble_append, assemble_cons]
  refine ⟨⟨⟨after ++ (assemble qs).text.toList, ?_⟩, ?_⟩, ?_⟩
  · simp [split]
  · rw [List.count_append, ← before, marks]
  · rw [List.getElem?_append_right (Nat.le_add_right _ _), Nat.add_sub_cancel_left,
      List.getElem?_append_left bound]

/-- A placeholder of the whole stands in one of the parts. -/
theorem exists_part {parts : List Statement} {before after : List Char}
    (split : (assemble parts).text.toList = before ++ '?' :: after) :
    ∃ ps p qs inside, parts = ps ++ p :: qs ∧ before = (assemble ps).text.toList ++ inside ∧
      ∃ rest, p.text.toList = inside ++ '?' :: rest := by
  induction parts generalizing before with
  | nil => simp [assemble] at split
  | cons p parts ih =>
    rw [assemble_cons, String.toList_append] at split
    have later {tail : List Char} (behind : before = p.text.toList ++ tail)
        (split : (assemble parts).text.toList = tail ++ '?' :: after) :
        ∃ ps q qs inside, p :: parts = ps ++ q :: qs ∧
          before = (assemble ps).text.toList ++ inside ∧
          ∃ rest, q.text.toList = inside ++ '?' :: rest := by
      obtain ⟨ps, q, qs, inside, rfl, rfl, own⟩ := ih split
      refine ⟨p :: ps, q, qs, inside, rfl, ?_, own⟩
      rw [behind, assemble_cons, String.toList_append, List.append_assoc]
    rcases List.append_eq_append_iff.1 split with ⟨tail, behind, rest⟩ | ⟨_ | ⟨c, tail⟩, own, rest⟩
    · exact later behind rest
    · have behind : before = p.text.toList ++ [] := by simpa using own.symm
      exact later behind rest.symm
    · cases rest
      exact ⟨[], p, parts, before, rfl, rfl, tail, own⟩

theorem aligned_assemble {parts : List Statement} (fit : ∀ p ∈ parts, p.Fits) :
    (assemble parts).IsAligned parts := by
  refine ⟨rfl, fits_assemble fit, ?_⟩
  rintro i before ⟨⟨after, split⟩, rfl⟩
  obtain ⟨ps, p, qs, inside, rfl, rfl, rest, own⟩ := exists_part split
  have mark : IsMark p.text (inside.count '?') inside := ⟨⟨rest, own⟩, rfl⟩
  rw [List.forall_mem_append, List.forall_mem_cons] at fit
  have bound : inside.count '?' < p.params.length := fit.2.1 ▸ mark.lt
  obtain ⟨⟨-, same⟩, param⟩ := mark_assemble qs fit.1 mark bound
  refine ⟨ps, p, qs, _, inside, rfl, rfl, mark, same, bound, ?_⟩
  rw [same, param]

theorem fits_fixed {text : String} (none : marks text = 0) : (fixed text).Fits :=
  none

theorem fits_separated {sep : String} (none : marks sep = 0) {parts : List Statement}
    (fit : ∀ p ∈ parts, p.Fits) : ∀ p ∈ separated sep parts, p.Fits := by
  unfold separated
  induction parts with
  | nil => exact fit
  | cons p parts ih =>
    cases parts with
    | nil => exact fit
    | cons q parts =>
      rw [List.forall_mem_cons] at fit
      rw [List.intersperse_cons_cons, List.forall_mem_cons, List.forall_mem_cons]
      exact ⟨fit.1, fits_fixed none, ih fit.2⟩

theorem assemble_separated (sep : String) (parts : List Statement) :
    assemble (separated sep parts) =
      ⟨Text.join sep (parts.map Statement.text), parts.flatMap Statement.params⟩ := by
  unfold separated
  induction parts with
  | nil => rfl
  | cons p parts ih =>
    cases parts with
    | nil => simp [assemble, Text.join]
    | cons q parts =>
      rw [List.intersperse_cons_cons, assemble_cons, assemble_cons, ih]
      simp [fixed, Text.join, String.append_assoc]

end Statement

/-! ## Selections step by step -/

namespace Selection

/-- A step in which a selection is put together. -/
inductive Step where
  | filter (condition : String) (args : List String)
  | fromTable (table : String)
  | withAlias (column expression : String)
  | withTableAlias (column table : String)
  | reset
deriving DecidableEq

/-- The selection after a step; a condition that is refused changes nothing. -/
def Step.apply (s : Selection) : Step → Selection
  | .filter condition args =>
    match s.filter condition args with
    | .ok s' => s'
    | .error _ => s
  | .fromTable table => s.fromTable table
  | .withAlias column expression => s.withAlias column expression
  | .withTableAlias column table => s.withTableAlias column table
  | .reset => .empty

/-- A selection that is put together from nothing. -/
def build (steps : List Step) : Selection :=
  steps.foldl Step.apply .empty

/-- A condition with the arguments of its placeholders. -/
abbrev Condition := String × List String

/-- The conditions after a step. -/
def Step.collect (conditions : List Condition) : Step → List Condition
  | .filter condition args =>
    if Text.isBlank condition then conditions else conditions ++ [(condition, args)]
  | .fromTable _ | .withAlias _ _ | .withTableAlias _ _ => conditions
  | .reset => []

/-- The conditions that are taken in some steps. -/
def conditions (steps : List Step) : List Condition :=
  steps.foldl Step.collect []

/-- A step as it should be: a condition that is taken has an argument for each placeholder, and
tables and expressions have none. -/
def Step.Fits : Step → Prop
  | .filter condition args => Text.isBlank condition = false → marks condition = args.length
  | .fromTable table => marks table = 0
  | .withAlias _ expression => marks expression = 0
  | .withTableAlias _ table => marks table = 0
  | .reset => True

instance : DecidablePred Step.Fits
  | .filter condition args =>
    inferInstanceAs (Decidable (Text.isBlank condition = false → marks condition = args.length))
  | .fromTable table | .withTableAlias _ table => inferInstanceAs (Decidable (marks table = 0))
  | .withAlias _ expression => inferInstanceAs (Decidable (marks expression = 0))
  | .reset => inferInstanceAs (Decidable True)

/-- A selection that has collected conditions, each with an argument for each placeholder, and no
other placeholders. -/
structure Collects (s : Selection) (cs : List Condition) : Prop where
  selects : s.Selects (cs.map Prod.fst) (cs.flatMap Prod.snd)
  fit : ∀ c ∈ cs, marks c.1 = c.2.length
  table : ∀ table, s.table = some table → marks table = 0
  aliases : ∀ a ∈ s.aliases, marks a.1 = 0 → marks a.2 = 0

theorem Collects.empty : Collects .empty [] :=
  ⟨.empty, by simp, by simp [Selection.empty], by simp [Selection.empty]⟩

theorem filter_keeps {s s' : Selection} {condition : String} {args : List String}
    (taken : s.filter condition args = .ok s') : s'.table = s.table ∧ s'.aliases = s.aliases := by
  unfold Selection.filter at taken
  split at taken
  · split at taken
    · cases taken
      exact ⟨rfl, rfl⟩
    · cases taken
  · cases taken
    exact ⟨rfl, rfl⟩

theorem Collects.step {s : Selection} {cs : List Condition} (h : Collects s cs) {step : Step}
    (fits : step.Fits) : Collects (step.apply s) (step.collect cs) := by
  cases step with
  | filter condition args =>
    by_cases blank : Text.isBlank condition
    · have same : Step.apply s (.filter condition args) = s := by
        simp only [Step.apply, filter_blank s args blank]
        by_cases none : args = []
        · rw [if_pos none]
        · rw [if_neg none]
      rw [same, Step.collect, if_pos blank]
      exact h
    · have visible : Text.isVisible condition := by simpa [Text.isVisible] using blank
      obtain ⟨s', taken, selects⟩ := h.selects.filter args visible
      obtain ⟨table, aliases⟩ := filter_keeps taken
      simp only [Step.apply, taken, Step.collect, if_neg blank]
      refine ⟨by simpa using selects, ?_, table ▸ h.table, aliases ▸ h.aliases⟩
      rw [List.forall_mem_append, List.forall_mem_singleton]
      exact ⟨h.fit, fits (by simpa using blank)⟩
  | fromTable table =>
    exact ⟨h.selects.fromTable table, h.fit, fun _ set => Option.some.inj set ▸ fits, h.aliases⟩
  | withAlias column expression =>
    exact ⟨h.selects.withAlias column expression, h.fit, h.table,
      List.forall_mem_cons.2 ⟨fun _ => fits, h.aliases⟩⟩
  | withTableAlias column table =>
    refine ⟨h.selects.withAlias column _, h.fit, h.table, List.forall_mem_cons.2 ⟨?_, h.aliases⟩⟩
    intro column
    have table : marks table = 0 := fits
    rw [marks_append, marks_append, table, column]
    rfl
  | reset => exact .empty

theorem collects_build {steps : List Step} (fit : ∀ step ∈ steps, step.Fits) :
    Collects (build steps) (conditions steps) := by
  have run {s : Selection} {cs : List Condition} (h : Collects s cs) :
      Collects (steps.foldl Step.apply s) (steps.foldl Step.collect cs) := by
    induction steps generalizing s cs with
    | nil => exact h
    | cons step steps ih =>
      rw [List.forall_mem_cons] at fit
      exact ih fit.2 (h.step fit.1)
  exact run .empty

end Selection

/-! ## The parts of statements -/

namespace Statement

open Sql.Selection (Condition)

/-- A value that is added. -/
def valuePart (f : String × Value) : Statement :=
  ⟨"?", [f.2]⟩

/-- A column that is set. -/
def columnPart (f : String × Value) : Statement :=
  ⟨f.1 ++ "=?", [f.2]⟩

/-- A condition of a selection. -/
def conditionPart (c : Condition) : Statement :=
  ⟨"(" ++ c.1 ++ ")", c.2.map .str⟩

/-- The conditions of a selection, if there are any. -/
def whereParts (cs : List Condition) : List Statement :=
  if cs = [] then [] else fixed " WHERE " :: separated " AND " (cs.map conditionPart)

/-- A row that is added, of defaults if no value is given. -/
def insertParts (table : String) (record : Record) : List Statement :=
  if record = [] then [fixed ("INSERT INTO " ++ table ++ " DEFAULT VALUES")]
  else
    fixed ("INSERT INTO " ++ table ++ " (" ++ Text.join ", " (record.map Prod.fst) ++ ") VALUES (")
      :: separated ", " (record.map valuePart) ++ [fixed ")"]

/-- Rows that are read; `clauses` says how they are grouped, sorted and cut. -/
def queryParts (columns table : String) (cs : List Condition) (clauses : String) : List Statement :=
  fixed ("SELECT " ++ columns ++ " FROM " ++ table) :: whereParts cs ++ [fixed clauses]

/-- Columns that are set in the selected rows. -/
def updateParts (table : String) (record : Record) (cs : List Condition) : List Statement :=
  fixed ("UPDATE " ++ table ++ " SET ") :: separated ", " (record.map columnPart) ++ whereParts cs

/-- Rows that are removed. -/
def deleteParts (table : String) (cs : List Condition) : List Statement :=
  fixed ("DELETE FROM " ++ table) :: whereParts cs

theorem fits_conditionPart {c : Condition} (fit : marks c.1 = c.2.length) :
    (conditionPart c).Fits := by
  simpa [Fits, conditionPart, marks] using fit

theorem fits_whereParts {cs : List Condition} (fit : ∀ c ∈ cs, marks c.1 = c.2.length) :
    ∀ p ∈ whereParts cs, p.Fits := by
  unfold whereParts
  split
  · simp
  · exact List.forall_mem_cons.2 ⟨rfl, fits_separated rfl
      (List.forall_mem_map.2 fun c mem => fits_conditionPart (fit c mem))⟩

theorem fits_queryHead {columns table : String} (plain : marks columns = 0)
    (free : marks table = 0) : (fixed ("SELECT " ++ columns ++ " FROM " ++ table)).Fits := by
  refine fits_fixed ?_
  simp only [marks_append, plain, free]
  rfl

theorem fits_updateHead {table : String} (free : marks table = 0) {record : Record}
    (keys : ∀ f ∈ record, marks f.1 = 0) :
    ∀ p ∈ fixed ("UPDATE " ++ table ++ " SET ") :: separated ", " (record.map columnPart),
      p.Fits := by
  refine List.forall_mem_cons.2 ⟨fits_fixed ?_,
    fits_separated rfl (List.forall_mem_map.2 fun f mem => ?_)⟩
  · simp only [marks_append, free]
    rfl
  · rw [Fits, columnPart, marks_append, keys f mem]
    rfl

theorem fits_deleteHead {table : String} (free : marks table = 0) :
    (fixed ("DELETE FROM " ++ table)).Fits := by
  refine fits_fixed ?_
  rw [marks_append, free]
  rfl

theorem fits_valuePart (f : String × Value) : (valuePart f).Fits := by
  have one : marks "?" = 1 := rfl
  exact one

theorem fits_insertParts {table : String} {record : Record} (free : marks table = 0)
    (keys : ∀ f ∈ record, marks f.1 = 0) : ∀ p ∈ insertParts table record, p.Fits := by
  unfold insertParts
  split
  · refine List.forall_mem_singleton.2 (fits_fixed ?_)
    rw [marks_append, marks_append, free]
    rfl
  · have names : marks (Text.join ", " (record.map Prod.fst)) = 0 :=
      marks_join rfl (List.forall_mem_map.2 keys)
    refine List.forall_mem_append.2 ⟨List.forall_mem_cons.2 ⟨fits_fixed ?_, ?_⟩,
      List.forall_mem_singleton.2 rfl⟩
    · simp only [marks_append, free, names]
      rfl
    · exact fits_separated rfl (List.forall_mem_map.2 fun f _ => fits_valuePart f)

end Statement

open Statement

theorem insert_eq (table : String) (record : Record) :
    insert table record = assemble (insertParts table record) := by
  unfold insert insertParts
  split
  · simp [assemble, fixed]
  · rw [List.cons_append, assemble_cons, assemble_append, assemble_separated]
    simp [assemble, fixed, valuePart, List.flatMap_map, Function.comp_def, ← List.map_eq_flatMap,
      String.append_assoc]

namespace Selection

/-- What a query reads of a row. -/
def columnsText (s : Selection) (projection : List String) : String :=
  if projection = [] then "*" else Text.join ", " (projection.map s.projected)

/-- The clauses behind the conditions of a query. -/
def Shape.text (shape : Shape) : String :=
  optionalClause "GROUP BY" shape.groupBy ++ optionalClause "HAVING" shape.having ++
    optionalClause "ORDER BY" shape.orderBy ++ optionalClause "LIMIT" shape.limit

/-- The clauses have no placeholders. -/
def Shape.Unmarked (shape : Shape) : Prop :=
  ∀ text ∈ [shape.groupBy, shape.having, shape.orderBy, shape.limit].filterMap id, marks text = 0

instance (shape : Shape) : Decidable shape.Unmarked :=
  inferInstanceAs (Decidable (∀ text ∈ _, marks text = 0))

variable {s : Selection} {cs : List Condition}

theorem Selects.whereParts (h : s.Selects (cs.map Prod.fst) (cs.flatMap Prod.snd)) :
    assemble (whereParts cs) = ⟨s.whereClause, s.argValues⟩ := by
  unfold Statement.whereParts whereClause argValues
  rw [h.condition, h.args]
  by_cases none : cs = []
  · subst none
    rfl
  · rw [if_neg none, if_neg (by simpa [conjunction_eq_empty] using none), assemble_cons,
      assemble_separated]
    simp [fixed, conditionPart, conjunction, Function.comp_def, List.flatMap_map, List.map_flatMap]

theorem marks_columnsText (aliases : ∀ a ∈ s.aliases, marks a.1 = 0 → marks a.2 = 0)
    {projection : List String} (free : ∀ c ∈ projection, marks c = 0) :
    marks (s.columnsText projection) = 0 := by
  unfold columnsText
  split
  · rfl
  · refine marks_join rfl (List.forall_mem_map.2 fun column mem => ?_)
    unfold projected
    split
    · rename_i expression found
      have known : (column, expression) ∈ s.aliases := by
        obtain ⟨_, _, split, -⟩ := List.lookup_eq_some_iff.1 found
        simp [split]
      have plain := aliases _ known (free column mem)
      rw [marks_append, marks_append, plain, free column mem]
      rfl
    · exact free column mem

theorem marks_optionalClause {keyword : String} (fixed : marks keyword = 0) {clause : Option String}
    (free : ∀ text, clause = some text → marks text = 0) :
    marks (optionalClause keyword clause) = 0 := by
  unfold optionalClause
  cases clause with
  | none => rfl
  | some text =>
    dsimp only
    split
    · rfl
    · simp only [marks_append, fixed, free text rfl]
      rfl

theorem Shape.Unmarked.text {shape : Shape} (h : shape.Unmarked) : marks shape.text = 0 := by
  have free {clause : Option String}
      (mem : clause ∈ [shape.groupBy, shape.having, shape.orderBy, shape.limit]) (text : String)
      (given : clause = some text) : marks text = 0 :=
    h text (List.mem_filterMap.2 ⟨clause, mem, given⟩)
  rw [Shape.text, marks_append, marks_append, marks_append, marks_optionalClause rfl (free _),
    marks_optionalClause rfl (free _), marks_optionalClause rfl (free _),
    marks_optionalClause rfl (free _)]
  all_goals simp

theorem Selects.query_eq (h : s.Selects (cs.map Prod.fst) (cs.flatMap Prod.snd)) {table : String}
    (set : s.table = some table) (projection : List String) (shape : Shape) :
    s.query projection shape =
      .ok (assemble (queryParts (s.columnsText projection) table cs shape.text)) := by
  rw [query, requiredTable, set, queryParts, List.cons_append, assemble_cons, assemble_append,
    h.whereParts]
  simp [Except.map, assemble, fixed, columnsText, Shape.text, String.append_assoc]

theorem Selects.update_eq (h : s.Selects (cs.map Prod.fst) (cs.flatMap Prod.snd)) {table : String}
    (set : s.table = some table) (record : Record) :
    s.update record = .ok (assemble (updateParts table record cs)) := by
  rw [update, requiredTable, set, updateParts, List.cons_append, assemble_cons, assemble_append,
    h.whereParts, assemble_separated]
  simp [Except.map, fixed, columnPart, List.flatMap_map, ← List.map_eq_flatMap, Function.comp_def,
    String.append_assoc]

theorem Selects.delete_eq (h : s.Selects (cs.map Prod.fst) (cs.flatMap Prod.snd)) {table : String}
    (set : s.table = some table) :
    s.delete = .ok (assemble (deleteParts table cs)) := by
  rw [delete, requiredTable, set, deleteParts, assemble_cons, h.whereParts]
  simp [Except.map, fixed]

theorem Collects.fits_queryParts (h : s.Collects cs) {table : String} (set : s.table = some table)
    {projection : List String} (free : ∀ c ∈ projection, marks c = 0) {shape : Shape}
    (clauses : shape.Unmarked) :
    ∀ p ∈ queryParts (s.columnsText projection) table cs shape.text, p.Fits :=
  List.forall_mem_append.2 ⟨List.forall_mem_cons.2
    ⟨fits_queryHead (marks_columnsText h.aliases free) (h.table table set), fits_whereParts h.fit⟩,
    List.forall_mem_singleton.2 (fits_fixed clauses.text)⟩

theorem Collects.fits_updateParts (h : s.Collects cs) {table : String} (set : s.table = some table)
    {record : Record} (keys : ∀ f ∈ record, marks f.1 = 0) :
    ∀ p ∈ updateParts table record cs, p.Fits :=
  List.forall_mem_append.2 ⟨fits_updateHead (h.table table set) keys, fits_whereParts h.fit⟩

theorem Collects.fits_deleteParts (h : s.Collects cs) {table : String}
    (set : s.table = some table) : ∀ p ∈ deleteParts table cs, p.Fits :=
  List.forall_mem_cons.2 ⟨fits_deleteHead (h.table table set), fits_whereParts h.fit⟩

end Selection

open Sql.Selection (Step Shape build conditions)

/-- In every statement the placeholders and the parameters agree: first come the columns of a
record, each with its value, then the conditions of the selection in the order in which they were
taken, each with its arguments. -/
theorem statements_aligned {steps : List Step} (fit : ∀ step ∈ steps, step.Fits) {record : Record}
    (keys : ∀ f ∈ record, marks f.1 = 0) {projection : List String}
    (columns : ∀ c ∈ projection, marks c = 0) {shape : Shape} (clauses : shape.Unmarked) :
    (∀ table, marks table = 0 → (insert table record).IsAligned (insertParts table record)) ∧
    ∀ table, (build steps).table = some table →
      (∃ x, (build steps).query projection shape = .ok x ∧
        x.IsAligned (queryParts ((build steps).columnsText projection) table (conditions steps)
          shape.text)) ∧
      (∃ x, (build steps).update record = .ok x ∧
        x.IsAligned (updateParts table record (conditions steps))) ∧
      ∃ x, (build steps).delete = .ok x ∧ x.IsAligned (deleteParts table (conditions steps)) := by
  have built := Selection.collects_build fit
  constructor
  · intro table free
    rw [insert_eq]
    exact aligned_assemble (fits_insertParts free keys)
  · intro table set
    refine ⟨⟨_, built.selects.query_eq set projection shape, ?_⟩,
      ⟨_, built.selects.update_eq set record, ?_⟩, ⟨_, built.selects.delete_eq set, ?_⟩⟩
    · exact aligned_assemble (built.fits_queryParts set columns clauses)
    · exact aligned_assemble (built.fits_updateParts set keys)
    · exact aligned_assemble (built.fits_deleteParts set)

/-- A selection of tasks by two conditions; a third is refused. -/
def Tasks.steps : List Step :=
  [.fromTable "tasks", .withTableAlias "title" "tasks", .filter "list = ?" ["7"],
    .filter " " ["lost"], .filter "title = ? OR title = ?" ["a", "b"]]

theorem statements_aligned_tasks :
    ∃ x y, (build Tasks.steps).update [("list", .num (.int 8)), ("title", .str "c")] = .ok x ∧
      x.text = "UPDATE tasks SET list=?, title=? WHERE (list = ?) AND (title = ? OR title = ?)" ∧
      x.params = [.num (.int 8), .str "c", .str "7", .str "a", .str "b"] ∧
      x.IsAligned (updateParts "tasks" [("list", .num (.int 8)), ("title", .str "c")]
        [("list = ?", ["7"]), ("title = ? OR title = ?", ["a", "b"])]) ∧
      (build Tasks.steps).query ["id", "title"] ⟨none, none, some "title", none⟩ = .ok y ∧
      y.text = "SELECT id, tasks.title AS title FROM tasks WHERE (list = ?) AND " ++
        "(title = ? OR title = ?) ORDER BY title" ∧
      y.params = [.str "7", .str "a", .str "b"] := by
  have fit : ∀ step ∈ Tasks.steps, step.Fits := by decide +kernel
  have keys : ∀ f ∈ [("list", Value.num (.int 8)), ("title", .str "c")], marks f.1 = 0 := by
    decide +kernel
  have columns : ∀ c ∈ ["id", "title"], marks c = 0 := by decide +kernel
  have clauses : Shape.Unmarked ⟨none, none, some "title", none⟩ := by decide +kernel
  obtain ⟨⟨y, query, -⟩, ⟨x, update, parts⟩, -⟩ :=
    (statements_aligned fit keys columns clauses).2 "tasks" rfl
  cases update
  cases query
  exact ⟨_, _, rfl, by decide +kernel, rfl, parts, rfl, by decide +kernel, rfl⟩

end ResourceProvider.Sql
