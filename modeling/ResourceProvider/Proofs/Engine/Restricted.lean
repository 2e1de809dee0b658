import ResourceProvider.Proofs.Engine.Binding
import ResourceProvider.Proofs.Engine.Wording
/-!
# Updates and removals by conditions

A statement that updates or removes rows by a conjunction of balanced conditions, whose placeholders
have no names, acts on exactly those rows of its table that meet each of the conditions, as it is
read alone (`run_update`, `run_delete`), unless it is refused.
-/
namespace ResourceProvider.Engine

open Schema (isIdentifier)
open Sql (conjunction isBalanced)

/-! ## Rows that meet conditions -/

namespace Table

/-- A condition can be read in the table, and holds of a row. -/
def Fulfils (t : Table) (params : List Cell) (r : Row) (e : Written) : Prop :=
  ∃ x, t.scope.resolve e = some x ∧ x.holdsAt ⟨params, r.places, []⟩ = some true

/-- A row meets conditions, each as it is read alone. Their placeholders take the positions behind
those that are taken. -/
def Meets (t : Table) (params : List Cell) (r : Row) : (slots : Slots) → List String → Prop
  | _, [] => True
  | slots, f :: rest =>
    (∃ e, parseValue (numberParams slots (tokens f)) = some (e, []) ∧ t.Fulfils params r e) ∧
      t.Meets params r (slotsAfter slots (tokens f)) rest

variable {t : Table} {params : List Cell} {r : Row}

theorem fulfils_iff {e : Written} {x : Expr Place} (h : t.scope.resolve e = some x) :
    t.Fulfils params r e ↔ x.holdsAt ⟨params, r.places, []⟩ = some true := by
  constructor
  · rintro ⟨y, hy, holds⟩
    rw [h] at hy
    cases hy
    exact holds
  · exact fun holds => ⟨x, h, holds⟩

/-- Whether a row fulfils a condition can be tried out. -/
instance (e : Written) : Decidable (t.Fulfils params r e) :=
  match h : t.scope.resolve e with
  | none => isFalse fun ⟨_, hx, _⟩ => by cases h.symm.trans hx
  | some _ => decidable_of_iff _ (fulfils_iff h).symm

theorem holdsAt_eq_some_true {env : Env} {x : Expr Place} :
    x.holdsAt env = some true ↔ ∃ c, x.eval env = some c ∧ c.truth = some true := by
  simp [Expr.holdsAt]

theorem not_fulfils_zero : ¬ t.Fulfils params r (.literal (.int 0)) := by
  rintro ⟨x, hx, holds⟩
  simp only [Scope.resolve, Option.some.injEq] at hx
  subst hx
  simp [Expr.holdsAt, Expr.eval, Cell.truth, Cell.toNumber] at holds

theorem truth_ofTruth (b : Option Bool) : (Cell.ofTruth b).truth = b := by
  rcases b with _ | _ | _ <;> simp [Cell.ofTruth, Cell.truth, Cell.toNumber]

theorem andTruth_eq_some_true {a b : Option Bool} :
    andTruth a b = some true ↔ a = some true ∧ b = some true := by
  rcases a with _ | _ | _ <;> rcases b with _ | _ | _ <;> simp [andTruth]

theorem fulfils_and {a b : Written} :
    t.Fulfils params r (.and a b) ↔ t.Fulfils params r a ∧ t.Fulfils params r b := by
  simp only [Fulfils, Scope.resolve, holdsAt_eq_some_true, Option.bind_eq_bind,
    Option.bind_eq_some_iff, Option.pure_def, Option.some.injEq]
  constructor
  · rintro ⟨_, ⟨x, hx, y, hy, rfl⟩, c, eval, truth⟩
    simp only [Expr.eval, Option.bind_eq_bind, Option.bind_eq_some_iff, Option.pure_def,
      Option.some.injEq] at eval
    obtain ⟨u, hu, v, hv, rfl⟩ := eval
    rw [truth_ofTruth, andTruth_eq_some_true] at truth
    exact ⟨⟨x, hx, u, hu, truth.1⟩, ⟨y, hy, v, hv, truth.2⟩⟩
  · rintro ⟨⟨x, hx, u, hu, first⟩, ⟨y, hy, v, hv, second⟩⟩
    refine ⟨.and x y, ⟨x, hx, y, hy, rfl⟩, .ofTruth (andTruth u.truth v.truth),
      by simp [Expr.eval, hu, hv], ?_⟩
    rw [truth_ofTruth, andTruth_eq_some_true]
    exact ⟨first, second⟩

theorem fulfils_both {a b : Written} :
    t.Fulfils params r (both a b) ↔ t.Fulfils params r a ∧ t.Fulfils params r b := by
  unfold both
  split
  · simp [not_fulfils_zero]
  · simp [not_fulfils_zero]
  · exact fulfils_and

theorem fulfils_foldl {a : Written} {es : List Written} :
    t.Fulfils params r (es.foldl both a) ↔ ∀ e ∈ a :: es, t.Fulfils params r e := by
  induction es generalizing a with
  | nil => simp
  | cons e es ih =>
    rw [List.foldl_cons, ih]
    simp only [List.forall_mem_cons, fulfils_both, and_assoc]

/-- A row meets conditions exactly if what they say alone holds of it. -/
theorem meets_iff {slots : Slots} {fs : List String} {es : List Written}
    (alone : ReadAlone (numberAll slots (fs.map tokens)) es) :
    t.Meets params r slots fs ↔ ∀ e ∈ es, t.Fulfils params r e := by
  induction fs generalizing slots es with
  | nil =>
    cases es with
    | nil => simp [Meets]
    | cons e es => cases alone
  | cons f fs ih =>
    cases es with
    | nil => cases alone
    | cons e es =>
      simp only [ReadAlone, List.map_cons, numberAll, List.cons.injEq] at alone
      rw [Meets, ih alone.2, List.forall_mem_cons, alone.1]
      simp

end Table

/-! ## Selected rows -/

theorem filterAuxM_eq {α : Type} {p : α → Option Bool} {xs acc kept : List α}
    (h : List.filterAuxM p xs acc = some kept) :
    kept = (xs.filter fun x => p x = some true).reverse ++ acc := by
  induction xs generalizing acc with
  | nil =>
    cases h
    rfl
  | cons y xs ih =>
    obtain ⟨b, hb, h⟩ := Option.bind_eq_some_iff.1 h
    rw [ih h]
    cases b <;> simp [hb]

theorem filterM_eq {α : Type} {p : α → Option Bool} {xs kept : List α}
    (h : xs.filterM p = some kept) : kept = xs.filter fun x => p x = some true := by
  obtain ⟨reversed, aux, heq⟩ := Option.bind_eq_some_iff.1 h
  cases heq
  rw [filterAuxM_eq aux, List.append_nil, List.reverse_reverse]

theorem filterAuxM_of_some {α : Type} {p : α → Option Bool} {q : α → Bool} {xs : List α}
    (h : ∀ x ∈ xs, p x = some (q x)) (acc : List α) :
    List.filterAuxM p xs acc = some ((xs.filter q).reverse ++ acc) := by
  induction xs generalizing acc with
  | nil => rfl
  | cons x xs ih =>
    rw [List.forall_mem_cons] at h
    unfold List.filterAuxM
    rw [h.1]
    refine (ih h.2 _).trans ?_
    cases hq : q x <;> simp [hq]

theorem filterM_of_some {α : Type} {p : α → Option Bool} {q : α → Bool} {xs : List α}
    (h : ∀ x ∈ xs, p x = some (q x)) : xs.filterM p = some (xs.filter q) := by
  unfold List.filterM
  rw [filterAuxM_of_some h]
  simp

theorem mem_of_filterM {α : Type} {p : α → Option Bool} {xs kept : List α}
    (h : xs.filterM p = some kept) {x : α} (hx : x ∈ kept) : x ∈ xs := by
  rw [filterM_eq h] at hx
  exact (List.mem_filter.1 hx).1

/-- The row fulfils a condition, if there is one. -/
def Table.isSelected (t : Table) (params : List Cell) (condition : Option Written) (r : Row) :
    Bool :=
  condition.all fun e => decide (t.Fulfils params r e)

theorem Table.isSelected_iff {t : Table} {params : List Cell} {condition : Option Written}
    {r : Row} : t.isSelected params condition r ↔ ∀ e ∈ condition, t.Fulfils params r e := by
  simp [isSelected, Option.all_eq_true]

namespace Database

/-- The rows of a table are changed in some order, but each of them is there. -/
theorem rowsToChange_perm {db : Database} {t : Table} {policy : ConflictPolicy}
    {changed : List Nat} {condition : Option (Expr Place)} :
    (db.rowsToChange t policy changed condition).Perm t.rows := by
  unfold rowsToChange
  split
  · rfl
  · split
    · rfl
    · exact List.mergeSort_perm _ _

theorem selected_eq {params : List Cell} {t : Table} {condition : Option Written}
    {resolved : Option (Expr Place)} (h : resolveCondition? t condition = some resolved)
    {rows kept : List Row} (selected : selected? params resolved rows = some kept) :
    kept = rows.filter (t.isSelected params condition) := by
  cases condition with
  | none =>
    cases h
    cases selected
    exact (List.filter_eq_self.2 fun _ _ => rfl).symm
  | some e =>
    obtain ⟨x, hx, rfl⟩ := Option.map_eq_some_iff.1 h
    rw [filterM_eq selected]
    exact List.filter_congr fun r _ => decide_eq_decide.2 (Table.fulfils_iff hx).symm

/-- A removal that is not refused removes the rows that fulfil its condition, if it has one. -/
theorem delete_rows (db : Database) (params : List Cell) (name : String)
    (condition : Option Written) :
    db.delete params name condition = db.refuse ∨
      ∃ t, db.table? name = some t ∧ db.delete params name condition =
        db.removeRows t.name (t.rows.filter (t.isSelected params condition)) := by
  unfold delete
  split
  · exact .inl rfl
  · rename_i t found
    split
    · exact .inl rfl
    · rename_i resolved read
      split
      · exact .inl rfl
      · split
        · exact .inl rfl
        · rename_i rows selected
          exact .inr ⟨t, found, by rw [selected_eq read selected]⟩

/-- An update that is not refused changes the rows that fulfil its condition, if it has one. -/
theorem update_rows (db : Database) (params : List Cell) (policy : ConflictPolicy) (name : String)
    (changes : List (String × Written)) (condition : Option Written) :
    db.update params policy name changes condition = db.refuse ∨
      ∃ t assigned rows, db.table? name = some t ∧ resolveChanges? t changes = some assigned ∧
        rows.Perm (t.rows.filter (t.isSelected params condition)) ∧
        db.update params policy name changes condition =
          settle db (db.changeEach
            (fun r db => (db, changeRow params policy t.name assigned r.rowid db)) rows 0) := by
  unfold update
  split
  · exact .inl rfl
  · rename_i t found
    split
    · rename_i assigned resolved changed read
      dsimp only
      split
      · exact .inl rfl
      · split
        · exact .inl rfl
        · rename_i rows selected
          refine .inr ⟨t, assigned, rows, found, changed, ?_, rfl⟩
          rw [selected_eq read selected]
          exact rowsToChange_perm.filter _
    · exact .inl rfl

/-! ## Texts -/

/-- A removal by balanced conditions removes the rows that meet all of them, or it is refused. -/
theorem run_delete (db : Database) (params : List Cell) {table : String}
    (name : isIdentifier table) {es : List String} (nonempty : es ≠ [])
    (balanced : ∀ e ∈ es, isBalanced e) (ordinary : ∀ e ∈ es, isOrdinary e) :
    let text := "DELETE FROM " ++ table ++ " WHERE " ++ conjunction es
    db.run text params = db.refuse ∨
      ∃ t rows, db.table? table = some t ∧
        (∀ r, r ∈ rows ↔ r ∈ t.rows ∧ t.Meets params r [] es) ∧
        db.run text params = db.removeRows t.name rows := by
  intro text
  obtain ⟨ts, read, listed⟩ := tokens_delete name nonempty balanced
  rcases db.run_firstPart params _ [_, _, _] _ read (by simp [Token.isOperator]) (by decide) with
    refused | ⟨s, parsed, run⟩
  · exact .inl refused
  · obtain ⟨e, value, rfl⟩ := parseStatement_delete (by decide) (by decide) rfl (by decide) parsed
    obtain ⟨whole, grouped, a, es', alone, rfl⟩ := listed.read value
    have unnamed := grouped.isUnnamed (List.forall_mem_map.2 fun e mem =>
      isUnnamed_of_isOrdinary (ordinary e mem))
    have plain : ∀ t ∈ tokens text, t.isUnnamed := by
      rw [read]
      simpa [Token.isUnnamed] using unnamed
    obtain ⟨left, bound⟩ := bind_tokens plain params
    rw [run whole (read ▸ bound)]
    rcases delete_rows db params table (some (es'.foldl both a)) with
      refused | ⟨t, found, run⟩
    · exact .inl refused
    · refine .inr ⟨t, _, found, fun r => ?_, run⟩
      simp only [List.mem_filter, Table.isSelected_iff, Option.mem_some_iff, forall_eq',
        Table.fulfils_foldl, ← Table.meets_iff alone]

/-- An update by balanced conditions changes the rows that meet all of them, or it is refused. -/
theorem run_update (db : Database) (params : List Cell) {table : String}
    (name : isIdentifier table) {columns : List String} (some_ : columns ≠ [])
    (names : ∀ c ∈ columns, isIdentifier c) {es : List String} (nonempty : es ≠ [])
    (balanced : ∀ e ∈ es, isBalanced e) (ordinary : ∀ e ∈ es, isOrdinary e) :
    let text := "UPDATE " ++ table ++ " SET " ++ assignments columns ++ " WHERE " ++ conjunction es
    db.run text params = db.refuse ∨
      ∃ t assigned rows, db.table? table = some t ∧
        resolveChanges? t (placeholderChanges 0 columns) = some assigned ∧
        (∀ r, r ∈ rows ↔
          r ∈ t.rows ∧ t.Meets params r (List.replicate columns.length none) es) ∧
        db.run text params = settle db (db.changeEach
          (fun r db => (db, changeRow params .none t.name assigned r.rowid db)) rows 0) := by
  intro text
  -- The text is read token by token, then as a statement, and the statement is carried out.
  obtain ⟨as, ts, read, assigns, listed⟩ := tokens_update name some_ names nonempty balanced
  rcases db.run_firstPart params ⟨.word, [], "UPDATE"⟩ (⟨.word, [' '], table⟩ ::
    ⟨.word, [' '], "SET"⟩ :: (as ++ [⟨.word, [' '], "WHERE"⟩])) ts (by rw [read]; simp)
    (by simpa [or_imp, forall_and, Token.isOperator] using assigns.plain) (by decide) with
    refused | ⟨s, parsed, run⟩
  · exact .inl refused
  · simp only [List.cons_append, List.append_assoc, List.nil_append] at parsed
    obtain ⟨e, value, rfl⟩ :=
      parseStatement_update (by decide) rfl (by decide) assigns (by decide) parsed
    rw [assigns.slotsAfter, List.nil_append] at value
    obtain ⟨whole, grouped, a, es', alone, rfl⟩ := listed.read value
    have unnamed := grouped.isUnnamed (List.forall_mem_map.2 fun e mem =>
      isUnnamed_of_isOrdinary (ordinary e mem))
    have plain : ∀ t ∈ tokens text, t.isUnnamed := by
      rw [read]
      simpa [Token.isUnnamed, or_imp, forall_and] using ⟨assigns.isUnnamed, unnamed⟩
    obtain ⟨left, bound⟩ := bind_tokens plain params
    rw [read] at bound
    rw [run whole (by simpa using bound)]
    rcases update_rows db params .none table (placeholderChanges 0 columns)
      (some (es'.foldl both a)) with refused | ⟨t, assigned, rows, found, changed, same, run⟩
    · exact .inl refused
    · refine .inr ⟨t, assigned, rows, found, changed, fun r => ?_, run⟩
      simp only [same.mem_iff, List.mem_filter, Table.isSelected_iff, Option.mem_some_iff,
        forall_eq', Table.fulfils_foldl, ← Table.meets_iff alone]

end Database

end ResourceProvider.Engine
