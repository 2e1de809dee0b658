import ResourceProvider.Proofs.Engine.Binding
import ResourceProvider.Proofs.Engine.Steps
import ResourceProvider.Proofs.Engine.Transaction
/-!
# Restrictions

A change of rows is refused on behalf of a row that refers to another one only where a foreign key
says RESTRICT (`Database.run_restricted`). Where no foreign key says so, a change comes to databases
of which that is true again, and it ends in any other way.
-/
namespace ResourceProvider.Engine

/-- The foreign key restricts what happens to the rows that it refers to. -/
def ForeignKey.Restricts (k : ForeignKey) : Prop :=
  k.target.onDelete = .restrict ∨ k.target.onUpdate = .restrict

namespace Database

/-- A foreign key of the database restricts what happens to the rows that it refers to. -/
def Restricts (db : Database) : Prop :=
  ∃ t ∈ db.tables, ∃ k ∈ t.foreignKeys, k.Restricts

/-- Nothing is restricted on behalf of rows that refer to others. -/
def IsFree (db : Database) : Prop :=
  ¬ db.Restricts

variable {db : Database} {t u : Table}

theorem IsFree.setTable (free : db.IsFree) {name : String} (found : db.table? name = some t)
    (same : u.foreignKeys = t.foreignKeys) : (db.setTable u).IsFree := by
  rintro ⟨w, hw, k, hk, restricts⟩
  obtain ⟨v, hv, rfl⟩ := List.mem_map.1 hw
  split at hk
  · rw [same] at hk
    exact free ⟨t, List.mem_of_find?_eq_some found, k, hk, restricts⟩
  · exact free ⟨v, hv, k, hk, restricts⟩

theorem IsFree.not_restricts (free : db.IsFree) {name : String} {k : ForeignKey}
    (h : (t, k) ∈ db.referencing name) : ¬ k.Restricts := by
  intro restricts
  rw [referencing, List.mem_reverse, List.mem_flatMap] at h
  obtain ⟨v, hv, h⟩ := h
  obtain ⟨k', hk', same⟩ := List.mem_map.1 h
  cases same
  exact free ⟨_, hv, k, (List.mem_filter.1 hk').1, restricts⟩

end Database

open Database (IsFree)

/-- The statement does not end on behalf of a row that refers to another one. -/
def Stop.IsFree : Stop → Prop
  | .skip => True
  | .halt refusal _ => refusal ≠ .restricted

/-- An attempt comes to a value of which `P` is true, or is stopped freely. -/
abbrev Freely {α : Type} (P : α → Prop) : Attempt α → Prop :=
  Yields P Stop.IsFree

section
variable {α : Type} {P : α → Prop}

theorem freely_refused : Freely P refused :=
  fun h => by cases h

theorem freely_violated (policy : ConflictPolicy) (v : Violation) :
    Freely P (.error (violated policy v)) := by
  cases policy with
  | ignore => trivial
  | _ => exact fun h => by cases h

theorem freely_ite {c : Prop} [Decidable c] {x y : Attempt α} (hx : Freely P x)
    (hy : Freely P y) : Freely P (if c then x else y) := by
  split
  · exact hx
  · exact hy

end

/-! ## Changes of one row -/

namespace Table

variable {P : List Cell → Prop}

theorem fillNulls_freely (t : Table) (policy : ConflictPolicy) (cells : List Cell) :
    Freely (fun _ => True) (t.fillNulls policy cells) := by
  unfold fillNulls
  refine .bind (P := fun _ => True) (.foldlM (fun x _ filled _ => ?_) trivial) fun filled _ => ?_
  · dsimp only
    split
    · trivial
    · split
      · trivial
      · exact freely_violated _ _
  · dsimp only
    split
    · exact freely_violated _ _
    · trivial

theorem meetsChecks_freely (t : Table) (policy : ConflictPolicy) (r : Row) :
    Freely (fun _ => True) (t.meetsChecks policy r) := by
  refine .forM fun c _ => ?_
  split
  · exact freely_refused
  · split
    · exact freely_violated _ _
    · trivial

end Table

/-- Only a foreign key that restricts refuses what happens to a row. -/
theorem actionEffect_ne_none {action : ForeignKeyAction} (h : action ≠ .restrict) (child : Table)
    (k : ForeignKey) (r : Row) (replaced : Option (List Cell)) :
    actionEffect action child k r replaced ≠ none := by
  cases action with
  | restrict => exact absurd rfl h
  | cascade => cases replaced <;> simp [actionEffect]
  | _ => simp [actionEffect]

theorem applyActions_freely {act : Database → Effect → Attempt Database}
    (h : ∀ db e, db.IsFree → Freely IsFree (act db e)) (parent : Table) (before : List Cell)
    (after : Option (List Cell)) {db : Database} (free : db.IsFree) :
    Freely IsFree (applyActions act parent before after db) := by
  unfold applyActions
  split
  · exact free
  · refine .foldlM (fun x hx db' free' => ?_) free
    obtain ⟨child, k⟩ := x
    have unrestricted := free.not_restricts hx
    dsimp only
    split
    · split
      · exact free'
      · refine .foldlM (fun r _ db'' free'' => ?_) free'
        have action : (if after.isSome then k.target.onUpdate else k.target.onDelete) ≠ .restrict := by
          split
          · exact fun h => unrestricted (.inr h)
          · exact fun h => unrestricted (.inl h)
        split
        · rename_i none
          exact absurd none (actionEffect_ne_none action _ _ _ _)
        · exact free''
        · exact h db'' _ free''
    · exact free'

theorem clearWay_freely {erase : Database → String → Row → Attempt Database}
    (h : ∀ db name r, db.IsFree → Freely IsFree (erase db name r)) (name : String)
    (policy : ConflictPolicy) (self : Option Int) (r : Row) {db : Database} (free : db.IsFree) :
    Freely IsFree (clearWay erase name policy self r db) := by
  unfold clearWay
  split
  · exact freely_refused
  · refine .foldlM (fun u _ db' free' => ?_) free
    dsimp only
    split
    · exact freely_refused
    · split
      · exact free'
      · split
        · exact h db' _ _ free'
        · exact freely_violated _ _

theorem act_freely (fuel : Nat) {db : Database} (e : Effect) (free : db.IsFree) :
    Freely IsFree (act fuel db e) := by
  induction fuel generalizing db e with
  | zero => exact freely_refused
  | succ fuel ih =>
    cases e with
    | delete name row =>
      simp only [act]
      split
      · exact freely_refused
      · rename_i t found
        split
        · exact free
        · exact applyActions_freely (fun _ => ih) _ _ _ (free.setTable (u := t.remove _) found rfl)
    | assign policy name row cells =>
      simp only [act]
      split
      · exact freely_refused
      · split
        · exact freely_refused
        · refine (Table.fillNulls_freely _ _ _).bind fun filled _ => ?_
          refine (Table.meetsChecks_freely _ _ _).bind fun _ _ => ?_
          refine (clearWay_freely (fun _ name r => ih (.delete name r)) _ _ _ _ free).bind
            fun db' free' => ?_
          split
          · exact freely_refused
          · rename_i t found
            exact applyActions_freely (fun _ => ih) _ _ _
              (free'.setTable (u := (t.remove _).put _) found rfl)

theorem addRow_freely (policy : ConflictPolicy) (alone : Bool) (name : String) (cells : List Cell)
    {db : Database} (free : db.IsFree) :
    (addRow policy alone name cells db).1.IsFree ∧
      Freely IsFree (addRow policy alone name cells db).2 := by
  unfold addRow
  split
  · exact ⟨free, freely_refused⟩
  · rename_i t found
    dsimp only
    split
    · exact ⟨free, freely_refused⟩
    · rename_i rowid _
      -- The number of the row may be used up before anything else is done.
      have counted : (db.setTable (if t.rowidKey.any RowidKey.autoIncrement then
          { t with sequence := max t.sequence rowid } else t)).IsFree := by
        refine free.setTable found ?_
        split <;> rfl
      refine ⟨counted, (Table.fillNulls_freely _ _ _).bind fun filled _ => ?_⟩
      refine (Table.meetsChecks_freely _ _ _).bind fun _ _ => ?_
      refine (clearWay_freely (fun _ name r => act_freely _ (.delete name r)) _ _ _ _ counted).bind
        fun db' free' => ?_
      split
      · exact freely_refused
      · rename_i u found'
        exact freely_ite (fun h => by cases h) (free'.setTable (u := u.put _) found' rfl)

namespace Database

variable {db : Database} {params : List Cell}

theorem changeRow_freely (params : List Cell) (policy : ConflictPolicy) (name : String)
    (changes : List (Nat × Expr Place)) (rowid : Int) (free : db.IsFree) :
    Freely IsFree (changeRow params policy name changes rowid db) := by
  unfold changeRow
  split
  · trivial
  · split
    · exact freely_refused
    · exact act_freely _ _ free

theorem removeRow_freely (name : String) (rowid : Int) (free : db.IsFree) :
    Freely IsFree (removeRow name rowid db) := by
  unfold removeRow
  split
  · trivial
  · exact act_freely _ _ free

/-! ## Statements -/

theorem changeEach_free {α : Type} {change : α → Database → Database × Attempt Database}
    (h : ∀ x db, db.IsFree → (change x db).1.IsFree ∧ Freely IsFree (change x db).2) (xs : List α)
    (count : Nat) (free : db.IsFree) (keeps : Bool) :
    (db.changeEach change xs count).2 ≠ .error (.restricted, keeps) := by
  induction xs generalizing count db with
  | nil => exact fun h => by cases h
  | cons x xs ih =>
    have first := h x db free
    unfold changeEach
    cases changed : change x db with
    | mk skipped attempt =>
      rw [changed] at first
      cases attempt with
      | ok db' => exact ih _ first.2
      | error stop =>
        cases stop with
        | skip => exact ih _ first.1
        | halt refusal keeps' =>
          intro same
          cases same
          exact first.2 rfl

theorem settle_free (before : Database) {x : Database × Except (Refusal × Bool) Nat}
    (h : ∀ keeps, x.2 ≠ .error (.restricted, keeps)) :
    (before.settle x).2 ≠ .error .restricted := by
  obtain ⟨db, outcome⟩ := x
  cases outcome with
  | ok count =>
    rw [settle]
    split <;> simp
  | error e =>
    obtain ⟨refusal, keeps⟩ := e
    have other : refusal ≠ .restricted := by
      rintro rfl
      exact h keeps rfl
    rw [settle]
    split
    · simpa using other
    · split
      · simp
      · simpa using other

theorem refuse_free (db : Database) : db.refuse.2 ≠ .error .restricted := by
  simp [refuse]

theorem insert_free (free : db.IsFree) (policy : ConflictPolicy) (name : String)
    (columns : Option (List String)) (rows : Option (List (List Written))) :
    (db.insert params policy name columns rows).2 ≠ .error .restricted := by
  unfold insert
  split
  · exact db.refuse_free
  · dsimp only
    split
    · split
      · exact db.refuse_free
      · exact settle_free db (changeEach_free (fun _ _ => addRow_freely _ _ _ _) _ _ free)
    · exact db.refuse_free

theorem update_free (free : db.IsFree) (policy : ConflictPolicy) (name : String)
    (changes : List (String × Written)) (condition : Option Written) :
    (db.update params policy name changes condition).2 ≠ .error .restricted := by
  unfold update
  split
  · exact db.refuse_free
  · split
    · dsimp only
      split
      · exact db.refuse_free
      · split
        · exact db.refuse_free
        · exact settle_free db (changeEach_free
            (fun _ _ free => ⟨free, changeRow_freely _ _ _ _ _ free⟩) _ _ free)
    · exact db.refuse_free

theorem delete_free (free : db.IsFree) (name : String) (condition : Option Written) :
    (db.delete params name condition).2 ≠ .error .restricted := by
  unfold delete
  split
  · exact db.refuse_free
  · split
    · exact db.refuse_free
    · split
      · exact db.refuse_free
      · split
        · exact db.refuse_free
        · exact settle_free db (changeEach_free
            (fun _ _ free => ⟨free, removeRow_freely _ _ free⟩) _ _ free)

theorem runStatement_free (free : db.IsFree) (params : List Cell) {s : Statement}
    (changes : s.changesRows) :
    (db.runStatement params s).2 ≠ .error .restricted := by
  cases s with
  | insert policy table columns rows => exact insert_free free policy table columns rows
  | update policy table values condition => exact update_free free policy table values condition
  | delete table condition => exact delete_free free table condition
  | _ => cases changes

/-- A single change of rows is restricted only by a foreign key of the database. -/
theorem run_restricted {text : String} (single : IsSingle text) (changes : ChangesRows text)
    (h : (db.run text params).2 = .error .restricted) : db.Restricts := by
  refine Classical.byContradiction fun free => ?_
  obtain ⟨ts, hts⟩ := single
  rw [db.run_single params hts] at h
  split at h
  · exact db.refuse_free h
  · rename_i s hs
    split at h
    · rename_i bound
      split at h
      · exact db.refuse_free h
      · cases h
        obtain ⟨_, same, -⟩ := bind_error bound
        cases same
    · exact runStatement_free free _ (changes ts s hts hs) h

end Database

end ResourceProvider.Engine
