import ResourceProvider.Engine.Run
/-!
# Changes of rows inside a transaction

Only a setting, and the end of a statement, looks at the mark that a database carries while
statements stand together. Each row that a statement adds, changes or removes is handled alike with
and without it, and leaves it as it was.
-/
namespace ResourceProvider.Engine

namespace Database

/-- The database with its mark of a transaction set as given. -/
def mark (b : Bool) (db : Database) : Database :=
  { db with inTransaction := b }

@[simp] theorem table?_mark (b : Bool) (db : Database) (name : String) :
    (db.mark b).table? name = db.table? name := rfl

@[simp] theorem setTable_mark (b : Bool) (db : Database) (t : Table) :
    (db.mark b).setTable t = (db.setTable t).mark b := rfl

@[simp] theorem enforces_mark (b : Bool) (db : Database) : (db.mark b).enforces = db.enforces := rfl

@[simp] theorem referencing_mark (b : Bool) (db : Database) (name : String) :
    (db.mark b).referencing name = db.referencing name := rfl

end Database

open Database (mark)

/-! ## Changes that are blind to the mark -/

/-- A change that neither looks at the mark nor sets it. -/
def Blind (f : Database → Attempt Database) : Prop :=
  ∀ b db, f (db.mark b) = (f db).map (mark b)

theorem Blind.ok : Blind .ok :=
  fun _ _ => rfl

theorem Blind.error (e : Stop) : Blind fun _ => .error e :=
  fun _ _ => rfl

/-- What is found out before a change does not depend on the mark. -/
theorem after_eq_map {α : Type} {b : Bool} (x : Attempt α) {f g : α → Attempt Database}
    (h : ∀ a, f a = (g a).map (mark b)) : (x >>= f) = (x >>= g).map (mark b) := by
  cases x with
  | error e => rfl
  | ok a => exact h a

theorem Blind.bind_eq_map {b : Bool} {x y : Attempt Database} (hx : x = y.map (mark b))
    {f : Database → Attempt Database} (h : Blind f) : (x >>= f) = (y >>= f).map (mark b) := by
  subst hx
  cases y with
  | error e => rfl
  | ok db => exact h b db

theorem Blind.foldlM {α : Type} {f : Database → α → Attempt Database}
    (h : ∀ x, Blind fun db => f db x) (xs : List α) : Blind fun db => xs.foldlM f db := by
  induction xs with
  | nil => exact Blind.ok
  | cons x xs ih => exact fun b db => ih.bind_eq_map (h x b db)

/-! ## Rows that act on rows -/

theorem blind_applyActions {act : Database → Effect → Attempt Database}
    (h : ∀ e, Blind fun db => act db e) (parent : Table) (before : List Cell)
    (after : Option (List Cell)) : Blind (applyActions act parent before after) := by
  intro b db
  unfold applyActions
  simp only [Database.enforces_mark, Database.referencing_mark]
  split
  · rfl
  · refine Blind.foldlM (fun x b db => ?_) _ b db
    obtain ⟨child, k⟩ := x
    simp only [Database.table?_mark]
    split
    · split
      · rfl
      · refine Blind.foldlM (fun r => ?_) _ b db
        split
        · exact Blind.error _
        · exact Blind.ok
        · exact h _
    · rfl

theorem blind_clearWay {erase : Database → String → Row → Attempt Database}
    (h : ∀ name r, Blind fun db => erase db name r) (name : String) (policy : ConflictPolicy)
    (self : Option Int) (r : Row) : Blind (clearWay erase name policy self r) := by
  intro b db
  unfold clearWay
  simp only [Database.table?_mark]
  split
  · rfl
  · refine Blind.foldlM (fun x b db => ?_) _ b db
    obtain ⟨own, key⟩ := x
    simp only [Database.table?_mark]
    split
    · rfl
    · split
      · rfl
      · split
        · exact h _ _ b db
        · rfl

theorem blind_act (fuel : Nat) (e : Effect) : Blind fun db => act fuel db e := by
  induction fuel generalizing e with
  | zero => exact fun _ _ => rfl
  | succ fuel ih =>
    intro b db
    cases e with
    | delete name row =>
      simp only [act, Database.table?_mark, Database.setTable_mark]
      split
      · rfl
      · split
        · rfl
        · exact blind_applyActions ih _ _ _ b _
    | assign policy name row cells =>
      simp only [act, Database.table?_mark]
      split
      · rfl
      · split
        · rfl
        · refine after_eq_map _ fun cells => after_eq_map _ fun _ => ?_
          have cleared := blind_clearWay fun name r => ih (.delete name r)
          refine Blind.bind_eq_map (cleared _ _ _ _ b db) ?_
          intro b db
          simp only [Database.table?_mark, Database.setTable_mark]
          split
          · rfl
          · exact blind_applyActions ih _ _ _ b _

/-! ## Statements -/

theorem addRow_mark (policy : ConflictPolicy) (alone : Bool) (name : String) (cells : List Cell)
    (b : Bool) (db : Database) :
    addRow policy alone name cells (db.mark b) =
      ((addRow policy alone name cells db).1.mark b,
        (addRow policy alone name cells db).2.map (mark b)) := by
  unfold addRow
  simp only [Database.table?_mark, Database.setTable_mark]
  split
  · rfl
  · split
    · rfl
    · rename_i t _ _ rowid _
      generalize (if t.rowidKey.any RowidKey.autoIncrement then
        { t with sequence := max t.sequence rowid } else t) = t
      refine Prod.ext rfl ?_
      refine after_eq_map _ fun cells => after_eq_map _ fun _ => ?_
      refine Blind.bind_eq_map
        (blind_clearWay (fun name r => blind_act maxDepth (.delete name r)) _ _ _ _ b _) ?_
      intro b db
      simp only [Database.table?_mark, Database.setTable_mark]
      split
      · rfl
      · rename_i t _
        have admits (db : Database) (k : ForeignKey) (r : Row) :
            (db.mark b).admits t k r = db.admits t k r := rfl
        simp only [Database.enforces_mark, admits]
        split <;> rfl

theorem changeEach_mark {α : Type} {change : α → Database → Database × Attempt Database}
    (h : ∀ x b db, change x (mark b db) = ((change x db).1.mark b, (change x db).2.map (mark b)))
    (b : Bool) (xs : List α) (count : Nat) (db : Database) :
    Database.changeEach change xs count (db.mark b) =
      ((Database.changeEach change xs count db).1.mark b,
        (Database.changeEach change xs count db).2) := by
  induction xs generalizing count db with
  | nil => rfl
  | cons x xs ih =>
    simp only [Database.changeEach, h x b db]
    obtain ⟨left, done⟩ := change x db
    cases done with
    | ok db => exact ih _ db
    | error e =>
      cases e with
      | skip => exact ih _ left
      | halt e keeps => rfl

theorem canCheckWithin_mark (b : Bool) (db : Database) (fuel : Nat) (t : Table)
    (changed : Option (List Nat)) (asTarget : Bool) :
    (db.mark b).canCheckWithin fuel t changed asTarget =
      db.canCheckWithin fuel t changed asTarget := by
  induction fuel generalizing t changed asTarget with
  | zero => rfl
  | succ fuel ih =>
    have target (k : ForeignKey) : (db.mark b).target? k = db.target? k := rfl
    simp only [Database.canCheckWithin, Database.referencing_mark, target, ih]

@[simp] theorem canChange_mark (b : Bool) (db : Database) (t : Table) (changed : Option (List Nat))
    (asTarget : Bool) :
    (db.mark b).canChange t changed asTarget = db.canChange t changed asTarget :=
  congrArg (fun checked => db.triggers.isEmpty && (!db.enforces || checked))
    (canCheckWithin_mark b db _ t changed asTarget)

theorem blind_changeRow (params : List Cell) (policy : ConflictPolicy) (name : String)
    (changes : List (Nat × Expr Place)) (rowid : Int) :
    Blind (Database.changeRow params policy name changes rowid) := by
  intro b db
  unfold Database.changeRow
  simp only [Database.table?_mark]
  split
  · rfl
  · split
    · rfl
    · exact blind_act _ _ b db

theorem blind_removeRow (name : String) (rowid : Int) : Blind (Database.removeRow name rowid) := by
  intro b db
  unfold Database.removeRow
  simp only [Database.table?_mark]
  split
  · rfl
  · exact blind_act _ _ b db

/-! ## Texts -/

/-- A text that is not cut is one statement. -/
theorem statementsOf_single {text : String} {ts : List Token}
    (single : splitStatements (tokens text) = [ts]) : statementsOf text = [ts] := by
  rw [statementsOf, single, joinTriggers]
  split <;> rfl

/-- What a text does that is not cut: its statement runs, once values are found for its placeholders. -/
theorem Database.run_single (db : Database) {text : String} {ts : List Token} (params : List Cell)
    (single : splitStatements (tokens text) = [ts]) :
    db.run text params =
      match parseStatement ts with
      | none => db.refuse
      | some s =>
        match Database.bind params (slotsAfter [] ts) params with
        | .error e => if db.refusesUnbound s then db.refuse else (db, .error e)
        | .ok (cells, _) => db.runStatement cells s := by
  rw [run, statementsOf_single single, runAll]
  cases parseStatement ts with
  | none => rfl
  | some s =>
    dsimp only
    cases bind params (slotsAfter [] ts) params with
    | error e => rfl
    | ok p =>
      dsimp only [runAll]
      obtain ⟨after, answer⟩ := db.runStatement p.1 s
      cases answer <;> simp [Outcome.nothing, reportedChanges]

/-- The text is one statement. -/
def IsSingle (text : String) : Prop :=
  ∃ ts, splitStatements (tokens text) = [ts]

/-- What the text says as one statement, if it says anything, is a change of rows. -/
def ChangesRows (text : String) : Prop :=
  ∀ ts s, splitStatements (tokens text) = [ts] → parseStatement ts = some s → s.changesRows

end ResourceProvider.Engine
