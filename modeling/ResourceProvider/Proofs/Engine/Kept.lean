import ResourceProvider.Proofs.Engine.Restricted
/-!
# Rules that tables keep

A rule that tables are declared with, and that no statement breaks that adds a column or changes
rows, is kept by every table that statements and transactions lead to (`Kept.reached`). Texts that
are refused, or that stop half-way, make no exception.
-/
namespace ResourceProvider.Engine

/-! ## Triggers -/

theorem tables_createTrigger {db db' : Database} {ifNotExists : Bool} {name table : String}
    (made : createTrigger db ifNotExists name table = some db') : db'.tables = db.tables := by
  unfold createTrigger at made
  split at made
  · cases made
  · split at made
    · cases made
    · split at made
      · cases (Option.ite_none_right_eq_some.1 made).2
        rfl
      · cases made
        rfl

theorem tables_dropTrigger {db db' : Database} {ifExists : Bool} {name : String}
    (made : dropTrigger db ifExists name = some db') : db'.tables = db.tables := by
  unfold dropTrigger at made
  split at made
  · cases made
    rfl
  · cases (Option.ite_none_right_eq_some.1 made).2
    rfl

/-! ## Rules -/

namespace Database

/-- Every table keeps the rule. -/
def Keeps (rule : Table → Prop) (db : Database) : Prop :=
  ∀ t ∈ db.tables, rule t

variable {rule : Table → Prop} {db db' : Database}

theorem Keeps.of_tables (h : db.Keeps rule) (same : db'.tables = db.tables) : db'.Keeps rule :=
  fun t ht => h t (same ▸ ht)

theorem Keeps.setTable (h : db.Keeps rule) {u : Table} (hu : rule u) :
    (db.setTable u).Keeps rule := by
  intro t ht
  obtain ⟨t', ht', rfl⟩ := List.mem_map.1 ht
  split
  · exact hu
  · exact h t' ht'

theorem Keeps.table? (h : db.Keeps rule) {name : String} {t : Table}
    (found : db.table? name = some t) : rule t :=
  h t (List.mem_of_find?_eq_some found)

/-- A database that statements and transactions lead to, from a new one on. -/
inductive Reached : Database → Prop where
  | empty : Reached .empty
  | run {db : Database} (reached : Reached db) (text : String) (params : List Cell) :
      Reached (db.run text params).1
  | begin {db : Database} (reached : Reached db) : Reached db.begin
  | commit {db : Database} (reached : Reached db) : Reached db.commit
  | rollback {before db : Database} (reached : Reached before) : Reached (db.rollback before)

end Database

/-- Tables are declared with the rule, and it stays when a column is added or rows change. -/
structure Kept (rule : Table → Prop) : Prop where
  declared {spec : TableSpec} {t : Table} : spec.table? = some t → rule t
  widened {db db' : Database} {name : String} {spec : ColumnSpec} :
    db.Keeps rule → addColumn db name spec = some db' → db'.Keeps rule
  inserted {db : Database} (params : List Cell) (policy : ConflictPolicy) (name : String)
    (columns : Option (List String)) (rows : Option (List (List Written))) :
    db.Keeps rule → (db.insert params policy name columns rows).1.Keeps rule
  updated {db : Database} (params : List Cell) (policy : ConflictPolicy) (name : String)
    (changes : List (String × Written)) (condition : Option Written) :
    db.Keeps rule → (db.update params policy name changes condition).1.Keeps rule
  removed {db : Database} (name : String) (rows : List Row) :
    db.Keeps rule → (db.removeRows name rows).1.Keeps rule

namespace Kept

variable {rule : Table → Prop} {db db' : Database} (kept : Kept rule)
include kept

theorem createTable (h : db.Keeps rule) {spec : TableSpec}
    (made : createTable db spec = some db') : db'.Keeps rule := by
  unfold Engine.createTable at made
  split at made
  · cases made
  · split at made
    · split at made
      · cases made
        exact h
      · cases made
    · obtain ⟨t, new, rfl⟩ := Option.map_eq_some_iff.1 made
      intro u hu
      rcases List.mem_append.1 hu with there | added
      · exact h u there
      · cases List.mem_singleton.1 added
        exact kept.declared new

theorem delete (h : db.Keeps rule) (params : List Cell) (name : String)
    (condition : Option Written) : (db.delete params name condition).1.Keeps rule := by
  rcases db.delete_rows params name condition with refused | ⟨t, -, run⟩
  · rw [refused]
    exact h
  · rw [run]
    exact kept.removed t.name _ h

theorem dropTable (h : db.Keeps rule) (ifExists : Bool) (name : String) :
    (db.dropTable ifExists name).1.Keeps rule := by
  unfold Database.dropTable
  split
  · split
    · exact h
    · exact h
  · rename_i t _
    have emptied : (if db.enforces then db.removeRows t.name t.rows
        else (db, .ok .nothing)).1.Keeps rule := by
      split
      · exact kept.removed t.name t.rows h
      · exact h
    dsimp only
    split
    · rename_i after _ ran
      rw [ran] at emptied
      exact fun u hu => emptied u (List.mem_filter.1 hu).1
    · rename_i ran
      rw [ran] at emptied
      exact emptied

theorem runStatement (h : db.Keeps rule) (params : List Cell) (s : Statement) :
    (db.runStatement params s).1.Keeps rule := by
  have declared {new : Option Database} (made : ∀ db', new = some db' → db'.Keeps rule) :
      (db.orRefuse new).1.Keeps rule := by
    cases new with
    | none => exact h
    | some db' => exact made db' rfl
  cases s with
  | createTable spec => exact declared fun _ => kept.createTable h
  | addColumn table spec => exact declared fun _ => kept.widened h
  | dropTable ifExists table => exact kept.dropTable h ifExists table
  | createTrigger ifNotExists name table =>
    exact declared fun _ made => h.of_tables (tables_createTrigger made)
  | dropTrigger ifExists name =>
    exact declared fun _ made => h.of_tables (tables_dropTrigger made)
  | insert policy table columns rows => exact kept.inserted params policy table columns rows h
  | update policy table changes condition =>
    exact kept.updated params policy table changes condition h
  | delete table condition => exact kept.delete h params table condition
  | select query =>
    simp only [Database.runStatement]
    split <;> exact h
  | pragma name value =>
    simp only [Database.runStatement, Database.setting]
    split
    · split <;> exact h
    · split
      · split
        · exact h
        · dsimp only
          split <;> exact h
      · split <;> exact h

/-- Whatever a text says, its statements keep the rule. -/
theorem run (h : db.Keeps rule) (text : String) (params : List Cell) :
    (db.run text params).1.Keeps rule :=
  Database.runAll_keeps (P := Database.Keeps rule)
    (fun _ _ s _ _ params h => kept.runStatement h params s) h params 0

theorem reached (h : db.Reached) : db.Keeps rule := by
  induction h with
  | empty => exact fun t ht => by cases ht
  | run _ text params ih => exact kept.run ih text params
  | begin _ ih => exact ih
  | commit _ ih => exact ih
  | rollback _ ih => exact ih

end Kept

end ResourceProvider.Engine
