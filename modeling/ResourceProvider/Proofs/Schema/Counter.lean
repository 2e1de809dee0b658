import ResourceProvider.Engine.Run
import ResourceProvider.Proofs.Schema.Legible
import ResourceProvider.Proofs.Schema.Names
/-!
# Where a column says that it counts

In the grammar of the engine `AUTOINCREMENT` is the end of the primary key clause of a column. Here
it is a clause of its own, written after the ones for uniqueness and for a check. So it ends the
primary key exactly if the column has neither (`counter_in_key_iff`); otherwise the column is
accepted, and the engine refuses the statement (`counter_apart`).
-/
namespace ResourceProvider.Schema

open Document (Column)

/-! ## Clauses around the primary key -/

/-- The clauses of a column before its primary key. -/
def keyLead (c : Column) : List Clause :=
  (c.notNull.map .notNull).toList ++ (c.default.map .default).toList

/-- The clauses of a column that are written behind its primary key, before it says that it
counts. -/
def keyGap (c : Column) : List Clause :=
  (c.unique.map .unique).toList ++ (c.check.map .check).toList

/-- `AUTOINCREMENT` is written right behind the primary key, as the end of its clause. -/
def CountsInKey (clauses : List Clause) : Prop :=
  ∃ before p after, clauses = before ++ .primaryKey p :: .autoIncrement :: after

variable {c : Column}

theorem keyGap_eq_nil_iff : keyGap c = [] ↔ c.unique = none ∧ c.check = none := by
  simp [keyGap]

theorem columnClauses_counter (counts : c.autoIncrement) {p : ConflictPolicy}
    (key : c.primaryKey = some p) :
    columnClauses c true = keyLead c ++ .primaryKey p :: (keyGap c ++
      .autoIncrement :: (c.references.map .references).toList) := by
  simp [columnClauses, keyLead, keyGap, counts, key]

/-- A column counts in its key if nothing stands in the gap. -/
theorem countsInKey_iff (counts : c.autoIncrement) {p : ConflictPolicy}
    (key : c.primaryKey = some p) :
    CountsInKey (columnClauses c true) ↔ c.unique = none ∧ c.check = none := by
  rw [columnClauses_counter counts key, ← keyGap_eq_nil_iff]
  constructor
  · rintro ⟨before, q, after, clauses⟩
    -- It is said once that the column counts, and the clause before it is the primary key.
    have lead : Clause.autoIncrement ∉ keyLead c ++ .primaryKey p :: keyGap c := by
      simp [keyLead, keyGap]
    have rest : Clause.autoIncrement ∉ (c.references.map Clause.references).toList := by simp
    have split : (keyLead c ++ .primaryKey p :: keyGap c) ++
          .autoIncrement :: (c.references.map .references).toList =
        (before ++ [.primaryKey q]) ++ .autoIncrement :: after := by
      simpa using clauses
    obtain ⟨front, -, -⟩ := (List.append_cons_inj_of_notMem lead rest).1 split
    have last := congrArg List.getLast? front
    unfold keyGap at last ⊢
    cases unique : c.unique <;> cases check : c.check <;> simp [unique, check] at last ⊢
  · intro gap
    rw [gap, List.nil_append]
    exact ⟨_, _, _, rfl⟩

/-! ## Text -/

/-- The text of clauses, each behind a blank. -/
def clausesText (clauses : List Clause) : String :=
  String.join (clauses.map fun k => " " ++ k.text)

theorem clausesText_append (ks ls : List Clause) :
    clausesText (ks ++ ls) = clausesText ks ++ clausesText ls := by
  simp [clausesText]

theorem clausesText_cons (k : Clause) (ks : List Clause) :
    clausesText (k :: ks) = " " ++ k.text ++ clausesText ks := by
  simp [clausesText]

theorem clausesText_eq_empty_iff {ks : List Clause} : clausesText ks = "" ↔ ks = [] := by
  cases ks with
  | nil => exact iff_of_true rfl rfl
  | cons k ks => simp [clausesText_cons]

theorem columnText_eq (c : Column) (isKey : Bool) :
    columnText c isKey = c.name ++ " " ++ c.type.name ++ clausesText (columnClauses c isKey) := by
  apply String.toList_injective
  rw [toList_columnText]
  simp [clausesText, Text.marked, List.flatMap_map]

/-! ## Schemas -/

/-- A column that counts is an integer and the primary key of its table, and is defined as such. Its
definition says that it counts right behind its primary key exactly if it has no clause for
uniqueness and no check; those stand in between, whatever else the column has. -/
theorem counter_in_key_iff {d : Document.Database} {s : Schema} (accepted : ofDatabase d = .ok s)
    {t : Table} (mem : t ∈ s.tables) {i : Nat} (column : t.columns[i]? = some c)
    (counts : c.autoIncrement) :
    t.primaryKey = .column i ∧ (definitions t)[i]? = some (columnText c true) ∧
      (CountsInKey (columnClauses c true) ↔ c.unique = none ∧ c.check = none) ∧
      ∃ p, c.primaryKey = some p ∧
        columnText c true = c.name ++ " INTEGER" ++ clausesText (keyLead c) ++
          (" PRIMARY KEY" ++ conflictText p) ++ clausesText (keyGap c) ++ " AUTOINCREMENT" ++
            clausesText (c.references.map .references).toList ∧
        (clausesText (keyGap c) = "" ↔ c.unique = none ∧ c.check = none) := by
  obtain ⟨fit, resolved⟩ := exists_resolved accepted
  obtain ⟨t', mem', rfl⟩ := resolved t mem
  have rules := fit.tables t' mem'
  obtain ⟨flagged, type⟩ := rules.counter c (List.mem_of_getElem? column) counts
  have key : (resolveTable t').primaryKey = .column i :=
    (primaryKey_eq_column_iff (resolveTable_keyedOnce rules.oneKey rules.keyOnce)).2
      ⟨c, column, flagged⟩
  obtain ⟨p, key'⟩ := Option.isSome_iff_exists.1 flagged
  refine ⟨key, ?_, countsInKey_iff counts key', p, key', ?_, ?_⟩
  · rw [definitions, List.getElem?_append_left, List.getElem?_mapIdx, column, Option.map_some, key]
    · simp
    · simpa using (List.getElem?_eq_some_iff.1 column).1
  · rw [columnText_eq, columnClauses_counter counts key', type, clausesText_append,
      clausesText_cons, clausesText_append, clausesText_cons]
    apply String.toList_injective
    unfold Clause.text
    simp [DataType.name]
  · rw [clausesText_eq_empty_iff, keyGap_eq_nil_iff]

/-- A table of tasks that are numbered; `unique` says so of the numbers once more. -/
def Tasks.numbered (unique : Option ConflictPolicy) : Document.Table where
  name := "tasks"
  ifNotExists := false
  columns := [⟨"id", .integer, none, some .none, unique, true, none, none, none⟩,
    ⟨"title", .text, none, none, none, false, none, none, none⟩]
  primaryKey := none
  unique := []
  checks := []
  foreignKeys := []

theorem counter_in_key_iff_numbered :
    ∃ s t c, ofDatabase ⟨"todo", 1, [Tasks.numbered none], []⟩ = .ok s ∧ t ∈ s.tables ∧
      t.columns[0]? = some c ∧ c.autoIncrement ∧ CountsInKey (columnClauses c true) ∧
      definitions t = ["id INTEGER PRIMARY KEY AUTOINCREMENT", "title TEXT"] ∧
      (Engine.Database.empty.run (createText t) []).2.toOption.isSome := by
  have accepted : ofDatabase ⟨"todo", 1, [Tasks.numbered none], []⟩ = .ok _ := rfl
  refine ⟨_, _, _, accepted, .head _, rfl, rfl, ?_, by decide +kernel, by decide +kernel⟩
  exact (counter_in_key_iff accepted (.head _) (i := 0) rfl rfl).2.2.1.2 ⟨rfl, rfl⟩

/-- A column may be accepted whose definition says that it counts after a clause for uniqueness; the
engine does not create its table. -/
theorem counter_apart :
    ∃ s t c, ofDatabase ⟨"todo", 1, [Tasks.numbered (some .none)], []⟩ = .ok s ∧ t ∈ s.tables ∧
      t.columns[0]? = some c ∧ c.autoIncrement ∧ ¬ CountsInKey (columnClauses c true) ∧
      definitions t = ["id INTEGER PRIMARY KEY UNIQUE AUTOINCREMENT", "title TEXT"] ∧
      (Engine.Database.empty.run (createText t) []).2.toOption.isNone := by
  refine ⟨_, _, _, rfl, .head _, rfl, rfl, ?_, by decide +kernel, by decide +kernel⟩
  rw [countsInKey_iff rfl rfl]
  simp

end ResourceProvider.Schema
