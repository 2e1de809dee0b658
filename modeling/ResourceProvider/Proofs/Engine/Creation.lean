import ResourceProvider.Proofs.Engine.Declared
/-!
# What the creation of a table does

Out of a text that creates a table the engine reads one declaration, or it refuses the text
(`Database.run_creation`). A declaration adds the same table wherever its name is free. Names are
compared without regard to the case of letters, both those of tables and those of the columns of one
table (`TableSpec.columns_apart`).
-/
namespace ResourceProvider.Engine

open Schema (isIdentifier)

/-! ## Names -/

/-- No two of the names are the same to the engine. -/
def Apart (names : List String) : Prop :=
  (names.map Text.lower).Nodup

instance : DecidablePred Apart :=
  fun names => inferInstanceAs (Decidable (names.map Text.lower).Nodup)

theorem distinctNames_iff {names : List String} : distinctNames names ↔ Apart names := by
  unfold Apart
  induction names with
  | nil => simp [distinctNames]
  | cons n rest ih =>
    rw [distinctNames, Bool.and_eq_true, ih, List.map_cons, List.nodup_cons]
    refine and_congr_left fun _ => ?_
    simp [sameName, eq_comm (a := Text.lower n)]

/-- No two columns of a table that is declared have one name. -/
theorem TableSpec.columns_apart {spec : TableSpec} {t : Table} (made : spec.table? = some t) :
    Apart (t.columns.map Column.name) := by
  obtain ⟨columns, -, distinct, fresh⟩ := TableSpec.fresh_of_table? made
  rw [fresh.columns]
  exact distinctNames_iff.1 distinct

/-- A table has the columns that it is declared with. -/
theorem TableSpec.names_of_table? {spec : TableSpec} {t : Table} (made : spec.table? = some t) :
    t.columns.map Column.name = spec.columns.map ColumnSpec.name := by
  obtain ⟨columns, read, -, fresh⟩ := TableSpec.fresh_of_table? made
  rw [fresh.columns, names_of_mapM read]

/-! ## Texts -/

/-- The declaration that the engine reads out of a text, if the text is one statement that creates a
table. -/
def declaration? (text : String) : Option TableSpec :=
  match splitStatements (tokens text) with
  | [ts] =>
    match parseStatement ts with
    | some (.createTable spec) => some spec
    | _ => none
  | _ => none

/-- A text that is one statement declares what that statement does. -/
theorem declaration?_of_split {text : String} {ts : List Token}
    (single : splitStatements (tokens text) = [ts]) :
    declaration? text =
      match parseStatement ts with
      | some (.createTable spec) => some spec
      | _ => none := by
  simp only [declaration?, single]

/-- No placeholder of the text asks for a value by a name. -/
def isBound (text : String) : Bool :=
  (splitStatements (tokens text)).all fun ts => (Database.bind [] (slotsAfter [] ts) []).isOk

/-- The table that a text creates where its name is free. -/
def created? (text : String) : Option Table :=
  if isBound text then
    (declaration? text).bind fun spec => if isSystemName spec.name then none else spec.table?
  else none

theorem created?_eq_some_iff {text : String} {t : Table} : created? text = some t ↔
    isBound text ∧ ∃ spec, declaration? text = some spec ∧ isSystemName spec.name = false ∧
      spec.table? = some t := by
  simp only [created?, Option.ite_none_right_eq_some, Option.bind_eq_some_iff,
    Option.ite_none_left_eq_some, Bool.not_eq_true]

variable {guarded : Bool} {table body : String}

theorem declaration?_creation (name : isIdentifier table) {spec : TableSpec}
    (read : declaration? (creation guarded table body) = some spec) :
    spec.name = table ∧ spec.ifNotExists = guarded := by
  obtain ⟨ts, more, split, creates⟩ := statementsOf_creation guarded name body
  unfold declaration? at read
  split at read
  · rename_i part single
    rw [statementsOf_single single] at split
    cases split
    split at read
    · rename_i parsed
      obtain ⟨columns, rules, same⟩ := creates _ parsed
      cases same
      cases read
      exact ⟨rfl, rfl⟩
    · cases read
  · cases read

/-- A table that is created has the name in the text, and its columns have different names. -/
theorem created?_creation (name : isIdentifier table) {t : Table}
    (made : created? (creation guarded table body) = some t) :
    t.name = table ∧ Apart (t.columns.map Column.name) := by
  obtain ⟨-, spec, read, -, made⟩ := created?_eq_some_iff.1 made
  refine ⟨?_, TableSpec.columns_apart made⟩
  rw [TableSpec.name_of_table? made, (declaration?_creation name read).1]

namespace Database

/-- A table is found under its name if no other has the name to the engine. -/
theorem table?_of_only {db : Database} {t : Table} (mem : t ∈ db.tables)
    (only : ∀ u ∈ db.tables, Text.lower u.name = Text.lower t.name → u = t) :
    db.table? t.name = some t := by
  cases found : db.table? t.name with
  | none => simpa [sameName] using List.find?_eq_none.1 found t mem
  | some u =>
    have same := List.find?_some found
    rw [only u (List.mem_of_find?_eq_some found) (sameName_iff.1 same)]

theorem declares_append (db : Database) (t : Table) (name : String) :
    { db with tables := db.tables ++ [t] }.declares name =
      (db.declares name || sameName t.name name) := by
  unfold declares table?
  rw [List.find?_append, Option.isSome_or]
  cases same : sameName t.name name <;> simp [same]

variable (db : Database)

/-- A text that creates a table does what its declaration says, if there is one, or it fails because a
value is asked for by a name. -/
theorem run_creation (name : isIdentifier table)
    (single : IsSingle (creation guarded table body)) :
    if isBound (creation guarded table body) then
      db.run (creation guarded table body) [] =
        db.orRefuse ((declaration? (creation guarded table body)).bind (createTable db))
    else ∃ e, db.run (creation guarded table body) [] = (db, .error e) := by
  obtain ⟨ts, more, split, creates⟩ := statementsOf_creation guarded name body
  obtain ⟨part, whole⟩ := single
  rw [statementsOf_single whole] at split
  cases split
  rw [db.run_single [] whole, isBound, whole, List.all_cons, List.all_nil, Bool.and_true,
    declaration?_of_split whole]
  cases parsed : parseStatement ts with
  | none =>
    cases bind [] (slotsAfter [] ts) [] with
    | ok p => rfl
    | error e => exact ⟨.rejected, rfl⟩
  | some s =>
    obtain ⟨columns, rules, rfl⟩ := creates s parsed
    cases bind [] (slotsAfter [] ts) [] with
    | ok p => rfl
    | error e =>
      simp only [Except.isOk, Except.toBool, Bool.false_eq_true, if_false]
      split <;> exact ⟨_, rfl⟩

/-- Where the name is free, the text adds its table. -/
theorem run_creation_free (name : isIdentifier table)
    (single : IsSingle (creation guarded table body)) (free : db.declares table = false) :
    match created? (creation guarded table body) with
    | some t => db.run (creation guarded table body) [] =
        ({ db with tables := db.tables ++ [t] }, .ok .nothing)
    | none => ∃ e, db.run (creation guarded table body) [] = (db, .error e) := by
  have run := db.run_creation name single
  unfold created?
  split at run
  · rename_i bound
    rw [if_pos bound, run]
    cases read : declaration? (creation guarded table body) with
    | none => exact ⟨_, rfl⟩
    | some spec =>
      have absent : (db.table? spec.name).isSome = false := by
        rw [(declaration?_creation name read).1]
        exact free
      simp only [Option.bind_some, createTable, absent]
      cases isSystemName spec.name with
      | true => exact ⟨_, rfl⟩
      | false =>
        cases spec.table? with
        | none => exact ⟨_, rfl⟩
        | some t => rfl
  · rename_i unbound
    rw [if_neg unbound]
    exact run

/-- Where there is a table of that name, a text that would create one does nothing under its guard,
and is refused without. -/
theorem run_creation_taken (name : isIdentifier table)
    (single : IsSingle (creation guarded table body)) (there : db.declares table) {t : Table}
    (made : created? (creation guarded table body) = some t) :
    db.run (creation guarded table body) [] =
      if guarded then (db, .ok .nothing) else db.refuse := by
  obtain ⟨bound, spec, read, own, -⟩ := created?_eq_some_iff.1 made
  have run := db.run_creation name single
  rw [if_pos bound] at run
  obtain ⟨same, guard⟩ := declaration?_creation name read
  have present : (db.table? spec.name).isSome := by
    rw [same]
    exact there
  rw [run]
  simp only [read, Option.bind_some, createTable, own, present, guard, if_true]
  cases guarded <;> rfl

end Database

end ResourceProvider.Engine
