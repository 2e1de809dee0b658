import ResourceProvider.Proofs.Engine.Spelled
import ResourceProvider.Proofs.Lifecycle.Creation
import ResourceProvider.Proofs.Provider.RoundTrip
import ResourceProvider.Proofs.Schema.Declaration
/-!
# Names that are not quoted

Statements copy the names of a schema without quotes, and a name is accepted if its characters are
those of a word. That is not enough for the engine: it takes the names for what they are if none of
them is reserved, and it creates the table if its name is not one of the engine's own
(`names_bare_iff`). With other names the statements are refused, or the table lacks columns
(`names_reserved_accepted`).
-/
namespace ResourceProvider

open Document (Column)
open Engine (IsBare condition? created? declaration? isSystemName placeholderChanges placeholderRow
  statement?)
open Schema (Wording createText isIdentifier ofDatabase)

/-! ## Tables -/

/-- The names in the statement of the table: its own, those of its columns, and those in references
and constraints. -/
def Table.names (t : Table) : List String :=
  t.name :: (t.columns.flatMap Wording.columnNames ++
    (Schema.tableConstraints t).flatMap Wording.constraintNames)

/-- The names in the statement of the table are read as names: none of them is reserved, the table
does not take its name for a guard, and no column of a key starts an expression. -/
structure Table.NamesBare (t : Table) : Prop where
  names : ∀ n ∈ t.names, IsBare n
  table : Text.lower t.name ≠ "if"
  keys : ∀ k ∈ Schema.tableConstraints t, ∀ n ∈ Wording.indexedNames k,
    Text.lower n ∉ Engine.expressionWords

/-- Nothing stands between the key of a column and the word that it counts. -/
def Table.CountsInKeys (t : Table) : Prop :=
  ∀ c ∈ t.columns, c.autoIncrement → c.unique = none ∧ c.check = none

/-- All names in the statement of a table are identifiers. -/
theorem Schema.identifiers_of_ofDatabase {d : Document.Database} {s : Schema}
    (accepted : ofDatabase d = .ok s) {t : Table} (mem : t ∈ s.tables) :
    ∀ n ∈ t.names, isIdentifier n := by
  obtain ⟨fit, resolved⟩ := Schema.exists_resolved accepted
  obtain ⟨t', mem', rfl⟩ := resolved t mem
  have own := fit.tables t' mem'
  simp only [Table.names, List.forall_mem_cons, List.forall_mem_append, List.forall_mem_flatMap]
  refine ⟨Schema.isIdentifier_iff.2 (fit.names t' mem'), fun c hc => ?_, fun k hk => ?_⟩
  · refine List.forall_mem_cons.2 ⟨Schema.isIdentifier_iff.2 (own.names c hc), ?_⟩
    cases refers : c.references with
    | none => simp [Wording.referenceNames]
    | some r =>
      obtain ⟨table, columns⟩ := Schema.names_of_declares fit (own.references c hc r refers)
      simp [Wording.referenceNames, table, columns _ (List.mem_singleton.2 rfl)]
  · have names := Schema.names_of_constraint fit mem' hk
    cases k with
    | check c => simp [Wording.constraintNames]
    | primaryKey k | unique k => exact names.2
    | foreignKey k =>
      exact List.forall_mem_append.2 ⟨names.1.2, List.forall_mem_cons.2 ⟨names.2.1, names.2.2.2⟩⟩

namespace Schema.Wording

variable {w : Wording} {t : Table}

theorem isReadableTable_iff : IsReadableTable t ↔ t.NamesBare ∧ t.CountsInKeys := by
  have parts : t.NamesBare ↔ (∀ n ∈ t.names, IsBare n) ∧ Text.lower t.name ≠ "if" ∧
      ∀ k ∈ tableConstraints t, ∀ n ∈ indexedNames k, Text.lower n ∉ Engine.expressionWords :=
    ⟨fun h => ⟨h.names, h.table, h.keys⟩, fun h => ⟨h.1, h.2.1, h.2.2⟩⟩
  rw [parts]
  simp only [IsReadableTable, Engine.IsNewName, IsReadable, IsBareRule, Table.names,
    Table.CountsInKeys, keyGap_eq_nil_iff, List.forall_mem_cons, List.forall_mem_append,
    List.forall_mem_flatMap, imp_and, forall_and]
  constructor
  · rintro ⟨⟨table, other⟩, ⟨columns, counts⟩, constraints, keys⟩
    exact ⟨⟨⟨table, columns, constraints⟩, other, keys⟩, counts⟩
  · rintro ⟨⟨⟨table, columns, constraints⟩, other, keys⟩, counts⟩
    exact ⟨⟨table, other⟩, ⟨columns, counts⟩, constraints, keys⟩

/-- The SQL in a table is read like this: its defaults and checks, and the names of constraints. -/
structure Reads (w : Wording) (t : Table) : Prop where
  defaults : ∀ c ∈ t.columns, ∀ d, c.default = some d → w.ReadsDefault d
  checks : ∀ c ∈ t.columns, ∀ e, c.check = some e → w.ReadsCheck e
  conditions : ∀ c ∈ t.checks, w.ReadsCheck c.expression
  labels : ∀ k ∈ tableConstraints t, ∀ n, k.name? = some n → w.ReadsLabel n

/-- In a schema, nothing but the SQL of a table could be read in another way. -/
theorem Reads.table {d : Document.Database} {s : Schema} (accepted : ofDatabase d = .ok s)
    (mem : t ∈ s.tables) (reads : w.Reads t) : w.ReadsTable t := by
  obtain ⟨fit, resolved⟩ := exists_resolved accepted
  obtain ⟨t', mem', rfl⟩ := resolved t mem
  have own := fit.tables t' mem'
  refine ⟨isIdentifier_iff.2 (fit.names t' mem'), own.nonempty, fun c hc => ?_, fun k hk => ?_⟩
  · obtain ⟨i, inside, rfl⟩ := List.mem_mapIdx.1 hc
    have column : (resolveTable t').columns[i] ∈ t'.columns := List.getElem_mem inside
    refine ⟨⟨isIdentifier_iff.2 (own.names _ column), fun isKey k hk => ?_⟩, fun counts => ?_⟩
    · cases k with
      | notNull | primaryKey | unique | autoIncrement => trivial
      | default d => exact reads.defaults _ column d (by simpa [columnClauses] using hk)
      | check e => exact reads.checks _ column e (by simpa [columnClauses] using hk)
      | references r =>
        have refers : (resolveTable t').columns[i].references = some r := by
          simpa [columnClauses] using hk
        obtain ⟨table, columns⟩ := names_of_declares fit (own.references _ column r refers)
        exact ⟨table, columns _ (List.mem_singleton.2 rfl)⟩
    · have flagged := (own.counter _ column counts).1
      exact decide_eq_true ((primaryKey_eq_column_iff (resolveTable_keyedOnce own.oneKey
        own.keyOnce)).2 ⟨_, List.getElem?_eq_getElem inside, flagged⟩)
  · have names := names_of_constraint fit mem' hk
    refine ⟨reads.labels k hk, ?_⟩
    cases k with
    | check c => exact reads.conditions c (mem_tableConstraints.1 hk)
    | primaryKey | unique | foreignKey => exact names

theorem ReadsTable.single (reads : w.ReadsTable t) :
    Engine.splitStatements (Engine.tokens (createText t)) = [Engine.tokens (createText t)] := by
  have uncut : Engine.IsUncut (Engine.creationTokens t.ifNotExists t.name ++ _) :=
    isUncut_creation (w.isFixed_items reads)
  rw [w.tokens_createText reads]
  exact Engine.splitStatements_uncut uncut

theorem ReadsTable.stated (reads : w.ReadsTable t) : t.IsStated :=
  ⟨reads.name, _, reads.single⟩

/-- There are no placeholders in the statement of a table. -/
theorem ReadsTable.isBound (reads : w.ReadsTable t) : Engine.isBound (createText t) := by
  have unnamed : ∀ u ∈ Engine.tokens (createText t), u.isUnnamed := by
    rw [w.tokens_createText reads]
    intro u mem
    rcases List.mem_append.1 mem with head | body
    · exact Engine.Token.isUnnamed_of_kind ((Engine.creationTokens_plain u head).imp_right .inl)
    · exact (w.isFixed_items reads u body).2.isUnnamed
  obtain ⟨left, bound⟩ := Engine.Database.bind_tokens unnamed []
  rw [Engine.isBound, reads.single, List.all_cons, List.all_nil, Bool.and_true, bound]
  rfl

theorem declaration?_eq_spec_iff (reads : w.ReadsTable t) :
    declaration? (createText t) = some (w.spec t) ↔
      t.NamesBare ∧ t.CountsInKeys := by
  obtain ⟨other, read, fewer⟩ := w.declaration?_createText reads
  rw [read, ← isReadableTable_iff]
  by_cases readable : IsReadableTable t
  · simp [readable]
  · refine iff_of_false ?_ readable
    rw [if_neg readable]
    intro found
    have short := fewer _ found
    simp [spec, keyedColumns] at short

/-- The statement of a table creates it with its own columns if all names in it are bare, its
columns count in their keys, its name is none of the engine, and what it declares is a table. -/
theorem createdAlone_iff_bare (reads : w.ReadsTable t) : t.CreatedAlone ↔
    (t.NamesBare ∧ t.CountsInKeys) ∧ isSystemName t.name = false ∧
      (w.spec t).table?.isSome := by
  obtain ⟨other, read, fewer⟩ := w.declaration?_createText reads
  rw [reads.stated.createdAlone_iff, ← isReadableTable_iff, created?, if_pos reads.isBound, read]
  by_cases readable : IsReadableTable t
  · rw [if_pos readable, Option.bind_some, and_iff_right readable]
    have own {u : Engine.Table} (made : (w.spec t).table? = some u) :
        u.columns.map Engine.Column.name = t.columns.map Column.name := by
      rw [Engine.TableSpec.names_of_table? made, spec, List.map_map]
      conv_rhs => rw [← fst_keyedColumns t, List.map_map]
      rfl
    have name : (w.spec t).name = t.name := rfl
    rw [name, Option.isSome_iff_exists]
    cases isSystemName t.name with
    | true => simp
    | false =>
      simp only [Bool.false_eq_true, if_false, true_and]
      exact exists_congr fun u => and_iff_left_of_imp own
  · refine iff_of_false ?_ fun all => readable all.1
    rw [if_neg readable]
    rintro ⟨u, made, columns⟩
    obtain ⟨s, found, made⟩ := Option.bind_eq_some_iff.1 made
    have short := fewer s found
    split at made
    · cases made
    · have same := congrArg List.length columns
      rw [Engine.TableSpec.names_of_table? made, List.length_map, List.length_map] at same
      omega

end Schema.Wording

/-! ## Records -/

/-- What the insertion of a record says. -/
def Record.insertion (r : Record) (table : String) : Engine.Statement :=
  if r = [] then .insert .none table none none
  else .insert .none table (some (r.map Prod.fst)) (some [placeholderRow r.length])

/-- A record that fits a table has names of its columns only. -/
theorem Record.names_of_misfit? {t : Table} {r : Record} (fits : r.misfit? t = none) :
    ∀ f ∈ r, f.1 ∈ t.columns.map Column.name := by
  intro f hf
  rw [Record.misfit?, Option.map_eq_none_iff, List.find?_eq_none] at fits
  obtain ⟨c, found⟩ := Option.ne_none_iff_exists'.1 (by simpa using fits f hf)
  exact List.mem_map.2 ⟨c, List.mem_of_find?_eq_some found, by simpa using List.find?_some found⟩

namespace Sql

variable {table : String} {r : Record}

theorem statement?_insert (name : isIdentifier table) (names : ∀ f ∈ r, isIdentifier f.1) :
    statement? (insert table r).text =
      if IsBare table ∧ ∀ f ∈ r, IsBare f.1 then some (r.insertion table) else none := by
  unfold insert Record.insertion
  by_cases empty : r = []
  · simp [empty, Engine.statement?_none name]
  · have read := Engine.statement?_row name (show r.map Prod.fst ≠ [] by simpa)
      (List.forall_mem_map.2 names)
    simp only [List.map_map, List.length_map, List.forall_mem_map] at read
    simp only [if_neg empty]
    exact read

variable {selection : Selection}

theorem Selection.statement?_update (ofTable : selection.table = some table)
    (name : isIdentifier table) (some_ : r ≠ []) (names : ∀ f ∈ r, isIdentifier f.1) :
    (selection.update r).map (fun x => statement? x.text) = .ok
      (if IsBare table ∧ ∀ f ∈ r, IsBare f.1 then
        (condition? r.length selection.whereClause).map
          (.update .none table (placeholderChanges 0 (r.map Prod.fst)))
      else none) := by
  have read := Engine.statement?_setting name (show r.map Prod.fst ≠ [] by simpa)
    (List.forall_mem_map.2 names) (selection.isClauses_whereClause (by decide))
  simp only [Engine.assignments, List.map_map, List.length_map, List.forall_mem_map] at read
  rw [update, requiredTable, ofTable]
  exact congrArg _ read

theorem Selection.statement?_delete (ofTable : selection.table = some table)
    (name : isIdentifier table) :
    selection.delete.map (fun x => statement? x.text) = .ok
      (if IsBare table then (condition? 0 selection.whereClause).map (.delete table)
      else none) := by
  have read := Engine.statement?_removal name (selection.isClauses_whereClause (by decide))
  rw [delete, requiredTable, ofTable]
  exact congrArg _ read

end Sql

/-! ## Schemas -/

/-- A name that is accepted is read as a name where it stands alone, if it is not reserved. -/
theorem Engine.parseName_identifier {n : String} (name : isIdentifier n) :
    parseName (tokens n) = if IsBare n then some (n, []) else none := by
  have cut : Cuts n.toList [⟨.word, [], n⟩] := .word name (g := []) (.inl rfl)
  rw [cut.tokens]
  exact parseName_bare (namesColumn_word [] n) []

/-- What a schema accepts as a name is a word, and the engine reads it as a name wherever statements
copy it, in the creation of tables, in keys and references, and in changes of rows, if it is not
reserved. Where all names are so, a table is declared as it stands in the schema, provided that its
columns count in their keys, and it is created if its name is none of the engine. -/
theorem names_bare_iff {d : Document.Database} {s : Schema} (accepted : ofDatabase d = .ok s)
    {t : Table} (mem : t ∈ s.tables) :
    (∀ kind context n, Schema.identifierFault kind context n = none →
      Engine.parseName (Engine.tokens n) = if IsBare n then some (n, []) else none) ∧
    (∀ n ∈ t.names, ∀ kind context, Schema.identifierFault kind context n = none) ∧
    (∀ w : Wording, w.Reads t →
      (declaration? (createText t) = some (w.spec t) ↔
        t.NamesBare ∧ t.CountsInKeys) ∧
      (t.CreatedAlone ↔ (t.NamesBare ∧ t.CountsInKeys) ∧
        isSystemName t.name = false ∧ (w.spec t).table?.isSome)) ∧
    ∀ r : Record, r.misfit? t = none →
      (statement? (Sql.insert t.name r).text =
        if IsBare t.name ∧ ∀ f ∈ r, IsBare f.1 then some (r.insertion t.name) else none) ∧
      ∀ selection : Sql.Selection, selection.table = some t.name →
        (r ≠ [] → (selection.update r).map (fun x => statement? x.text) = .ok
          (if IsBare t.name ∧ ∀ f ∈ r, IsBare f.1 then
            (condition? r.length selection.whereClause).map
              (.update .none t.name (placeholderChanges 0 (r.map Prod.fst)))
          else none)) ∧
        selection.delete.map (fun x => statement? x.text) = .ok
          (if IsBare t.name then (condition? 0 selection.whereClause).map (.delete t.name)
          else none) := by
  have names := Schema.identifiers_of_ofDatabase accepted mem
  refine ⟨fun kind context n fit => ?_, fun n hn kind context => ?_, fun w reads => ?_,
    fun r fits => ?_⟩
  · exact Engine.parseName_identifier
      (Schema.isIdentifier_iff.2 (Schema.identifierFault_eq_none_iff.1 fit))
  · exact Schema.identifierFault_eq_none_iff.2 (Schema.isIdentifier_iff.1 (names n hn))
  · have table := reads.table accepted mem
    exact ⟨Schema.Wording.declaration?_eq_spec_iff table,
      Schema.Wording.createdAlone_iff_bare table⟩
  · have own := names t.name (.head _)
    have columns : ∀ f ∈ r, isIdentifier f.1 := by
      intro f hf
      obtain ⟨c, hc, same⟩ := List.mem_map.1 (Record.names_of_misfit? fits f hf)
      refine same ▸ names c.name (.tail _ (List.mem_append_left _ ?_))
      exact List.mem_flatMap.2 ⟨c, hc, .head _⟩
    exact ⟨Sql.statement?_insert own columns, fun selection ofTable =>
      ⟨fun some_ => Sql.Selection.statement?_update ofTable own some_ columns,
        Sql.Selection.statement?_delete ofTable own⟩⟩

namespace Tasks

/-- Defaults and names of constraints that are words; nothing is said of checks. -/
def words : Wording where
  default d := ([Engine.word d], .literal (.text d))
  check _ := ⟨[], Engine.word "", .literal .null⟩
  label n := (Engine.word n, n)

/-- A table of tasks that are numbered, have a state, and may be parts of other tasks. -/
def planned : Document.Table where
  name := "tasks"
  ifNotExists := true
  columns := [⟨"id", .integer, none, some .none, none, true, none, none, none⟩,
    ⟨"state", .text, some .none, none, none, false, some "planned", none, none⟩,
    ⟨"parent", .integer, none, none, none, false, none, none,
      some ⟨"tasks", "id", .cascade, .none⟩⟩]
  primaryKey := none
  unique := [⟨some "one", ["state", "parent"], .ignore⟩]
  checks := []
  foreignKeys := []

end Tasks

open Tasks in
theorem names_bare_iff_planned :
    ∃ s t, ofDatabase (database [planned]) = .ok s ∧ t ∈ s.tables ∧ words.Reads t ∧
      t.names = ["tasks", "id", "state", "parent", "tasks", "id", "state", "parent"] ∧
      createText t = "CREATE TABLE IF NOT EXISTS tasks (id INTEGER PRIMARY KEY AUTOINCREMENT, " ++
        "state TEXT NOT NULL DEFAULT planned, parent INTEGER REFERENCES tasks(id) ON DELETE " ++
        "CASCADE, CONSTRAINT one UNIQUE (state, parent) ON CONFLICT IGNORE)" ∧
      declaration? (createText t) = some (words.spec t) ∧ t.CreatedAlone ∧
      statement? (Sql.insert t.name [("state", .str "done")]).text =
        some (.insert .none "tasks" (some ["state"]) (some [placeholderRow 1])) := by
  have accepted : ofDatabase (database [planned]) = .ok _ := rfl
  have reads : words.Reads (Schema.resolveTable planned) := by
    refine ⟨?_, ?_, ?_, ?_⟩
    · intro c hc d default
      have state : d = "planned" := by
        simp only [Schema.resolveTable, planned, List.mem_cons, List.not_mem_nil, or_false] at hc
        rcases hc with rfl | rfl | rfl <;> cases default
        rfl
      subst state
      exact ⟨.word (by decide) (g := [' ']) (.inr rfl), Schema.isFixed_words ["planned"],
        fun rest => rfl⟩
    · intro c hc e check
      simp only [Schema.resolveTable, planned, List.mem_cons, List.not_mem_nil, or_false] at hc
      rcases hc with rfl | rfl | rfl <;> cases check
    · rintro c ⟨⟩
    · intro k hk n named
      have one : n = "one" := by
        cases List.mem_singleton.1 hk
        have visible : Text.visible? "one" = some "one" := by decide
        exact (Option.some.inj (visible.symm.trans named)).symm
      subst one
      exact ⟨.word (by decide) (g := [' ']) (.inr rfl), Schema.isFixed_words ["one"], rfl⟩
  have bare : (Schema.resolveTable planned).NamesBare ∧
      (Schema.resolveTable planned).CountsInKeys :=
    ⟨⟨by decide, by decide, by decide⟩, by unfold Table.CountsInKeys; decide⟩
  obtain ⟨-, -, created, records⟩ := names_bare_iff accepted (.head _)
  obtain ⟨declared, alone⟩ := created words reads
  refine ⟨_, _, accepted, .head _, reads, by decide, by decide +kernel, declared.2 bare,
    alone.2 ⟨bare, by decide, by decide +kernel⟩, ?_⟩
  refine ((records [("state", .str "done")] (by decide)).1).trans (if_pos ?_)
  exact ⟨by decide, by decide⟩

/-- Names that are reserved are accepted. A table that is called by one is refused, as is a table
with such a column, one whose name is the engine's own, and one that is called like a guard. And a
column may be taken for a constraint that says nothing, so its table is created without it. -/
theorem names_reserved_accepted :
    (Schema.identifierFault .table none "order" = none ∧ ¬ IsBare "order") ∧
    (∀ t ∈ [Tasks.texts "order" false ["title"], Tasks.texts "tasks" false ["title", "group"],
        Tasks.texts "sqlite_tasks" false ["title"], Tasks.texts "if" false ["title"]],
      ∃ s, ofDatabase (Tasks.database [t]) = .ok s ∧ Schema.resolveTable t ∈ s.tables ∧
        (Engine.Database.empty.run (createText (Schema.resolveTable t)) []).2.toOption.isNone) ∧
    ∃ s t, ofDatabase (Tasks.database [Tasks.texts "tasks" false ["title", "constraint"]]) = .ok s ∧
      t ∈ s.tables ∧ createText t = "CREATE TABLE tasks (title TEXT, constraint TEXT)" ∧
      (Engine.Database.empty.run (createText t) []).1.tables.map
        (fun u => u.columns.map Engine.Column.name) = [["title"]] := by
  have accepted {t : Document.Table}
      (fit : Schema.databaseFault (Tasks.database [t]) = none) :
      ∃ s, ofDatabase (Tasks.database [t]) = .ok s ∧ Schema.resolveTable t ∈ s.tables :=
    ⟨_, Schema.ofDatabase_eq_ok_iff.2 ⟨fit, rfl⟩, .head _⟩
  refine ⟨⟨by decide, by decide⟩, fun t ht => ?_, ?_⟩
  · have fit : ∀ t ∈ [Tasks.texts "order" false ["title"],
        Tasks.texts "tasks" false ["title", "group"],
        Tasks.texts "sqlite_tasks" false ["title"], Tasks.texts "if" false ["title"]],
        Schema.databaseFault (Tasks.database [t]) = none ∧ (Engine.Database.empty.run
          (createText (Schema.resolveTable t)) []).2.toOption.isNone := by
      decide +kernel
    obtain ⟨s, made, mem⟩ := accepted (fit t ht).1
    exact ⟨s, made, mem, (fit t ht).2⟩
  · obtain ⟨s, made, mem⟩ := accepted (t := Tasks.texts "tasks" false ["title", "constraint"])
      (by decide +kernel)
    exact ⟨s, _, made, mem, by decide +kernel, by decide +kernel⟩

end ResourceProvider
