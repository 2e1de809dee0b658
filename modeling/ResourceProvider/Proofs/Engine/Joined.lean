import ResourceProvider.Proofs.Engine.Regular
import ResourceProvider.Proofs.Engine.Spelled
/-!
# Queries of joined tables

A query for all columns lists the columns of its tables one table after another. Each row of the
answer starts with a row of the first table as it is stored; every other table follows with one of
its rows, or with nulls if none fits (`run_joined`). The text of the query may go on behind the name
of the first table however it likes.
-/
namespace ResourceProvider.Engine

open Schema (isIdentifier)

/-! ## What a table shows -/

namespace Table

variable {t : Table} {r : Row} {part : ResultRow}

/-- Cells by the names of the columns. -/
def labelled (t : Table) (cells : List Cell) : ResultRow :=
  t.columns.mapIdx fun i c => (c.name, (cells[i]?).getD .null)

/-- What a table that is joined adds to a row: one of its own rows, or nulls. -/
def Contributes (t : Table) (part : ResultRow) : Prop :=
  (∃ r ∈ t.rows, part = t.named r) ∨ part = t.columns.map fun c => (c.name, .null)

theorem names_labelled (t : Table) (cells : List Cell) :
    (t.labelled cells).map Prod.fst = t.columns.map Column.name := by
  refine List.ext_getElem? fun i => ?_
  simp only [labelled, List.getElem?_map, List.getElem?_mapIdx]
  cases t.columns[i]? <;> rfl

theorem names_named (t : Table) (r : Row) :
    (t.named r).map Prod.fst = t.columns.map Column.name :=
  t.names_labelled r.places

theorem Contributes.names (h : t.Contributes part) :
    part.map Prod.fst = t.columns.map Column.name := by
  rcases h with ⟨r, -, rfl⟩ | rfl
  · exact t.names_named r
  · simp [Function.comp_def]

theorem labelled_nulls (t : Table) (n : Nat) :
    t.labelled (List.replicate n .null) = t.columns.map fun c => (c.name, .null) := by
  refine List.ext_getElem? fun i => ?_
  have null : ((List.replicate n Cell.null)[i]?).getD .null = .null := by
    rw [List.getElem?_replicate]
    split <;> rfl
  simp only [labelled, List.getElem?_map, List.getElem?_mapIdx, null]

end Table

/-- A column of a result with its cell. -/
def Output.cell (env : Env) (o : Output) : String × Cell :=
  (o.name, (o.value.eval env).getD .null)

namespace Source

variable {s : Source} {part : List Cell}

theorem Gives.contributes (h : s.Gives part) : s.table.Contributes (s.table.labelled part) := by
  rcases h with ⟨r, hr, rfl⟩ | rfl
  · exact .inl ⟨r, hr, rfl⟩
  · exact .inr (s.table.labelled_nulls s.width)

theorem length_places (regular : s.table.Regular) {r : Row} (hr : r ∈ s.table.rows) :
    r.places.length = s.width := by
  simp [Row.places, Source.width, regular.width r hr]

theorem Gives.length (regular : s.table.Regular) (h : s.Gives part) : part.length = s.width := by
  rcases h with ⟨r, hr, rfl⟩ | rfl
  · exact length_places regular hr
  · exact List.length_replicate ..

/-- The columns of a table at its place in a joined row. -/
theorem outputs_labelled (env : Env) (before after : List Cell) (start : before.length = s.start)
    (length : part.length = s.width) (row : env.row = before ++ (part ++ after)) :
    s.outputs.map (Output.cell env) = s.table.labelled part := by
  refine List.ext_getElem? fun i => ?_
  simp only [Source.outputs, Table.labelled, List.getElem?_map, List.getElem?_mapIdx]
  cases column : s.table.columns[i]? with
  | none => rfl
  | some c =>
    have inside : i < s.table.columns.length := (List.getElem?_eq_some_iff.1 column).1
    have own : env.row[s.start + i]? = part[i]? := by
      rw [row, ← start, List.getElem?_append_right (Nat.le_add_right ..), Nat.add_sub_cancel_left]
      exact List.getElem?_append_left (by rw [length, Source.width]; omega)
    simp [Output.cell, Expr.eval, own]

/-- The columns of all tables have values. -/
theorem outputs_cells (sources : List Source) (env : Env) :
    (sources.flatMap Source.outputs).mapM (fun o =>
      (o.value.eval env).bind fun c => some (o.name, c)) =
        some ((sources.flatMap Source.outputs).map (Output.cell env)) := by
  refine mapM_eq_map fun o ho => ?_
  obtain ⟨s, -, ho⟩ := List.mem_flatMap.1 ho
  obtain ⟨i, bound, rfl⟩ := List.mem_mapIdx.1 ho
  rfl

end Source

/-! ## Joined rows -/

variable {db : Database} {joins : List Join} {sources : List Source} {start : Nat}

/-- The tables of a query are those of the names behind its joins. -/
theorem forall₂_sourcesFrom (h : sourcesFrom db start joins = some sources) :
    List.Forall₂ (fun j t => db.table? j.table = some t) joins (sources.map Source.table) := by
  induction joins generalizing start sources with
  | nil =>
    cases h
    exact .nil
  | cons j joins ih =>
    unfold sourcesFrom at h
    split at h
    · cases h
    · rename_i t found
      obtain ⟨more, rest, rfl⟩ := Option.map_eq_some_iff.1 h
      exact .cons found (ih rest)

/-- What the tables of a query give is what they contribute to its rows. -/
theorem outputs_contributed (regular : db.Keeps Table.Regular)
    (h : sourcesFrom db start joins = some sources) {parts : List (List Cell)}
    (given : List.Forall₂ Source.Gives sources parts) (env : Env) (before : List Cell)
    (place : before.length = start) (row : env.row = before ++ parts.flatten) :
    ∃ shown, List.Forall₂ Table.Contributes (sources.map Source.table) shown ∧
      (sources.flatMap Source.outputs).map (Output.cell env) = shown.flatten := by
  induction joins generalizing start sources parts before with
  | nil =>
    cases h
    exact ⟨[], .nil, rfl⟩
  | cons j joins ih =>
    unfold sourcesFrom at h
    split at h
    · cases h
    rename_i t found
    obtain ⟨more, rest, rfl⟩ := Option.map_eq_some_iff.1 h
    cases given with
    | @cons _ part _ parts own others =>
      have length := own.length (regular.table? found)
      have row' : env.row = (before ++ part) ++ parts.flatten := by
        rw [row, List.flatten_cons, List.append_assoc]
      obtain ⟨shown, contributed, rows⟩ := ih rest others (before ++ part)
        (by rw [List.length_append, place, length]) row'
      refine ⟨_ :: shown, .cons own.contributes contributed, ?_⟩
      rw [List.flatMap_cons, List.map_append, rows, List.flatten_cons,
        Source.outputs_labelled env before parts.flatten place length row]

/-- A row of a query for all columns shows a row of the first table, and then what the others
contribute. -/
theorem runQuery_star {params : List Cell} {q : Query} {rows : List ResultRow}
    (regular : db.Keeps Table.Regular) (items : q.items = [.all]) {first : Join}
    (tables : q.joins = first :: joins) (h : runQuery db params q = some rows) :
    ∃ t others, db.table? first.table = some t ∧
      List.Forall₂ (fun j u => db.table? j.table = some u) joins others ∧
      ∀ row ∈ rows, ∃ r ∈ t.rows, ∃ parts, List.Forall₂ Table.Contributes others parts ∧
        row = t.named r ++ parts.flatten := by
  obtain ⟨sources, outputs, hs, read, members⟩ := runQuery_joined h
  rw [tables] at hs
  have named := forall₂_sourcesFrom hs
  unfold sourcesFrom at hs
  split at hs
  · cases hs
  rename_i t found
  obtain ⟨others, rest, rfl⟩ := Option.map_eq_some_iff.1 hs
  have all : outputs.flatten =
      (⟨first.alias?.getD first.table, t, 0⟩ :: others).flatMap Source.outputs := by
    rw [items] at read
    cases read
    simp
  refine ⟨t, others.map Source.table, found, (List.forall₂_cons.1 named).2, fun row hrow => ?_⟩
  obtain ⟨g, inside, empty, eval⟩ := members row hrow
  rw [all] at empty eval
  cases g with
  | nil =>
    have plain : ((⟨first.alias?.getD first.table, t, 0⟩ :: others).flatMap Source.outputs).any
        (fun o => o.value.aggregated) = false := by
      simp only [List.any_flatMap, outputs_plain, List.any_eq_false]
      simp
    rw [plain] at empty
    cases (empty rfl).2
  | cons x g =>
    obtain ⟨r, hr, parts, given, rfl⟩ := inside x List.mem_cons_self
    have width := Source.length_places (s := ⟨first.alias?.getD first.table, t, 0⟩)
      (regular.table? found) hr
    let env : Env := ⟨params, r.places ++ parts.flatten, (r.places ++ parts.flatten) :: g⟩
    have own : (⟨first.alias?.getD first.table, t, 0⟩ : Source).outputs.map (Output.cell env) =
        t.named r :=
      Source.outputs_labelled env [] parts.flatten rfl width rfl
    obtain ⟨shown, contributed, more⟩ := outputs_contributed regular rest given env r.places
      (width.trans (Nat.zero_add _).symm) rfl
    rw [List.headD_cons, Source.outputs_cells, List.flatMap_cons, List.map_append, own,
      more] at eval
    cases eval
    exact ⟨r, hr, shown, contributed, rfl⟩

/-! ## Texts -/

namespace Database

/-- The text is a query of these tables, in this order. -/
def Reads (db : Database) (text : String) (tables : List Table) : Prop :=
  ∃ q, statement? text = some (.select q) ∧
    List.Forall₂ (fun j t => db.table? j.table = some t) q.joins tables

/-- A query for all columns fails, or shows rows of the table whose name stands first in it, each
followed by what the other tables contribute. -/
theorem run_joined (regular : db.Keeps Table.Regular) (params : List Cell) {table : String}
    (name : isIdentifier table) {rest : String} (head : ∀ c ∈ rest.toList.head?, c = ' ')
    (query : IsQuery ("SELECT * FROM " ++ table ++ rest)) :
    let text := "SELECT * FROM " ++ table ++ rest
    (∃ e, db.run text params = (db, .error e)) ∨
      ∃ t others rows, db.table? table = some t ∧ db.Reads text (t :: others) ∧
        db.run text params = (db, .ok ⟨0, rows⟩) ∧
        ∀ row ∈ rows, ∃ r ∈ t.rows, ∃ parts, List.Forall₂ Table.Contributes others parts ∧
          row = t.named r ++ parts.flatten := by
  intro text
  rcases db.run_star params name head query.single with
    failed | ⟨fuel, part, q, more, cells, rows, split, parsed, items, tables, answer, run⟩
  · exact .inl failed
  · obtain ⟨alias?, -, joins, -, -, listed⟩ := parseFrom_first (by decide) rfl tables
    obtain ⟨t, others, found, named, members⟩ := runQuery_star regular items listed answer
    refine .inr ⟨t, others, rows, found, ⟨q, ?_, listed ▸ .cons found named⟩, run, members⟩
    rw [statement?, split]
    exact parsed

end Database

end ResourceProvider.Engine
