import ResourceProvider.Proofs.Schema.Acceptance
import ResourceProvider.Sql.Record
/-!
# Names of a schema

A well-formed database has a schema whose tables and columns are named by identifiers. So their names
stand in statements as they are.
-/
namespace ResourceProvider.Schema

open Document (Database)

/-- Tables and columns are named by identifiers. -/
structure Named (s : Schema) : Prop where
  tables : ∀ t ∈ s.tables, isIdentifier t.name
  columns : ∀ t ∈ s.tables, ∀ c ∈ t.columns, isIdentifier c.name

/-- A database that has a schema is well formed, and each table of the schema stands for one that it
declares. -/
theorem exists_resolved {d : Database} {s : Schema} (h : ofDatabase d = .ok s) :
    d.WellFormed ∧ ∀ t ∈ s.tables, ∃ t' ∈ d.tables, resolveTable t' = t := by
  obtain ⟨fault, rfl⟩ := ofDatabase_eq_ok_iff.1 h
  exact ⟨databaseFault_eq_none_iff.1 fault, fun t ht => List.mem_map.1 ht⟩

theorem named_of_ofDatabase {d : Database} {s : Schema} (h : ofDatabase d = .ok s) : s.Named := by
  obtain ⟨fit, resolved⟩ := exists_resolved h
  constructor
  · intro t ht
    obtain ⟨t', ht', rfl⟩ := resolved t ht
    exact isIdentifier_iff.2 (fit.names t' ht')
  · intro t ht c hc
    obtain ⟨t', ht', rfl⟩ := resolved t ht
    exact isIdentifier_iff.2 ((fit.tables t' ht').names c hc)

theorem Named.table {s : Schema} (h : s.Named) {name : String} {t : Table}
    (found : s.table? name = some t) : isIdentifier name := by
  have same : t.name = name := by simpa using List.find?_some found
  rw [← same]
  exact h.tables t (List.mem_of_find?_eq_some found)

/-- Each column of a record that fits a table is one of the table's. -/
theorem exists_column {t : Table} {r : Record} (fits : Record.misfit? t r = none) :
    ∀ name ∈ List.map Prod.fst r, ∃ c ∈ t.columns, c.name = name := by
  intro name mem
  obtain ⟨f, hf, rfl⟩ := List.mem_map.1 mem
  rw [Record.misfit?, Option.map_eq_none_iff, List.find?_eq_none] at fits
  obtain ⟨c, hc⟩ : ∃ c, t.column? f.1 = some c :=
    Option.isSome_iff_exists.1 (by simpa [Option.isSome_iff_ne_none] using fits f hf)
  exact ⟨c, List.mem_of_find?_eq_some hc, by simpa using List.find?_some hc⟩

/-- The columns of a record that fits a table are identifiers. -/
theorem Named.record {s : Schema} (h : s.Named) {name : String} {t : Table}
    (found : s.table? name = some t) {r : Record} (fits : Record.misfit? t r = none) :
    ∀ c ∈ List.map Prod.fst r, isIdentifier c := by
  intro name mem
  obtain ⟨c, hc, rfl⟩ := exists_column fits name mem
  exact h.columns t (List.mem_of_find?_eq_some found) c hc

end ResourceProvider.Schema
