import ResourceProvider.Proofs.Schema.Names
import ResourceProvider.Proofs.Schema.Parts
/-!
# Statements that create tables can be read back

A statement that creates a table says everything about it, as long as the table carries no SQL of
its own: two tables of well-formed databases with the same statement are equal
(`createText_injective`).
-/
namespace ResourceProvider

open Document (Column Key ForeignKey Reference)

/-- The table carries no SQL: no default, no check, and no name of a constraint. -/
structure Table.IsPlain (t : Table) : Prop where
  columns : ∀ c ∈ t.columns, c.default = none ∧ c.check = none
  checks : t.checks = []
  key : ∀ k, t.primaryKey = .constraint k → k.name = none
  unique : ∀ k ∈ t.unique, k.name = none
  foreignKeys : ∀ k ∈ t.foreignKeys, k.name = none

namespace Schema

open Text (Unambiguous)

/-! ## Definitions -/

/-- What stands between the parentheses of a statement, a column or a constraint. -/
abbrev Definition := Column ⊕ Constraint

def Definition.text : Definition → String
  | .inl c => columnText c c.primaryKey.isSome
  | .inr k => k.text

def Definition.IsPlain : Definition → Prop
  | .inl c => IsPlainColumn c
  | .inr k => k.IsPlain

theorem column_ne_constraint {c : Column} (hc : IsPlainColumn c) {k : Constraint} (hk : k.IsPlain)
    (isKey : Bool) (r s : List Char) :
    (columnText c isKey).toList ++ r ≠ k.text.toList ++ s := by
  intro eq
  obtain ⟨word, fit, d, rest, same, key⟩ := Constraint.opens hk
  rw [toList_columnText, same] at eq
  simp only [List.append_assoc] at eq
  obtain ⟨-, types⟩ := unambiguous_name hc.name fit (by rfl) (by rfl) eq
  rcases key with rfl | rfl <;> cases type : c.type <;> simp [type, DataType.name] at types

theorem unambiguous_definition :
    Unambiguous Definition.IsPlain EndsDefinition fun d => d.text.toList := by
  rintro (c | k) (c' | k') r s hx hy hr hs eq
  · obtain ⟨rfl, rest⟩ := unambiguous_column hx hy hr hs eq
    exact ⟨rfl, rest⟩
  · exact absurd eq (column_ne_constraint hx hy _ _ _)
  · exact absurd eq.symm (column_ne_constraint hy hx _ _ _)
  · obtain ⟨rfl, rest⟩ := unambiguous_constraint hx hy hr hs eq
    exact ⟨rfl, rest⟩

theorem unambiguous_definitions :
    Unambiguous (fun ds => ds ≠ [] ∧ ∀ d ∈ ds, d.IsPlain) (fun r => r.head? = some ')')
      fun ds => (Text.join ", " (ds.map Definition.text)).toList := by
  refine unambiguous_definition.joined (fun _ _ _ => .inl rfl) (fun _ h => .inr h) ?_
  rintro r h ⟨rest, rfl⟩
  exact absurd (Option.some.inj h) (by decide)

/-- The parts of a statement before its parentheses: whether it says `IF NOT EXISTS`, and a name
that may itself be `IF`. -/
theorem unambiguous_head :
    Unambiguous (fun h : Bool × String => isIdentifier h.2) (" (".toList <+: ·)
      fun h => ((if h.1 then "IF NOT EXISTS " else "") ++ h.2).toList := by
  have ends {r : List Char} (h : " (".toList <+: r) : EndsName r := by
    obtain ⟨rest, rfl⟩ := h
    rfl
  have apart {n m : String} (hm : isIdentifier m) {r s : List Char} (hs : " (".toList <+: s) :
      ("IF NOT EXISTS " ++ n).toList ++ r ≠ m.toList ++ s := by
    obtain ⟨rest, rfl⟩ := hs
    intro eq
    have word : "IF".toList ++ (" NOT EXISTS ".toList ++ (n.toList ++ r)) =
        m.toList ++ (" (".toList ++ rest) := by
      rw [← eq, String.toList_append, List.append_assoc]
      rfl
    obtain ⟨-, next⟩ := unambiguous_name (by decide) hm (by rfl) (by rfl) word
    simp at next
  rintro ⟨_ | _, n⟩ ⟨_ | _, m⟩ r s hn hm hr hs eq
  · obtain ⟨rfl, rest⟩ := unambiguous_name hn hm (ends hr) (ends hs) (by simpa using eq)
    exact ⟨rfl, rest⟩
  · exact absurd (by simpa using eq.symm) (apart hn hr)
  · exact absurd (by simpa using eq) (apart hm hs)
  · obtain ⟨rfl, rest⟩ := unambiguous_name hn hm (ends hr) (ends hs) (by simpa using eq)
    exact ⟨rfl, rest⟩

/-! ## Tables -/

/-- The definitions of a table that flags its key. -/
def definitionList (t : Table) : List Definition :=
  t.columns.map .inl ++ (tableConstraints t).map .inr

theorem mem_tableConstraints {t : Table} {k : Constraint} :
    k ∈ tableConstraints t ↔ match k with
      | .primaryKey k => t.primaryKey = .constraint k
      | .check c => c ∈ t.checks
      | .unique k => k ∈ t.unique
      | .foreignKey k => k ∈ t.foreignKeys := by
  cases key : t.primaryKey <;> cases k <;> simp [tableConstraints, key, eq_comm]

section

variable {declared declared' : Document.Table} {t u : Table}

/-- In a table that is keyed once, the key is the column with the flag. -/
theorem primaryKey_eq_column_iff (h : t.KeyedOnce declared) {i : Nat} :
    t.primaryKey = .column i ↔ ∃ c, t.columns[i]? = some c ∧ c.primaryKey.isSome := by
  unfold Table.KeyedOnce at h
  cases key : t.primaryKey with
  | column j =>
    rw [key] at h
    obtain ⟨-, c, hj, flagged, only⟩ := h
    constructor
    · rintro ⟨⟩
      exact ⟨c, hj, flagged⟩
    · rintro ⟨c', hi, flagged'⟩
      rw [only i c' hi flagged']
  | none | constraint k =>
    rw [key] at h
    constructor
    · rintro ⟨⟩
    · rintro ⟨c, hi, flagged⟩
      rw [h.2 c (List.mem_of_getElem? hi)] at flagged
      cases flagged

theorem createText_eq (t : Table) : createText t =
    "CREATE TABLE " ++ (if t.ifNotExists then "IF NOT EXISTS " else "") ++ t.name ++ " (" ++
      Text.join ", " (definitions t) ++ ")" := rfl

theorem definitions_eq (h : t.KeyedOnce declared) :
    definitions t = (definitionList t).map Definition.text := by
  have columns : t.columns.mapIdx (fun i c => columnText c (t.primaryKey = .column i)) =
      t.columns.map fun c => columnText c c.primaryKey.isSome := by
    refine List.ext_getElem? fun i => ?_
    rw [List.getElem?_mapIdx, List.getElem?_map]
    cases hi : t.columns[i]? with
    | none => rfl
    | some c => simp [primaryKey_eq_column_iff h, hi]
  rw [definitions, columns, definitionList, List.map_append, List.map_map, List.map_map]
  rfl

/-- Tables with the same columns and the same constraints have the same primary key. -/
theorem primaryKey_eq (ht : t.KeyedOnce declared) (hu : u.KeyedOnce declared')
    (columns : t.columns = u.columns) (constraints : tableConstraints t = tableConstraints u) :
    t.primaryKey = u.primaryKey := by
  have flagged (i : Nat) : t.primaryKey = .column i ↔ u.primaryKey = .column i := by
    rw [primaryKey_eq_column_iff ht, columns, primaryKey_eq_column_iff hu]
  have constrained (k : Key) : t.primaryKey = .constraint k ↔ u.primaryKey = .constraint k := by
    have written := mem_tableConstraints (t := t) (k := .primaryKey k)
    rw [constraints] at written
    exact written.symm.trans mem_tableConstraints
  cases key : t.primaryKey with
  | column i => exact ((flagged i).1 key).symm
  | constraint k => exact ((constrained k).1 key).symm
  | none =>
    cases key' : u.primaryKey with
    | column i => exact key.symm.trans ((flagged i).2 key')
    | constraint k => exact key.symm.trans ((constrained k).2 key')
    | none => rfl

end

/-- The key of a unique constraint. -/
def Constraint.unique? : Constraint → Option Key
  | .unique k => some k
  | _ => none

/-- The key of a foreign key constraint. -/
def Constraint.foreignKey? : Constraint → Option ForeignKey
  | .foreignKey k => some k
  | _ => none

theorem filterMap_unique? (t : Table) :
    (tableConstraints t).filterMap Constraint.unique? = t.unique := by
  cases key : t.primaryKey <;>
    simp [tableConstraints, key, List.filterMap_cons, List.filterMap_map, Function.comp_def,
      Constraint.unique?]

theorem filterMap_foreignKey? (t : Table) :
    (tableConstraints t).filterMap Constraint.foreignKey? = t.foreignKeys := by
  cases key : t.primaryKey <;>
    simp [tableConstraints, key, List.filterMap_cons, List.filterMap_map, Function.comp_def,
      Constraint.foreignKey?]

/-- Tables with the same name, flag and definitions are equal. -/
theorem eq_of_definitionList {declared declared' : Document.Table} {t u : Table}
    (ht : t.KeyedOnce declared) (hu : u.KeyedOnce declared') (checks : t.checks = u.checks)
    (name : t.name = u.name) (ifNotExists : t.ifNotExists = u.ifNotExists)
    (same : definitionList t = definitionList u) : t = u := by
  have columns : t.columns = u.columns := by
    simpa [definitionList, List.filterMap_map, Function.comp_def] using
      congrArg (List.filterMap Sum.getLeft?) same
  have constraints : tableConstraints t = tableConstraints u := by
    simpa [definitionList, List.filterMap_map, Function.comp_def] using
      congrArg (List.filterMap Sum.getRight?) same
  have primaryKey := primaryKey_eq ht hu columns constraints
  have unique : t.unique = u.unique := by
    rw [← filterMap_unique?, constraints, filterMap_unique?]
  have foreignKeys : t.foreignKeys = u.foreignKeys := by
    rw [← filterMap_foreignKey?, constraints, filterMap_foreignKey?]
  cases t
  cases u
  rw [Table.mk.injEq]
  exact ⟨name, ifNotExists, columns, primaryKey, unique, checks, foreignKeys⟩

/-! ## Well-formed databases -/

section

variable {d : Document.Database} (fit : d.WellFormed)

include fit in
theorem names_of_declares {table : String} {columns : List String}
    (h : d.Declares table columns) : isIdentifier table ∧ ∀ c ∈ columns, isIdentifier c := by
  obtain ⟨u, hu, rfl, has⟩ := h
  refine ⟨isIdentifier_iff.2 (fit.names u hu), fun c hc => ?_⟩
  obtain ⟨column, mem, rfl⟩ := List.mem_map.1 (has c hc)
  exact isIdentifier_iff.2 ((fit.tables u hu).names column mem)

theorem isNameList_of_owns {t : Document.Table} (fit : t.WellFormed d) {names : List String}
    (h : t.Owns names) : IsNameList names := by
  refine ⟨h.1, fun n hn => ?_⟩
  obtain ⟨column, mem, rfl⟩ := List.mem_map.1 (h.2 n hn)
  exact isIdentifier_iff.2 (fit.names column mem)

include fit in
/-- The names in a constraint of a well-formed database are identifiers. -/
theorem names_of_constraint {t : Document.Table} (mem : t ∈ d.tables) {k : Constraint}
    (written : k ∈ tableConstraints (resolveTable t)) :
    match k with
    | .check _ => True
    | .primaryKey k | .unique k => IsNameList k.columns
    | .foreignKey k => IsNameList k.columns ∧ isIdentifier k.table ∧ IsNameList k.referenced := by
  have own := fit.tables t mem
  have hk := mem_tableConstraints.1 written
  cases k with
  | primaryKey k =>
    have keyed := resolveTable_keyedOnce own.oneKey own.keyOnce
    unfold Table.KeyedOnce at keyed
    rw [hk] at keyed
    obtain ⟨k', declared, rfl⟩ := Option.map_eq_some_iff.1 keyed.1
    exact isNameList_of_owns own (own.key k' declared)
  | check c => trivial
  | unique k =>
    obtain ⟨k', hk', rfl⟩ := List.mem_map.1 hk
    exact isNameList_of_owns own (own.unique k' hk')
  | foreignKey k =>
    obtain ⟨k', hk', rfl⟩ := List.mem_map.1 hk
    obtain ⟨columns, arity, declares⟩ := own.foreignKeys k' hk'
    obtain ⟨table, referenced⟩ := names_of_declares fit declares
    refine ⟨isNameList_of_owns own columns, table, ?_, referenced⟩
    rintro empty
    rw [empty, List.length_nil, List.length_eq_zero_iff] at arity
    exact columns.1 arity

include fit in
/-- Without SQL of its own, a table of a well-formed database has definitions that can be told
apart. -/
theorem definitionList_isPlain {t : Document.Table} (mem : t ∈ d.tables)
    (plain : (resolveTable t).IsPlain) :
    definitionList (resolveTable t) ≠ [] ∧
      ∀ x ∈ definitionList (resolveTable t), Definition.IsPlain x := by
  have own := fit.tables t mem
  constructor
  · simp [definitionList, resolveTable, own.nonempty]
  rintro (c | k) hx
  · have hc : c ∈ t.columns := by simpa [definitionList, resolveTable] using hx
    refine ⟨isIdentifier_iff.2 (own.names c hc), (plain.columns c hc).1, (plain.columns c hc).2, ?_⟩
    intro r hr
    obtain ⟨table, columns⟩ := names_of_declares fit (own.references c hc r hr)
    exact ⟨table, columns _ (List.mem_singleton.2 rfl)⟩
  · have written : k ∈ tableConstraints (resolveTable t) := by simpa [definitionList] using hx
    have names := names_of_constraint fit mem written
    have hk := mem_tableConstraints.1 written
    cases k with
    | primaryKey k => exact ⟨plain.key _ hk, names⟩
    | check c =>
      rw [plain.checks] at hk
      cases hk
    | unique k => exact ⟨plain.unique _ hk, names⟩
    | foreignKey k => exact ⟨plain.foreignKeys _ hk, names⟩

end

end Schema

open Schema (ofDatabase createText)

/-- The statement that creates a table says everything about it. -/
theorem createText_injective {d e : Document.Database} {s s' : Schema} {t u : Table}
    (hd : ofDatabase d = .ok s) (he : ofDatabase e = .ok s') (ht : t ∈ s.tables)
    (hu : u ∈ s'.tables) (plain : t.IsPlain) (plain' : u.IsPlain)
    (same : createText t = createText u) : t = u := by
  obtain ⟨fit, resolved⟩ := Schema.exists_resolved hd
  obtain ⟨fit', resolved'⟩ := Schema.exists_resolved he
  obtain ⟨t', mem, rfl⟩ := resolved t ht
  obtain ⟨u', mem', rfl⟩ := resolved' u hu
  have own := fit.tables t' mem
  have own' := fit'.tables u' mem'
  have keyed := Schema.resolveTable_keyedOnce own.oneKey own.keyOnce
  have keyed' := Schema.resolveTable_keyedOnce own'.oneKey own'.keyOnce
  have parts := congrArg String.toList same
  simp only [Schema.createText_eq, Schema.definitions_eq keyed, Schema.definitions_eq keyed',
    String.toList_append, List.append_assoc] at parts
  obtain ⟨head, inner⟩ := Schema.unambiguous_head
    (x := ((Schema.resolveTable t').ifNotExists, (Schema.resolveTable t').name))
    (y := ((Schema.resolveTable u').ifNotExists, (Schema.resolveTable u').name))
    (Schema.isIdentifier_iff.2 (fit.names t' mem)) (Schema.isIdentifier_iff.2 (fit'.names u' mem'))
    (List.prefix_append _ _) (List.prefix_append _ _) (by
      simp only [String.toList_append, List.append_assoc]
      exact List.append_cancel_left parts)
  obtain ⟨ifNotExists, name⟩ := Prod.mk.inj head
  obtain ⟨definitions, -⟩ := Schema.unambiguous_definitions
    (Schema.definitionList_isPlain fit mem plain) (Schema.definitionList_isPlain fit' mem' plain')
    (by rfl) (by rfl) (List.append_cancel_left inner)
  exact Schema.eq_of_definitionList keyed keyed' (plain.checks.trans plain'.checks.symm) name
    ifNotExists definitions

namespace Keywords

/-- A table and columns named like keywords; the unique constraint has the given name. -/
def table (name : Option String) : Document.Table where
  name := "IF"
  ifNotExists := true
  columns := [
    ⟨"UNIQUE", .integer, some .abort, some .none, none, true, none, none, none⟩,
    ⟨"PRIMARY", .text, none, none, some .replace, false, none, none,
      some ⟨"IF", "UNIQUE", .cascade, .none⟩⟩]
  primaryKey := none
  unique := [⟨name, ["UNIQUE", "PRIMARY"], .none⟩]
  checks := []
  foreignKeys := [⟨none, ["UNIQUE"], "IF", ["PRIMARY"], .setNull, .noAction⟩]

def database (name : Option String) : Document.Database :=
  ⟨"words", 1, [table name], []⟩

def schema (name : Option String) : Schema :=
  ⟨"words", 1, [Schema.resolveTable (table name)], []⟩

end Keywords

open Keywords in
/-- A blank name is no name: with it the table is the same, and so is its statement. -/
theorem createText_injective_keywords :
    ofDatabase (database none) = .ok (schema none) ∧
      ofDatabase (database (some " ")) = .ok (schema (some " ")) ∧
      createText (Schema.resolveTable (table none)) =
        "CREATE TABLE IF NOT EXISTS IF (UNIQUE INTEGER NOT NULL ON CONFLICT ABORT PRIMARY KEY " ++
        "AUTOINCREMENT, PRIMARY TEXT UNIQUE ON CONFLICT REPLACE REFERENCES IF(UNIQUE) ON DELETE " ++
        "CASCADE, UNIQUE (UNIQUE, PRIMARY), FOREIGN KEY (UNIQUE) REFERENCES IF (PRIMARY) " ++
        "ON DELETE SET NULL ON UPDATE NO ACTION)" ∧
      Schema.resolveTable (table none) = Schema.resolveTable (table (some " ")) := by
  have first : ofDatabase (database none) = .ok (schema none) := by decide
  have second : ofDatabase (database (some " ")) = .ok (schema (some " ")) := by decide
  have plain (name : Option String) (blank : name.bind Text.visible? = none) :
      (Schema.resolveTable (table name)).IsPlain := by
    refine ⟨by simp [Schema.resolveTable, table], rfl, ?_, ?_, by simp [Schema.resolveTable, table]⟩
    · rintro k ⟨⟩
    · simp [Schema.resolveTable, table, Schema.resolveKey, blank]
  refine ⟨first, second, by decide +kernel, ?_⟩
  exact createText_injective first second (List.mem_singleton.2 rfl) (List.mem_singleton.2 rfl)
    (plain _ rfl) (plain _ (by decide)) (by decide +kernel)

end ResourceProvider
