import Mathlib.Data.List.Forall2
import Mathlib.Data.List.Nodup
import ResourceProvider.Schema.Resolve
/-!
# Which databases have a schema

The rules of a well-formed database, said without an order of checks: `Document.Database.WellFormed`.
Each check finds nothing wrong exactly if its rule holds, so a database has a schema exactly if it is
well formed, and then every table has its primary key in one style (`schema_accepts_iff`).
-/
namespace ResourceProvider

open Document (Column Key Check ForeignKey Database)

/-! ## The rules -/

/-- A letter or an underscore, followed by letters, digits and underscores, all of them ASCII. -/
def IsName (s : String) : Prop :=
  ∃ c rest, s.toList = c :: rest ∧ (c.isAlpha ∨ c = '_') ∧ ∀ d ∈ rest, d.isAlphanum ∨ d = '_'

namespace Document

/-- A constraint names at least one column, and only columns of its table. -/
def Table.Owns (t : Table) (names : List String) : Prop :=
  names ≠ [] ∧ ∀ n ∈ names, n ∈ t.columns.map Column.name

/-- A table of the given name is declared, and it has the columns. -/
def Database.Declares (d : Database) (table : String) (columns : List String) : Prop :=
  ∃ u ∈ d.tables, u.name = table ∧ ∀ c ∈ columns, c ∈ u.columns.map Column.name

/-- The rules for one table of a database. -/
structure Table.WellFormed (d : Database) (t : Table) : Prop where
  nonempty : t.columns ≠ []
  names : ∀ c ∈ t.columns, IsName c.name
  distinct : (t.columns.map Column.name).Nodup
  /-- At most one column is flagged as the primary key, and none beside a key of the table. -/
  oneKey : t.columns.countP (fun c => c.primaryKey.isSome) ≤ 1
  keyOnce : t.primaryKey.isSome → ∀ c ∈ t.columns, c.primaryKey = none
  /-- At most one column counts by itself, and it is the flagged key and an integer. -/
  oneCounter : t.columns.countP (fun c => c.autoIncrement) ≤ 1
  counter : ∀ c ∈ t.columns, c.autoIncrement → c.primaryKey.isSome ∧ c.type = .integer
  key : ∀ k, t.primaryKey = some k → t.Owns k.columns
  unique : ∀ k ∈ t.unique, t.Owns k.columns
  checks : ∀ c ∈ t.checks, Text.isBlank c.expression = false
  references : ∀ c ∈ t.columns, ∀ r, c.references = some r → d.Declares r.table [r.column]
  foreignKeys : ∀ k ∈ t.foreignKeys, t.Owns k.columns ∧ k.columns.length = k.referenced.length ∧
    d.Declares k.table k.referenced

/-- The rules for a database. -/
structure Database.WellFormed (d : Database) : Prop where
  version : 1 ≤ d.version ∧ d.version ≤ 2147483647
  names : ∀ t ∈ d.tables, IsName t.name
  distinct : (d.tables.map Table.name).Nodup
  tables : ∀ t ∈ d.tables, t.WellFormed d

end Document

/-- A table has its primary key where its declaration has it, and in one style only. -/
def Table.KeyedOnce (declared : Document.Table) (t : Table) : Prop :=
  match t.primaryKey with
  | .column i => declared.primaryKey = none ∧ ∃ c, t.columns[i]? = some c ∧ c.primaryKey.isSome ∧
      ∀ j c', t.columns[j]? = some c' → c'.primaryKey.isSome → j = i
  | .constraint k => declared.primaryKey.map Schema.resolveKey = some k ∧
      ∀ c ∈ t.columns, c.primaryKey = none
  | .none => declared.primaryKey = none ∧ ∀ c ∈ t.columns, c.primaryKey = none

namespace Schema

/-! ## Names -/

theorem isNameStart_iff {c : Char} : isNameStart c ↔ c.isAlpha ∨ c = '_' := by
  have alpha : c.isAlpha = (decide ('A' ≤ c ∧ c ≤ 'Z') || ('a' ≤ c && c ≤ 'z')) := rfl
  rw [alpha, Bool.decide_and, isNameStart, Bool.or_eq_true, decide_eq_true_eq]

theorem isNameChar_iff {c : Char} : isNameChar c ↔ c.isAlphanum ∨ c = '_' := by
  have alphanum : c.isAlphanum = (c.isAlpha || Text.isDigit c) := rfl
  rw [alphanum, isNameChar, Bool.or_eq_true, isNameStart_iff, Bool.or_eq_true]
  exact or_right_comm

theorem isIdentifier_iff {s : String} : isIdentifier s ↔ IsName s := by
  unfold isIdentifier IsName
  cases s.toList with
  | nil => simp
  | cons c rest =>
    simp only [Bool.and_eq_true, List.all_eq_true, isNameStart_iff, isNameChar_iff]
    constructor
    · intro h
      exact ⟨c, rest, rfl, h⟩
    · rintro ⟨_, _, same, h⟩
      cases same
      exact h

theorem isBlankChar_of_isNameStart {c : Char} (h : isNameStart c) : Text.isBlankChar c = false := by
  simp only [isNameStart, Bool.or_eq_true, Bool.and_eq_true, decide_eq_true_eq, Char.le_def,
    UInt32.le_iff_toNat_le] at h
  have code : c.toNat = c.val.toNat := rfl
  simp only [Text.isBlankChar, Text.blankRanges, List.any_cons, List.any_nil, Bool.or_false,
    Bool.or_eq_false_iff, Bool.and_eq_false_iff, decide_eq_false_iff_not, code]
  rcases h with (upper | lower) | rfl
  · change 65 ≤ c.val.toNat ∧ c.val.toNat ≤ 90 at upper
    omega
  · change 97 ≤ c.val.toNat ∧ c.val.toNat ≤ 122 at lower
    omega
  · decide

theorem identifierFault_eq_none_iff {kind : NameKind} {context : Option String} {name : String} :
    identifierFault kind context name = none ↔ IsName name := by
  rw [← isIdentifier_iff]
  unfold identifierFault
  by_cases blank : Text.isBlank name
  · -- A blank text does not even have the first character of a name.
    have unfit : ¬ isIdentifier name := by
      intro h
      unfold isIdentifier at h
      unfold Text.isBlank at blank
      cases chars : name.toList with
      | nil => simp [chars] at h
      | cons c rest =>
        rw [chars, Bool.and_eq_true] at h
        rw [chars, List.all_cons, Bool.and_eq_true, isBlankChar_of_isNameStart h.1] at blank
        cases blank.1
    simp [blank, unfit]
  · cases fit : isIdentifier name <;> simp [blank]

theorem namesFault_eq_none_iff {kind : NameKind} {context : Option String}
    {repeated : String → SchemaError} {seen names : List String} :
    namesFault kind context repeated seen names = none ↔
      (∀ n ∈ names, IsName n) ∧ names.Nodup ∧ ∀ n ∈ names, n ∉ seen := by
  induction names generalizing seen with
  | nil => simp [namesFault]
  | cons name names ih =>
    rw [namesFault, Option.or_eq_none_iff, identifierFault_eq_none_iff, List.forall_mem_cons,
      List.nodup_cons, List.forall_mem_cons]
    by_cases old : name ∈ seen
    · simp [old]
    · rw [if_neg old, ih]
      simp only [List.mem_cons, not_or]
      constructor
      · rintro ⟨first, fit, distinct, fresh⟩
        exact ⟨⟨first, fit⟩, ⟨fun h => (fresh name h).1 rfl, distinct⟩, old,
          fun n hn => (fresh n hn).2⟩
      · rintro ⟨⟨first, fit⟩, ⟨once, distinct⟩, -, fresh⟩
        exact ⟨first, fit, distinct, fun n hn => ⟨fun same => once (same ▸ hn), fresh n hn⟩⟩

/-! ## Keys -/

variable {d : Database} {t : Document.Table}

theorem keyFault_eq_none_iff :
    keyFault t = none ↔ t.columns.countP (fun c => c.primaryKey.isSome) ≤ 1 ∧
      (t.primaryKey.isSome → ∀ c ∈ t.columns, c.primaryKey = none) := by
  unfold keyFault
  rw [List.countP_eq_length_filter]
  have none_flagged : (t.columns.filter fun c => c.primaryKey.isSome) = [] ↔
      ∀ c ∈ t.columns, c.primaryKey = none := by
    simp [List.filter_eq_nil_iff]
  by_cases several : 1 < (t.columns.filter fun c => c.primaryKey.isSome).length
  · simp [several, Nat.not_le.2 several]
  · rw [← none_flagged]
    simp only [several, false_or, Nat.not_lt.1 several, true_and, ite_eq_right_iff,
      reduceCtorEq, imp_false, not_and, Decidable.not_imp_not]

/-- Where the primary key is declared once, a column that counts by itself can only be that key if
it is flagged: a key of the table would be a second one. -/
theorem autoIncrementFault_eq_none_iff (once : keyFault t = none) :
    autoIncrementFault t = none ↔ t.columns.countP (fun c => c.autoIncrement) ≤ 1 ∧
      ∀ c ∈ t.columns, c.autoIncrement → c.primaryKey.isSome ∧ c.type = .integer := by
  have counting : (∀ c ∈ t.columns, c.autoIncrement → c.primaryKey.isSome ∧ c.type = .integer) ↔
      ∀ c ∈ t.columns.filter (fun c => c.autoIncrement),
        c.primaryKey.isSome ∧ c.type = .integer := by
    simp [List.mem_filter]
  rw [counting, List.countP_eq_length_filter]
  unfold autoIncrementFault
  have declared : ∀ c ∈ t.columns.filter (fun c => c.autoIncrement), c ∈ t.columns := by
    intro c hc
    exact (List.mem_filter.1 hc).1
  generalize t.columns.filter (fun c => c.autoIncrement) = counters at declared
  -- Only a single counter is looked at more closely.
  match counters with
  | [] => simp
  | [c] =>
    have hc : c ∈ t.columns := declared c (List.mem_singleton.2 rfl)
    have alone : c.primaryKey.isSome → t.primaryKey = none := by
      intro flagged
      cases key : t.primaryKey with
      | none => rfl
      | some k =>
        rw [(keyFault_eq_none_iff.1 once).2 (by rw [key]; rfl) c hc] at flagged
        cases flagged
    cases flag : c.primaryKey with
    | none =>
      -- Whichever message it is, the counter is refused.
      by_cases composite : t.primaryKey.any fun k => 1 < k.columns.length
      · simp [composite, flag]
      · simp [composite, flag]
    | some p =>
      rw [alone (by rw [flag]; rfl)]
      simp [flag]
  | _ :: _ :: _ => simp

/-! ## Constraints -/

theorem ownColumnsFault_eq_none_iff {names : List String} :
    ownColumnsFault t names = none ↔ t.Owns names := by
  unfold ownColumnsFault Document.Table.Owns
  by_cases empty : names = []
  · simp [empty]
  · simp [empty]

theorem checkFault_eq_none_iff {c : Check} :
    checkFault t c = none ↔ Text.isBlank c.expression = false := by
  unfold checkFault
  cases Text.isBlank c.expression <;> simp

/-- Tables are looked up by their names, so these must differ. -/
theorem targetFault_eq_none_iff (distinct : (d.tables.map Document.Table.name).Nodup)
    {table : String} {columns : List String} :
    targetFault d t table columns = none ↔ d.Declares table columns := by
  unfold targetFault Document.Database.Declares
  cases found : d.tables.find? fun u => u.name = table with
  | none =>
    have missing : ∀ u ∈ d.tables, u.name ≠ table := by simpa using found
    constructor
    · intro h
      cases h
    · rintro ⟨u, hu, same, -⟩
      exact absurd same (missing u hu)
  | some u =>
    have hu := List.mem_of_find?_eq_some found
    have same : u.name = table := by simpa using List.find?_some found
    -- The table that is found is the only one of its name.
    have only : ∀ u' ∈ d.tables, u'.name = table → u' = u := by
      intro u' hu' same'
      exact List.inj_on_of_nodup_map distinct hu' hu (same'.trans same.symm)
    by_cases has : ∀ c ∈ columns, c ∈ u.columns.map Column.name
    · have all : (columns.all fun c => c ∈ u.columns.map Column.name) := by simpa using has
      simp only [all, if_true, true_iff]
      exact ⟨u, hu, same, has⟩
    · have all : (columns.all fun c => c ∈ u.columns.map Column.name) = false := by simpa using has
      simp only [all, Bool.false_eq_true, if_false, reduceCtorEq, false_iff]
      rintro ⟨u', hu', same', has'⟩
      rw [only u' hu' same'] at has'
      exact has has'

theorem foreignKeyFault_eq_none_iff (distinct : (d.tables.map Document.Table.name).Nodup)
    {k : ForeignKey} :
    foreignKeyFault d t k = none ↔ t.Owns k.columns ∧ k.columns.length = k.referenced.length ∧
      d.Declares k.table k.referenced := by
  unfold foreignKeyFault
  rw [Option.or_eq_none_iff, ownColumnsFault_eq_none_iff, ← targetFault_eq_none_iff (t := t) distinct]
  by_cases fits : k.columns.length = k.referenced.length
  · simp [fits]
  · simp [fits]

/-! ## Databases -/

theorem tableFault_eq_none_iff (distinct : (d.tables.map Document.Table.name).Nodup) :
    tableFault d t = none ↔ t.WellFormed d := by
  unfold tableFault
  simp only [Option.or_eq_none_iff, namesFault_eq_none_iff, ite_eq_right_iff, reduceCtorEq,
    imp_false, List.findSome?_eq_none_iff, Option.bind_eq_none_iff, ownColumnsFault_eq_none_iff,
    checkFault_eq_none_iff, targetFault_eq_none_iff distinct, foreignKeyFault_eq_none_iff distinct]
  constructor
  · rintro ⟨nonempty, ⟨names, columns, -⟩, once, auto, key, unique, checks, references, foreign⟩
    obtain ⟨oneKey, keyOnce⟩ := keyFault_eq_none_iff.1 once
    obtain ⟨oneCounter, counter⟩ := (autoIncrementFault_eq_none_iff once).1 auto
    exact ⟨nonempty, fun c hc => names _ (List.mem_map_of_mem hc), columns, oneKey, keyOnce,
      oneCounter, counter, key, unique, checks, references, foreign⟩
  · intro h
    have once := keyFault_eq_none_iff.2 ⟨h.oneKey, h.keyOnce⟩
    refine ⟨h.nonempty, ⟨?_, h.distinct, by simp⟩, once,
      (autoIncrementFault_eq_none_iff once).2 ⟨h.oneCounter, h.counter⟩, h.key, h.unique, h.checks,
      h.references, h.foreignKeys⟩
    intro n hn
    obtain ⟨c, hc, rfl⟩ := List.mem_map.1 hn
    exact h.names c hc

theorem databaseFault_eq_none_iff : databaseFault d = none ↔ d.WellFormed := by
  unfold databaseFault maxVersion
  simp only [Option.or_eq_none_iff, namesFault_eq_none_iff, ite_eq_right_iff, reduceCtorEq,
    imp_false, List.findSome?_eq_none_iff]
  constructor
  · rintro ⟨version, ⟨names, distinct, -⟩, tables⟩
    refine ⟨by omega, fun t ht => names _ (List.mem_map_of_mem ht), distinct, ?_⟩
    intro t ht
    exact (tableFault_eq_none_iff distinct).1 (tables t ht)
  · intro h
    have version := h.version
    refine ⟨by omega, ⟨?_, h.distinct, by simp⟩, ?_⟩
    · intro n hn
      obtain ⟨t, ht, rfl⟩ := List.mem_map.1 hn
      exact h.names t ht
    · intro t ht
      exact (tableFault_eq_none_iff h.distinct).2 (h.tables t ht)

/-! ## Keys of the schema -/

/-- If at most one element satisfies `p`, it stands at one position. -/
theorem index_unique_of_countP {α : Type} {p : α → Bool} {xs : List α} (one : xs.countP p ≤ 1)
    {i j : Nat} {x y : α} (hi : xs[i]? = some x) (px : p x) (hj : xs[j]? = some y) (py : p y) :
    i = j := by
  induction xs generalizing i j with
  | nil => simp at hi
  | cons z zs ih =>
    rw [List.countP_cons] at one
    -- An element of the rest that satisfies `p` leaves no room for the first to do so.
    have rest : ∀ {k : Nat} {w : α}, zs[k]? = some w → p w → p z = false := by
      intro k w hk pw
      have pos := List.countP_pos_iff.2 ⟨w, List.mem_of_getElem? hk, pw⟩
      by_contra pz
      rw [if_pos (by simpa using pz)] at one
      omega
    cases i with
    | zero =>
      cases hi
      cases j with
      | zero => rfl
      | succ j =>
        rw [rest hj py] at px
        cases px
    | succ i =>
      cases j with
      | zero =>
        cases hj
        rw [rest hi px] at py
        cases py
      | succ j => rw [ih (Nat.le_trans (Nat.le_add_right _ _) one) hi hj]

theorem resolveTable_keyedOnce (oneKey : t.columns.countP (fun c => c.primaryKey.isSome) ≤ 1)
    (keyOnce : t.primaryKey.isSome → ∀ c ∈ t.columns, c.primaryKey = none) :
    (resolveTable t).KeyedOnce t := by
  unfold resolveTable Table.KeyedOnce
  cases key : t.primaryKey with
  | some k => exact ⟨rfl, keyOnce (by rw [key]; rfl)⟩
  | none =>
    cases found : t.columns.findIdx? fun c => c.primaryKey.isSome with
    | none =>
      refine ⟨rfl, fun c hc => ?_⟩
      simpa using List.findIdx?_eq_none_iff.1 found c hc
    | some i =>
      obtain ⟨bound, flagged, -⟩ := List.findIdx?_eq_some_iff_getElem.1 found
      have hi := List.getElem?_eq_getElem bound
      refine ⟨rfl, _, hi, flagged, ?_⟩
      intro j c hj hc
      exact index_unique_of_countP oneKey hj hc hi flagged

end Schema

/-- A database has a schema exactly if it is well formed, and then each table has its primary key in
exactly one style. -/
theorem schema_accepts_iff (d : Database) :
    ((∃ s, Schema.ofDatabase d = .ok s) ↔ d.WellFormed) ∧
      ∀ s, Schema.ofDatabase d = .ok s → List.Forall₂ Table.KeyedOnce d.tables s.tables := by
  unfold Schema.ofDatabase
  cases fault : Schema.databaseFault d with
  | some e =>
    have unfit : ¬ d.WellFormed := by
      rw [← Schema.databaseFault_eq_none_iff, fault]
      simp
    simp [unfit]
  | none =>
    have fit := Schema.databaseFault_eq_none_iff.1 fault
    refine ⟨⟨fun _ => fit, fun _ => ⟨_, rfl⟩⟩, ?_⟩
    rintro s ⟨⟩
    rw [List.forall₂_map_right_iff, List.forall₂_same]
    intro t ht
    exact Schema.resolveTable_keyedOnce (fit.tables t ht).oneKey (fit.tables t ht).keyOnce

end ResourceProvider
