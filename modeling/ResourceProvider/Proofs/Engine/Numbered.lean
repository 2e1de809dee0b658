import ResourceProvider.Proofs.Engine.Kept
import ResourceProvider.Proofs.Engine.Settled
/-!
# Rows by their numbers

A table keeps its rows in the order of their numbers, and the column that is declared for the rowid
has the number of each row. Changes of rows keep that because each of their steps does
(`Step.numbered`), and so do declarations of tables (`numbered_kept`). So it is true of every
database that statements lead to (`Reached.numbered`). A new row is given a number of 64 bits
(`Table.newRowid?_lt`).
-/
namespace ResourceProvider.Engine

/-- The rows stand in the order of their numbers, and the column that is declared for the rowid
holds integers: the number of each row. -/
structure Table.Numbered (t : Table) : Prop where
  ordered : t.rows.Pairwise fun r s => r.rowid < s.rowid
  integer : ∀ k, t.rowidKey = some k → t.affinityAt k.column = .integer
  rows : ∀ r ∈ t.rows, t.Numbers r

/-- Every table has its rows by their numbers. -/
def Database.Numbered (db : Database) : Prop :=
  ∀ t ∈ db.tables, t.Numbered

/-! ## Rows -/

namespace Table

variable {t : Table} {r : Row} {rows : List Row}

theorem mem_of_mem_insertRow {s : Row} (h : s ∈ insertRow r rows) : s = r ∨ s ∈ rows := by
  induction rows with
  | nil => exact .inl (List.mem_singleton.1 h)
  | cons u rows ih =>
    unfold insertRow at h
    split at h
    · exact List.mem_cons.1 h
    · split at h
      · exact (List.mem_cons.1 h).imp_right (List.mem_cons_of_mem u)
      · rcases List.mem_cons.1 h with rfl | later
        · exact .inr List.mem_cons_self
        · exact (ih later).imp_right (List.mem_cons_of_mem u)

theorem insertRow_ordered (ordered : rows.Pairwise fun r s => r.rowid < s.rowid) (r : Row) :
    (insertRow r rows).Pairwise fun r s => r.rowid < s.rowid := by
  induction rows with
  | nil => exact List.pairwise_singleton _ r
  | cons u rows ih =>
    have whole := ordered
    rw [List.pairwise_cons] at ordered
    unfold insertRow
    split
    · rename_i first
      refine List.pairwise_cons.2 ⟨List.forall_mem_cons.2 ⟨first, fun s hs => ?_⟩, whole⟩
      exact Int.lt_trans first (ordered.1 s hs)
    · split
      · rename_i same
        exact List.pairwise_cons.2 ⟨fun s hs => same ▸ ordered.1 s hs, ordered.2⟩
      · refine List.pairwise_cons.2 ⟨fun s hs => ?_, ih ordered.2⟩
        rcases mem_of_mem_insertRow hs with rfl | later
        · omega
        · exact ordered.1 s later

/-- The table with one more column, which has the same value in every row. -/
def widened (t : Table) (c : Column) (value : Cell) : Table :=
  { t with
    columns := t.columns ++ [c]
    rows := t.rows.map fun r => { r with cells := r.cells ++ [value] } }

namespace Numbered

theorem put (h : t.Numbered) (numbers : t.Numbers r) : (t.put r).Numbered where
  ordered := insertRow_ordered h.ordered r
  integer := h.integer
  rows := fun s hs => by
    rcases mem_of_mem_insertRow hs with rfl | there
    · exact numbers
    · exact h.rows s there

theorem remove (h : t.Numbered) (rowid : Int) : (t.remove rowid).Numbered where
  ordered := h.ordered.filter _
  integer := h.integer
  rows := fun s hs => h.rows s (List.mem_of_mem_filter hs)

theorem counted (h : t.Numbered) (n : Int) : Numbered { t with sequence := n } :=
  ⟨h.ordered, h.integer, h.rows⟩

/-- A column that is added leaves the one of the rowid where it is. -/
theorem widened (h : t.Numbered) (c : Column) (value : Cell) : (t.widened c value).Numbered where
  ordered := List.pairwise_map.2 h.ordered
  integer := fun k hk => by
    have integer := h.integer k hk
    rw [affinityAt, Table.widened, List.getElem?_append_left (Database.affinityAt_lt integer)]
    exact integer
  rows := fun s hs k hk _ => by
    obtain ⟨r, hr, rfl⟩ := List.mem_map.1 hs
    have here := h.rows r hr k hk (h.integer k hk)
    rw [List.getElem?_append_left (List.getElem?_eq_some_iff.1 here).1]
    exact here

end Numbered

end Table

/-! ## Steps -/

namespace Database

variable {db db' : Database} {t u : Table}

theorem Step.numbered (step : Step db db') (h : db.Keeps Table.Numbered) :
    db'.Keeps Table.Numbered := by
  cases step with
  | remove found rowid => exact h.setTable ((h.table? found).remove rowid)
  | write found old numbers => exact h.setTable (((h.table? found).remove old).put numbers)
  | add found numbers => exact h.setTable ((h.table? found).put numbers)
  | count found n => exact h.setTable ((h.table? found).counted n)
  | recount f =>
    intro t ht
    obtain ⟨t', ht', rfl⟩ := List.mem_map.1 ht
    exact (h t' ht').counted (f t')
  | note n => exact h

theorem Steps.numbered (steps : Steps db db') (h : db.Keeps Table.Numbered) :
    db'.Keeps Table.Numbered := by
  induction steps with
  | refl => exact h
  | tail _ step ih => exact step.numbered ih

/-! ## Changes of rows -/

theorem settle_steps {ran : Database × Except (Refusal × Bool) Nat} (steps : Steps db ran.1) :
    Steps db (settle db ran).1 := by
  obtain ⟨after, ended⟩ := ran
  have undone : Steps db (undoTo db after) := .single (.note db after.lastRowid)
  cases ended with
  | ok count =>
    simp only [settle]
    split
    · exact undone
    · exact steps
  | error end_ =>
    obtain ⟨e, keeps⟩ := end_
    simp only [settle]
    split
    · exact undone
    · split
      · exact undone
      · exact steps.tail (.recount after _)

/-- Every way to stop is allowed by one of two policies. -/
theorem allowed_always (stop : Stop) : stop.AllowedBy [.ignore, .fail] := by
  cases stop with
  | skip => exact List.mem_cons_self
  | halt e keeps => exact fun _ => List.mem_cons_of_mem _ List.mem_cons_self

theorem addRow_steps {name : String} (found : db.table? name = some t) (policy : ConflictPolicy)
    (alone : Bool) {cells : List Cell} (width : cells.length = t.columns.length) :
    Steps db (addRow policy alone name cells db).1 ∧
      StepsFrom db [.ignore, .fail] (addRow policy alone name cells db).2 := by
  rw [addRow_eq found]
  cases t.newRowid? cells with
  | none => exact ⟨.refl, .refused db _⟩
  | some rowid =>
    obtain ⟨n, counts⟩ := using_eq t rowid
    have counted : Steps db (db.setTable (t.using rowid)) := .single (counts ▸ .count found n)
    have there : (db.setTable (t.using rowid)).table? name = some (t.using rowid) :=
      table?_setTable_self found (by rw [counts])
    have placed := place_adds there (holds_withRowid (by rw [width, counts]) rowid) policy alone
    refine ⟨counted, ?_⟩
    dsimp only
    cases attempt : (db.setTable (t.using rowid)).place policy alone name (t.using rowid) rowid
        ((t.using rowid).withRowid rowid cells) with
    | error stop => exact allowed_always stop
    | ok db' =>
      rw [attempt] at placed
      obtain ⟨r, -, adds⟩ := placed
      exact counted.trans adds.steps

/-- Rows that are added to a table, one after another. -/
theorem addRows_steps (found : db.table? t.name = some t) (policy : ConflictPolicy) (alone : Bool)
    (places : List Nat) (values : List (List Cell)) :
    Steps db (db.changeEach
      (fun v => addRow policy alone t.name (withDefaults t places v)) values 0).1 := by
  have each (v : List Cell) (db' : Database) (steps : Steps db db') :
      Steps db' (addRow policy alone t.name (withDefaults t places v) db').1 ∧ StepsFrom db'
        [.ignore, .fail] (addRow policy alone t.name (withDefaults t places v) db').2 := by
    have same := steps.declared t.name
    rw [found, Option.map_some, Option.map_eq_some_iff] at same
    obtain ⟨t', found', declared⟩ := same
    refine addRow_steps found' policy alone ?_
    rw [length_withDefaults]
    exact congrArg (fun t => t.columns.length) declared.symm
  exact (changeEach_steps 0 (fun v _ => each v) .refl).1

theorem insert_steps (db : Database) (params : List Cell) (policy : ConflictPolicy) (name : String)
    (columns : Option (List String)) (rows : Option (List (List Written))) :
    Steps db (db.insert params policy name columns rows).1 := by
  rcases db.insert_rows params policy name columns rows with
    refused | ⟨t, places, values, alone, found, -, run⟩
  · rw [refused]
    exact .refl
  · rw [run]
    exact settle_steps (addRows_steps (table?_name found) policy alone places values)

/-- Rows of a table that are given new values, one after another. -/
theorem changeRows_steps (found : db.table? t.name = some t) (params : List Cell)
    (policy : ConflictPolicy) (assigned : List (Nat × Expr Place)) (rows : List Row) :
    Steps db (db.changeEach
      (fun r db => (db, changeRow params policy t.name assigned r.rowid db)) rows 0).1 :=
  (changeEach_steps 0 (fun r _ _ steps => ⟨.refl,
    (changeRow_steps found steps params policy assigned r.rowid).mono
      fun stop _ => allowed_always stop⟩) .refl).1

theorem update_steps (db : Database) (params : List Cell) (policy : ConflictPolicy) (name : String)
    (changes : List (String × Written)) (condition : Option Written) :
    Steps db (db.update params policy name changes condition).1 := by
  rcases update_rows db params policy name changes condition with
    refused | ⟨t, assigned, rows, found, -, -, run⟩
  · rw [refused]
    exact .refl
  · rw [run]
    exact settle_steps (changeRows_steps (table?_name found) params policy assigned rows)

/-- Rows of a table that go away, one after another. -/
theorem removeEach_steps (db : Database) (name : String) (rows : List Row) :
    Steps db (db.changeEach (fun r db => (db, removeRow name r.rowid db)) rows 0).1 :=
  (changeEach_steps 0 (fun r _ db' _ => ⟨.refl,
    (removeRow_steps name r.rowid db').mono fun stop _ => allowed_always stop⟩) .refl).1

theorem removeRows_steps (db : Database) (name : String) (rows : List Row) :
    Steps db (db.removeRows name rows).1 :=
  settle_steps (removeEach_steps db name rows)

theorem delete_steps (db : Database) (params : List Cell) (name : String)
    (condition : Option Written) : Steps db (db.delete params name condition).1 := by
  rcases delete_rows db params name condition with refused | ⟨t, -, run⟩
  · rw [refused]
    exact .refl
  · rw [run]
    exact db.removeRows_steps t.name _

end Database

/-! ## Numbers of new rows -/

/-- An integer has 64 bits with a sign. -/
def Cell.Fits : Cell → Prop
  | .int n => fits n
  | _ => True

theorem preferInt_fits (x : Float) : (preferInt x).Fits := by
  unfold preferInt
  split
  · split
    · simp [Cell.Fits, fits]
      omega
    · trivial
  · trivial

theorem scanNumeric_fits {cs rest : List Char} {c : Cell} (h : scanNumeric cs = some (c, rest)) :
    c.Fits := by
  simp only [scanNumeric, Option.ite_none_left_eq_some] at h
  obtain ⟨-, h⟩ := h
  generalize (if (scanSign cs).1 = true then -(_ : Int) else _) = i at h
  split at h
  · cases h
    trivial
  · rcases ite_eq_iff.1 h with ⟨⟨-, small⟩, same⟩ | ⟨-, same⟩
    · cases same
      exact small
    · cases same
      trivial

theorem numberOfText?_fits {s : String} {c : Cell} (h : numberOfText? s = some c) : c.Fits := by
  unfold numberOfText? at h
  split at h
  · rename_i scanned
    split at h
    · cases h
      exact scanNumeric_fits scanned
    · cases h
  · cases h

theorem Affinity.apply_integer_fits {c : Cell} (h : c.Fits) : (Affinity.integer.apply c).Fits := by
  cases c with
  | null | blob _ | garbled _ => trivial
  | int n => exact h
  | real x => exact preferInt_fits x
  | text s =>
    simp only [Affinity.apply]
    split
    · exact preferInt_fits _
    · rename_i number
      exact numberOfText?_fits number
    · trivial

/-- A new row has a number of 64 bits. -/
theorem Table.newRowid?_lt {t : Table} {cells : List Cell} {n : Int}
    (h : ∀ k c, t.rowidKey = some k → cells[k.column]? = some c → c.Fits)
    (made : t.newRowid? cells = some n) : n < 0x8000000000000000 := by
  have next (made : t.nextRowid? = some n) : n < 0x8000000000000000 := by
    simp only [nextRowid?, Option.ite_none_right_eq_some, Option.some.injEq] at made
    omega
  unfold newRowid? at made
  split at made
  · rename_i m given
    cases made
    obtain ⟨k, key, same⟩ := Option.map_eq_some_iff.1 given
    have small : (Affinity.integer.apply ((cells[k.column]?).getD .null)).Fits := by
      refine Affinity.apply_integer_fits ?_
      cases here : cells[k.column]? with
      | none => trivial
      | some c => exact h k c key here
    rw [same] at small
    simp only [Cell.Fits, fits, Bool.and_eq_true, decide_eq_true_eq] at small
    exact small.2
  · exact next made
  · exact next made
  · cases made

/-- The rowid has no default, so a row that is added has it from the values. -/
theorem withDefaults_fits {t : Table} {places : List Nat} {values : List Cell}
    (h : ∀ c ∈ values, c.Fits) (k : RowidKey) (c : Cell) (key : t.rowidKey = some k)
    (here : (Database.withDefaults t places values)[k.column]? = some c) : c.Fits := by
  simp only [Database.withDefaults, List.getElem?_mapIdx, Option.map_eq_some_iff, key,
    Option.any_some, decide_true, if_true] at here
  obtain ⟨column, -, rfl⟩ := here
  cases given : (places.zip values).lookup k.column with
  | none => trivial
  | some c =>
    obtain ⟨before, after, split, -⟩ := List.lookup_eq_some_iff.1 given
    have pair : (k.column, c) ∈ places.zip values := by simp [split]
    exact h c (List.of_mem_zip pair).2

/-- The values of placeholders are parameters. -/
theorem constants?_fits {params values : List Cell} {row : List Written}
    (marks : ∀ e ∈ row, ∃ k, e = .param k) (h : ∀ c ∈ params, c.Fits)
    (read : Database.constants? params row = some values) : ∀ c ∈ values, c.Fits := by
  intro c hc
  obtain ⟨e, he, value⟩ := mem_of_mapM read hc
  obtain ⟨k, rfl⟩ := marks e he
  cases value
  cases given : params[k]? with
  | none => trivial
  | some c => exact h c (List.mem_of_getElem? given)

namespace Database

/-- A row that is added, and not left out, has the number that its values ask for. -/
theorem insert_rowid {db db' : Database} {params : List Cell} {policy : ConflictPolicy}
    {name : String} {columns : Option (List String)} {rows : Option (List (List Written))}
    {outcome : Outcome} (one : (rows.getD [[]]).length = 1)
    (inserted : db.insert params policy name columns rows = (db', .ok outcome))
    (added : outcome.changes = 1) :
    ∃ (t : Table) (places : List Nat) (v : List Cell),
      (rows.getD [[]]).mapM (constants? params) = some [v] ∧
        t.newRowid? (withDefaults t places v) = some db'.lastRowid := by
  rcases db.insert_row params policy name columns one with
    refused | ⟨t, places, v, alone, found, read, run⟩
  · rw [refused] at inserted
    cases (Prod.mk.inj inserted).2
  · rw [run] at inserted
    obtain ⟨count, made, rfl⟩ := settle_ok inserted
    cases added
    refine ⟨t, places, v, read, ?_⟩
    rw [changeEach, addRow_eq (table?_name found)] at made
    cases number : t.newRowid? (withDefaults t places v) with
    | none =>
      rw [number] at made
      cases made
    | some rowid =>
      rw [number] at made
      dsimp only at made
      obtain ⟨n, counts⟩ := using_eq t rowid
      have there : (db.setTable (t.using rowid)).table? t.name = some (t.using rowid) :=
        table?_setTable_self (table?_name found) (by rw [counts])
      have width : (withDefaults t places v).length = (t.using rowid).columns.length := by
        rw [length_withDefaults, counts]
      have holds := holds_withRowid width rowid
      have placed := place_adds there holds policy alone
      split at made
      · rename_i attempt
        rw [(Prod.mk.inj attempt).2] at placed
        obtain ⟨r, rfl, adds⟩ := placed
        cases made
        exact congrArg some adds.lastRowid.symm
      · cases made
      · cases made

end Database

/-! ## Declarations -/

theorem foldlM_keeps {α β : Type} {P : β → Prop} {f : β → α → Option β} {xs : List α}
    (h : ∀ x ∈ xs, ∀ b b', P b → f b x = some b' → P b') {b b' : β} (hb : P b)
    (made : xs.foldlM f b = some b') : P b' := by
  induction xs generalizing b with
  | nil =>
    cases made
    exact hb
  | cons x xs ih =>
    rw [List.forall_mem_cons] at h
    obtain ⟨b₁, first, rest⟩ := Option.bind_eq_some_iff.1 made
    exact ih h.2 (h.1 b b₁ hb first) rest

/-- The type of a rowid has the affinity of integers. -/
theorem Affinity.ofType_of_isRowidType {type : String} (h : isRowidType type) :
    Affinity.ofType type = .integer := by
  have lower : Text.lower type = Text.lower "integer" := Database.sameName_iff.1 h
  have part : occursIn "int".toList (Text.lower "integer").toList = true := by decide
  unfold Affinity.ofType
  simp only [lower, part, if_true]

/-- A rule of a column changes neither its name nor its affinity. -/
theorem ColumnSpec.declared_of_column? {spec : ColumnSpec} {c : Column}
    (made : spec.column? = some c) :
    c.name = spec.name ∧ c.affinity = Affinity.ofType spec.type := by
  refine foldlM_keeps (P := fun c => c.name = spec.name ∧ c.affinity = Affinity.ofType spec.type)
    (fun rule _ c c' h made => ?_) ⟨rfl, rfl⟩ made
  split at made
  · cases made
    exact h
  · split at made
    · cases made
    · split at made
      · cases made
      · obtain ⟨v, -, rfl⟩ := Option.map_eq_some_iff.1 made
        exact h
  · cases made
    exact h

theorem ColumnSpec.affinity_of_column? {spec : ColumnSpec} {c : Column}
    (made : spec.column? = some c) : c.affinity = Affinity.ofType spec.type :=
  (ColumnSpec.declared_of_column? made).2

theorem names_of_mapM {specs : List ColumnSpec} {columns : List Column}
    (made : specs.mapM ColumnSpec.column? = some columns) :
    columns.map Column.name = specs.map ColumnSpec.name := by
  have pairs := forall₂_of_mapM made
  clear made
  induction pairs with
  | nil => rfl
  | cons first _ ih =>
    rw [List.map_cons, List.map_cons, ih, (ColumnSpec.declared_of_column? first).1]

/-- The columns that are declared with the type of rowids are columns of integers. -/
def TypedBy (columns : List Column) (types : List String) : Prop :=
  ∀ (i : Nat) (type : String), types[i]? = some type → isRowidType type →
    (columns[i]?).map Column.affinity = some .integer

theorem typedBy_of_mapM {specs : List ColumnSpec} {columns : List Column}
    (made : specs.mapM ColumnSpec.column? = some columns) :
    TypedBy columns (specs.map ColumnSpec.type) := by
  intro i type here rowid
  have pairs := forall₂_of_mapM made
  rw [List.getElem?_map, Option.map_eq_some_iff] at here
  obtain ⟨spec, hspec, rfl⟩ := here
  obtain ⟨inside, rfl⟩ := List.getElem?_eq_some_iff.1 hspec
  have inside' : i < columns.length := pairs.length_eq ▸ inside
  have column := ColumnSpec.affinity_of_column? (pairs.get inside inside')
  rw [List.getElem?_eq_getElem inside', Option.map_some]
  exact congrArg some (column.trans (Affinity.ofType_of_isRowidType rowid))

namespace Table

variable {t t' : Table}

/-- The table without its constraints, but for the column of the rowid. -/
def stripped (t : Table) : Table :=
  { t with keys := [], checks := [], foreignKeys := [] }

theorem Numbered.congr (h : t.Numbered) (same : t'.stripped = t.stripped) : t'.Numbered := by
  have stripped : t.stripped.Numbered := ⟨h.ordered, h.integer, h.rows⟩
  rw [← same] at stripped
  exact ⟨stripped.ordered, stripped.integer, stripped.rows⟩

theorem addCheck_stripped {label : String} {condition : Written}
    (made : t.addCheck label condition = some t') : t'.stripped = t.stripped := by
  unfold addCheck at made
  split at made
  · cases made
  · obtain ⟨e, -, rfl⟩ := Option.map_eq_some_iff.1 made
    rfl

theorem addForeignKey_stripped {columns : List String} {target : Target}
    (made : t.addForeignKey columns target = some t') : t'.stripped = t.stripped := by
  unfold addForeignKey at made
  split at made
  · cases made
  · split at made
    · cases made
    · cases made
      rfl

theorem defer_stripped (t : Table) (deferred : Bool) :
    (t.defer deferred).stripped = t.stripped := by
  unfold defer
  split <;> rfl

theorem addColumnRule_stripped {name : String} {rule : ColumnRule}
    (made : t.addColumnRule name rule = some t') : t'.stripped = t.stripped := by
  unfold addColumnRule at made
  split at made
  · exact addCheck_stripped made
  · split at made
    · cases made
    · exact addForeignKey_stripped made
  · cases made
    exact defer_stripped t _
  · cases made
    rfl

theorem addKeys_stripped {keys : Option (List Key)}
    (made : (keys.map fun keys => { t with keys }) = some t') : t'.stripped = t.stripped := by
  obtain ⟨keys, -, rfl⟩ := Option.map_eq_some_iff.1 made
  rfl

/-- A primary key is a key like others, or the rowid of a column of integers. -/
theorem addPrimaryKey_stripped {places : List Nat} {isInteger auto : Bool} {policy : ConflictPolicy}
    (made : t.addPrimaryKey places isInteger policy auto = some t') :
    t'.stripped = t.stripped ∨ ∃ i, places = [i] ∧ isInteger ∧
      t'.stripped = { t.stripped with rowidKey := some ⟨i, policy, auto⟩ } := by
  unfold addPrimaryKey at made
  split at made
  · cases made
  · split at made
    · rename_i i
      split at made
      · rename_i integer
        cases made
        exact .inr ⟨i, rfl, integer, rfl⟩
      · split at made
        · cases made
        · exact .inl (addKeys_stripped made)
    · exact .inl (addKeys_stripped made)

/-- The table has the given columns and no rows, and its rowid is a column of integers. -/
structure Fresh (columns : List Column) (t : Table) : Prop where
  columns : t.columns = columns
  rows : t.rows = []
  integer : ∀ k, t.rowidKey = some k → t.affinityAt k.column = .integer

namespace Fresh

variable {columns : List Column}

theorem numbered (h : t.Fresh columns) : t.Numbered where
  ordered := by simp [h.rows]
  integer := h.integer
  rows := by simp [h.rows]

theorem congr (h : t.Fresh columns) (same : t'.stripped = t.stripped) : t'.Fresh columns := by
  have stripped : t.stripped.Fresh columns := ⟨h.columns, h.rows, h.integer⟩
  rw [← same] at stripped
  exact ⟨stripped.columns, stripped.rows, stripped.integer⟩

theorem addPrimaryKey (h : t.Fresh columns) {places : List Nat} {isInteger auto : Bool}
    {policy : ConflictPolicy} (integer : ∀ i, places = [i] → isInteger → t.affinityAt i = .integer)
    (made : t.addPrimaryKey places isInteger policy auto = some t') : t'.Fresh columns := by
  rcases addPrimaryKey_stripped made with same | ⟨i, single, typed, same⟩
  · exact h.congr same
  · have stripped : Fresh columns { t.stripped with rowidKey := some ⟨i, policy, auto⟩ } :=
      ⟨h.columns, h.rows, fun k hk => by cases hk; exact integer i single typed⟩
    rw [← same] at stripped
    exact ⟨stripped.columns, stripped.rows, stripped.integer⟩

theorem affinityAt (h : t.Fresh columns) {types : List String} (typed : TypedBy columns types)
    {i : Nat} {type : String} (here : types[i]? = some type) (rowid : isRowidType type) :
    t.affinityAt i = .integer := by
  rw [Table.affinityAt, h.columns, typed i type here rowid]
  rfl

theorem addColumnKey (h : t.Fresh columns) {types : List String} (typed : TypedBy columns types)
    {i : Nat} {type : String} (here : types[i]? = some type) {rule : ColumnRule}
    (made : t.addColumnKey i type rule = some t') : t'.Fresh columns := by
  unfold Table.addColumnKey at made
  split at made
  · refine h.addPrimaryKey (fun j single rowid => ?_) made
    cases single
    rw [Bool.and_eq_true] at rowid
    exact h.affinityAt typed here rowid.1
  · exact h.congr (addKeys_stripped made)
  · cases made
    exact h

theorem addRule (h : t.Fresh columns) {types : List String} (typed : TypedBy columns types)
    {rule : TableRule} (made : t.addRule types rule = some t') : t'.Fresh columns := by
  unfold Table.addRule at made
  split at made
  · split at made
    · cases made
    · refine h.addPrimaryKey (fun i single rowid => ?_) made
      subst single
      dsimp only at rowid
      cases here : types[i]? with
      | none => simp [here] at rowid
      | some type => exact h.affinityAt typed here (by simpa [here] using rowid)
  · split at made
    · cases made
    · exact h.congr (addKeys_stripped made)
  · exact h.congr (addCheck_stripped made)
  · exact h.congr (addForeignKey_stripped made)

end Fresh

end Table

/-- A table that is declared has the declared columns, of which no two have one name, and no rows,
and its rowid is a column of integers. -/
theorem TableSpec.fresh_of_table? {spec : TableSpec} {t : Table} (made : spec.table? = some t) :
    ∃ columns, spec.columns.mapM ColumnSpec.column? = some columns ∧
      distinctNames (columns.map Column.name) ∧ t.Fresh columns := by
  obtain ⟨columns, hcolumns, made⟩ := Option.bind_eq_some_iff.1 made
  split at made
  · cases made
  rename_i distinct
  obtain ⟨keyed, hkeyed, made⟩ := Option.bind_eq_some_iff.1 made
  obtain ⟨ruled, hruled, made⟩ := Option.bind_eq_some_iff.1 made
  have typed := typedBy_of_mapM hcolumns
  have bare : Table.Fresh columns ⟨spec.name, columns, none, [], [], [], [], 0⟩ :=
    ⟨rfl, rfl, fun k hk => by cases hk⟩
  have first : keyed.Fresh columns := by
    refine foldlM_keeps (fun x hx u u' fresh made => ?_) bare hkeyed
    have here : (spec.columns.map ColumnSpec.type)[x.2]? = some x.1.type := by
      rw [List.getElem?_map, List.mem_zipIdx_iff_getElem?.1 hx]
      rfl
    exact foldlM_keeps (fun rule _ u u' fresh made => fresh.addColumnKey typed here made) fresh made
  have second : ruled.Fresh columns := by
    refine foldlM_keeps (fun c _ u u' fresh made => ?_) first hruled
    exact foldlM_keeps (fun rule _ u u' fresh made =>
      fresh.congr (Table.addColumnRule_stripped made)) fresh made
  have third : t.Fresh columns :=
    foldlM_keeps (fun rule _ u u' fresh made => fresh.addRule typed made) second made
  exact ⟨columns, hcolumns, by simpa using distinct, third⟩

theorem TableSpec.numbered_of_table? {spec : TableSpec} {t : Table} (made : spec.table? = some t) :
    t.Numbered := by
  obtain ⟨columns, -, -, fresh⟩ := TableSpec.fresh_of_table? made
  exact fresh.numbered

namespace Database

variable {db db' : Database}

/-- A column that is added has a name that was free, and its constraints add nothing but conditions
to the wider table. -/
theorem addColumn_widens {name : String} {spec : ColumnSpec}
    (made : addColumn db name spec = some db') :
    ∃ t c value u, db.table? name = some t ∧ spec.column? = some c ∧
      t.columnIndex? spec.name = none ∧ u.stripped = (t.widened c value).stripped ∧
        db' = db.setTable u := by
  obtain ⟨t, found, made⟩ := Option.bind_eq_some_iff.1 made
  obtain ⟨c, column, made⟩ := Option.bind_eq_some_iff.1 made
  dsimp only at made
  split at made
  · cases made
  rename_i free
  split at made
  · cases made
  split at made
  · cases made
  obtain ⟨ruled, hruled, made⟩ := Option.bind_eq_some_iff.1 made
  split at made
  · cases made
  cases made
  rw [Bool.or_eq_true, not_or] at free
  let value := c.affinity.apply (c.default.getD .null)
  have same : ruled.stripped = (t.widened c value).stripped :=
    foldlM_keeps (P := fun u : Table => u.stripped = (t.widened c value).stripped)
      (fun rule _ u u' same made => (Table.addColumnRule_stripped made).trans same) rfl hruled
  exact ⟨t, c, value, ruled, found, column, by simpa using free.2, same, rfl⟩

theorem addColumn_numbered (h : db.Keeps Table.Numbered) {name : String} {spec : ColumnSpec}
    (made : addColumn db name spec = some db') : db'.Keeps Table.Numbered := by
  obtain ⟨t, c, value, u, found, -, -, same, rfl⟩ := addColumn_widens made
  exact h.setTable (((h.table? found).widened c value).congr same)

/-- No statement breaks the order of the rows, or parts a row from its number. -/
theorem numbered_kept : Kept Table.Numbered where
  declared := TableSpec.numbered_of_table?
  widened := fun h made => addColumn_numbered h made
  inserted := fun params policy name columns rows h =>
    (insert_steps _ params policy name columns rows).numbered h
  updated := fun params policy name changes condition h =>
    (update_steps _ params policy name changes condition).numbered h
  removed := fun name rows h => (removeRows_steps _ name rows).numbered h

theorem Reached.numbered (h : db.Reached) : db.Numbered :=
  numbered_kept.reached h

end Database

end ResourceProvider.Engine
