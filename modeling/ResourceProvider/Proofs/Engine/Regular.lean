import Mathlib.Data.List.Nodup
import ResourceProvider.Proofs.Engine.Creation
import ResourceProvider.Proofs.Engine.Numbered
/-!
# Rows as wide as their tables

The columns of a table have names of their own, and each row has one cell for each column. A row
that is written has as many cells as it was given, so this stays true however far a change leads, if
it is given the cells of a row of its table (`act_regular`). Statements give nothing else: they set
cells of rows that are there, or fill all columns of a new one (`regular_kept`).
-/
namespace ResourceProvider.Engine

open Database (Step Steps)

/-- The columns have names of their own, and each row has a cell for each of them. -/
structure Table.Regular (t : Table) : Prop where
  names : Apart (t.columns.map Column.name)
  width : ∀ r ∈ t.rows, r.cells.length = t.columns.length

/-! ## Tables -/

namespace Table.Regular

variable {t u : Table} {r : Row}

theorem put (h : t.Regular) (width : r.cells.length = t.columns.length) : (t.put r).Regular where
  names := h.names
  width := fun s hs => by
    rcases mem_of_mem_insertRow hs with rfl | there
    · exact width
    · exact h.width s there

theorem remove (h : t.Regular) (rowid : Int) : (t.remove rowid).Regular where
  names := h.names
  width := fun s hs => h.width s (List.mem_of_mem_filter hs)

theorem counted (h : t.Regular) (n : Int) : Regular { t with sequence := n } :=
  ⟨h.names, h.width⟩

theorem congr (h : t.Regular) (same : u.stripped = t.stripped) : u.Regular := by
  have stripped : t.stripped.Regular := ⟨h.names, h.width⟩
  rw [← same] at stripped
  exact ⟨stripped.names, stripped.width⟩

/-- A column under a name that is free gets a cell in every row. -/
theorem widened (h : t.Regular) {c : Column} (free : t.columnIndex? c.name = none) (value : Cell) :
    (t.widened c value).Regular where
  names := by
    have other (d : Column) (hd : d ∈ t.columns) : Text.lower d.name ≠ Text.lower c.name := by
      simpa [sameName] using List.findIdx?_eq_none_iff.1 free d hd
    have names := h.names
    unfold Apart at names ⊢
    simp only [Table.widened, List.map_append, List.map_cons, List.map_nil]
    refine names.append (List.nodup_singleton _) fun n hn hc => ?_
    simp only [List.map_map, List.mem_map, Function.comp_apply] at hn
    obtain ⟨d, hd, rfl⟩ := hn
    exact other d hd (List.mem_singleton.1 hc)
  width := fun s hs => by
    obtain ⟨r, hr, rfl⟩ := List.mem_map.1 hs
    simp [Table.widened, h.width r hr]

end Table.Regular

/-! ## Cells that are written -/

theorem Table.length_convert (t : Table) (cells : List Cell) :
    (t.convert cells).length = cells.length := by
  simp [convert]

theorem length_foldl_set (cells : List Cell) (changes : List (Nat × Cell)) :
    (changes.foldl (fun cells (i, v) => cells.set i v) cells).length = cells.length := by
  induction changes generalizing cells with
  | nil => rfl
  | cons c changes ih => rw [List.foldl_cons, ih, List.length_set]

theorem length_setCells (cells : List Cell) (places : List Nat) (values : List Cell) :
    (setCells cells places values).length = cells.length :=
  length_foldl_set cells (places.zip values)

theorem Table.fillNulls_length (t : Table) (policy : ConflictPolicy) (cells : List Cell) :
    Yields (fun filled => filled.length = cells.length) (fun _ => True)
      (t.fillNulls policy cells) := by
  unfold fillNulls
  refine .bind (.foldlM (P := fun filled => filled.length = cells.length)
    (fun x _ filled length => ?_) rfl) fun filled length => ?_
  · dsimp only
    split
    · exact length
    · split
      · exact (List.length_set ..).trans length
      · trivial
  · dsimp only
    split
    · trivial
    · exact length

/-! ## What a change leads to -/

theorem Yields.any {ε α : Type} (x : Except ε α) : Yields (fun _ => True) (fun _ => True) x := by
  cases x <;> trivial

/-- What an attempt comes to: steps from a database on that leave tables regular. -/
abbrev RegularFrom (db : Database) : Attempt Database → Prop :=
  Yields (fun db' => db'.Keeps Table.Regular ∧ Steps db db') fun _ => True

namespace RegularFrom

variable {db : Database} {x : Attempt Database}

theorem of_steps {ps : List ConflictPolicy} (steps : StepsFrom db ps x)
    (regular : Yields (Database.Keeps Table.Regular) (fun _ => True) x) : RegularFrom db x := by
  cases x with
  | error stop => trivial
  | ok db' => exact ⟨regular, steps⟩

theorem regular (h : RegularFrom db x) :
    Yields (Database.Keeps Table.Regular) (fun _ => True) x := by
  cases x with
  | error stop => trivial
  | ok db' => exact h.1

theorem after {db' : Database} (steps : Steps db db') (h : RegularFrom db' x) :
    RegularFrom db x := by
  cases x with
  | error stop => trivial
  | ok db'' => exact ⟨h.1, steps.trans h.2⟩

theorem foldlM {α : Type} {f : Database → α → Attempt Database} {xs : List α}
    (h : ∀ x ∈ xs, ∀ db', db'.Keeps Table.Regular → Steps db db' → RegularFrom db' (f db' x))
    (hdb : db.Keeps Table.Regular) : RegularFrom db (xs.foldlM f db) :=
  Yields.foldlM (fun x hx db' reached => after reached.2 (h x hx db' reached.1 reached.2))
    ⟨hdb, .refl⟩

end RegularFrom

/-- A row that is changed is given as many cells as its table has columns. -/
def Effect.Fits (db : Database) : Effect → Prop
  | .delete _ _ => True
  | .assign _ name _ cells => ∀ t, db.table? name = some t → cells.length = t.columns.length

theorem Database.Steps.columns {db db' : Database} (steps : Steps db db') {name : String}
    {t t' : Table} (found : db.table? name = some t) (found' : db'.table? name = some t') :
    t'.columns = t.columns := by
  obtain ⟨u, hu, declared⟩ := steps.table? found'
  rw [found] at hu
  cases hu
  exact congrArg (fun t => t.columns) declared

/-- An action on a row that refers to another one sets some of its cells, or removes it. -/
theorem actionEffect_fits {db : Database} {action : ForeignKeyAction} {child : Table}
    {k : ForeignKey} {r : Row} {replaced : Option (List Cell)} {e : Effect}
    (h : actionEffect action child k r replaced = some (some e))
    (width : ∀ t, db.table? child.name = some t → r.cells.length = t.columns.length) :
    e.Fits db := by
  have set (places : List Nat) (values : List Cell) :
      (Effect.assign .abort child.name r (setCells r.cells places values)).Fits db :=
    fun t found => (length_setCells ..).trans (width t found)
  unfold actionEffect at h
  cases action with
  | cascade =>
    cases replaced with
    | none => cases h; trivial
    | some values => cases h; exact set _ _
  | restrict => cases h
  | setNull => cases h; exact set _ _
  | setDefault => cases h; exact set _ _
  | none => cases h
  | noAction => cases h

theorem applyActions_regular {act : Database → Effect → Attempt Database}
    (h : ∀ db e, db.Keeps Table.Regular → e.Fits db → RegularFrom db (act db e)) (parent : Table)
    (before : List Cell) (after : Option (List Cell)) {db : Database}
    (regular : db.Keeps Table.Regular) :
    RegularFrom db (applyActions act parent before after db) := by
  unfold applyActions
  split
  · exact ⟨regular, .refl⟩
  · refine .foldlM (fun x _ db' regular' _ => ?_) regular
    dsimp only
    split
    · rename_i places child _ found
      split
      · exact ⟨regular', .refl⟩
      · refine .foldlM (fun r hr db'' regular'' steps => ?_) regular'
        -- The row is one of the table as it was found; the table has kept its columns since.
        have own : r ∈ child.rows := by
          unfold childRows at hr
          dsimp only at hr
          split at hr
          · cases hr
          · exact List.mem_of_mem_filter hr
        have width (t : Table) (there : db''.table? child.name = some t) :
            r.cells.length = t.columns.length := by
          rw [steps.columns (Database.table?_name found) there]
          exact (regular'.table? found).width r own
        split
        · trivial
        · exact ⟨regular'', .refl⟩
        · rename_i e he
          exact h db'' e regular'' (actionEffect_fits he width)
    · exact ⟨regular', .refl⟩

theorem clearWay_regular {erase : Database → String → Row → Attempt Database}
    (h : ∀ db name r, db.Keeps Table.Regular → RegularFrom db (erase db name r)) {db : Database}
    (regular : db.Keeps Table.Regular) (name : String) (policy : ConflictPolicy)
    (self : Option Int) (r : Row) : RegularFrom db (clearWay erase name policy self r db) := by
  unfold clearWay
  split
  · trivial
  · refine .foldlM (fun u _ db' regular' _ => ?_) regular
    obtain ⟨own, key⟩ := u
    dsimp only
    split
    · trivial
    · split
      · exact ⟨regular', .refl⟩
      · split
        · exact h db' _ _ regular'
        · trivial

/-- A change of one row leaves the tables regular, whatever it leads to. -/
theorem act_regular (fuel : Nat) {db : Database} (regular : db.Keeps Table.Regular) {e : Effect}
    (fits : e.Fits db) : RegularFrom db (act fuel db e) := by
  induction fuel generalizing db e with
  | zero => trivial
  | succ fuel ih =>
    refine .of_steps (act_steps (fuel + 1) db e) ?_
    have actions (parent : Table) (before : List Cell) (after : Option (List Cell)) {db : Database}
        (regular : db.Keeps Table.Regular) :
        Yields (Database.Keeps Table.Regular) (fun _ => True)
          (applyActions (act fuel) parent before after db) :=
      (applyActions_regular (fun _ _ h fits => ih h fits) parent before after regular).regular
    have erase (db : Database) (name : String) (r : Row) (h : db.Keeps Table.Regular) :
        RegularFrom db (act fuel db (.delete name r)) :=
      ih h (show Effect.Fits db (.delete name r) from trivial)
    cases e with
    | delete name row =>
      simp only [act]
      split
      · trivial
      · rename_i t found
        split
        · exact regular
        · exact actions _ _ _ (regular.setTable ((regular.table? found).remove row.rowid))
    | assign policy name row cells =>
      simp only [act]
      split
      · trivial
      · rename_i t found
        split
        · trivial
        · rename_i rowid _
          refine (t.fillNulls_length policy _).bind fun filled length => ?_
          refine (Yields.any _).bind fun _ _ => ?_
          refine (clearWay_regular erase regular name policy _ _).bind fun db' cleared => ?_
          split
          · trivial
          · rename_i t' found'
            have width : (t.convert filled).length = t'.columns.length := by
              rw [cleared.2.columns found found', t.length_convert, length, t.length_convert]
              exact fits t found
            exact actions _ _ _ (cleared.1.setTable
              (((cleared.1.table? found').remove row.rowid).put width))

theorem act_delete_regular (fuel : Nat) {db : Database} (regular : db.Keeps Table.Regular)
    (name : String) (r : Row) : RegularFrom db (act fuel db (.delete name r)) :=
  act_regular fuel regular (show Effect.Fits db (.delete name r) from trivial)

/-! ## Statements -/

namespace Database

variable {db db' : Database}

theorem Keeps.counted {P : Table → Prop} (h : db.Keeps P)
    (counts : ∀ t n, P t → P { t with sequence := n }) (before : Database) :
    (before.keepSequences db).Keeps P := by
  intro t ht
  obtain ⟨u, hu, rfl⟩ := List.mem_map.1 ht
  exact counts u _ (h u hu)

theorem settle_regular (regular : db.Keeps Table.Regular)
    {ran : Database × Except (Refusal × Bool) Nat} (after : ran.1.Keeps Table.Regular) :
    (settle db ran).1.Keeps Table.Regular := by
  obtain ⟨db', ended⟩ := ran
  cases ended with
  | ok count =>
    simp only [settle]
    split
    · exact regular
    · exact after
  | error end_ =>
    obtain ⟨e, keeps⟩ := end_
    simp only [settle]
    split
    · exact regular
    · split
      · exact regular
      · exact after.counted (fun _ n h => h.counted n) db

/-- What each change keeps, changes one after another keep. -/
theorem changeEach_keeps {P : Database → Prop} {α : Type}
    {change : α → Database → Database × Attempt Database} {xs : List α}
    (h : ∀ x ∈ xs, ∀ db, P db → P (change x db).1 ∧ Yields P (fun _ => True) (change x db).2)
    (hdb : P db) (count : Nat) : P (db.changeEach change xs count).1 := by
  induction xs generalizing db count with
  | nil => exact hdb
  | cons x xs ih =>
    rw [List.forall_mem_cons] at h
    obtain ⟨left, made⟩ := h.1 db hdb
    unfold changeEach
    cases changed : change x db with
    | mk skipped attempt =>
      rw [changed] at left made
      cases attempt with
      | ok db'' => exact ih h.2 made _
      | error stop =>
        cases stop with
        | skip => exact ih h.2 left _
        | halt e keeps => exact left

/-- A row that is placed has the width of its table. -/
theorem place_regular (regular : db.Keeps Table.Regular) {name : String} {t : Table}
    (found : db.table? name = some t) {cells : List Cell}
    (width : cells.length = t.columns.length) (policy : ConflictPolicy) (alone : Bool)
    (rowid : Int) :
    Yields (Keeps Table.Regular) (fun _ => True)
      (db.place policy alone name t rowid cells) := by
  refine (t.fillNulls_length policy _).bind fun filled length => ?_
  refine (Yields.any _).bind fun _ _ => ?_
  refine (clearWay_regular (fun _ name r h => act_delete_regular maxDepth h name r) regular name
    policy _ _).bind fun db' cleared => ?_
  split
  · trivial
  · rename_i t' found'
    have wide : (t.convert filled).length = t'.columns.length := by
      rw [cleared.2.columns found found', t.length_convert, length, t.length_convert]
      exact width
    dsimp only
    split
    · trivial
    · exact cleared.1.setTable ((cleared.1.table? found').put wide)

theorem length_withRowid (t : Table) (rowid : Int) (cells : List Cell) :
    (t.withRowid rowid cells).length = cells.length := by
  unfold Table.withRowid
  split
  · exact List.length_set ..
  · rfl

theorem addRow_regular (regular : db.Keeps Table.Regular) {name : String} {t : Table}
    (found : db.table? name = some t) {cells : List Cell}
    (width : cells.length = t.columns.length) (policy : ConflictPolicy) (alone : Bool) :
    (addRow policy alone name cells db).1.Keeps Table.Regular ∧
      Yields (Keeps Table.Regular) (fun _ => True) (addRow policy alone name cells db).2 := by
  rw [addRow_eq found]
  cases t.newRowid? cells with
  | none => exact ⟨regular, trivial⟩
  | some rowid =>
    obtain ⟨n, counts⟩ := using_eq t rowid
    have counted : (db.setTable (t.using rowid)).Keeps Table.Regular :=
      regular.setTable (counts ▸ (regular.table? found).counted n)
    refine ⟨counted, place_regular counted (table?_setTable_self found (by rw [counts])) ?_ ..⟩
    rw [length_withRowid, width, counts]

theorem insert_regular (regular : db.Keeps Table.Regular) (params : List Cell)
    (policy : ConflictPolicy) (name : String) (columns : Option (List String))
    (rows : Option (List (List Written))) :
    (db.insert params policy name columns rows).1.Keeps Table.Regular := by
  rcases db.insert_rows params policy name columns rows with
    refused | ⟨t, places, values, alone, found, -, run⟩
  · rw [refused]
    exact regular
  · rw [run]
    refine settle_regular regular (changeEach_keeps
      (P := fun db' => db'.Keeps Table.Regular ∧ Steps db db') (fun v _ db' reached => ?_)
      ⟨regular, .refl⟩ 0).1
    have same := reached.2.declared t.name
    rw [table?_name found, Option.map_some, Option.map_eq_some_iff] at same
    obtain ⟨t', found', -⟩ := same
    have width : (withDefaults t places v).length = t'.columns.length := by
      rw [length_withDefaults, reached.2.columns (table?_name found) found']
    have steps := addRow_steps found' policy alone width
    have kept := addRow_regular reached.1 found' width policy alone
    exact ⟨⟨kept.1, reached.2.trans steps.1⟩,
      RegularFrom.after reached.2 (.of_steps steps.2 kept.2)⟩

theorem changeRow_regular (regular : db.Keeps Table.Regular) (params : List Cell)
    (policy : ConflictPolicy) (name : String) (assigned : List (Nat × Expr Place)) (rowid : Int) :
    Yields (Keeps Table.Regular) (fun _ => True)
      (changeRow params policy name assigned rowid db) := by
  unfold changeRow
  split
  · trivial
  · rename_i r hr
    split
    · trivial
    · rename_i values _
      obtain ⟨t, found, here⟩ := Option.bind_eq_some_iff.1 hr
      have fits : Effect.Fits db (.assign policy name r
          (values.foldl (fun cells (i, v) => cells.set i v) r.cells)) := by
        intro u there
        rw [found] at there
        cases there
        rw [length_foldl_set]
        exact (regular.table? found).width r (List.mem_of_find?_eq_some here)
      exact (act_regular maxDepth regular fits).regular

theorem update_regular (regular : db.Keeps Table.Regular) (params : List Cell)
    (policy : ConflictPolicy) (name : String) (changes : List (String × Written))
    (condition : Option Written) :
    (db.update params policy name changes condition).1.Keeps Table.Regular := by
  rcases update_rows db params policy name changes condition with
    refused | ⟨t, assigned, rows, -, -, -, run⟩
  · rw [refused]
    exact regular
  · rw [run]
    exact settle_regular regular (changeEach_keeps (P := Keeps Table.Regular)
      (fun r _ db' regular' =>
        ⟨regular', changeRow_regular regular' params policy t.name assigned r.rowid⟩) regular 0)

theorem removeRows_regular (regular : db.Keeps Table.Regular) (name : String) (rows : List Row) :
    (db.removeRows name rows).1.Keeps Table.Regular := by
  refine settle_regular regular (changeEach_keeps (P := Keeps Table.Regular)
    (fun r _ db' regular' => ⟨regular', ?_⟩) regular 0)
  unfold removeRow
  split
  · trivial
  · exact (act_delete_regular maxDepth regular' _ _).regular

theorem addColumn_regular (regular : db.Keeps Table.Regular) {name : String} {spec : ColumnSpec}
    (made : addColumn db name spec = some db') : db'.Keeps Table.Regular := by
  obtain ⟨t, c, value, u, found, column, free, same, rfl⟩ := addColumn_widens made
  rw [← (ColumnSpec.declared_of_column? column).1] at free
  exact regular.setTable (((regular.table? found).widened free value).congr same)

/-- No statement leaves a row without a cell for a column, or two columns with one name. -/
theorem regular_kept : Kept Table.Regular where
  declared := fun made => by
    obtain ⟨columns, -, -, fresh⟩ := TableSpec.fresh_of_table? made
    exact ⟨TableSpec.columns_apart made, by simp [fresh.rows]⟩
  widened := fun h made => addColumn_regular h made
  inserted := fun params policy name columns rows h =>
    insert_regular h params policy name columns rows
  updated := fun params policy name changes condition h =>
    update_regular h params policy name changes condition
  removed := fun name rows h => removeRows_regular h name rows

end Database

end ResourceProvider.Engine
