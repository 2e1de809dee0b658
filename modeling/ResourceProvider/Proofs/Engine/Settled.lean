import ResourceProvider.Proofs.Engine.Query
import ResourceProvider.Proofs.Engine.Steps
/-!
# How a statement ends

A statement that fails is undone, table by table, unless a constraint with the policy FAIL ends it:
that is the only policy that keeps the rows that were changed before (`insert_settles`,
`update_undone`, `delete_undone`). An insertion of one row that succeeds adds that row last, or
leaves it out because a constraint says IGNORE.
-/
namespace ResourceProvider.Engine

open Database (Step Steps)

namespace Database

variable {db db' : Database}

/-! ## Undone statements -/

/-- Each table is as it was, with its rows and the numbers it used up. -/
def SameTables (db db' : Database) : Prop :=
  ∀ name, db'.table? name = db.table? name

theorem SameTables.refl (db : Database) : db.SameTables db :=
  fun _ => rfl

theorem table?_name {name : String} {t : Table} (found : db.table? name = some t) :
    db.table? t.name = some t := by
  rw [← found]
  unfold Database.table?
  simp only [sameName, sameName_iff.1 (name_of_table? found)]

theorem table?_keepSequences (db db' : Database) (name : String) :
    (db.keepSequences db').table? name = (db'.table? name).map fun t =>
      { t with sequence := ((db.table? t.name).map Table.sequence).getD t.sequence } := by
  unfold keepSequences Database.table?
  rw [List.find?_map]
  rfl

theorem keepSequences_self (db : Database) : db.SameTables (db.keepSequences db) := by
  intro name
  rw [table?_keepSequences]
  cases there : db.table? name with
  | none => rfl
  | some t => simp [table?_name there]

/-- A statement that used up numbers, and did nothing else, gives them back. -/
theorem keepSequences_count {name : String} {t : Table} (found : db.table? name = some t)
    (n : Int) : db.SameTables (db.keepSequences (db.setTable { t with sequence := n })) := by
  intro other
  rw [table?_keepSequences, table?_setTable]
  split
  · rename_i here
    have there : db.table? other = some t := by
      rw [← table?_name found]
      unfold Database.table?
      simp only [sameName, sameName_iff.1 here]
    simp [there, table?_name found]
  · cases there : db.table? other with
    | none => rfl
    | some u => simp [table?_name there]

/-- A statement that fails is undone, or it was ended by a constraint that keeps what was done. -/
theorem settle_error {ran : Database × Except (Refusal × Bool) Nat} {e : Refusal}
    (h : db.settle ran = (db', .error e)) :
    db.SameTables db' ∨ ran.2 = .error (e, true) ∧ db' = db.keepSequences ran.1 := by
  obtain ⟨after, answer⟩ := ran
  cases answer with
  | ok count =>
    simp only [settle] at h
    split at h
    · cases h
      exact .inl (.refl db)
    · cases h
  | error end_ =>
    obtain ⟨e', keeps⟩ := end_
    simp only [settle] at h
    split at h
    · cases h
      exact .inl (.refl db)
    · rename_i kept
      split at h
      · cases h
        exact .inl (.refl db)
      · cases h
        exact .inr ⟨by simpa using kept, rfl⟩

/-- A statement that succeeds ends as its rows left it. -/
theorem settle_ok {ran : Database × Except (Refusal × Bool) Nat} {outcome : Outcome}
    (h : db.settle ran = (db', .ok outcome)) :
    ∃ count, ran = (db', .ok count) ∧ outcome = ⟨count, []⟩ := by
  obtain ⟨after, answer⟩ := ran
  cases answer with
  | ok count =>
    simp only [settle] at h
    split at h
    · cases h
    · cases h
      exact ⟨count, rfl, rfl⟩
  | error end_ =>
    obtain ⟨e', keeps⟩ := end_
    simp only [settle] at h
    split at h
    · cases h
    · split at h <;> cases h

/-! ## Changes of several rows -/

/-- Changes that are made of steps, one after another, and are kept after a failure only if a
constraint with a policy says so. -/
theorem changeEach_steps {α : Type} {change : α → Database → Database × Attempt Database}
    {ps : List ConflictPolicy} {xs : List α} (count : Nat)
    (h : ∀ x ∈ xs, ∀ db', Steps db db' →
      Steps db' (change x db').1 ∧ StepsFrom db' ps (change x db').2)
    (steps : Steps db db') :
    Steps db (db'.changeEach change xs count).1 ∧
      ∀ e, (db'.changeEach change xs count).2 = .error (e, true) → .fail ∈ ps := by
  induction xs generalizing db' count with
  | nil => exact ⟨steps, fun e failed => by cases failed⟩
  | cons x xs ih =>
    rw [List.forall_mem_cons] at h
    have first := h.1 db' steps
    unfold Database.changeEach
    cases changed : change x db' with
    | mk skipped attempt =>
      rw [changed] at first
      obtain ⟨left, made⟩ := first
      cases attempt with
      | ok db'' => exact ih _ h.2 (steps.trans made)
      | error stop =>
        cases stop with
        | skip => exact ih _ h.2 (steps.trans left)
        | halt e keeps =>
          refine ⟨steps.trans left, fun e' failed => ?_⟩
          cases failed
          exact made rfl

/-- The only change that is made leaves nothing behind if it fails. -/
theorem changeEach_single {α : Type} {change : α → Database → Attempt Database} {xs : List α}
    (single : xs.length ≤ 1) {e : Refusal × Bool}
    (failed : (db.changeEach (fun x db => (db, change x db)) xs 0).2 = .error e) :
    (db.changeEach (fun x db => (db, change x db)) xs 0).1 = db := by
  match xs, single with
  | [], _ => rfl
  | [x], _ =>
    unfold changeEach at failed ⊢
    cases changed : change x db with
    | ok db' =>
      rw [changed] at failed
      cases failed
    | error stop => cases stop <;> rfl

/-- What counts in a table does not change along steps. -/
theorem Steps.inForce (steps : Steps db db') {name : String} {t t' : Table}
    (found : db.table? name = some t) (found' : db'.table? name = some t')
    (policy : ConflictPolicy) : t'.inForce policy = t.inForce policy := by
  obtain ⟨u, hu, declared⟩ := steps.table? found'
  rw [found] at hu
  cases hu
  rw [Table.inForce, Table.inForce, Table.policies_declared declared]

theorem changeRow_steps {name : String} {t : Table} (found : db.table? name = some t)
    (steps : Steps db db') (params : List Cell) (policy : ConflictPolicy)
    (assigned : List (Nat × Expr Place)) (rowid : Int) :
    StepsFrom db' (.ignore :: t.inForce policy)
      (changeRow params policy name assigned rowid db') := by
  unfold changeRow
  split
  · exact List.mem_cons_self
  · split
    · exact .refused db' _
    · rename_i r hr _ _ _
      obtain ⟨t', found', -⟩ := Option.bind_eq_some_iff.1 hr
      refine (act_steps _ db' _).mono fun stop allowed => ?_
      rw [Effect.policies, found', Option.map_some, Option.getD_some,
        steps.inForce found found'] at allowed
      exact allowed.mono fun p hp => List.mem_cons_of_mem _ hp

theorem removeRow_steps (name : String) (rowid : Int) (db : Database) :
    StepsFrom db [.ignore] (removeRow name rowid db) := by
  unfold removeRow
  split
  · exact List.mem_cons_self
  · exact (act_steps _ db _).mono fun stop allowed => allowed.mono (by simp [Effect.policies])

/-- An update that fails is undone, unless it changed a row before a constraint of its table that
says FAIL. -/
theorem update_undone {params : List Cell} {name : String} {changes : List (String × Written)}
    {condition : Option Written} {e : Refusal}
    (h : db.update params .none name changes condition = (db', .error e))
    (never : ∀ t, db.table? name = some t →
      .fail ∉ t.policies ∨ t.rows.countP (t.isSelected params condition) ≤ 1) :
    db.SameTables db' := by
  rcases update_rows db params .none name changes condition with
    refused | ⟨t, assigned, rows, found, -, same, run⟩
  · rw [refused] at h
    cases h
    exact .refl db
  · rw [run] at h
    rcases settle_error h with undone | ⟨kept, rfl⟩
    · exact undone
    · rcases never t found with absent | single
      · have kinds := (changeEach_steps 0 (fun r _ db' steps => ⟨.refl,
          changeRow_steps (table?_name found) steps params .none assigned r.rowid⟩) .refl).2 e kept
        exact absurd (Table.mem_inForce_none (by simpa using kinds) (by decide)) absent
      -- Nothing was changed before the only row.
      · rw [List.countP_eq_length_filter, ← same.length_eq] at single
        rw [changeEach_single single kept]
        exact keepSequences_self db

/-- A removal that fails is undone. -/
theorem delete_undone {params : List Cell} {name : String} {condition : Option Written}
    {e : Refusal} (h : db.delete params name condition = (db', .error e)) :
    db.SameTables db' := by
  rcases delete_rows db params name condition with refused | ⟨t, -, run⟩
  · rw [refused] at h
    cases h
    exact .refl db
  · rw [run] at h
    rcases settle_error h with undone | ⟨kept, -⟩
    · exact undone
    · have kinds := (changeEach_steps 0 (fun r _ db' _ =>
        ⟨.refl, removeRow_steps t.name r.rowid db'⟩) .refl).2 e kept
      simp at kinds

/-! ## Rows that are added -/

/-- The last thing that was done is that a row was added to a table, and its number noted. -/
def Adds (db : Database) (name : String) (r : Row) (db' : Database) : Prop :=
  ∃ cleared t, Steps db cleared ∧ cleared.table? name = some t ∧ t.Numbers r ∧
    db' = { cleared.setTable (t.put r) with lastRowid := r.rowid }

theorem Adds.steps {name : String} {r : Row} (h : db.Adds name r db') : Steps db db' := by
  obtain ⟨cleared, t, steps, found, numbers, rfl⟩ := h
  exact (steps.tail (.add found numbers)).tail (.note _ _)

theorem Adds.lastRowid {name : String} {r : Row} (h : db.Adds name r db') :
    db'.lastRowid = r.rowid := by
  obtain ⟨cleared, t, -, -, -, rfl⟩ := h
  rfl

theorem mem_insertRow (r : Row) (rows : List Row) : r ∈ Table.insertRow r rows := by
  induction rows with
  | nil => exact List.mem_singleton_self r
  | cons s rows ih =>
    unfold Table.insertRow
    split
    · exact List.mem_cons_self
    · split
      · exact List.mem_cons_self
      · exact List.mem_cons_of_mem s ih

/-- A row that was added is in its table. -/
theorem Adds.mem {name : String} {r : Row} (h : db.Adds name r db') :
    ∃ t, db'.table? name = some t ∧ r ∈ t.rows := by
  obtain ⟨cleared, t, -, found, -, rfl⟩ := h
  refine ⟨t.put r, ?_, mem_insertRow r t.rows⟩
  exact table?_setTable_self found rfl

theorem affinityAt_lt {t : Table} {i : Nat} (h : t.affinityAt i = .integer) :
    i < t.columns.length := by
  unfold Table.affinityAt at h
  cases here : t.columns[i]? with
  | none => simp [here] at h
  | some c => exact (List.getElem?_eq_some_iff.1 here).1

end Database

/-- The number of a row that is added with given cells; nothing if there is none left, or the cell
for it holds something else. -/
def Table.newRowid? (t : Table) (cells : List Cell) : Option Int :=
  match t.rowidKey.map fun k => Affinity.apply .integer ((cells[k.column]?).getD .null) with
  | some (.int n) => some n
  | some .null => t.nextRowid?
  | none => t.nextRowid?
  | _ => none

/-- The table once a number is used up. -/
def Table.using (t : Table) (rowid : Int) : Table :=
  if t.rowidKey.any RowidKey.autoIncrement then { t with sequence := max t.sequence rowid } else t

/-- Cells with the number of their row among them. -/
def Table.withRowid (t : Table) (rowid : Int) (cells : List Cell) : List Cell :=
  match t.rowidKey with
  | some k => cells.set k.column (.int rowid)
  | none => cells

namespace Database

variable {db db' : Database}

/-- Writes a row of a known number, once its way is clear. -/
def place (db : Database) (policy : ConflictPolicy) (alone : Bool) (name : String) (t : Table)
    (rowid : Int) (cells : List Cell) : Attempt Database := do
  let cells ← t.fillNulls policy (t.convert cells)
  let new : Row := ⟨rowid, t.convert cells⟩
  t.meetsChecks policy new
  let db ← clearWay (fun db name r => act maxDepth db (.delete name r)) name policy none new db
  match db.table? name with
  | none => refused
  | some t =>
    let added := db.setTable (t.put new)
    let admitted := t.foreignKeys.all fun k => k.target.deferred || db.admits t k new
    if db.enforces && alone && !admitted then
      .error (.halt (.violation .foreignKey) false)
    else .ok { added with lastRowid := rowid }

/-- A row is added in two parts: its number is used up, whatever becomes of the row, and the row is
placed. -/
theorem addRow_eq {name : String} {t : Table} (found : db.table? name = some t)
    (policy : ConflictPolicy) (alone : Bool) (cells : List Cell) :
    addRow policy alone name cells db =
      match t.newRowid? cells with
      | none => (db, refused)
      | some rowid =>
        let u := t.using rowid
        (db.setTable u,
          (db.setTable u).place policy alone name u rowid (u.withRowid rowid cells)) := by
  unfold addRow
  rw [found]
  rfl

/-- A row that is placed was added last, or a constraint of its table stops it. -/
theorem place_adds {name : String} {t : Table} (found : db.table? name = some t) {rowid : Int}
    {cells : List Cell} (holds : t.Holds cells rowid) (policy : ConflictPolicy) (alone : Bool) :
    Yields (fun db' => ∃ r, r.rowid = rowid ∧ db.Adds name r db')
      (Stop.AllowedBy (t.inForce policy)) (db.place policy alone name t rowid cells) := by
  refine (t.fillNulls_yields policy _).bind fun filled kept => ?_
  refine (t.meetsChecks_yields policy _).bind fun _ _ => ?_
  have erase (db : Database) (name : String) (r : Row) := act_steps maxDepth db (.delete name r)
  refine (clearWay_steps erase found policy none _).bind fun cleared steps => ?_
  split
  · exact StepsFrom.refused cleared _
  · rename_i t' found'
    dsimp only
    split
    · exact undone_allowed (.violation .foreignKey) _
    · obtain ⟨u, hu, declared⟩ := steps.table? found'
      rw [found] at hu
      cases hu
      exact ⟨_, rfl, cleared, t', steps, found', (holds.numbers kept).declared declared, rfl⟩

/-! ## Insertions of one row -/

/-- How an insertion of one row ends: it is undone, or the row is left out because a constraint says
so, or the row was added last. -/
inductive Inserts (db : Database) (name : String) : Ran → Prop where
  | undone {db' : Database} (same : db.SameTables db') (e : Refusal) :
      Inserts db name (db', .error e)
  | left {db' : Database} {t : Table} (found : db.table? name = some t)
      (ignores : .ignore ∈ t.policies) (steps : Steps db db') : Inserts db name (db', .ok ⟨0, []⟩)
  | added {db' : Database} {r : Row} (adds : db.Adds name r db') :
      Inserts db name (db', .ok ⟨1, []⟩)

theorem table?_congr {a b : String} (h : sameName a b) (db : Database) :
    db.table? a = db.table? b := by
  unfold Database.table?
  simp only [sameName, sameName_iff.1 h]

theorem using_eq (t : Table) (rowid : Int) : ∃ n, t.using rowid = { t with sequence := n } := by
  unfold Table.using
  split
  · exact ⟨_, rfl⟩
  · exact ⟨t.sequence, rfl⟩

theorem holds_withRowid {t : Table} {cells : List Cell} (width : cells.length = t.columns.length)
    (rowid : Int) : t.Holds (t.withRowid rowid cells) rowid := by
  intro k key integer
  refine ⟨.int rowid, ?_, Affinity.apply_integer_int rowid⟩
  have inside := affinityAt_lt integer
  rw [Table.withRowid, key]
  exact List.getElem?_set_self (width ▸ inside)

theorem length_withDefaults (t : Table) (places : List Nat) (values : List Cell) :
    (withDefaults t places values).length = t.columns.length := by
  simp [withDefaults]

/-- A statement that adds rows is refused, or adds them one after another. -/
theorem insert_rows (db : Database) (params : List Cell) (policy : ConflictPolicy) (name : String)
    (columns : Option (List String)) (rows : Option (List (List Written))) :
    db.insert params policy name columns rows = db.refuse ∨
      ∃ t places values alone, db.table? name = some t ∧
        (rows.getD [[]]).mapM (constants? params) = some values ∧
        db.insert params policy name columns rows = settle db (db.changeEach
          (fun v => addRow policy alone t.name (withDefaults t places v)) values 0) := by
  unfold insert
  cases found : db.table? name with
  | none => exact .inl rfl
  | some t =>
    dsimp only
    cases (if rows.isSome then insertPlaces? t columns else some []) with
    | none => exact .inl rfl
    | some places =>
      cases (rows.getD [[]]).mapM (constants? params) with
      | none => exact .inl rfl
      | some values =>
        dsimp only
        split
        · exact .inl rfl
        · exact .inr ⟨t, places, values, _, rfl, rfl, rfl⟩

/-- A statement that adds one row is refused, or ends as the row does. -/
theorem insert_row (db : Database) (params : List Cell) (policy : ConflictPolicy) (name : String)
    (columns : Option (List String)) {rows : Option (List (List Written))}
    (one : (rows.getD [[]]).length = 1) :
    db.insert params policy name columns rows = db.refuse ∨
      ∃ t places v alone, db.table? name = some t ∧
        (rows.getD [[]]).mapM (constants? params) = some [v] ∧
        db.insert params policy name columns rows = settle db (db.changeEach
          (fun v => addRow policy alone t.name (withDefaults t places v)) [v] 0) := by
  rcases db.insert_rows params policy name columns rows with
    refused | ⟨t, places, values, alone, found, read, run⟩
  · exact .inl refused
  · have length := (forall₂_of_mapM read).length_eq
    rw [one] at length
    obtain ⟨v, rfl⟩ := List.length_eq_one_iff.1 length.symm
    exact .inr ⟨t, places, v, alone, found, read, run⟩

theorem settle_inserts {name : String} {ended : Except (Refusal × Bool) Nat}
    (done : ∀ count, ended = .ok count → Inserts db name (db', .ok ⟨count, []⟩))
    (kept : ∀ e, ended = .error (e, true) → db.SameTables (db.keepSequences db')) :
    Inserts db name (settle db (db', ended)) := by
  cases settled : settle db (db', ended) with
  | mk after answer =>
    cases answer with
    | ok outcome =>
      obtain ⟨count, ran, rfl⟩ := settle_ok settled
      obtain ⟨rfl, finished⟩ := Prod.mk.inj ran
      exact done count finished
    | error e =>
      rcases settle_error settled with undone | ⟨stopped, rfl⟩
      · exact .undone undone e
      · exact .undone (kept e stopped) e

/-- A row of a known number is written, left out or refused, and the statement ends with that. -/
theorem settle_place {name : String} {t u : Table} (found : db.table? name = some t) {n rowid : Int}
    (counts : u = { t with sequence := n }) {cells : List Cell} (holds : u.Holds cells rowid)
    (alone : Bool) : Inserts db name
      (settle db (db.changeEach (fun cells _ =>
        (db.setTable u, (db.setTable u).place .none alone t.name u rowid cells)) [cells] 0)) := by
  have named := table?_name found
  have counted : Steps db (db.setTable u) := .single (counts ▸ .count named n)
  have there : (db.setTable u).table? t.name = some u :=
    table?_setTable_self named (by rw [counts])
  have placed := place_adds there holds .none alone
  rw [changeEach]
  cases attempt : (db.setTable u).place .none alone t.name u rowid cells with
  | ok db' =>
    rw [attempt] at placed
    obtain ⟨r, -, cleared, t', steps, found', numbers, same⟩ := placed
    refine settle_inserts (fun count one => ?_) fun e failed => by cases failed
    cases one
    refine .added (r := r) ⟨cleared, t', counted.trans steps, ?_, numbers, same⟩
    rwa [table?_congr (name_of_table? found)] at found'
  | error stop =>
    rw [attempt] at placed
    cases stop with
    | skip =>
      refine settle_inserts (fun count none => ?_) fun e failed => by cases failed
      cases none
      refine .left found ?_ counted
      have ignores := Table.mem_inForce_none (t := u) placed (by decide)
      rwa [counts] at ignores
    | halt e keeps =>
      refine settle_inserts (fun count done => by cases done) fun e _ => ?_
      rw [counts]
      exact keepSequences_count named n

/-- An insertion of one row that leaves policies to the constraints. -/
theorem insert_settles (db : Database) (params : List Cell) (name : String)
    (columns : Option (List String)) {rows : Option (List (List Written))}
    (one : (rows.getD [[]]).length = 1) :
    Inserts db name (db.insert params .none name columns rows) := by
  rcases db.insert_row params .none name columns one with
    refused | ⟨t, places, v, alone, found, -, run⟩
  · rw [refused]
    exact .undone (.refl db) _
  · rw [run, changeEach, addRow_eq (table?_name found)]
    cases t.newRowid? (withDefaults t places v) with
    | none => exact .undone (.refl db) _
    | some rowid =>
      obtain ⟨n, counts⟩ := using_eq t rowid
      have width : (withDefaults t places v).length = (t.using rowid).columns.length := by
        rw [length_withDefaults, counts]
      exact settle_place found counts (holds_withRowid width rowid) alone

end Database

end ResourceProvider.Engine
