import Mathlib.Logic.Relation
import ResourceProvider.Engine.Run
/-!
# What a change of rows is made of

However far a change of a row leads, through rows that refer to it and rows in its way, it is made
of steps: a row goes away, a row is written, a number is used up. `act_steps` says so once, and
says which policies can stop it. Whatever every step keeps, every statement keeps; a step keeps what
a table was declared with (`Steps.declared`).
-/
namespace ResourceProvider.Engine

/-! ## Results -/

/-- A result is a value of which `P` is true, or an error of which `Q` is. -/
def Yields {ε α : Type} (P : α → Prop) (Q : ε → Prop) : Except ε α → Prop
  | .ok a => P a
  | .error e => Q e

namespace Yields

variable {ε α β : Type} {P : α → Prop} {Q : ε → Prop} {R : β → Prop}

theorem bind {x : Except ε α} {f : α → Except ε β} (hx : Yields P Q x)
    (hf : ∀ a, P a → Yields R Q (f a)) : Yields R Q (x >>= f) := by
  cases x with
  | error e => exact hx
  | ok a => exact hf a hx

theorem foldlM {f : α → β → Except ε α} {xs : List β}
    (h : ∀ x ∈ xs, ∀ a, P a → Yields P Q (f a x)) {a : α} (ha : P a) :
    Yields P Q (xs.foldlM f a) := by
  induction xs generalizing a with
  | nil => exact ha
  | cons x xs ih =>
    rw [List.forall_mem_cons] at h
    rw [List.foldlM_cons]
    exact (h.1 a ha).bind fun a ha => ih h.2 ha

theorem forM {f : β → Except ε PUnit} {xs : List β}
    (h : ∀ x ∈ xs, Yields (fun _ => True) Q (f x)) : Yields (fun _ => True) Q (xs.forM f) := by
  induction xs with
  | nil => trivial
  | cons x xs ih =>
    rw [List.forall_mem_cons] at h
    exact h.1.bind fun _ _ => ih h.2

end Yields

/-! ## Policies -/

/-- The policies that the constraints of a table declare. -/
def Table.policies (t : Table) : List ConflictPolicy :=
  t.columns.filterMap Column.notNull ++ (t.rowidKey.map RowidKey.policy).toList ++
    t.keys.map Key.policy

/-- The policies that can count when a statement writes a row. -/
def Table.inForce (t : Table) (statement : ConflictPolicy) : List ConflictPolicy :=
  effective statement .none :: t.policies.map (effective statement)

/-- A constraint with one of the policies stops a statement in this way, or the statement is
undone. -/
def Stop.AllowedBy (ps : List ConflictPolicy) : Stop → Prop
  | .skip => .ignore ∈ ps
  | .halt _ keeps => keeps → .fail ∈ ps

theorem Stop.AllowedBy.mono {ps qs : List ConflictPolicy} {stop : Stop} (h : stop.AllowedBy ps)
    (sub : ∀ p ∈ ps, p ∈ qs) : stop.AllowedBy qs := by
  cases stop with
  | skip => exact sub _ h
  | halt e keeps => exact fun kept => sub _ (h kept)

theorem violated_allowed {ps : List ConflictPolicy} {p : ConflictPolicy} (h : p ∈ ps)
    (v : Violation) : (violated p v).AllowedBy ps := by
  cases p with
  | ignore => exact h
  | fail => exact fun _ => h
  | _ => exact fun kept => by cases kept

theorem undone_allowed (e : Refusal) (ps : List ConflictPolicy) :
    (Stop.halt e false).AllowedBy ps :=
  fun kept => by cases kept

/-- A statement that aborts is always undone, whatever its table declares. -/
theorem Stop.AllowedBy.of_abort {t : Table} {stop : Stop} (h : stop.AllowedBy (t.inForce .abort))
    (ps : List ConflictPolicy) : stop.AllowedBy ps := by
  have only : ∀ p ∈ t.inForce .abort, p = .abort := by
    simp [Table.inForce, effective]
  cases stop with
  | skip => cases only _ h
  | halt e keeps => exact fun kept => by cases only _ (h kept)

/-- A statement without a policy leaves it to the constraints. -/
theorem Table.mem_inForce_none {t : Table} {p : ConflictPolicy} (h : p ∈ t.inForce .none)
    (other : p ≠ .abort) : p ∈ t.policies := by
  rcases List.mem_cons.1 h with rfl | declared
  · exact absurd rfl other
  · obtain ⟨own, hown, rfl⟩ := List.mem_map.1 declared
    by_cases none : own = .none
    · subst none
      exact absurd rfl other
    · simpa [effective, none] using hown

/-! ## Declarations -/

/-- The table as it was declared. -/
def Table.declared (t : Table) : Table :=
  { t with rows := [], sequence := 0 }

namespace Database

theorem sameName_iff {a b : String} : sameName a b ↔ Text.lower a = Text.lower b :=
  decide_eq_true_iff

theorem sameName_congr {a b : String} (h : sameName a b) (c : String) :
    sameName a c = sameName b c := by
  simp only [sameName, sameName_iff.1 h]

theorem name_of_table? {db : Database} {name : String} {t : Table}
    (found : db.table? name = some t) : sameName t.name name :=
  List.find?_some (p := fun t : Table => sameName t.name name) found

/-- A table that is set is found wherever one of its name was. -/
theorem table?_setTable (db : Database) (t : Table) (name : String) :
    (db.setTable t).table? name =
      if sameName t.name name then (db.table? name).map fun _ => t else db.table? name := by
  have same (u : Table) : sameName (if sameName u.name t.name then t else u).name name =
      sameName u.name name := by
    split
    · exact (sameName_congr ‹_› name).symm
    · rfl
  have found : (db.setTable t).table? name =
      (db.table? name).map fun u => if sameName u.name t.name then t else u := by
    unfold Database.setTable Database.table?
    rw [List.find?_map]
    simp only [Function.comp_def, same]
  rw [found]
  cases hu : db.table? name with
  | none => simp
  | some u =>
    have swap : sameName u.name t.name = sameName t.name name := by
      rw [sameName_congr (name_of_table? hu) t.name]
      simp [sameName, eq_comm]
    simp only [Option.map_some, swap]
    split <;> rfl

theorem table?_setTable_self {db : Database} {name : String} {t u : Table}
    (found : db.table? name = some t) (same : u.name = t.name) :
    (db.setTable u).table? name = some u := by
  rw [table?_setTable, same, if_pos (name_of_table? found), found]
  rfl

end Database

/-! ## Steps -/

/-- The column that is declared for the rowid, if it holds integers, has the number of the row. -/
def Table.Numbers (t : Table) (r : Row) : Prop :=
  ∀ k, t.rowidKey = some k → t.affinityAt k.column = .integer →
    r.cells[k.column]? = some (.int r.rowid)

namespace Database

/-- What a change of rows does to a database at a time. -/
inductive Step : Database → Database → Prop where
  /-- A row goes away. -/
  | remove {db : Database} {name : String} {t : Table} (found : db.table? name = some t)
      (rowid : Int) : Step db (db.setTable (t.remove rowid))
  /-- A row is written in place of another one. -/
  | write {db : Database} {name : String} {t : Table} (found : db.table? name = some t)
      (old : Int) {new : Row} (numbers : t.Numbers new) :
      Step db (db.setTable ((t.remove old).put new))
  /-- A row is added. -/
  | add {db : Database} {name : String} {t : Table} (found : db.table? name = some t) {new : Row}
      (numbers : t.Numbers new) : Step db (db.setTable (t.put new))
  /-- Numbers of a table are used up. -/
  | count {db : Database} {name : String} {t : Table} (found : db.table? name = some t) (n : Int) :
      Step db (db.setTable { t with sequence := n })
  /-- Numbers are given back. -/
  | recount (db : Database) (f : Table → Int) :
      Step db { db with tables := db.tables.map fun t => { t with sequence := f t } }
  /-- The number of the last row is noted. -/
  | note (db : Database) (n : Int) : Step db { db with lastRowid := n }

/-- Steps one after another. -/
abbrev Steps : Database → Database → Prop :=
  Relation.ReflTransGen Step

theorem setTable_declared {db : Database} {name : String} {t u : Table}
    (found : db.table? name = some t) (same : u.declared = t.declared) (other : String) :
    ((db.setTable u).table? other).map Table.declared =
      (db.table? other).map Table.declared := by
  have named : u.name = t.name := show u.declared.name = t.declared.name by rw [same]
  rw [table?_setTable, named]
  split
  · rename_i here
    have there : db.table? other = some t := by
      rw [← found]
      unfold Database.table?
      simp only [sameName, sameName_iff.1 here, ← sameName_iff.1 (name_of_table? found)]
    rw [there]
    simp [same]
  · rfl

/-- A step keeps the declaration of every table. -/
theorem Step.declared {db db' : Database} (h : Step db db') (name : String) :
    (db'.table? name).map Table.declared = (db.table? name).map Table.declared := by
  cases h with
  | @remove _ t found rowid => exact setTable_declared (u := t.remove rowid) found rfl name
  | @write _ t found old new => exact setTable_declared (u := (t.remove old).put new) found rfl name
  | @add _ t found new => exact setTable_declared (u := t.put new) found rfl name
  | @count _ t found n => exact setTable_declared (u := { t with sequence := n }) found rfl name
  | recount f =>
    unfold Database.table?
    rw [List.find?_map, Option.map_map]
    rfl
  | note => rfl

theorem Steps.declared {db db' : Database} (h : Steps db db') (name : String) :
    (db'.table? name).map Table.declared = (db.table? name).map Table.declared := by
  induction h with
  | refl => rfl
  | tail _ step ih => rw [step.declared, ih]

/-- Changes of rows neither create triggers nor drop them. -/
theorem Steps.triggers {db db' : Database} (h : Steps db db') : db'.triggers = db.triggers := by
  induction h with
  | refl => rfl
  | tail _ step ih =>
    rw [← ih]
    cases step <;> rfl

/-- A table that is found after steps was there before, with the same declaration. -/
theorem Steps.table? {db db' : Database} (h : Steps db db') {name : String} {t' : Table}
    (found : db'.table? name = some t') :
    ∃ t, db.table? name = some t ∧ t'.declared = t.declared := by
  have same := h.declared name
  rw [found, Option.map_some, eq_comm, Option.map_eq_some_iff] at same
  obtain ⟨t, ht, declared⟩ := same
  exact ⟨t, ht, declared.symm⟩

end Database

open Database (Step Steps)

theorem Table.Numbers.declared {t u : Table} {r : Row} (numbers : t.Numbers r)
    (h : u.declared = t.declared) : u.Numbers r :=
  show u.declared.Numbers r by
    rw [h]
    exact numbers

theorem Table.policies_declared {t u : Table} (h : t.declared = u.declared) :
    t.policies = u.policies :=
  show t.declared.policies = u.declared.policies by rw [h]

/-! ## One row -/

theorem Affinity.apply_integer_int (n : Int) : Affinity.apply .integer (.int n) = .int n := rfl

namespace Table

variable {t : Table} {policy : ConflictPolicy}

theorem getElem?_convert (t : Table) (cells : List Cell) (i : Nat) :
    (t.convert cells)[i]? = (cells[i]?).map (t.affinityAt i).apply := by
  rw [convert, List.getElem?_mapIdx]

/-- A column that must not be null is not the one of the rowid. -/
theorem mem_required {i : Nat} {c : Column} {own : ConflictPolicy}
    (h : (i, c, own) ∈ t.required) :
    own ∈ t.policies ∧ ∀ k, t.rowidKey = some k → k.column ≠ i := by
  obtain ⟨⟨c', i'⟩, hc, h⟩ := List.mem_filterMap.1 h
  dsimp only at h
  split at h
  · cases h
  · rename_i free
    obtain ⟨p, hp, same⟩ := Option.map_eq_some_iff.1 h
    cases same
    refine ⟨?_, fun k hk here => free (by simp [hk, here])⟩
    simp only [policies, List.mem_append]
    exact .inl (.inl (List.mem_filterMap.2
      ⟨c, List.mem_of_getElem? (List.mem_zipIdx_iff_getElem?.1 hc), hp⟩))

/-- The policy of a constraint counts as the statement says. -/
theorem effective_mem_inForce {own : ConflictPolicy} (h : own ∈ t.policies) :
    effective policy own ∈ t.inForce policy :=
  List.mem_cons_of_mem _ (List.mem_map_of_mem h)

/-- Every cell that is not null stands where it stood. -/
def Keeps (cells filled : List Cell) : Prop :=
  ∀ (i : Nat) (c : Cell), cells[i]? = some c → c ≠ .null → filled[i]? = some c

/-- Nulls may be replaced, and nothing else; a constraint of a column can stop that. -/
theorem fillNulls_yields (t : Table) (policy : ConflictPolicy) (cells : List Cell) :
    Yields (Keeps cells) (Stop.AllowedBy (t.inForce policy)) (t.fillNulls policy cells) := by
  unfold fillNulls
  refine .bind (.foldlM (P := Keeps cells) (fun x hx filled kept => ?_) fun i c hc _ => hc)
    fun filled kept => ?_
  · obtain ⟨i, c, own⟩ := x
    have counts : effective policy own ∈ t.inForce policy :=
      effective_mem_inForce (mem_required hx).1
    dsimp only
    split
    · exact kept
    · rename_i null
      split
      · intro j d hd some_
        have later : j ≠ i := by
          rintro rfl
          simp [kept j d hd some_, some_] at null
        rw [List.getElem?_set_ne later.symm]
        exact kept j d hd some_
      · exact violated_allowed counts _
  · dsimp only
    split
    · exact fun undone => by cases undone
    · exact kept

/-- A check has no policy of its own. -/
theorem meetsChecks_yields (t : Table) (policy : ConflictPolicy) (r : Row) :
    Yields (fun _ => True) (Stop.AllowedBy (t.inForce policy)) (t.meetsChecks policy r) := by
  refine .forM fun c _ => ?_
  split
  · exact undone_allowed .rejected _
  · split
    · exact violated_allowed List.mem_cons_self _
    · trivial

theorem mem_uniqueness_policy {own : ConflictPolicy} {key : Option Key}
    (h : (own, key) ∈ t.uniqueness policy) : own ∈ t.inForce policy := by
  have keyed : (own, key) ∈ t.keys.map (fun k => (effective policy k.policy, some k)) →
      own ∈ t.inForce policy := by
    intro h
    obtain ⟨k, hk, same⟩ := List.mem_map.1 h
    cases same
    have declared : k.policy ∈ t.policies := by
      simp only [policies, List.mem_append]
      exact .inr (List.mem_map_of_mem hk)
    exact effective_mem_inForce declared
  unfold uniqueness at h
  dsimp only at h
  split at h
  · exact keyed h
  · rename_i r hr
    have rowid : effective policy r.policy ∈ t.inForce policy :=
      effective_mem_inForce (by simp [policies, hr])
    split at h
    · rcases List.mem_append.1 h with h | h
      · exact keyed h
      · cases List.mem_singleton.1 h
        exact rowid
    · rcases List.mem_cons.1 h with h | h
      · cases h
        exact rowid
      · exact keyed h

/-- The cell for the rowid holds a number, as far as its column is one of integers. -/
def Holds (t : Table) (cells : List Cell) (rowid : Int) : Prop :=
  ∀ k, t.rowidKey = some k → t.affinityAt k.column = .integer →
    ∃ c, cells[k.column]? = some c ∧ Affinity.apply .integer c = .int rowid

theorem holds_of_rowidOf? {cells : List Cell} {rowid old : Int}
    (number : t.rowidOf? old cells = some rowid) : t.Holds cells rowid := by
  intro k hk _
  simp only [rowidOf?, hk] at number
  cases here : cells[k.column]? with
  | none => simp [here, Affinity.apply] at number
  | some c =>
    simp only [here, Option.getD_some] at number
    split at number
    · rename_i n hn
      cases number
      exact ⟨c, rfl, hn⟩
    · cases number

/-- A cell that holds the number of the row still holds it when the row is written. -/
theorem Holds.numbers {cells filled : List Cell} {rowid : Int} (h : t.Holds cells rowid)
    (kept : Keeps (t.convert cells) filled) : t.Numbers ⟨rowid, t.convert filled⟩ := by
  intro k hk integer
  obtain ⟨c, here, number⟩ := h k hk integer
  have before : (t.convert cells)[k.column]? = some (.int rowid) := by
    rw [getElem?_convert, here, Option.map_some, integer, number]
  rw [getElem?_convert, kept _ _ before (by simp), Option.map_some, integer,
    Affinity.apply_integer_int]

end Table

/-! ## What a change leads to -/

/-- What an attempt comes to: steps from a database on, or a stop that one of the policies
allows. -/
abbrev StepsFrom (db : Database) (ps : List ConflictPolicy) : Attempt Database → Prop :=
  Yields (Steps db) (Stop.AllowedBy ps)

namespace StepsFrom

variable {db : Database} {ps : List ConflictPolicy}

theorem ok (db : Database) (ps : List ConflictPolicy) : StepsFrom db ps (.ok db) :=
  Relation.ReflTransGen.refl

theorem refused (db : Database) (ps : List ConflictPolicy) : StepsFrom db ps refused :=
  undone_allowed .rejected ps

theorem mono {x : Attempt Database} (h : StepsFrom db ps x) {qs : List ConflictPolicy}
    (sub : ∀ stop : Stop, stop.AllowedBy ps → stop.AllowedBy qs) : StepsFrom db qs x := by
  cases x with
  | error stop => exact sub stop h
  | ok db' => exact h

theorem after {db' : Database} (steps : Steps db db') {x : Attempt Database}
    (h : StepsFrom db' ps x) : StepsFrom db ps x := by
  cases x with
  | error stop => exact h
  | ok db'' => exact steps.trans h

theorem foldlM {α : Type} {f : Database → α → Attempt Database} {xs : List α}
    (h : ∀ x ∈ xs, ∀ db', Steps db db' → StepsFrom db' ps (f db' x)) {db' : Database}
    (steps : Steps db db') : StepsFrom db' ps (xs.foldlM f db') := by
  induction xs generalizing db' with
  | nil => exact ok db' ps
  | cons x xs ih =>
    rw [List.forall_mem_cons] at h
    rw [List.foldlM_cons]
    refine (h.1 db' steps).bind fun db'' more => after more ?_
    exact ih h.2 (steps.trans more)

end StepsFrom

/-- The policies that count when a row is changed; what happens along with another change aborts. -/
def Effect.policies (db : Database) : Effect → List ConflictPolicy
  | .delete _ _ => []
  | .assign policy name _ _ => ((db.table? name).map fun t => t.inForce policy).getD []

/-- The effect of an action on a row that refers to another one aborts the statement if it is
stopped. -/
theorem actionEffect_aborts {action : ForeignKeyAction} {child : Table} {k : ForeignKey} {r : Row}
    {replaced : Option (List Cell)} {e : Effect}
    (h : actionEffect action child k r replaced = some (some e)) (db : Database) {stop : Stop}
    (stops : stop.AllowedBy (e.policies db)) (ps : List ConflictPolicy) : stop.AllowedBy ps := by
  have kinds : (∃ cells, e = .assign .abort child.name r cells) ∨ e = .delete child.name r := by
    unfold actionEffect at h
    cases action with
    | cascade =>
      cases replaced with
      | none => cases h; exact .inr rfl
      | some values => cases h; exact .inl ⟨_, rfl⟩
    | restrict => cases h
    | setNull => cases h; exact .inl ⟨_, rfl⟩
    | setDefault => cases h; exact .inl ⟨_, rfl⟩
    | none => cases h
    | noAction => cases h
  have none : stop.AllowedBy [] → stop.AllowedBy ps := fun h => h.mono (by simp)
  rcases kinds with ⟨cells, rfl⟩ | rfl
  · cases found : db.table? child.name with
    | none => exact none (by simpa [Effect.policies, found] using stops)
    | some t =>
      have aborts : stop.AllowedBy (t.inForce .abort) := by
        simpa [Effect.policies, found] using stops
      exact aborts.of_abort ps
  · exact none stops

theorem applyActions_steps {act : Database → Effect → Attempt Database}
    (h : ∀ db e, StepsFrom db (e.policies db) (act db e)) (parent : Table) (before : List Cell)
    (after : Option (List Cell)) (db : Database) (ps : List ConflictPolicy) :
    StepsFrom db ps (applyActions act parent before after db) := by
  unfold applyActions
  split
  · exact .ok db ps
  · refine .foldlM (fun x _ db' _ => ?_) .refl
    dsimp only
    split
    · split
      · exact .ok db' ps
      · refine .foldlM (fun r _ db'' _ => ?_) .refl
        split
        · exact .refused db'' ps
        · exact .ok db'' ps
        · rename_i e he
          exact (h db'' e).mono fun stop stops => actionEffect_aborts he db'' stops ps
    · exact .ok db' ps

theorem clearWay_steps {erase : Database → String → Row → Attempt Database}
    (h : ∀ db name r, StepsFrom db [] (erase db name r)) {db : Database} {name : String} {t : Table}
    (found : db.table? name = some t) (policy : ConflictPolicy) (self : Option Int) (r : Row) :
    StepsFrom db (t.inForce policy) (clearWay erase name policy self r db) := by
  unfold clearWay
  rw [found]
  refine .foldlM (fun u hu db' _ => ?_) .refl
  obtain ⟨own, key⟩ := u
  dsimp only
  split
  · exact .refused db' _
  · split
    · exact .ok db' _
    · split
      · exact (h db' _ _).mono fun stop stops => stops.mono (by simp)
      · exact violated_allowed (Table.mem_uniqueness_policy hu) _

/-- A change of one row is made of steps, or a constraint of its table stops it. -/
theorem act_steps (fuel : Nat) (db : Database) (e : Effect) :
    StepsFrom db (e.policies db) (act fuel db e) := by
  induction fuel generalizing db e with
  | zero => exact .refused db _
  | succ fuel ih =>
    have erase (db : Database) (name : String) (r : Row) :
        StepsFrom db [] (act fuel db (.delete name r)) := ih db (.delete name r)
    cases e with
    | delete name row =>
      simp only [act]
      split
      · exact .refused db _
      · rename_i t found
        split
        · exact .ok db _
        · exact .after (.single (.remove found row.rowid)) (applyActions_steps ih _ _ _ _ _)
    | assign policy name row cells =>
      simp only [act]
      split
      · exact .refused db _
      · rename_i t found
        have policies : (Effect.assign policy name row cells).policies db = t.inForce policy := by
          simp [Effect.policies, found]
        rw [policies]
        split
        · exact .refused db _
        · rename_i rowid number
          refine (t.fillNulls_yields policy _).bind fun filled kept => ?_
          refine (t.meetsChecks_yields policy _).bind fun _ _ => ?_
          refine (clearWay_steps erase found policy _ _).bind fun db' cleared =>
            StepsFrom.after cleared ?_
          split
          · exact .refused db' _
          · rename_i t' found'
            -- The table may have lost rows, but it is declared as it was.
            obtain ⟨u, hu, declared⟩ := cleared.table? found'
            rw [found] at hu
            cases hu
            have numbers := ((Table.holds_of_rowidOf? number).numbers kept).declared declared
            exact StepsFrom.after (.single (.write found' row.rowid numbers))
              (applyActions_steps ih _ _ _ _ _)

end ResourceProvider.Engine
