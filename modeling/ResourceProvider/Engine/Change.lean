import ResourceProvider.Engine.Access
/-!
# Changing rows

A row is written if it meets the constraints of its table. What happens to one that does not is
the policy of the constraint, or of the statement: the statement is undone, stops where it is, or
goes on without the row, or the rows in the way are removed. Rows that refer to a row that goes
away or changes its key are changed along with it.
-/
namespace ResourceProvider.Engine

/-- Why a statement is not carried out: a declared constraint would be violated, a foreign key
restricts what would happen to a row that it refers to, the statement makes no sense, or a
placeholder has a name that no value belongs to. -/
inductive Refusal where
  | violation (v : Violation)
  | restricted
  | rejected
  | unbound (name : String)
deriving DecidableEq, Repr

/-- The refusal as it is reported. Violations are told by their kinds; a restriction is reported
under a code that belongs to none of them. -/
def Refusal.error : Refusal → StorageError
  | .violation v => .violation v
  | .restricted => .rejected
  | .rejected => .rejected
  | .unbound name => .unbound name

/-- Why a row is not written: the statement goes on without it, or ends with a refusal and may
keep what it did before. -/
inductive Stop where
  | skip
  | halt (refusal : Refusal) (keeps : Bool)

/-- A change of a database, unless a constraint stops it. -/
abbrev Attempt (α : Type) := Except Stop α

/-- The statement is refused. -/
def refused {α : Type} : Attempt α :=
  .error (.halt .rejected false)

/-- The statement is refused on behalf of a row that refers to another one. -/
def restricted {α : Type} : Attempt α :=
  .error (.halt .restricted false)

/-! ## Policies -/

/-- The policy that counts: the statement's, or else the constraint's. -/
def effective (statement own : ConflictPolicy) : ConflictPolicy :=
  if statement ≠ .none then statement else if own = .none then .abort else own

/-- What a violation leads to where no row can be replaced. -/
def violated (policy : ConflictPolicy) (v : Violation) : Stop :=
  match policy with
  | .ignore => .skip
  | .fail => .halt (.violation v) true
  | _ => .halt (.violation v) false

/-! ## Conditions on one row -/

/-- The columns that must not be null, with their places; the rowid never is. -/
def Table.required (t : Table) : List (Nat × Column × ConflictPolicy) :=
  t.columns.zipIdx.filterMap fun (c, i) =>
    if t.rowidKey.any fun r => r.column = i then none else c.notNull.map fun p => (i, c, p)

/-- Refuses nulls where there must be none; a default can take their place. -/
def Table.fillNulls (t : Table) (policy : ConflictPolicy) (cells : List Cell) :
    Attempt (List Cell) := do
  let isNull (cells : List Cell) (i : Nat) : Bool := (cells[i]?).getD .null = .null
  let filled ← t.required.foldlM (fun cells (i, c, own) =>
    if !isNull cells i then .ok cells
    else
      match effective policy own, c.default with
      | .replace, some d => .ok (cells.set i d)
      | p, _ => .error (violated p (.notNull (t.qualified i)))) cells
  match t.required.find? fun (i, _) => isNull filled i with
  | some (i, _) => .error (violated .abort (.notNull (t.qualified i)))
  | none => .ok filled

/-- Refuses a row that a check says no to. -/
def Table.meetsChecks (t : Table) (policy : ConflictPolicy) (r : Row) : Attempt Unit :=
  t.checks.forM fun c =>
    match c.condition.eval ⟨[], r.cells ++ [.int r.rowid], []⟩ with
    | none => refused
    | some v =>
      if v.truth = some false then .error (violated (effective policy .none) (.check c.label))
      else .ok ()

/-! ## Keys -/

/-- What is checked for rows in the way: the rowid, or a key, with its policy. A rowid whose row
would be replaced comes last. -/
def Table.uniqueness (t : Table) (policy : ConflictPolicy) :
    List (ConflictPolicy × Option Key) :=
  let keys := t.keys.map fun k => (effective policy k.policy, some k)
  match t.rowidKey with
  | none => keys
  | some r =>
    let own := effective policy r.policy
    if own = .replace ∧ policy ≠ .replace then keys ++ [(own, none)] else (own, none) :: keys

/-- The row in the way of another one; `self` is the row that is written anew. -/
def Table.clash? (t : Table) (self : Option Int) (r : Row) : Option Key → Option Row
  | none => if self = some r.rowid then none else t.row? r.rowid
  | some k =>
    let mine := Table.cellsAt r.cells k.columns
    if mine.any (· = .null) then none
    else t.rows.find? fun s => some s.rowid ≠ self &&
      (mine.zip (Table.cellsAt s.cells k.columns)).all fun (a, b) => a.same b

/-- Names the key that a row is in the way of. -/
def Table.clash (t : Table) : Option Key → Violation
  | none => .primaryKey ((t.rowidKey.map fun r => t.qualified r.column).toList)
  | some k =>
    if k.primary then .primaryKey (k.columns.map t.qualified)
    else .unique (k.columns.map t.qualified)

/-- Clears the way for a row, or refuses it; `erase` removes a row. -/
def clearWay (erase : Database → String → Row → Attempt Database) (name : String)
    (policy : ConflictPolicy) (self : Option Int) (r : Row) (db : Database) : Attempt Database :=
  match db.table? name with
  | none => refused
  | some t =>
    (t.uniqueness policy).foldlM (fun db (own, key) =>
      match db.table? name with
      | none => refused
      | some t =>
        match t.clash? self r key with
        | none => .ok db
        | some other =>
          if own = .replace then erase db name other else .error (violated own (t.clash key))) db

/-! ## Rows that act on rows -/

/-- A change of one row. -/
inductive Effect where
  | delete (table : String) (row : Row)
  /-- Gives a row new cells; the policy is the statement's. -/
  | assign (policy : ConflictPolicy) (table : String) (row : Row) (cells : List Cell)

/-- The rows of a child table that refer to a row with the given cells. -/
def childRows (child parent : Table) (places : List Nat) (k : ForeignKey) (cells : List Cell) :
    List Row :=
  let key := Table.cellsAt cells places
  if key.any (· = .null) then []
  else child.rows.filter fun r =>
    let mine := Table.cellsAt r.cells k.columns
    !mine.any (· = .null) && Database.matchesTarget parent places mine key

/-- Cells with some of them set. -/
def setCells (cells : List Cell) (places : List Nat) (values : List Cell) : List Cell :=
  (places.zip values).foldl (fun cells (i, v) => cells.set i v) cells

/-- What an action makes of a row that refers to one that changed; nothing if it refuses. -/
def actionEffect (action : ForeignKeyAction) (child : Table) (k : ForeignKey) (r : Row)
    (replaced : Option (List Cell)) : Option (Option Effect) :=
  let set (values : List Cell) : Option (Option Effect) :=
    some (some (.assign .abort child.name r (setCells r.cells k.columns values)))
  match action with
  | .restrict => none
  | .setNull => set (k.columns.map fun _ => .null)
  | .setDefault =>
    set (k.columns.map fun i => ((child.columns[i]?).bind Column.default).getD .null)
  | .cascade =>
    match replaced with
    | some values => set values
    | none => some (some (.delete child.name r))
  | _ => some none

/-- The number that a row takes from its cells; nothing if it is not an integer. -/
def Table.rowidOf? (t : Table) (old : Int) (cells : List Cell) : Option Int :=
  match t.rowidKey with
  | none => some old
  | some k =>
    match Affinity.apply .integer ((cells[k.column]?).getD .null) with
    | .int n => some n
    | _ => none

/-- Applies the actions of every foreign key that refers to a row; `after` are its new cells, if
it has any. A foreign key that refers to no key of the table does nothing. -/
def applyActions (act : Database → Effect → Attempt Database) (parent : Table) (before : List Cell)
    (after : Option (List Cell)) (db : Database) : Attempt Database :=
  if !db.enforces then .ok db
  else
    (db.referencing parent.name).foldlM (fun db (child, k) =>
      match Database.targetPlaces? parent k, db.table? child.name with
      | some places, some child =>
        let key := Table.cellsAt before places
        let replaced := after.map fun cells => Table.cellsAt cells places
        if replaced.any fun new => (key.zip new).all fun (a, b) => a.same b then .ok db
        else
          let action := if after.isSome then k.target.onUpdate else k.target.onDelete
          (childRows child parent places k before).foldlM (fun db r =>
            match actionEffect action child k r replaced with
            | none => restricted
            | some none => .ok db
            | some (some effect) => act db effect) db
      | _, _ => .ok db) db

/-- Changes one row, and the rows that refer to it. -/
def act : (fuel : Nat) → Database → Effect → Attempt Database
  | 0, _, _ => refused
  | fuel + 1, db, .delete name row =>
    match db.table? name with
    | none => refused
    | some t =>
      if (t.row? row.rowid).isNone then .ok db
      else applyActions (act fuel) t row.cells none (db.setTable (t.remove row.rowid))
  | fuel + 1, db, .assign policy name row cells =>
    match db.table? name with
    | none => refused
    | some t =>
      match t.rowidOf? row.rowid cells with
      | none => refused
      | some rowid => do
        let cells ← t.fillNulls policy (t.convert cells)
        let new : Row := ⟨rowid, t.convert cells⟩
        t.meetsChecks policy new
        let db ← clearWay (fun db name r => act fuel db (.delete name r)) name policy
          (some row.rowid) new db
        match db.table? name with
        | none => refused
        | some t =>
          applyActions (act fuel) t row.cells (some new.cells)
            (db.setTable ((t.remove row.rowid).put new))

/-- How deep changes of rows can lead to each other. -/
def maxDepth : Nat := 1000

/-! ## Adding rows -/

/-- The number of the next row; nothing if there is none left. -/
def Table.nextRowid? (t : Table) : Option Int :=
  let top := (t.rows.getLast?).map Row.rowid
  let counted := t.rowidKey.any RowidKey.autoIncrement
  let last := match top with
    | some n => if counted then max n t.sequence else n
    | none => if counted then t.sequence else 0
  if last < 0x7FFFFFFFFFFFFFFF then some (last + 1) else none

/-- A statement may remove rows while it writes one; `givesRowid` says that it chooses the
number. -/
def Table.mayReplace (t : Table) (policy : ConflictPolicy) (givesRowid : Bool) : Bool :=
  (t.uniqueness policy).any fun u => u.1 = .replace && (u.2.isSome || givesRowid)

/-- A row that is about to be added may have a foreign key: it refers to a row, or to the row itself
with the very same cells. -/
def Database.admits (db : Database) (t : Table) (k : ForeignKey) (r : Row) : Bool :=
  let own := (Table.cellsAt r.cells k.columns).zip
    (Table.cellsAt r.cells ((Database.targetPlaces? t k).getD []))
  db.holds k r.cells ||
    (sameName k.target.table t.name && own ≠ [] && own.all fun c => c.1.same c.2)

/-- Adds a row. The first result is the database to go on with if the row is skipped: its number
may be used up. `alone` says that the statement neither adds nor removes other rows. -/
def addRow (policy : ConflictPolicy) (alone : Bool) (name : String) (cells : List Cell)
    (db : Database) : Database × Attempt Database :=
  match db.table? name with
  | none => (db, refused)
  | some t =>
    let given := t.rowidKey.map fun k => Affinity.apply .integer ((cells[k.column]?).getD .null)
    let rowid : Option Int := match given with
      | some (.int n) => some n
      | some .null => t.nextRowid?
      | none => t.nextRowid?
      | _ => none
    match rowid with
    | none => (db, refused)
    | some rowid =>
      let counted := t.rowidKey.any RowidKey.autoIncrement
      let t := if counted then { t with sequence := max t.sequence rowid } else t
      let db := db.setTable t
      let cells := match t.rowidKey with
        | some k => cells.set k.column (.int rowid)
        | none => cells
      (db, do
        let cells ← t.fillNulls policy (t.convert cells)
        let new : Row := ⟨rowid, t.convert cells⟩
        t.meetsChecks policy new
        let db ← clearWay (fun db name r => act maxDepth db (.delete name r)) name policy none new
          db
        match db.table? name with
        | none => refused
        | some t =>
          let added := db.setTable (t.put new)
          let admitted := t.foreignKeys.all fun k => k.target.deferred || db.admits t k new
          if db.enforces && alone && !admitted then
            .error (.halt (.violation .foreignKey) false)
          else .ok { added with lastRowid := rowid })

end ResourceProvider.Engine
