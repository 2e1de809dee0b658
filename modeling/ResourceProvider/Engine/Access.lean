import ResourceProvider.Engine.Eval
/-!
# The order in which rows are visited

Rows are visited by their numbers, unless a key leads to them: a condition on its first column, a
sort or grouping by its columns, or columns so few that the key alone holds them. Sorting keeps
that order where its terms are equal.
-/
namespace ResourceProvider.Engine

/-! ## Conditions that lead to rows -/

/-- The parts of a condition that must all hold. -/
def Expr.conjuncts {κ : Type} : Expr κ → List (Expr κ)
  | .and a b => a.conjuncts ++ b.conjuncts
  | e => [e]

/-- The expression reads only places before `start`, so it is known when a table that starts there
is visited. -/
def Expr.knownBefore (start : Nat) (e : Expr Place) : Bool :=
  !e.aggregated && e.places.all (· < start)

/-- A key on a column can be used to compare it with an expression. -/
def comparesByKey (c : Place) (e : Expr Place) : Bool :=
  (c.affinity.isNumeric || !(e.affinity.any Affinity.isNumeric)) && e.collation?.all (· = .binary)

/-- How a condition bounds a column: to one value, to some values, or on one side. -/
inductive Bound where
  | value
  | choice
  | above
  | below
deriving DecidableEq, Repr

/-- How a comparison bounds its first operand. -/
def Comparison.bound? : Comparison → Option Bound
  | .eq => some .value
  | .ne => none
  | .lt => some .below
  | .le => some .below
  | .gt => some .above
  | .ge => some .above

/-- The comparison with its operands swapped. -/
def Comparison.swap : Comparison → Comparison
  | .lt => .gt
  | .le => .ge
  | .gt => .lt
  | .ge => .le
  | op => op

/-- The column of the table at `start`, counted from there, that is compared with something
known. -/
def keyColumn? (start : Nat) (a b : Expr Place) : Option Nat :=
  match a with
  | .column c =>
    if start ≤ c.index ∧ b.knownBefore start ∧ comparesByKey c b then some (c.index - start)
    else none
  | _ => none

/-- The column that a condition bounds by something known, and how. Choices among values of one
column bound it too. -/
def Expr.bound? (start : Nat) : Expr Place → Option (Nat × Bound)
  | .compare op a b =>
    let side (op : Comparison) (a b : Expr Place) : Option (Nat × Bound) := do
      return (← keyColumn? start a b, ← op.bound?)
    (side op a b).or (side op.swap b a)
  | .is a b => (keyColumn? start a b).map fun i => (i, .value)
  | .isIn (.column c) items =>
    if start ≤ c.index ∧ items.all (Expr.knownBefore start) then some (c.index - start, .choice)
    else none
  | .or a b =>
    match a.bound? start, b.bound? start with
    | some (i, .value), some (j, .value) => if i = j then some (i, .choice) else none
    | some (i, .choice), some (j, .value) => if i = j then some (i, .choice) else none
    | _, _ => none
  | _ => none

/-- The column, counted from `start`, that a condition wants not to be null. -/
def Expr.presentColumn? (start : Nat) : Expr Place → Option Nat
  | .not (.is (.column c) (.literal .null)) =>
    if start ≤ c.index then some (c.index - start) else none
  | _ => none

/-- In which order rows are wanted: sorted by columns, ascending or descending, or with the rows of
each group of columns together. -/
inductive Wanted where
  | sorted (terms : List (Nat × Bool))
  | grouped (columns : List Nat)

/-- What a statement asks of a table: the columns that its conditions fix to a value, limit to some
values, bound on one side or want to be present, the order in which the rows are wanted, and the
columns it reads if it reads only some. -/
structure Approach where
  fixed : List Nat
  limited : List Nat
  ranged : List Nat
  present : List Nat
  wanted : Wanted
  read : Option (List Nat)

/-- What a condition asks of the table that starts at `start`. -/
def Approach.ofCondition (start : Nat) (condition : Option (Expr Place)) : Approach :=
  let parts := (condition.map Expr.conjuncts).getD []
  let bounds := parts.filterMap (Expr.bound? start)
  let columns (b : Bound) : List Nat := (bounds.filter fun c => c.2 = b).map Prod.fst
  ⟨columns .value,
    columns .value ++ columns .choice ++ (columns .above).filter (· ∈ columns .below),
    columns .above ++ columns .below,
    parts.filterMap (Expr.presentColumn? start), .sorted [], none⟩

/-! ## Keys -/

/-- Compares rows by the columns of a key, then by their numbers. -/
def compareByKey (places : List Nat) (r s : Row) : Ordering :=
  let cell (r : Row) (i : Nat) : Cell := (r.cells[i]?).getD .null
  match places.find? fun i => !(cell r i).same (cell s i) with
  | some i => (cell r i).compareBy .binary (cell s i)
  | none => compare r.rowid s.rowid

/-- The rows in the order of a key. -/
def Table.inKeyOrder (t : Table) (places : List Nat) : List Row :=
  t.rows.mergeSort fun r s => compareByKey places r s ≠ .gt

/-- How many sort terms the columns of a key follow, in one direction. -/
def sortedPart (direction : Option Bool) : List (Nat × Bool) → List Nat → Nat
  | (c, d) :: terms, k :: columns =>
    if c = k ∧ direction.all (· = d) then sortedPart (some d) terms columns + 1 else 0
  | _, _ => 0

/-- A key gives the wanted order, at least in part, once the fixed columns are left out. -/
def Key.gives (k : Key) (fixed : List Nat) (w : Wanted) : Bool :=
  let columns := k.columns.filter (· ∉ fixed)
  match w with
  | .sorted terms => 0 < sortedPart none (terms.filter fun t => t.1 ∉ fixed) columns
  | .grouped wanted =>
    let wanted := wanted.filter (· ∉ fixed)
    wanted ≠ [] && (columns.take wanted.length).all (· ∈ wanted) && wanted.all (· ∈ columns)

/-- A key with given columns gives the whole wanted order. -/
def Wanted.isGivenBy (w : Wanted) (columns : List Nat) : Bool :=
  match w with
  | .sorted terms => terms ≠ [] && sortedPart none terms columns = terms.length
  | .grouped wanted => wanted ≠ [] && (columns.take wanted.length).all (· ∈ wanted) &&
    wanted.all (· ∈ columns)

/-- The order is wanted from the last row to the first. -/
def Wanted.isDescending (fixed : List Nat) : Wanted → Bool
  | .sorted terms => ((terms.filter fun t => t.1 ∉ fixed).head?.map Prod.snd).getD false
  | .grouped _ => false

/-! ## Sizes -/

/-- How much room a column is thought to take, in units of an integer. -/
def Column.size (c : Column) : Nat :=
  match c.affinity with
  | .text => 5
  | .blob => 5
  | _ => 1

/-- Ten times the binary logarithm of `4 * n`, roughly. -/
def logSize (n : Nat) : Nat :=
  let m := 4 * n
  let e := Nat.log2 m - 3
  10 * e + 30 + ([0, 2, 3, 5, 6, 7, 8, 9][m / Nat.pow 2 e % 8]?).getD 0

/-- The size of a row; a rowid without a column adds to it. -/
def Table.rowSize (t : Table) : Nat :=
  logSize ((t.columns.map Column.size).foldr (· + ·) 0 + (if t.rowidKey.isSome then 0 else 1))

/-- The size of an entry of a key. -/
def Table.keySize (t : Table) (k : Key) : Nat :=
  logSize ((k.columns.map fun i => ((t.columns[i]?).map Column.size).getD 1).foldr (· + ·) 0 + 1)

/-- A key holds every column that is read. -/
def Table.holdsAll (t : Table) (read : Option (List Nat)) (k : Key) : Bool :=
  read.any fun columns => columns.all fun i =>
    i ∈ k.columns || t.columns.length ≤ i || t.rowidKey.any fun r => r.column = i

/-- The first column of a key is wanted to be present, which it need not be. -/
def Table.skipsNulls (t : Table) (present : List Nat) (k : Key) : Bool :=
  k.columns.head?.any fun i => i ∈ present && (t.columns[i]?).any fun c => c.notNull.isNone

/-- What it costs to visit all entries of a key, if that is less than to visit all rows. -/
def Table.keyCost? (t : Table) (a : Approach) (k : Key) : Option Nat :=
  let cost := 15 * t.keySize k / t.rowSize
  if !t.holdsAll a.read k then none
  else if t.skipsNulls a.present k then (if cost ≤ 15 then some cost else none)
  else if t.keySize k < t.rowSize then some (cost + 1)
  else none

/-- The key whose entries cost least to visit in place of the rows, the first of equal ones. -/
def Table.coveringKey? (t : Table) (a : Approach) : Option Key :=
  (t.keys.foldl (fun best k =>
    match t.keyCost? a k, best with
    | none, _ => best
    | some cost, none => some (cost, k)
    | some cost, some b => if cost < b.1 then some (cost, k) else some b) none).map Prod.snd

/-! ## Visiting -/

/-- How far the columns of a key are fixed; a key that is fixed as a whole leads to a row. -/
def Key.fixedPart (fixed : List Nat) (k : Key) : Nat :=
  let n := (k.columns.takeWhile (· ∈ fixed)).length
  if n = k.columns.length then n + 1000 else n

/-- The key of which most is fixed, the first of equal ones. -/
def Table.fixedKey? (t : Table) (fixed : List Nat) : Option Key :=
  t.keys.foldl (fun best k =>
    let n := k.fixedPart fixed
    if n = 0 ∨ best.any (fun b => n ≤ b.fixedPart fixed) then best else some k) none

/-- The key that leads to rows, if no rowid does. -/
def Table.leadingKey? (t : Table) (a : Approach) : Option Key :=
  let leads (places : List Nat) (k : Key) : Bool := k.columns.head?.any (· ∈ places)
  let rowid := (t.rowidKey.map RowidKey.column).toList
  if leads a.limited ⟨rowid, .abort, true⟩ then none
  else
    match ((t.fixedKey? a.fixed).or (t.keys.find? (leads a.limited))).or
      (t.keys.find? fun k => a.wanted.isGivenBy k.columns) with
    | some k => some k
    | none =>
      if leads a.ranged ⟨rowid, .abort, true⟩ then none
      else ((t.keys.find? (leads a.ranged)).or (t.keys.find? fun k => k.gives [] a.wanted)).or
        (t.coveringKey? a)

/-- The rows of a table in the order in which they are visited. -/
def Table.visited (t : Table) (a : Approach) : List Row :=
  match t.leadingKey? a with
  | none => t.rows
  | some k =>
    let rows := t.inKeyOrder k.columns
    if k.gives a.fixed a.wanted && a.wanted.isDescending a.fixed then rows.reverse else rows

/-- Rows are visited in another order than that of their numbers, but each of them once. -/
theorem Table.visited_perm (t : Table) (a : Approach) : (t.visited a).Perm t.rows := by
  unfold Table.visited
  split
  · exact List.Perm.refl _
  · have sorted : ∀ places, (t.inKeyOrder places).Perm t.rows := fun _ =>
      List.mergeSort_perm _ _
    dsimp only
    split
    · exact (List.reverse_perm _).trans (sorted _)
    · exact sorted _

end ResourceProvider.Engine
