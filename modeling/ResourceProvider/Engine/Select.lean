import ResourceProvider.Engine.Access
/-!
# Queries

The tables of a query are joined row by row, from left to right; what meets the condition is
grouped, sorted, cut, and given column by column.
-/
namespace ResourceProvider.Engine

/-- A row of a result: cells by column name, in the order of the columns. -/
abbrev ResultRow := List (String × Cell)

/-! ## Joins -/

/-- How many places a table takes in a joined row. -/
def Source.width (s : Source) : Nat :=
  s.table.columns.length + 1

/-- The tables of a query, each with the place where it starts. -/
def sourcesFrom (db : Database) : (start : Nat) → List Join → Option (List Source)
  | _, [] => some []
  | start, j :: rest =>
    match db.table? j.table with
    | none => none
    | some t =>
      let s : Source := ⟨j.alias?.getD j.table, t, start⟩
      (sourcesFrom db (start + s.width) rest).map fun more => s :: more

/-- A row as expressions see it. -/
def Row.places (r : Row) : List Cell :=
  r.cells ++ [.int r.rowid]

/-- Joins the rows of a table to rows; `outer` keeps rows that nothing fits. -/
def joinRows (params : List Cell) (s : Source) (rows : List Row) (outer : Bool)
    (on : Option (Expr Place)) : List (List Cell) → Option (List (List Cell))
  | [] => some []
  | left :: rest => do
    let joined := rows.map fun r => left ++ r.places
    let fitting ← match on with
      | none => some joined
      | some e => joined.filterM fun row => e.holdsAt ⟨params, row, []⟩
    let kept := if fitting = [] ∧ outer then [left ++ List.replicate s.width .null] else fitting
    let more ← joinRows params s rows outer on rest
    return kept ++ more

/-- The conditions of joins; each sees the tables up to its own. -/
def joinConditions : (before : List Source) → List (Source × Join) →
    Option (List (Option (Expr Place)))
  | _, [] => some []
  | before, (s, j) :: rest => do
    let seen := before ++ [s]
    let on ← match j.condition with
      | none => some none
      | some e => ((⟨seen, [], false⟩ : Scope).resolve e).map some
    return on :: (← joinConditions seen rest)

/-- The places among `places` that are columns of a table, counted from its start. -/
def Source.columnsAmong (s : Source) (places : List Nat) : List Nat :=
  (places.filter fun i => s.start ≤ i && i < s.start + s.width).map (· - s.start)

/-- The rows of a joined table in the order in which they are visited for each row before them. -/
def Source.joined (s : Source) (on : Option (Expr Place)) (read : List Nat) : List Row :=
  let a := Approach.ofCondition s.start on
  s.table.visited { a with read := if a.fixed = [] then some (s.columnsAmong read) else none }

/-- Joins the tables after the first one; `read` are the places that the query reads. -/
def joinAll (params : List Cell) (read : List Nat) :
    List (Source × Join × Option (Expr Place)) → List (List Cell) → Option (List (List Cell))
  | [], rows => some rows
  | (s, j, on) :: rest, rows => do
    let rows ← joinRows params s (s.joined on read) j.outer on rows
    joinAll params read rest rows

/-! ## Results -/

/-- A column of the result. -/
structure Output where
  name : String
  alias? : Option String
  value : Expr Place

/-- Every column of a table; its name counts as an alias. -/
def Source.outputs (s : Source) : List Output :=
  s.table.columns.mapIdx fun i c => ⟨c.name, some c.name, .column ⟨s.start + i, c.affinity⟩⟩

/-- The name of a place in a joined row: a column, or the rowid. -/
def placeName (sources : List Source) (p : Place) (source : String) : String :=
  match sources.find? fun s => s.start ≤ p.index && p.index < s.start + s.width with
  | none => source
  | some s =>
    match s.table.columns[p.index - s.start]? with
    | some c => c.name
    | none => (s.table.rowidKey.map fun r => s.table.nameAt r.column).getD "rowid"

/-- The columns that an item gives. -/
def itemOutputs (scope : Scope) : Item → Option (List Output)
  | .all => if scope.sources.isEmpty then none else some (scope.sources.flatMap Source.outputs)
  | .allOf table =>
    match scope.sources.find? fun s => sameName s.name table with
    | none => none
    | some s => some s.outputs
  | .expr e alias? source =>
    (scope.resolve e).map fun value =>
      let name := match alias?, value with
        | some a, _ => a
        | none, .column p => placeName scope.sources p source
        | none, _ => source
      [⟨name, alias?, value⟩]

/-- A term by which rows are sorted or grouped: a position among the results, an alias, or an
expression. -/
def resolveTerm (scope : Scope) (outputs : List Output) (byAlias : Bool) (e : Written) :
    Option (Expr Place) :=
  match e with
  | .literal (.int n) => if 1 ≤ n then (outputs[n.toNat - 1]?).map Output.value else none
  | .column ⟨none, name, _⟩ =>
    match if byAlias then scope.aliases.find? fun a => sameName a.1 name else none with
    | some (_, value) => some value
    | none => scope.resolve e
  | .collate (.column ⟨none, name, _⟩) c =>
    match if byAlias then scope.aliases.find? fun a => sameName a.1 name else none with
    | some (_, value) => some (.collate value c)
    | none => scope.resolve e
  | e => scope.resolve e

/-! ## Sorting and grouping -/

/-- The value of a sort term with how it is sorted. -/
structure SortKey where
  cell : Cell
  collation : Collation
  descending : Bool
  nullsLast : Bool

/-- Compares rows by their sort terms. -/
def compareKeys : List SortKey → List SortKey → Ordering
  | a :: as, b :: bs =>
    let o :=
      if a.cell = .null ∨ b.cell = .null then
        let o := compare (if a.cell = .null then 0 else 1) (if b.cell = .null then 0 else 1)
        if a.nullsLast then o.swap else o
      else
        let o := a.cell.compareBy a.collation b.cell
        if a.descending then o.swap else o
    if o = .eq then compareKeys as bs else o
  | _, _ => .eq

/-- Sorts things by their keys; equal ones stay in order. -/
def sortByKeys {α : Type} (xs : List (List SortKey × α)) : List α :=
  (xs.mergeSort fun a b => compareKeys a.1 b.1 ≠ .gt).map Prod.snd

/-- Runs of neighbours that have the same key. -/
def runs {α : Type} (same : α → α → Bool) : List α → List (List α)
  | [] => []
  | x :: rest =>
    match runs same rest with
    | (y :: ys) :: more => if same x y then (x :: y :: ys) :: more else [x] :: (y :: ys) :: more
    | parts => [x] :: parts

/-- The keys of a row. -/
def keysAt (env : Env) : List (Expr Place × Bool × Bool) → Option (List SortKey)
  | [] => some []
  | (e, descending, nullsLast) :: rest => do
    let cell ← e.eval env
    let more ← keysAt env rest
    return ⟨cell, e.collation?.getD .binary, descending, nullsLast⟩ :: more

/-- The groups of rows by the values of some expressions, in the order of those values, each
ascending or descending. -/
def groupRows (params : List Cell) (by_ : List (Expr Place × Bool)) (rows : List (List Cell)) :
    Option (List (List (List Cell))) := do
  let keyed ← rows.mapM fun row => do
    let keys ← keysAt ⟨params, row, []⟩ (by_.map fun e => (e.1, e.2, e.2))
    return (keys, (keys, row))
  let groups := runs (fun a b => compareKeys a.1 b.1 = .eq) (sortByKeys keyed)
  return groups.map fun g => g.map Prod.snd

/-! ## Limits -/

/-- How many rows a limit allows; a negative number allows all. -/
def limitOf (params : List Cell) (e : Option Written) : Option (Option Nat) :=
  match e with
  | none => some none
  | some e =>
    match (⟨[], [], false⟩ : Scope).resolve e with
    | none => none
    | some e =>
      match (e.eval ⟨params, [], []⟩).map (Affinity.apply .integer) with
      | some (.int n) => some (if n < 0 then none else some n.toNat)
      | _ => none

/-! ## Queries -/

/-- The columns of a table among sort terms, from the first term on, and whether each is sorted from
the last value to the first. -/
def Source.sortColumns (s : Source) : List (Expr Place × Bool × Bool) → List (Nat × Bool)
  | (.column p, descending, nullsLast) :: rest =>
    if s.start ≤ p.index ∧ p.index < s.start + s.width ∧ descending = nullsLast then
      (p.index - s.start, descending) :: s.sortColumns rest
    else []
  | _ => []

/-- How a query wants the rows of its first table: by its groups, if their terms are columns, else
by its sort terms. -/
def Source.wanted (s : Source) (groupBy : List (Expr Place))
    (orderBy : List (Expr Place × Bool × Bool)) : Wanted :=
  if groupBy = [] then .sorted (s.sortColumns orderBy)
  else
    let terms := groupBy.map fun e => (e, false, false)
    let columns := s.sortColumns terms
    .grouped (if columns.length = groupBy.length then columns.map Prod.fst else [])

/-- The columns of groups in the order in which a table gives them, if it keeps groups together. -/
def Table.groupOrder? (t : Table) (a : Approach) : Option (List Nat) :=
  match a.wanted with
  | .sorted _ => none
  | .grouped columns =>
    let rowid := (t.rowidKey.map RowidKey.column).toList
    let order := ((((t.leadingKey? a).map Key.columns).getD []) ++ rowid).filter (· ∉ a.fixed)
    let free := columns.filter (· ∉ a.fixed)
    let firstOf := order.takeWhile (· ∈ free)
    if columns = [] then none
    else if free.all (· ∈ firstOf) || firstOf.any (· ∈ rowid) then
      some (firstOf ++ columns.filter (· ∉ firstOf))
    else none

/-- How groups are made: the approach to the rows, and the terms that sort the groups. A table that
keeps groups together gives them in its own order, backwards if the result is sorted so; else they
are sorted by their terms, in the directions of sort terms if there are as many. -/
def Source.grouping (s : Source) (a : Approach) (groupBy : List (Expr Place))
    (orderBy : List (Expr Place × Bool × Bool)) : Approach × List (Expr Place × Bool) :=
  let directions :=
    if groupBy.length = orderBy.length then orderBy.map fun t => t.2.1
    else groupBy.map fun _ => false
  let sorted := groupBy.zip directions
  match s.table.groupOrder? a with
  | none => (a, sorted)
  | some order =>
    let columns := s.sortColumns (groupBy.map fun e => (e, false, false))
    let terms := s.sortColumns orderBy
    let columnOf (i : Nat) : Option (Expr Place) :=
      ((columns.zip groupBy).find? fun c => c.1.1 = i).map Prod.snd
    let isUniform := directions.eraseDups.length = 1
    if terms.map Prod.fst = order ∧ columns.map Prod.fst = order ∧ isUniform then
      ({ a with wanted := .sorted terms }, sorted)
    else (a, (order.filterMap columnOf).map fun e => (e, false))

/-- The rows of a query; nothing if it is refused. -/
def runQuery (db : Database) (params : List Cell) (q : Query) : Option (List ResultRow) := do
  let sources ← sourcesFrom db 0 q.joins
  let itemScope : Scope := ⟨sources, [], true⟩
  let outputs := (← q.items.mapM (itemOutputs itemScope)).flatten
  let aliases := outputs.filterMap fun o => o.alias?.map fun a => (a, o.value)
  let isGrouped := q.groupBy ≠ [] || outputs.any fun o => o.value.aggregated
  let rowScope : Scope := ⟨sources, aliases, false⟩
  let groupScope : Scope := ⟨sources, aliases, isGrouped⟩
  let condition ← match q.condition with
    | none => some none
    | some e => (rowScope.resolve e).map some
  let groupBy ← q.groupBy.mapM (resolveTerm rowScope outputs false)
  if groupBy.any Expr.aggregated then none
  if q.having.isSome && !isGrouped then none
  let having ← match q.having with
    | none => some none
    | some e => (groupScope.resolve e).map some
  let orderBy ← q.orderBy.mapM fun t =>
    (resolveTerm groupScope outputs true t.value).map fun e => (e, t.descending, t.nullsLast)
  let limit ← limitOf params q.limit
  let offset ← limitOf params q.offset
  let on ← joinConditions [] (sources.zip q.joins)
  let read := (outputs.map Output.value ++ orderBy.map Prod.fst ++ groupBy ++ having.toList ++
    condition.toList ++ on.filterMap id).flatMap Expr.places
  let (rows, groupTerms) ← match sources.zip (q.joins.zip on) with
    | [] => some ([[]], groupBy.map fun e => (e, false))
    | (s, _) :: rest =>
      let a : Approach := { Approach.ofCondition s.start condition with
        wanted := s.wanted groupBy orderBy
        read := some (s.columnsAmong read) }
      let (a, groupTerms) := s.grouping a groupBy orderBy
      let first := (s.table.visited a).map Row.places
      (joinAll params read rest first).map fun rows => (rows, groupTerms)
  let rows ← match condition with
    | none => some rows
    | some e => rows.filterM fun row => e.holdsAt ⟨params, row, []⟩
  let groups ←
    if groupBy ≠ [] then groupRows params groupTerms rows
    else if isGrouped then some [rows]
    else some (rows.map fun r => [r])
  let envs := groups.map fun g => (⟨params, g.headD [], g⟩ : Env)
  let envs ← match having with
    | none => some envs
    | some e => envs.filterM fun env => e.holdsAt env
  let keyed ← envs.mapM fun env => do return (← keysAt env orderBy, env)
  let sorted := sortByKeys keyed
  let shifted := sorted.drop (offset.getD 0)
  let cut := match limit with
    | some n => shifted.take n
    | none => shifted
  cut.mapM fun env => outputs.mapM fun o => do return (o.name, ← o.value.eval env)

end ResourceProvider.Engine
