import ResourceProvider.Provider.Query
/-!
# Changes

Each change first answers with the locators at which it is to be signalled; they are signalled
once nothing can go wrong any more. A change that affects no row is not signalled, unless it is an
insertion.
-/
namespace ResourceProvider

open Route (Locator)

/-- Which rows a caller wants to change. -/
structure Filter where
  condition : Option String
  args : List String

/-- The answer to a change, with the locators to signal it at. -/
structure Changed (α : Type) where
  answer : α
  targets : List String

namespace Plan

/-! ## One row -/

/-- The locator of a new row, if no hook chooses it: its number below the locator. -/
def defaultRowUri (l : Locator) (id : Int) : String :=
  String.ofList (l.raw.toList.reverse.dropWhile (· = '/')).reverse ++ "/" ++ toString id

/-- The locator of a new row. -/
def rowUri (p : Plan) (l : Locator) (r : Record) (id : Int) : String :=
  match p.insertUriHook with
  | some hook => hook l r id
  | none => defaultRowUri l id

/-- Adds a row of a table, and gives the number of the last row that was added. -/
def insertRow (p : Plan) (r : Record) : Action Int := do
  let _ ← Action.issue (Sql.insert p.endpoint.table r)
  return (← get).database.lastRowid

/-- Adds a row; the answer is its locator. -/
def insert (p : Plan) (l : Locator) (r : Record) : Action (Changed String) := do
  Action.ofExcept (p.checkRecord r)
  let id ← p.insertRow r
  return ⟨p.rowUri l r id, p.targets ⟨.insert, l, some r, [], [id], 1, "", []⟩⟩

/-! ## Selected rows -/

/-- The notice of a change of selected rows; there is none if no row was affected. -/
def affected (p : Plan) (mutation : Mutation) (l : Locator) (r : Option Record) (count : Nat)
    (s : Sql.Selection) : Changed Nat :=
  if count = 0 then ⟨0, []⟩
  else ⟨count, p.targets ⟨mutation, l, r, [], [], count, s.condition, s.args⟩⟩

/-- Sets columns of the selected rows; the answer is how many there were. -/
def update (p : Plan) (l : Locator) (r : Record) (f : Filter) : Action (Changed Nat) := do
  Action.ofExcept (p.checkRecord r)
  let s ← Action.ofExcept (p.selection .update l f.condition f.args)
  if r = [] then throw (.badRequest "update requires at least one column")
  let statement ← Action.composed (s.update r)
  let outcome ← Action.issue statement
  return p.affected .update l (some r) outcome.changes s

/-- Removes the selected rows; the answer is how many there were. -/
def delete (p : Plan) (l : Locator) (f : Filter) : Action (Changed Nat) := do
  let s ← Action.ofExcept (p.selection .delete l f.condition f.args)
  let statement ← Action.composed s.delete
  let outcome ← Action.issue statement
  return p.affected .delete l none outcome.changes s

end Plan

/-- Signals a change, and gives its answer. -/
def Changed.announce {α : Type} (c : Changed α) : Action α := do
  Action.signal c.targets
  return c.answer

namespace Dispatch

/-- Adds a row and gives its locator. -/
def insert (d : Dispatch) (l : Locator) (r : Record) : Action String := do
  let p ← Action.ofExcept (d.planFor .insert l)
  Action.reach
  (← p.insert l r).announce

/-- Adds rows, all or none, and says how many. -/
def bulkInsert (d : Dispatch) (l : Locator) (records : List Record) : Action Nat := do
  let p ← Action.ofExcept (d.planFor .insert l)
  Action.ofExcept (records.forM p.checkRecord)
  let changed ← Action.transaction do
    let ids ← records.mapM p.insertRow
    return (⟨records.length,
      p.targets ⟨.bulkInsert, l, none, records, ids, records.length, "", []⟩⟩ : Changed Nat)
  changed.announce

/-- Sets columns of selected rows and says how many there were. -/
def update (d : Dispatch) (l : Locator) (r : Record) (f : Filter) : Action Nat := do
  let p ← Action.ofExcept (d.planFor .update l)
  Action.reach
  (← p.update l r f).announce

/-- Removes selected rows and says how many there were. -/
def delete (d : Dispatch) (l : Locator) (f : Filter) : Action Nat := do
  let p ← Action.ofExcept (d.planFor .delete l)
  Action.reach
  (← p.delete l f).announce

end Dispatch

end ResourceProvider
