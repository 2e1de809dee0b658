import ResourceProvider.Provider.Mutation
/-!
# Batches

The operations of a batch are made one after another in one transaction. If one fails, none is
made and nothing is signalled; otherwise everything is signalled at the end, in order.
-/
namespace ResourceProvider

open Route (Locator)

/-- One operation of a batch. -/
inductive BatchOperation where
  | insert (l : Locator) (record : Record)
  | update (l : Locator) (record : Record) (filter : Filter)
  | delete (l : Locator) (filter : Filter)

/-- What an operation of a batch did: the locator of a new row, and how many rows it affected. -/
structure BatchResult where
  locator : Option String
  count : Nat
deriving DecidableEq

namespace Dispatch

/-- Makes one operation of a batch. -/
def applyOne (d : Dispatch) : BatchOperation → Action (Changed BatchResult)
  | .insert l record => do
    let p ← Action.ofExcept (d.planFor .insert l)
    let c ← p.insert l record
    return ⟨⟨some c.answer, 1⟩, c.targets⟩
  | .update l record filter => do
    let p ← Action.ofExcept (d.planFor .update l)
    let c ← p.update l record filter
    return ⟨⟨none, c.answer⟩, c.targets⟩
  | .delete l filter => do
    let p ← Action.ofExcept (d.planFor .delete l)
    let c ← p.delete l filter
    return ⟨⟨none, c.answer⟩, c.targets⟩

/-- Makes all operations or none. -/
def applyBatch (d : Dispatch) (ops : List BatchOperation) : Action (List BatchResult) := do
  let changed ← Action.transaction (ops.mapM d.applyOne)
  Action.signal (changed.flatMap Changed.targets)
  return changed.map Changed.answer

end Dispatch

end ResourceProvider
