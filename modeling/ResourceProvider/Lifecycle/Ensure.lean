import ResourceProvider.Schema.Statement
import ResourceProvider.Session
/-!
# Creating and upgrading a database

A database holds the version of its schema; a new one holds zero. `Lifecycle.ensure` creates the
tables of a new database in one transaction, brings an older database to the version of the
schema, and refuses to take a newer one back.
-/
namespace ResourceProvider

/-- What a caller does when a database is opened, created or upgraded; an upgrade is given the
stored version and the new one. -/
structure Lifecycle where
  onConfigure : Option (Action Unit)
  onCreate : Option (Action Unit)
  onUpgrade : Option (Nat → Nat → Action Unit)

/-- What was done to a database. -/
inductive SchemaStatus where
  | created
  | upgraded (stored target : Nat)
  | current
deriving DecidableEq, Repr

namespace Lifecycle

/-- The caller does nothing. -/
def plain : Lifecycle :=
  ⟨none, none, none⟩

/-- The version that the database holds, which must not be negative. -/
def storedVersion : Action Nat := do
  Action.reach
  let v := (← get).database.version
  if v < 0 then
    throw (.document (.validation ("stored user_version " ++ toString v ++ " is negative")))
  return v.toNat

/-- Makes the database hold a version. -/
def setVersion (v : Nat) : Action Unit := do
  Action.reach
  modify fun s => { s with database := { s.database with version := v } }

/-- Issues texts without parameters. -/
def issueAll (texts : List String) : Action Unit :=
  texts.forM fun text => do
    let _ ← Action.issue ⟨text, []⟩

/-- Creates the tables, runs the statements for a new database, and sets the version. -/
def createTables (s : Schema.Script) : Action Unit :=
  Action.transaction do
    issueAll (s.statements.map Prod.snd)
    issueAll s.execOnCreate
    setVersion s.version

/-- Calls the hook for a new database. -/
def created (h : Lifecycle) : Action Unit :=
  match h.onCreate with
  | none => pure ()
  | some hook => do
    Action.record .createHook
    hook

/-- Calls the hook for a newer version. -/
def upgrading (h : Lifecycle) (stored target : Nat) : Action Unit :=
  match h.onUpgrade with
  | none => pure ()
  | some hook => do
    Action.record (.upgradeHook stored target)
    hook stored target

/-- What follows once the stored version is known. -/
def proceed (h : Lifecycle) (s : Schema.Script) (stored : Nat) : Action SchemaStatus := do
  if stored = 0 then
    createTables s
    h.created
    return .created
  else if s.version < stored then throw (.downgrade stored s.version)
  else if stored < s.version then
    h.upgrading stored s.version
    setVersion s.version
    return .upgraded stored s.version
  else return .current

/-- Brings the database to the version of a schema. -/
def ensure (h : Lifecycle) (s : Schema.Script) : Action SchemaStatus := do
  h.proceed s (← storedVersion)

end Lifecycle

end ResourceProvider
