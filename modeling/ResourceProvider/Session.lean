import ResourceProvider.Engine.Run
import ResourceProvider.Sql.Row
import ResourceProvider.Sql.Statement
/-!
# Sessions

A session is a database that requests reach while it is open, with a record of what happened: the
statements that were issued and the locators that were signalled. A request that fails keeps what
it did; in a transaction it keeps only that record.
-/
namespace ResourceProvider

/-- Something that happened in a session. -/
inductive Event where
  /-- A statement was handed to the database. -/
  | issued (text : String)
  /-- A change was signalled at a locator. -/
  | signalled (locator : String)
  /-- The hook for a new database was called. -/
  | createHook
  /-- The hook for a newer version was called. -/
  | upgradeHook (stored target : Nat)
  /-- A hook handed a statement to the database. -/
  | hookStatement (text : String)
deriving DecidableEq, Repr

/-- A database with what happened to it; the newest event stands last. -/
structure Session where
  database : Engine.Database
  isOpen : Bool
  events : List Event

/-- What a request does to a session, and what it answers. -/
abbrev Action (α : Type) := EStateM ProviderError Session α

namespace Session

/-- A new database that nothing happened to. -/
def start : Session :=
  ⟨.empty, true, []⟩

/-- The locators that were signalled, in order. -/
def signals (s : Session) : List String :=
  s.events.filterMap fun e => match e with
    | .signalled l => some l
    | _ => none

/-- The statements that were issued, in order. -/
def statements (s : Session) : List String :=
  s.events.filterMap fun e => match e with
    | .issued text => some text
    | _ => none

end Session

namespace Action

/-- Records an event. -/
def record (e : Event) : Action Unit :=
  modify fun s => { s with events := s.events ++ [e] }

/-- The result of a part that may fail. -/
def ofExcept {α : Type} : Except ProviderError α → Action α
  | .ok x => pure x
  | .error e => throw e

/-- Refuses if the database cannot be reached. -/
def reach : Action Unit := do
  if !(← get).isOpen then throw (.storage .closed)

/-- Runs a text on the database. -/
def execute (text : String) (params : List Engine.Cell) : Action Engine.Outcome := do
  reach
  let (database, answer) := (← get).database.run text params
  modify fun s => { s with database }
  ofExcept (answer.mapError fun refusal => .storage refusal.error)

/-- Issues a statement. -/
def issue (s : Sql.Statement) : Action Engine.Outcome := do
  reach
  record (.issued s.text)
  execute s.text (s.params.map Sql.cellOfValue)

/-- Signals a change at each of the locators. -/
def signal (locators : List String) : Action Unit :=
  locators.forM fun l => record (.signalled l)

/-- Keeps what was done since `before`, unless a foreign key was put off and still refers to nothing. -/
def commit (before : Engine.Database) : Action Unit := do
  if before.isOverdue (← get).database then throw (.storage (.violation .foreignKey))
  modify fun s => { s with database := s.database.commit }

/-- Makes a request in one piece: if it fails, the database is as it was before. -/
def transaction {α : Type} (r : Action α) : Action α := do
  reach
  let before := (← get).database
  modify fun s => { s with database := s.database.begin }
  tryCatch
    (do
      let x ← r
      commit before
      return x)
    fun e => do
      modify fun s => { s with database := s.database.rollback before }
      throw e

/-- The database cannot be reached any more. -/
def close : Action Unit :=
  modify fun s => { s with isOpen := false }

end Action

end ResourceProvider
