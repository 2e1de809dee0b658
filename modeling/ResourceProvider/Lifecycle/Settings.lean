import ResourceProvider.Lifecycle.Ensure
import ResourceProvider.Text.Percent
import ResourceProvider.Text.Quoted
/-!
# Where a database is

Settings name the address of a database and how many connections it may have. The options of an
address follow a question mark; only known ones with known values are accepted.
-/
namespace ResourceProvider.Lifecycle

/-! ## Settings -/

/-- Where the database is, and how many connections are made to it. -/
structure Settings where
  address : String
  connections : Nat
deriving DecidableEq, Repr

/-- The address that is used if none is given. -/
def Settings.defaultAddress : String := "sqlite://contract.db"

/-- The number of connections that is used if none is given. -/
def Settings.defaultConnections : Nat := 5

/-- A count of at most 32 bits, which may have a plus sign. -/
def count? (s : String) : Option Nat :=
  let ds := match s.toList with
    | '+' :: rest => rest
    | cs => cs
  let n := Text.decimalValue ds
  if ds ≠ [] ∧ ds.all Text.isDigit ∧ n < 0x100000000 then some n else none

/-- Settings from what is given; a count that is none, or zero, is as good as missing. -/
def Settings.ofGiven (address connections : Option String) : Settings :=
  ⟨address.getD defaultAddress,
    ((connections.bind count?).filter (0 < ·)).getD defaultConnections⟩

/-! ## Addresses -/

/-- The options of an address, with the values that they can have; nothing if any value will do. -/
def options : List (String × Option (List String)) :=
  [("mode", some ["ro", "rw", "rwc", "memory"]), ("cache", some ["private", "shared"]),
   ("immutable", some ["true", "1", "false", "0"]), ("vfs", none)]

/-- What is wrong with an option. -/
def optionFault? (key value : String) : Option String :=
  match options.lookup key with
  | none => some ("unknown query parameter \x60" ++ key ++ "\x60 while parsing connection URL")
  | some none => none
  | some (some values) =>
    if value ∈ values then none
    else some ("unknown value " ++ Text.quoted value ++ " for \x60" ++ key ++ "\x60")

/-- What is wrong with an address. -/
def addressFault? (address : String) : Option String :=
  let query := (address.toList.dropWhile (· ≠ '?')).drop 1
  (Text.queryFields (String.ofList query)).findSome? fun o => optionFault? o.1 o.2

/-! ## Connecting -/

/-- Opens the database of an address: it is new, and configured as the caller wants. -/
def connect (h : Lifecycle) (address : String) : Action Unit := do
  match addressFault? address with
  | some fault =>
    throw (.badRequest ("invalid DATABASE_URL: error with configuration: " ++ fault))
  | none => h.onConfigure.getD (pure ())

end ResourceProvider.Lifecycle
