import ResourceProvider.Terms
/-!
# What can go wrong

Each family of errors is a type of causes with one wording. A request fails with a
`ProviderError`, which holds the errors of every stage below it.
-/
namespace ResourceProvider

/-! ## Schemas -/

/-- What an identifier, or a text in its place, stands for. -/
inductive NameKind where
  | table
  | column
  | constraintColumn
  | checkExpression
deriving DecidableEq, Repr

/-- The kind as messages spell it. -/
def NameKind.name : NameKind → String
  | .table => "table"
  | .column => "column"
  | .constraintColumn => "constraint column"
  | .checkExpression => "check expression"

/-- Why a schema cannot be turned into table definitions. -/
inductive SchemaError where
  | missingTable (table : String)
  | emptyIdentifier (kind : NameKind) (context : Option String)
  | invalidIdentifier (kind : NameKind) (name : String)
  | duplicateTable (table : String)
  | duplicateColumn (table column : String)
  | noColumns (table : String)
  | conflictingPrimaryKey (table : String)
  | autoIncrementWithCompositeKey (table column : String)
  | autoIncrementWithoutPrimaryKey (table column : String)
  | autoIncrementRequiresInteger (table column : String)
  | multipleAutoIncrement (table : String)
  | unknownColumn (table column : String)
  | unresolvedForeignKey (table target : String)
  | foreignKeyArity (table : String) (columns referenced : Nat)
  | noSuchColumn (table column : String)
  | invalidVersion (version : Nat)
deriving DecidableEq, Repr

/-- A name between single quotes. -/
def inQuotes (s : String) : String :=
  "'" ++ s ++ "'"

/-- The wording of a schema error. -/
def SchemaError.message : SchemaError → String
  | .missingTable t => "no such table: " ++ t
  | .emptyIdentifier kind none => "empty " ++ kind.name ++ " name"
  | .emptyIdentifier kind (some context) => "empty " ++ kind.name ++ " name in " ++ context
  | .invalidIdentifier kind name => "invalid " ++ kind.name ++ " name " ++ inQuotes name
  | .duplicateTable t => "duplicate table " ++ inQuotes t
  | .duplicateColumn t c => "duplicate column " ++ inQuotes c ++ " in table " ++ inQuotes t
  | .noColumns t => "table " ++ inQuotes t ++ " has no columns"
  | .conflictingPrimaryKey t =>
    "table " ++ inQuotes t ++ " declares its primary key more than once; use a column flag or a " ++
      "primary key constraint, not both"
  | .autoIncrementWithCompositeKey t c =>
    "column " ++ inQuotes c ++ " in table " ++ inQuotes t ++
      " is AUTOINCREMENT but the table has a composite primary key"
  | .autoIncrementWithoutPrimaryKey t c =>
    "column " ++ inQuotes c ++ " in table " ++ inQuotes t ++
      " is AUTOINCREMENT but is not the table's inline primary key"
  | .autoIncrementRequiresInteger t c =>
    "column " ++ inQuotes c ++ " in table " ++ inQuotes t ++ " is AUTOINCREMENT but is not INTEGER"
  | .multipleAutoIncrement t => "table " ++ inQuotes t ++ " has more than one AUTOINCREMENT column"
  | .unknownColumn t c =>
    "unknown column " ++ inQuotes c ++ " referenced by a constraint on table " ++ inQuotes t
  | .unresolvedForeignKey t target =>
    "foreign key on table " ++ inQuotes t ++ " references unknown target " ++ target
  | .foreignKeyArity t n m =>
    "foreign key on table " ++ inQuotes t ++ " has " ++ toString n ++ " columns but references " ++
      toString m
  | .noSuchColumn t c => "table " ++ inQuotes t ++ " has no column " ++ inQuotes c
  | .invalidVersion v => "database version must be between 1 and 2147483647, got " ++ toString v

/-! ## Routes -/

/-- What an entry bound to paths sets: a slot, or the locator that queries report. -/
inductive OverrideKind where
  | slot (s : Slot)
  | notificationUri
deriving DecidableEq, Repr

/-- The kind as messages spell it. -/
def OverrideKind.name : OverrideKind → String
  | .slot s => s.name
  | .notificationUri => "notification_uri"

/-- Why a route cannot be registered, bound or found. -/
inductive RouteError where
  | emptyPath (endpoint : String)
  | duplicatePath (path : String)
  | unknown (locator : String)
  | unboundOverride (kind : OverrideKind) (path : String)
  | duplicateOverride (kind : OverrideKind) (path : String)
  | invalidBinding (path reason : String)
deriving DecidableEq, Repr

/-- The wording of a route error. -/
def RouteError.message : RouteError → String
  | .emptyPath e => "empty path for endpoint " ++ inQuotes e
  | .duplicatePath p => "duplicate path " ++ inQuotes p
  | .unknown l => "no such resource route: " ++ l
  | .unboundOverride kind p => kind.name ++ " override bound to unknown path " ++ inQuotes p
  | .duplicateOverride kind p => "multiple " ++ kind.name ++ " overrides for path " ++ inQuotes p
  | .invalidBinding p reason => "invalid binding on path " ++ inQuotes p ++ ": " ++ reason

/-! ## Statements -/

/-- Why a statement cannot be composed. -/
inductive CompositionError where
  | argsWithoutSelection
  | tableNotSet
deriving DecidableEq, Repr

/-- The wording of a composition error. -/
def CompositionError.message : CompositionError → String
  | .argsWithoutSelection => "valid selection required when including arguments"
  | .tableNotSet => "table not specified"

/-! ## Documents -/

/-- Why a document cannot be compiled. -/
inductive DocumentError where
  | schema (e : SchemaError)
  | route (e : RouteError)
  | missingHook (kind : HookKind) (name : String)
  | load (reason : String)
  | validation (reason : String)
deriving DecidableEq, Repr

/-- The wording of a document error. -/
def DocumentError.message : DocumentError → String
  | .schema e => e.message
  | .route e => e.message
  | .missingHook kind name => "missing " ++ kind.name ++ " hook " ++ inQuotes name
  | .load reason => "config load: " ++ reason
  | .validation reason => "validation: " ++ reason

/-! ## Storage -/

/-- A declared constraint that a statement would violate; columns stand with their table. -/
inductive Violation where
  | unique (columns : List String)
  | primaryKey (columns : List String)
  | notNull (column : String)
  | check (name : String)
  | foreignKey
deriving DecidableEq, Repr

/-- The number of a violation. -/
def Violation.code : Violation → Nat
  | .unique _ => 2067
  | .primaryKey _ => 1555
  | .notNull _ => 1299
  | .check _ => 275
  | .foreignKey => 787

/-- The wording of a violation. -/
def Violation.message : Violation → String
  | .unique columns => "UNIQUE constraint failed: " ++ ", ".intercalate columns
  | .primaryKey columns => "UNIQUE constraint failed: " ++ ", ".intercalate columns
  | .notNull column => "NOT NULL constraint failed: " ++ column
  | .check name => "CHECK constraint failed: " ++ name
  | .foreignKey => "FOREIGN KEY constraint failed"

/-- Why the storage did not answer: a violated constraint, any other refusal of a statement, a
placeholder whose name is no number, a missing row, or a closed store. -/
inductive StorageError where
  | violation (v : Violation)
  | rejected
  | unbound (name : String)
  | noRows
  | closed
deriving DecidableEq, Repr

/-- The wording for a placeholder whose name is no number. -/
def unboundMessage (name : String) : String :=
  "encountered unexpected or invalid data: " ++
    match name.toList with
    | '$' :: rest =>
      "parameters with non-integer names are not currently supported: " ++ String.ofList rest
    | _ => "unsupported SQL parameter format: " ++ name

/-- The wording of a storage error; a refused statement has none of its own. -/
def StorageError.message : StorageError → String
  | .violation v =>
    "error returned from database: (code: " ++ toString v.code ++ ") " ++ v.message
  | .rejected => "error returned from database"
  | .unbound name => unboundMessage name
  | .noRows => "no rows returned by a query that expected to return at least one row"
  | .closed => "attempted to acquire a connection on a closed pool"

/-! ## Requests -/

/-- Why a request failed. -/
inductive ProviderError where
  | document (e : DocumentError)
  | route (e : RouteError)
  | composition (e : CompositionError)
  | storage (e : StorageError)
  | notAllowed (operation : Operation) (path : String)
  | badRequest (reason : String)
  | downgrade (stored target : Nat)
deriving DecidableEq, Repr

/-- The wording of a failed request. -/
def ProviderError.message : ProviderError → String
  | .document e => e.message
  | .route e => e.message
  | .composition e => e.message
  | .storage e => "database: " ++ e.message
  | .notAllowed operation path => operation.name ++ " not allowed for " ++ inQuotes path
  | .badRequest reason => "bad request: " ++ reason
  | .downgrade stored target =>
    "cannot downgrade database from version " ++ toString stored ++ " to " ++ toString target

end ResourceProvider
