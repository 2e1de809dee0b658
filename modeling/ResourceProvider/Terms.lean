/-!
# Terms of the schema and the provider

The closed vocabularies: column types, conflict policies, foreign key actions, operations,
mutations, and the slots a hook can fill, each with its spelling in documents and statements.
-/
namespace ResourceProvider

/-- The declared type of a column. -/
inductive DataType where
  | integer
  | real
  | text
  | blob
deriving DecidableEq, Repr

/-- The type as documents and statements spell it. -/
def DataType.name : DataType → String
  | .integer => "INTEGER"
  | .real => "REAL"
  | .text => "TEXT"
  | .blob => "BLOB"

/-- What happens to a statement that violates a constraint; `none` writes no clause. -/
inductive ConflictPolicy where
  | none
  | rollback
  | abort
  | fail
  | ignore
  | replace
deriving DecidableEq, Repr

/-- The policy as documents spell it. -/
def ConflictPolicy.name : ConflictPolicy → String
  | .none => "NONE"
  | .rollback => "ROLLBACK"
  | .abort => "ABORT"
  | .fail => "FAIL"
  | .ignore => "IGNORE"
  | .replace => "REPLACE"

/-- The keyword of the policy in a statement. -/
def ConflictPolicy.keyword? : ConflictPolicy → Option String
  | .none => Option.none
  | p => some p.name

/-- What happens to the rows that refer to a row that goes away or changes its key. -/
inductive ForeignKeyAction where
  | none
  | noAction
  | restrict
  | setNull
  | setDefault
  | cascade
deriving DecidableEq, Repr

/-- The action as documents spell it. -/
def ForeignKeyAction.name : ForeignKeyAction → String
  | .none => "NONE"
  | .noAction => "NO_ACTION"
  | .restrict => "RESTRICT"
  | .setNull => "SET_NULL"
  | .setDefault => "SET_DEFAULT"
  | .cascade => "CASCADE"

/-- The keywords of the action in a statement. -/
def ForeignKeyAction.keyword? : ForeignKeyAction → Option String
  | .none => Option.none
  | .noAction => some "NO ACTION"
  | .restrict => some "RESTRICT"
  | .setNull => some "SET NULL"
  | .setDefault => some "SET DEFAULT"
  | .cascade => some "CASCADE"

/-- What a caller may do at an endpoint. -/
inductive Operation where
  | query
  | insert
  | update
  | delete
deriving DecidableEq, Repr

/-- The operation as documents and messages spell it. -/
def Operation.name : Operation → String
  | .query => "query"
  | .insert => "insert"
  | .update => "update"
  | .delete => "delete"

/-- Every operation, in the order in which they are listed. -/
def Operation.all : List Operation :=
  [.query, .insert, .update, .delete]

/-- A change of stored rows that is signalled. -/
inductive Mutation where
  | insert
  | bulkInsert
  | update
  | delete
deriving DecidableEq, Repr

/-- The mutation as hooks see it. -/
def Mutation.name : Mutation → String
  | .insert => "insert"
  | .bulkInsert => "bulk_insert"
  | .update => "update"
  | .delete => "delete"

/-- The slot of an endpoint that an override fills. -/
inductive Slot where
  | whereFragments
  | joins
  | insertUri
  | notify (mutation : Mutation)
deriving DecidableEq, Repr

/-- The slot as documents and messages spell it. -/
def Slot.name : Slot → String
  | .whereFragments => "where"
  | .joins => "join"
  | .insertUri => "insert_uri"
  | .notify m => "notify_" ++ m.name

/-- A kind of hook; hooks of one kind are registered under their own names. -/
inductive HookKind where
  | whereFragments
  | joins
  | insertUri
  | notify
deriving DecidableEq, Repr

/-- The kind as messages spell it. -/
def HookKind.name : HookKind → String
  | .whereFragments => "where"
  | .joins => "join"
  | .insertUri => "insert_uri"
  | .notify => "notify"

end ResourceProvider
