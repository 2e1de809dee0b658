import ResourceProvider.Json.Codec
import ResourceProvider.Provider.Batch
/-!
# Batches as text

An operation is an object whose field `op` names it, next to its locator, its record and its
filter; unknown fields are skipped. An insertion can also be a list of its name, its locator and
its record.
-/
namespace ResourceProvider.BatchOperation

open Json

/-- What an operation does. -/
inductive Kind where
  | insert
  | update
  | delete
deriving DecidableEq, Repr

/-- The kind as texts spell it. -/
def Kind.name : Kind → String
  | .insert => "insert"
  | .update => "update"
  | .delete => "delete"

/-- What messages call an operation of a kind. -/
def Kind.describe : Kind → String
  | .insert => "struct variant BatchOperation::Insert"
  | .update => "struct variant BatchOperation::Update"
  | .delete => "struct variant BatchOperation::Delete"

/-- The kind of a name. -/
def chooseKind (name : String) : Except Fault Kind :=
  choose Kind.name [.insert, .update, .delete] name

/-- What stands next to the kind. -/
inductive Content where
  | fields (entries : List (String × Value))
  | items (values : List Value)

/-! ## Parts -/

/-- A text. -/
def textOf : Value → Except Fault String
  | .str s => .ok s
  | v => .error (.wrongKind (.ofValue v) "a string")

/-- A text, or null. -/
def optionalTextOf : Value → Except Fault (Option String)
  | .null => .ok none
  | v => (textOf v).map some

/-- A list of texts. -/
def textsOf : Value → Except Fault (List String)
  | .arr vs => vs.mapM textOf
  | v => .error (.wrongKind (.ofValue v) "a sequence")

/-- A record. -/
def recordOf : Value → Except Fault Record
  | .obj fields => .ok fields
  | v => .error (.wrongKind (.ofValue v) "a map")

/-- The field of a key, if it is there; it may be there once. -/
def field? {α : Type} (read : Value → Except Fault α) (key : String)
    (entries : List (String × Value)) : Except Fault (Option α) :=
  match entries.filter fun e => e.1 = key with
  | [] => .ok none
  | [(_, v)] => (read v).map some
  | _ => .error (.repeatedField key)

/-- The value of a field that must be there. -/
def required {α : Type} (key : String) : Option α → Except Fault α
  | some x => .ok x
  | none => .error (.missingField key)

/-- The filter among the fields. -/
def filterOf (entries : List (String × Value)) : Except Fault Filter := do
  let condition ← field? optionalTextOf "selection" entries
  let args ← field? textsOf "selection_args" entries
  return ⟨condition.getD none, args.getD []⟩

/-! ## Operations -/

/-- The operation of a kind with its content. -/
def ofContent : Kind → Content → Except Fault BatchOperation
  | .insert, .fields entries => do
    let locator ← field? textOf "locator" entries
    let record ← field? recordOf "record" entries
    return .insert ⟨← required "locator" locator⟩ (record.getD [])
  | .insert, .items values => do
    match values with
    | [] => throw (.wrongLength 0 (Kind.insert.describe ++ " with 2 elements"))
    | v :: rest =>
      let locator ← textOf v
      match rest with
      | [] => return .insert ⟨locator⟩ []
      | w :: more =>
        let record ← recordOf w
        if more.isEmpty then return .insert ⟨locator⟩ record
        else throw (.wrongLength (more.length + 2) "2 elements in sequence")
  | .update, .fields entries => do
    let locator ← field? textOf "locator" entries
    let record ← field? recordOf "record" entries
    let locator ← required "locator" locator
    let record ← required "record" record
    return .update ⟨locator⟩ record (← filterOf entries)
  | .delete, .fields entries => do
    let locator ← field? textOf "locator" entries
    return .delete ⟨← required "locator" locator⟩ (← filterOf entries)
  | kind, .items _ => .error (.wrongKind .sequence kind.describe)

/-! ## From values -/

/-- The kind that a value names. -/
def kindOf : Value → Except Fault Kind
  | .str s => chooseKind s
  | v => .error (.wrongKind (.ofValue v) "variant identifier")

/-- The operation that a value stands for. -/
def ofValue : Value → Except Fault BatchOperation
  | .obj fields =>
    match fields.lookup "op" with
    | none => .error (.missingField "op")
    | some tag => do ofContent (← kindOf tag) (.fields fields)
  | .arr (tag :: rest) => do ofContent (← kindOf tag) (.items rest)
  | .arr [] => .error (.missingField "op")
  | v => .error (.wrongKind (.ofValue v) "internally tagged enum BatchOperation")

/-- The operations that a value stands for. -/
def listOfValue : Value → Except Fault (List BatchOperation)
  | .arr vs => vs.mapM ofValue
  | v => .error (.wrongKind (.ofValue v) "a sequence")

/-! ## From texts -/

/-- Reads the name of a kind. -/
def scanKind (cs : List Char) : Except Fault (Kind × List Char) :=
  match skipSpace cs with
  | [] => .error .endInValue
  | '"' :: rest => do
    let (s, rest) ← scanString rest
    return (← chooseKind s, rest)
  | cs => .error (mismatch "variant identifier" cs)

/-- How deep the values of an operation may be nested: a list and the operation enclose them. -/
def innerDepth : Nat := maxDepth - 2

/-- Reads one field of an operation into the kind and the fields that were read so far. -/
def scanField (key : String) (seen : Option Kind × List (String × Value)) (cs : List Char) :
    Except Fault ((Option Kind × List (String × Value)) × List Char) :=
  if key = "op" then
    if seen.1.isSome then .error (.repeatedField "op")
    else do
      let (kind, rest) ← scanKind (← readColon cs)
      return ((some kind, seen.2), rest)
  else do
    let (v, rest) ← readValue innerDepth (← readColon cs)
    return ((seen.1, seen.2 ++ [(key, v)]), rest)

/-- Reads an operation. -/
def scan (cs : List Char) : Except Fault (BatchOperation × List Char) :=
  match skipSpace cs with
  | [] => .error .endInValue
  | '\x7b' :: rest => do
    let ((kind?, entries), rest) ← readFields scanField (rest.length + 1) true (none, []) rest
    match kind? with
    | none => throw (.missingField "op")
    | some kind => return (← ofContent kind (.fields entries), rest)
  | '[' :: rest => do
    let start? ← Fields.nextItem true rest
    match start? with
    | none => throw (.missingField "op")
    | some start =>
      let (kind, rest) ← scanKind start
      let (values, rest) ← readItems (readValue innerDepth) (rest.length + 1) false rest
      return (← ofContent kind (.items values), rest)
  | cs => .error (mismatch "internally tagged enum BatchOperation" cs)

/-- Reads a list of operations. -/
def scanList (cs : List Char) : Except Fault (List BatchOperation × List Char) :=
  match skipSpace cs with
  | [] => .error .endInValue
  | '[' :: rest => readItems scan (rest.length + 1) true rest
  | cs => .error (mismatch "a sequence" cs)

end ResourceProvider.BatchOperation
