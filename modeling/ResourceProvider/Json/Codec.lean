import ResourceProvider.Json.Reader
/-!
# Reading and writing by type

A codec reads a value of one type from the head of a text and writes it. Records are lists of
typed fields: they are read from an object, whose unknown fields are skipped, or from a list of
the fields in order, and written as an object.
-/
namespace ResourceProvider.Json

/-- How values of a type are read and written. -/
structure Codec (α : Type) where
  read : Scan α
  write : α → List Char

/-! ## Faults of kind -/

/-- What stands at the head of a text; lists and objects are not looked into. -/
def scanFound : List Char → Except Fault Found
  | [] => .error .expectedValue
  | 'n' :: rest => (word ['u', 'l', 'l'] rest).map fun _ => .null
  | 't' :: rest => (word ['r', 'u', 'e'] rest).map fun _ => .bool true
  | 'f' :: rest => (word ['a', 'l', 's', 'e'] rest).map fun _ => .bool false
  | '"' :: rest => (scanString rest).map fun p => .text p.1
  | '[' :: _ => .ok .sequence
  | '\x7b' :: _ => .ok .map
  | c :: rest =>
    if c = '-' ∨ Text.isDigit c then (scanNumber (c :: rest)).map fun p => .number p.1
    else .error .expectedValue

/-- Another kind of value stands where `expected` should. -/
def mismatch (expected : String) (cs : List Char) : Fault :=
  match scanFound cs with
  | .ok found => .wrongKind found expected
  | .error e => e

/-! ## Single values -/

/-- A text. -/
def Codec.text : Codec String where
  read cs :=
    match skipSpace cs with
    | [] => .error .endInValue
    | '"' :: rest => scanString rest
    | cs => .error (mismatch "a string" cs)
  write := textChars

/-- A truth value. -/
def Codec.bool : Codec Bool where
  read cs :=
    match skipSpace cs with
    | [] => .error .endInValue
    | 't' :: rest => (word ['r', 'u', 'e'] rest).map fun r => (true, r)
    | 'f' :: rest => (word ['a', 'l', 's', 'e'] rest).map fun r => (false, r)
    | cs => .error (mismatch "a boolean" cs)
  write b := (Value.bool b).chars

/-- A whole number of at most `limit`, called `kind` in messages. -/
def Codec.whole (kind : String) (limit : Nat) : Codec Nat where
  read cs :=
    match skipSpace cs with
    | [] => .error .endInValue
    | c :: rest =>
      if c = '-' ∨ Text.isDigit c then
        match scanNumber (c :: rest) with
        | .error e => .error e
        | .ok (.int n, rest) =>
          if 0 ≤ n ∧ n ≤ limit then .ok (n.toNat, rest)
          else .error (.wrongValue (.number (.int n)) kind)
        | .ok (n, _) => .error (.wrongKind (.number n) kind)
      else .error (mismatch kind (c :: rest))
  write n := Nat.toDigits 10 n

/-- A value or null. -/
def Codec.optional {α : Type} (c : Codec α) : Codec (Option α) where
  read cs :=
    match skipSpace cs with
    | 'n' :: rest => (word ['u', 'l', 'l'] rest).map fun r => (none, r)
    | cs => (c.read cs).map fun p => (some p.1, p.2)
  write
    | none => ['n', 'u', 'l', 'l']
    | some x => c.write x

/-- Written items with commas between them. -/
def commaChars : List (List Char) → List Char
  | [] => []
  | [x] => x
  | x :: y :: rest => x ++ ',' :: commaChars (y :: rest)

/-- A list. -/
def Codec.list {α : Type} (c : Codec α) : Codec (List α) where
  read cs :=
    match skipSpace cs with
    | [] => .error .endInValue
    | '[' :: rest => readItems c.read (rest.length + 1) true rest
    | cs => .error (mismatch "a sequence" cs)
  write xs := '[' :: commaChars (xs.map c.write) ++ [']']

/-- Texts by key, in key order; of a repeated key the last text stays. -/
def Codec.textMap : Codec (List (String × String)) where
  read cs :=
    match skipSpace cs with
    | [] => .error .endInValue
    | '\x7b' :: rest =>
      readFields
        (fun key state cs =>
          match readColon cs with
          | .error e => .error e
          | .ok rest => (Codec.text.read rest).map fun p => (insertField key p.1 state, p.2))
        (rest.length + 1) true [] rest
    | cs => .error (mismatch "a map" cs)
  write entries :=
    '\x7b' :: commaChars (entries.map fun e => textChars e.1 ++ ':' :: textChars e.2) ++ ['\x7d']

/-! ## Choices by name -/

/-- The choice with a given name. -/
def choose {α : Type} (name : α → String) (all : List α) (s : String) : Except Fault α :=
  match all.find? fun x => name x = s with
  | some x => .ok x
  | none => .error (.unknownVariant s (all.map name))

/-- Reads null, or says that null was expected. -/
def readNull (cs : List Char) : Except Fault (List Char) :=
  match skipSpace cs with
  | [] => .error .endInValue
  | 'n' :: rest => word ['u', 'l', 'l'] rest
  | cs => .error (mismatch "unit" cs)

/-- One of `all`, written as its name or as an object from its name to null. -/
def Codec.choice {α : Type} (name : α → String) (all : List α) : Codec α where
  read cs :=
    match skipSpace cs with
    | [] => .error .endInValue
    | '"' :: rest =>
      match scanString rest with
      | .error e => .error e
      | .ok (s, rest) => (choose name all s).map fun x => (x, rest)
    | '\x7b' :: rest =>
      match skipSpace rest with
      | [] => .error .endInValue
      | '"' :: rest =>
        match scanString rest with
        | .error e => .error e
        | .ok (s, rest) =>
          match choose name all s with
          | .error e => .error e
          | .ok x =>
            match readColon rest >>= readNull with
            | .error e => .error e
            | .ok rest =>
              match skipSpace rest with
              | '\x7d' :: rest => .ok (x, rest)
              | [] => .error .endInObject
              | _ => .error .expectedValue
      | cs => .error (mismatch "variant identifier" cs)
    | _ => .error .expectedValue
  write x := textChars (name x)

/-- The choice that an already read value names. -/
def chooseFrom {α : Type} (name : α → String) (all : List α) : Value → Except Fault α
  | .str s => choose name all s
  | .obj [(s, v)] =>
    match choose name all s with
    | .error e => .error e
    | .ok x => if v == .null then .ok x else .error (.wrongKind (Found.ofValue v) "unit")
  | .obj _ => .error (.wrongValue .map "map with a single key")
  | v => .error (.wrongKind (Found.ofValue v) "string or map")

/-! ## Records -/

/-- The fields of a record in order; `absent` is the value of a field that is left out. -/
inductive Fields : Type → Type 1 where
  | done : Fields Unit
  | field {α β : Type} (key : String) (codec : Codec α) (absent : Option α) (rest : Fields β) :
      Fields (α × β)

namespace Fields

/-- A field that must be given. -/
def required {α β : Type} (key : String) (c : Codec α) (rest : Fields β) : Fields (α × β) :=
  .field key c none rest

/-- A field with a value for when it is left out. -/
def defaulted {α β : Type} (key : String) (c : Codec α) (absent : α) (rest : Fields β) :
    Fields (α × β) :=
  .field key c (some absent) rest

/-- A field that may be null or left out. -/
def maybe {α β : Type} (key : String) (c : Codec α) (rest : Fields β) : Fields (Option α × β) :=
  .field key c.optional (some none) rest

/-- How many fields there are. -/
def count : {τ : Type} → Fields τ → Nat
  | _, .done => 0
  | _, .field _ _ _ rest => rest.count + 1

/-- What was read so far, field by field. -/
@[reducible]
def Partial : {τ : Type} → Fields τ → Type
  | _, .done => Unit
  | _, .field (α := α) _ _ _ rest => Option α × rest.Partial

/-- Nothing was read so far. -/
def unread : {τ : Type} → (f : Fields τ) → f.Partial
  | _, .done => ()
  | _, .field _ _ _ rest => (none, rest.unread)

/-- Reads what follows a key into its field; what follows an unknown key is skipped. -/
def accept (key : String) : {τ : Type} → (f : Fields τ) → f.Partial → Scan f.Partial
  | _, .done, seen, cs =>
    match readColon cs with
    | .error e => .error e
    | .ok rest => (skipValue rest).map fun r => (seen, r)
  | _, .field k c _ rest, seen, cs =>
    if k = key then
      match seen.1 with
      | some _ => .error (.repeatedField k)
      | none =>
        match readColon cs with
        | .error e => .error e
        | .ok cs => (c.read cs).map fun p => ((some p.1, seen.2), p.2)
    else (accept key rest seen.2 cs).map fun p => ((seen.1, p.1), p.2)

/-- The record, if every required field was read. -/
def finished : {τ : Type} → (f : Fields τ) → f.Partial → Except Fault τ
  | _, .done, _ => .ok ()
  | _, .field k _ absent rest, seen =>
    match seen.1.or absent with
    | none => .error (.missingField k)
    | some x => (rest.finished seen.2).map fun xs => (x, xs)

/-- Where the next item of a list starts, or nothing at its end; the bracket stays. -/
def nextItem (first : Bool) (cs : List Char) : Except Fault (Option (List Char)) :=
  match skipSpace cs with
  | [] => .error .endInList
  | ']' :: _ => .ok none
  | c :: rest =>
    if first then .ok (some (c :: rest))
    else if c = ',' then
      match skipSpace rest with
      | ']' :: _ => .error .trailingComma
      | [] => .error .endInValue
      | next => .ok (some next)
    else .error .expectedListEnd

/-- Reads the fields in order from a list; `expected` describes the whole record. -/
def readInOrder (expected : String) : {τ : Type} → (f : Fields τ) → (index : Nat) → Scan τ
  | _, .done, _, cs => .ok ((), cs)
  | _, .field _ c absent rest, index, cs =>
    match nextItem (index = 0) cs with
    | .error e => .error e
    | .ok (some start) =>
      match c.read start with
      | .error e => .error e
      | .ok (x, cs) => (rest.readInOrder expected (index + 1) cs).map fun p => ((x, p.1), p.2)
    | .ok none =>
      match absent with
      | none => .error (.wrongLength index expected)
      | some x => (rest.readInOrder expected (index + 1) cs).map fun p => ((x, p.1), p.2)

/-- The end of a list that has given all its items. -/
def readListEnd (cs : List Char) : Except Fault (List Char) :=
  match skipSpace cs with
  | ']' :: rest => .ok rest
  | ',' :: rest =>
    match skipSpace rest with
    | ']' :: _ => .error .trailingComma
    | _ => .error .trailingText
  | [] => .error .endInList
  | _ => .error .trailingText

/-- Every field with its key. -/
def written : {τ : Type} → (f : Fields τ) → τ → List (List Char)
  | _, .done, () => []
  | _, .field k c _ rest, (x, xs) => (textChars k ++ ':' :: c.write x) :: rest.written xs

end Fields

/-- A record called `name` in messages, made from the values of its fields. -/
def Codec.record {τ α : Type} (name : String) (fields : Fields τ) (make : τ → α) (parts : α → τ) :
    Codec α where
  read cs :=
    match skipSpace cs with
    | [] => .error .endInValue
    | '[' :: rest =>
      let expected := "struct " ++ name ++ " with " ++ toString fields.count ++ " elements"
      match fields.readInOrder expected 0 rest with
      | .error e => .error e
      | .ok (xs, rest) => (Fields.readListEnd rest).map fun r => (make xs, r)
    | '\x7b' :: rest =>
      match readFields fields.accept (rest.length + 1) true fields.unread rest with
      | .error e => .error e
      | .ok (seen, rest) => (fields.finished seen).map fun xs => (make xs, rest)
    | cs => .error (mismatch ("struct " ++ name) cs)
  write x := '\x7b' :: commaChars (fields.written (parts x)) ++ ['\x7d']

/-- Reads a whole text. -/
def Codec.parse {α : Type} (c : Codec α) (s : String) : Except Fault α :=
  finish (c.read s.toList)

/-- Writes a whole text. -/
def Codec.print {α : Type} (c : Codec α) (x : α) : String :=
  String.ofList (c.write x)

end ResourceProvider.Json
