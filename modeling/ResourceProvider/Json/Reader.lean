import ResourceProvider.Json.Scan
/-!
# Reading values

Lists and objects are read item by item, so the first fault in the order of the text is the one
reported. A value may be nested `maxDepth` deep. Of a repeated key the last value stays.
-/
namespace ResourceProvider.Json

/-- How many lists and objects may enclose each other. -/
def maxDepth : Nat := 127

/-! ## Lists and objects of anything -/

/-- The items of a list, with its closing bracket; `first` says that none was read yet. -/
def readItems {α : Type} (item : Scan α) : (fuel : Nat) → (first : Bool) → Scan (List α)
  | 0, _, _ => .error .endInList
  | fuel + 1, first, cs =>
    match skipSpace cs with
    | [] => .error .endInList
    | ']' :: rest => .ok ([], rest)
    | c :: rest =>
      let start : Except Fault (List Char) :=
        if first then .ok (c :: rest)
        else if c = ',' then
          match skipSpace rest with
          | ']' :: _ => .error .trailingComma
          | [] => .error .endInValue
          | next => .ok next
        else .error .expectedListEnd
      match start with
      | .error e => .error e
      | .ok next =>
        match item next with
        | .error e => .error e
        | .ok (x, rest) =>
          match readItems item fuel false rest with
          | .error e => .error e
          | .ok (xs, rest) => .ok (x :: xs, rest)

/-- The colon between a key and its value. -/
def readColon (cs : List Char) : Except Fault (List Char) :=
  match skipSpace cs with
  | ':' :: rest => .ok rest
  | [] => .error .endInObject
  | _ => .error .expectedColon

/-- The opening quote of the next key, or nothing at the closing brace. -/
def readKeyStart (first : Bool) (cs : List Char) : Except Fault (Option (List Char) × List Char) :=
  match skipSpace cs with
  | [] => .error .endInObject
  | '\x7d' :: rest => .ok (none, rest)
  | c :: rest =>
    if first then
      if c = '"' then .ok (some rest, rest) else .error .keyNotText
    else if c = ',' then
      match skipSpace rest with
      | '"' :: rest => .ok (some rest, rest)
      | '\x7d' :: _ => .error .trailingComma
      | [] => .error .endInValue
      | _ => .error .keyNotText
    else .error .expectedObjectEnd

/-- Folds `field` over the keys of an object; it reads what follows the key. -/
def readFields {σ : Type} (field : String → σ → Scan σ) :
    (fuel : Nat) → (first : Bool) → σ → Scan σ
  | 0, _, _, _ => .error .endInObject
  | fuel + 1, first, state, cs =>
    match readKeyStart first cs with
    | .error e => .error e
    | .ok (none, rest) => .ok (state, rest)
    | .ok (some start, _) =>
      match scanString start with
      | .error e => .error e
      | .ok (key, rest) =>
        match field key state rest with
        | .error e => .error e
        | .ok (state, rest) => readFields field fuel false state rest

/-! ## Values -/

/-- A value whose lists and objects are read by `inner`, if any depth is left for them. -/
def readWith (list : Scan Value) (obj : Scan Value) : Scan Value := fun cs =>
  match skipSpace cs with
  | [] => .error .endInValue
  | 'n' :: rest => (word ['u', 'l', 'l'] rest).map fun r => (.null, r)
  | 't' :: rest => (word ['r', 'u', 'e'] rest).map fun r => (.bool true, r)
  | 'f' :: rest => (word ['a', 'l', 's', 'e'] rest).map fun r => (.bool false, r)
  | '"' :: rest => (scanString rest).map fun p => (.str p.1, p.2)
  | '[' :: rest => list rest
  | '\x7b' :: rest => obj rest
  | c :: rest =>
    if c = '-' ∨ Text.isDigit c then (scanNumber (c :: rest)).map fun p => (.num p.1, p.2)
    else .error .expectedValue

/-- Reads one field into the fields read so far. -/
def readField (value : Scan Value) (key : String) (fields : List (String × Value)) :
    Scan (List (String × Value)) := fun cs =>
  match readColon cs with
  | .error e => .error e
  | .ok rest => (value rest).map fun p => (insertField key p.1 fields, p.2)

/-- A value nested at most `depth` deep. -/
def readValue : (depth : Nat) → Scan Value
  | 0 => readWith (fun _ => .error .tooDeep) (fun _ => .error .tooDeep)
  | depth + 1 =>
    readWith
      (fun cs => (readItems (readValue depth) (cs.length + 1) true cs).map fun p => (.arr p.1, p.2))
      (fun cs => (readFields (readField (readValue depth)) (cs.length + 1) true [] cs).map
        fun p => (.obj p.1, p.2))

/-- Nothing but white space may follow. -/
def finish {α : Type} : Scanned α → Except Fault α
  | .error e => .error e
  | .ok (x, rest) => if skipSpace rest = [] then .ok x else .error .trailingText

/-- The value a text stands for. -/
def Value.parse (s : String) : Except Fault Value :=
  finish (readValue maxDepth s.toList)

end ResourceProvider.Json
