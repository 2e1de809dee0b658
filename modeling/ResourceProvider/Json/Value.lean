/-!
# Values of the data format

Numbers are integers or binary floats, and objects hold each key once, in the order of the keys'
code points. `insertField` keeps that order and replaces the value of a key that is present.
-/
namespace ResourceProvider.Json

/-- An integer of at most 64 bits, or a finite float. -/
inductive Number where
  | int (n : Int)
  | float (x : Float)
deriving DecidableEq

/-- A value; `obj` lists its fields by ascending key. -/
inductive Value where
  | null
  | bool (b : Bool)
  | num (n : Number)
  | str (s : String)
  | arr (items : List Value)
  | obj (fields : List (String × Value))
deriving BEq, Inhabited

/-! ## Fields in key order -/

/-- Sets the value of `k`, at the place its key belongs. -/
def insertField {α : Type} (k : String) (v : α) : List (String × α) → List (String × α)
  | [] => [(k, v)]
  | (k', v') :: rest =>
    if k = k' then (k, v) :: rest
    else if k < k' then (k, v) :: (k', v') :: rest
    else (k', v') :: insertField k v rest

/-- The fields in key order; of a repeated key the last value stays. -/
def sortFields {α : Type} (fields : List (String × α)) : List (String × α) :=
  fields.foldl (fun acc f => insertField f.1 f.2 acc) []

/-- An object with the given fields. -/
def object (fields : List (String × Value)) : Value :=
  .obj (sortFields fields)

/-- The value under a key, if the value is an object that has it. -/
def Value.field? (v : Value) (key : String) : Option Value :=
  match v with
  | .obj fields => fields.lookup key
  | _ => none

/-- A whole number. -/
def whole (n : Nat) : Value :=
  .num (.int n)

/-- A text, or null. -/
def optionalText : Option String → Value
  | some s => .str s
  | none => .null

/-- A list of texts. -/
def texts (parts : List String) : Value :=
  .arr (parts.map .str)

end ResourceProvider.Json
