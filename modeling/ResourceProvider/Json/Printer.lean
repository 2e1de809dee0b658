import ResourceProvider.Json.Value
import ResourceProvider.Text.Blank
import ResourceProvider.Text.Decimal
/-!
# Compact text of values

No white space, keys in order, and only those characters escaped that must be. Floats are written
with the fewest digits that read back, positionally for exponents from -5 to 15.
-/
namespace ResourceProvider.Json

open Text

/-- The letter or code by which a character stands inside a text. -/
def escapedChar (c : Char) : List Char :=
  if c = '"' then ['\\', '"']
  else if c = '\\' then ['\\', '\\']
  else if c = '\x08' then ['\\', 'b']
  else if c = '\x0c' then ['\\', 'f']
  else if c = '\n' then ['\\', 'n']
  else if c = '\r' then ['\\', 'r']
  else if c = '\t' then ['\\', 't']
  else if c.toNat < 0x20 then
    ['\\', 'u', '0', '0', Nat.digitChar (c.toNat / 16), Nat.digitChar (c.toNat % 16)]
  else [c]

/-- A text between quotes. -/
def textChars (s : String) : List Char :=
  '"' :: s.toList.flatMap escapedChar ++ ['"']

/-- An exponent with its sign. -/
def exponentChars (e : Int) : List Char :=
  'e' :: (if e < 0 then '-' else '+') :: Nat.toDigits 10 e.natAbs

/-- The magnitude of a finite float. -/
def magnitudeChars (x : Float) : List Char :=
  let d := (Binary.ofBits x.toBits).shortest
  let (ds, e) := d.lead
  if d.digits = 0 then ['0', '.', '0']
  else if -5 ≤ e ∧ e < 16 then positional ds e
  else match ds with
    | [] => []
    | [lead] => lead :: exponentChars e
    | lead :: rest => lead :: '.' :: rest ++ exponentChars e

/-- A finite float. -/
def floatChars (x : Float) : List Char :=
  if isNegative x then '-' :: magnitudeChars x else magnitudeChars x

/-- An integer in base ten. -/
def intChars (n : Int) : List Char :=
  if n < 0 then '-' :: Nat.toDigits 10 n.natAbs else Nat.toDigits 10 n.natAbs

/-- A number. -/
def Number.chars : Number → List Char
  | .int n => intChars n
  | .float x => floatChars x

mutual

/-- A value without any white space. -/
def Value.chars : Value → List Char
  | .null => ['n', 'u', 'l', 'l']
  | .bool true => ['t', 'r', 'u', 'e']
  | .bool false => ['f', 'a', 'l', 's', 'e']
  | .num n => n.chars
  | .str s => textChars s
  | .arr items => '[' :: itemsChars items ++ [']']
  | .obj fields => '\x7b' :: fieldsChars fields ++ ['\x7d']

/-- Items with commas between them. -/
def itemsChars : List Value → List Char
  | [] => []
  | [v] => v.chars
  | v :: w :: rest => v.chars ++ ',' :: itemsChars (w :: rest)

/-- Keys and values with commas between the fields. -/
def fieldsChars : List (String × Value) → List Char
  | [] => []
  | [(k, v)] => textChars k ++ ':' :: v.chars
  | (k, v) :: f :: rest => textChars k ++ ':' :: v.chars ++ ',' :: fieldsChars (f :: rest)

end

/-- The compact text of a value. -/
def Value.compact (v : Value) : String :=
  String.ofList v.chars

end ResourceProvider.Json
