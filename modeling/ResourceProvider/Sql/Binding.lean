import ResourceProvider.Json.Printer
/-!
# Parameters of statements

How a value is handed to the database: integers that fit 64 signed bits as integers, other
numbers as floats, and lists and objects as their text.
-/
namespace ResourceProvider.Sql

/-- A parameter of a statement. -/
inductive Param where
  | null
  | bool (b : Bool)
  | int (n : Int)
  | float (x : Float)
  | text (s : String)
deriving DecidableEq

/-- The integer is stored in 64 bits with a sign. -/
def fitsInt64 (n : Int) : Bool :=
  -0x8000000000000000 ≤ n && n < 0x8000000000000000

/-- The nearest float. -/
def floatOfInt (n : Int) : Float :=
  if n < 0 then -n.natAbs.toFloat else n.natAbs.toFloat

/-- The parameter of a value. -/
def Param.ofValue : Json.Value → Param
  | .null => .null
  | .bool b => .bool b
  | .num (.int n) => if fitsInt64 n then .int n else .float (floatOfInt n)
  | .num (.float x) => .float x
  | .str s => .text s
  | v => .text v.compact

end ResourceProvider.Sql
