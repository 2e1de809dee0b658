import ResourceProvider.Json.Printer
import ResourceProvider.Text.Quoted
/-!
# What can be wrong with a text of the data format

A fault is a cause: a place where the grammar is left, a value of another kind than the one
expected, or a record with missing or repeated fields. `Fault.message` is its only wording.
-/
namespace ResourceProvider.Json

open Text

/-- What was found where something else was expected. -/
inductive Found where
  | null
  | bool (b : Bool)
  | number (n : Number)
  | text (s : String)
  | sequence
  | map
deriving DecidableEq

/-- Why a text cannot be read. -/
inductive Fault where
  | endInValue
  | endInList
  | endInObject
  | endInText
  | expectedColon
  | expectedListEnd
  | expectedObjectEnd
  | expectedIdent
  | expectedValue
  | invalidEscape
  | invalidNumber
  | numberOutOfRange
  | controlCharacter
  | keyNotText
  | loneSurrogate
  | unfinishedPair
  | trailingComma
  | trailingText
  | tooDeep
  | wrongKind (found : Found) (expected : String)
  | wrongValue (found : Found) (expected : String)
  | wrongLength (length : Nat) (expected : String)
  | unknownVariant (name : String) (known : List String)
  | missingField (name : String)
  | repeatedField (name : String)
  | flagShape (got : Value)
  | flagKeys (keys : List String)

/-- A name between backticks. -/
def ticked (s : String) : String :=
  "\x60" ++ s ++ "\x60"

/-- How a found value is named. -/
def Found.describe : Found → String
  | .null => "null"
  | .bool b => "boolean " ++ ticked (if b then "true" else "false")
  | .number (.int n) => "integer " ++ ticked (String.ofList (intChars n))
  | .number (.float x) => "floating point " ++ ticked (String.ofList (floatChars x))
  | .text s => "string " ++ quoted s
  | .sequence => "sequence"
  | .map => "map"

/-- The kind of a value that was read whole. -/
def Found.ofValue : Value → Found
  | .null => .null
  | .bool b => .bool b
  | .num n => .number n
  | .str s => .text s
  | .arr _ => .sequence
  | .obj _ => .map

/-- Names a reader would have taken, as alternatives. -/
def alternatives : List String → String
  | [] => "there are no variants"
  | [a] => "expected " ++ ticked a
  | [a, b] => "expected " ++ ticked a ++ " or " ++ ticked b
  | names => "expected one of " ++ join ", " (names.map ticked)

/-- The wording of a fault. -/
def Fault.message : Fault → String
  | .endInValue => "EOF while parsing a value"
  | .endInList => "EOF while parsing a list"
  | .endInObject => "EOF while parsing an object"
  | .endInText => "EOF while parsing a string"
  | .expectedColon => "expected " ++ ticked ":"
  | .expectedListEnd => "expected " ++ ticked "," ++ " or " ++ ticked "]"
  | .expectedObjectEnd => "expected " ++ ticked "," ++ " or " ++ ticked "\x7d"
  | .expectedIdent => "expected ident"
  | .expectedValue => "expected value"
  | .invalidEscape => "invalid escape"
  | .invalidNumber => "invalid number"
  | .numberOutOfRange => "number out of range"
  | .controlCharacter => "control character (\\u0000-\\u001F) found while parsing a string"
  | .keyNotText => "key must be a string"
  | .loneSurrogate => "lone leading surrogate in hex escape"
  | .unfinishedPair => "unexpected end of hex escape"
  | .trailingComma => "trailing comma"
  | .trailingText => "trailing characters"
  | .tooDeep => "recursion limit exceeded"
  | .wrongKind found expected => "invalid type: " ++ found.describe ++ ", expected " ++ expected
  | .wrongValue found expected => "invalid value: " ++ found.describe ++ ", expected " ++ expected
  | .wrongLength n expected => "invalid length " ++ toString n ++ ", expected " ++ expected
  | .unknownVariant name known => "unknown variant " ++ ticked name ++ ", " ++ alternatives known
  | .missingField name => "missing field " ++ ticked name
  | .repeatedField name => "duplicate field " ++ ticked name
  | .flagShape got =>
    "column flag must be a boolean or \x7b \"on_conflict\": \"...\" \x7d; got " ++ got.compact
  | .flagKeys keys => "column flag accepts only \"on_conflict\"; got keys: " ++ quotedList keys

end ResourceProvider.Json
