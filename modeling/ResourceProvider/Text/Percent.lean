import ResourceProvider.Text.Blank
import ResourceProvider.Text.Utf8
/-!
# Percent encoding

A percent sign with two hexadecimal digits stands for a byte. In a query, fields are separated by
`&`, a plus sign stands for a space, and the first `=` of a field ends its name.
-/
namespace ResourceProvider.Text

/-- The bytes of a text in which some are written as a percent sign and two digits. -/
def percentBytes : List Char → List UInt8
  | [] => []
  | c :: rest =>
    if c = '%' then
      match rest with
      | a :: b :: after =>
        match hexValue? a, hexValue? b with
        | some x, some y => UInt8.ofNat (16 * x + y) :: percentBytes after
        | _, _ => String.utf8EncodeChar c ++ percentBytes (a :: b :: after)
      | short => String.utf8EncodeChar c ++ percentBytes short
    else String.utf8EncodeChar c ++ percentBytes rest

/-- The text that percent encoding stands for, if its bytes are characters. -/
def percentDecode? (s : String) : Option String :=
  textOfBytes? (percentBytes s.toList)

/-- A name or value of a query. -/
def queryText (cs : List Char) : String :=
  textOfBytes (percentBytes (cs.map fun c => if c = '+' then ' ' else c))

/-- A name with its value. -/
def queryField (cs : List Char) : String × String :=
  (queryText (cs.takeWhile (· ≠ '=')), queryText ((cs.dropWhile (· ≠ '=')).drop 1))

/-- The fields of a query, in order. -/
def queryFields (query : String) : List (String × String) :=
  ((split '&' query.toList).filter (· ≠ [])).map queryField

end ResourceProvider.Text
