import ResourceProvider.Error
import ResourceProvider.Text.Blank
/-!
# Identifiers

Names of tables and columns stand in statements without quotes, so they are made of ASCII
letters, digits and underscores and do not start with a digit.
-/
namespace ResourceProvider.Schema

/-- An ASCII letter or an underscore. -/
def isNameStart (c : Char) : Bool :=
  ('A' ≤ c && c ≤ 'Z') || ('a' ≤ c && c ≤ 'z') || c = '_'

/-- An ASCII letter, a digit or an underscore. -/
def isNameChar (c : Char) : Bool :=
  isNameStart c || Text.isDigit c

/-- The text can stand as a name. -/
def isIdentifier (s : String) : Bool :=
  match s.toList with
  | [] => false
  | c :: rest => isNameStart c && rest.all isNameChar

/-- What is wrong with a name; `context` is the table it stands in. -/
def identifierFault (kind : NameKind) (context : Option String) (name : String) :
    Option SchemaError :=
  if Text.isBlank name then some (.emptyIdentifier kind context)
  else if isIdentifier name then none
  else some (.invalidIdentifier kind name)

end ResourceProvider.Schema
