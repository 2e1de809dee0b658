import ResourceProvider.Text.Blank
/-!
# Media types

A media type is a type and a subtype with a slash between them; the subtype can end in a suffix
after a plus sign, and parameters can follow after semicolons. Letters match in either case.
-/
namespace ResourceProvider.Http

/-- Signs that can stand in a token. -/
def tokenSigns : List Char := "!#$%&'*+-.^_\x60|~".toList

/-- A character of a token. -/
def isTokenChar (c : Char) : Bool :=
  ('a' ≤ c && c ≤ 'z') || ('A' ≤ c && c ≤ 'Z') || Text.isDigit c || c ∈ tokenSigns

/-- A character of a header: visible ASCII, a space or a tab. -/
def isHeaderChar (c : Char) : Bool :=
  (' ' ≤ c && c ≤ '~') || c = '\t'

/-- What follows the value of a parameter in quotes; the value is not empty. -/
def afterQuoted (cs : List Char) : Option (List Char) :=
  if (cs.takeWhile (· ≠ '"')) = [] then none
  else
    match cs.dropWhile (· ≠ '"') with
    | [] => none
    | _ :: rest =>
      match rest.dropWhile (· = ' ') with
      | [] => some []
      | ';' :: rest => some rest
      | _ => none

/-- What follows the value of a parameter. -/
def afterValue : List Char → Option (List Char)
  | '"' :: rest => afterQuoted rest
  | cs =>
    match cs.dropWhile isTokenChar with
    | [] => some []
    | ';' :: rest => if (cs.takeWhile isTokenChar) = [] then none else some rest
    | _ => none

/-- Parameters are written as they should be. -/
def parametersFit : (fuel : Nat) → List Char → Bool
  | 0, _ => false
  | fuel + 1, cs =>
    let cs := cs.dropWhile (· = ' ')
    if cs = [] then true
    else
      match cs.takeWhile isTokenChar, cs.dropWhile isTokenChar with
      | _ :: _, '=' :: rest =>
        match afterValue rest with
        | some rest => parametersFit fuel rest
        | none => false
      | _, _ => false

/-- A subtype without its suffix, and the suffix. -/
def splitSuffix (subtype : List Char) : List Char × Option (List Char) :=
  let suffix := (subtype.reverse.takeWhile (· ≠ '+')).reverse
  let front := subtype.take (subtype.length - suffix.length - 1)
  if '+' ∈ subtype ∧ front ≠ [] then (front, some suffix) else (subtype, none)

/-- The media type is the one of the data format, or one that is built on it. -/
def isJsonType (type : String) : Bool :=
  let cs := type.toList
  let main := cs.takeWhile isTokenChar
  let subtype := ((cs.dropWhile isTokenChar).drop 1).takeWhile isTokenChar
  let rest := ((cs.dropWhile isTokenChar).drop 1).dropWhile isTokenChar
  let (front, suffix) := splitSuffix (subtype.map Char.toLower)
  cs.all isHeaderChar && (cs.dropWhile isTokenChar).head? = some '/' &&
    main.map Char.toLower = "application".toList &&
    (front = "json".toList || suffix = some "json".toList) &&
    match rest with
    | [] => true
    | ';' :: rest => parametersFit (rest.length + 1) rest
    | _ => false

end ResourceProvider.Http
