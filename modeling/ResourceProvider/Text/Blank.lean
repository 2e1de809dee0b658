/-!
# Blank characters, trimming and splitting

Blank is the Unicode property White_Space. `trim` drops blank characters at both ends and
`split` cuts at every occurrence of a separator, keeping empty parts.
-/
namespace ResourceProvider.Text

/-! ## Blank characters -/

/-- Closed ranges of the code points with the property White_Space. -/
def blankRanges : List (Nat × Nat) :=
  [(0x09, 0x0D), (0x20, 0x20), (0x85, 0x85), (0xA0, 0xA0), (0x1680, 0x1680), (0x2000, 0x200A),
   (0x2028, 0x2029), (0x202F, 0x202F), (0x205F, 0x205F), (0x3000, 0x3000)]

/-- The character is white space. -/
def isBlankChar (c : Char) : Bool :=
  blankRanges.any fun r => r.1 ≤ c.toNat && c.toNat ≤ r.2

/-- No character of the text is visible. -/
def isBlank (s : String) : Bool :=
  s.toList.all isBlankChar

/-- Drops the leading elements that satisfy `p`, and the trailing ones. -/
def trimBoth {α : Type} (p : α → Bool) (xs : List α) : List α :=
  ((xs.dropWhile p).reverse.dropWhile p).reverse

/-- The text without the white space at its ends. -/
def trim (s : String) : String :=
  String.ofList (trimBoth isBlankChar s.toList)

/-- The trimmed text, if anything is left of it. -/
def visible? (s : String) : Option String :=
  if isBlank s then none else some (trim s)

/-! ## Cutting -/

/-- The parts between occurrences of `sep`; there is always one more part than separators. -/
def split (sep : Char) : List Char → List (List Char)
  | [] => [[]]
  | c :: rest =>
    if c = sep then [] :: split sep rest
    else match split sep rest with
      | [] => [[c]]
      | part :: parts => (c :: part) :: parts

/-- Text in parts, with `sep` between each two. -/
def join (sep : String) (parts : List String) : String :=
  sep.intercalate parts

/-- An ASCII decimal digit. -/
def isDigit (c : Char) : Bool :=
  '0' ≤ c && c ≤ '9'

/-- The number an ASCII digit stands for. -/
def digitValue (c : Char) : Nat :=
  c.toNat - '0'.toNat

/-- The number a list of digits stands for in base ten. -/
def decimalValue (ds : List Char) : Nat :=
  ds.foldl (fun n c => n * 10 + digitValue c) 0

/-- The digits of `n` in base sixteen, in lower case. -/
def hex (n : Nat) : List Char :=
  Nat.toDigits 16 n

/-- The value of a digit in base sixteen, of either case. -/
def hexValue? (c : Char) : Option Nat :=
  if isDigit c then some (digitValue c)
  else if 'a' ≤ c && c ≤ 'f' then some (c.toNat - 'a'.toNat + 10)
  else if 'A' ≤ c && c ≤ 'F' then some (c.toNat - 'A'.toNat + 10)
  else none

/-- ASCII letters in lower case; other characters stay. -/
def lower (s : String) : String :=
  String.ofList (s.toList.map Char.toLower)

end ResourceProvider.Text
