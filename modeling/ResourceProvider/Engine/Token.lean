import ResourceProvider.Engine.Cell
/-!
# Tokens of statements

A text is cut into words, quoted names, literals, parameters and operators. Each token keeps the
gap before it, so that the text of a run of tokens can be given back. A character that starts no
token makes a `bad` one, at which reading stops.
-/
namespace ResourceProvider.Engine

open Text

/-- What a token is. -/
inductive Token.Kind where
  /-- A name or keyword without quotes. -/
  | word
  /-- A name in brackets or ticks. -/
  | name (s : String)
  /-- A name in double quotes, which may also stand for a text. -/
  | quoted (s : String)
  | string (s : String)
  | number (c : Cell)
  | blob (bytes : List UInt8)
  /-- A placeholder; it may give its position. -/
  | param (position : Option Nat)
  /-- A placeholder with a name. -/
  | named
  | operator
  | bad
deriving DecidableEq

/-- A token with its own text and the gap before it. -/
structure Token where
  kind : Token.Kind
  gap : List Char
  text : String
deriving DecidableEq

/-! ## Characters -/

/-- A character of a name. -/
def isWordChar (c : Char) : Bool :=
  isDigit c || ('a' ≤ c && c ≤ 'z') || ('A' ≤ c && c ≤ 'Z') || c = '_' || c = '$' || 0x80 ≤ c.toNat

/-- A character that a name can start with. -/
def isWordStart (c : Char) : Bool :=
  isWordChar c && !isDigit c && c ≠ '$'

/-! ## Gaps -/

/-- The end of a comment in slashes, or of the text. -/
def afterComment : List Char → Nat → Nat
  | '*' :: '/' :: _, n => n + 2
  | _ :: rest, n => afterComment rest (n + 1)
  | [], n => n

/-- How many characters of white space and comments a text starts with. -/
def gapLength : (fuel : Nat) → List Char → Nat
  | 0, _ => 0
  | fuel + 1, cs =>
    match cs with
    | '-' :: '-' :: rest =>
      let n := 2 + (rest.takeWhile (· ≠ '\n')).length
      n + gapLength fuel (cs.drop n)
    | '/' :: '*' :: rest =>
      let n := 2 + afterComment rest 0
      n + gapLength fuel (cs.drop n)
    | c :: rest => if isGap c then 1 + gapLength fuel rest else 0
    | [] => 0

/-! ## Quotes -/

/-- What stands before the closing quote, in which a doubled quote is one, with how many characters
were read. -/
def unquote (quote : Char) : List Char → Option (List Char × Nat)
  | [] => none
  | [c] => if c = quote then some ([], 1) else none
  | c :: d :: rest =>
    if c = quote then
      if d = quote then (unquote quote rest).map fun p => (quote :: p.1, p.2 + 2)
      else some ([], 1)
    else (unquote quote (d :: rest)).map fun p => (c :: p.1, p.2 + 1)

/-- The bytes that an even number of hexadecimal digits spell. -/
def bytesOfHex? : List Char → Option (List UInt8)
  | [] => some []
  | [_] => none
  | a :: b :: rest =>
    match hexValue? a, hexValue? b, bytesOfHex? rest with
    | some x, some y, some bytes => some (UInt8.ofNat (x * 16 + y) :: bytes)
    | _, _, _ => none

/-! ## Single tokens -/

/-- A quoted token with its length. -/
def quotedToken (make : String → Token.Kind) (quote : Char) (rest : List Char) : Token.Kind × Nat :=
  match unquote quote rest with
  | some (s, n) => (make (String.ofList s), n + 1)
  | none => (.bad, rest.length + 1)

/-- A number with its length; a letter must not follow it. -/
def numberToken (cs : List Char) : Token.Kind × Nat :=
  match cs with
  | '0' :: x :: h :: rest =>
    if (x = 'x' ∨ x = 'X') ∧ (hexValue? h).isSome then
      let ds := (h :: rest).takeWhile fun c => (hexValue? c).isSome
      let n := ds.foldl (fun n c => n * 16 + (hexValue? c).getD 0) 0
      let after := (h :: rest).drop ds.length
      if after.headD ' ' |> isWordChar then (.bad, ds.length + 2)
      else if n < 0x8000000000000000 then (.number (.int n), ds.length + 2)
      else if n < 0x10000000000000000 then (.number (.int (n - 0x10000000000000000)), ds.length + 2)
      else (.bad, ds.length + 2)
    else plain cs
  | _ => plain cs
where
  plain (cs : List Char) : Token.Kind × Nat :=
    match scanNumeric cs with
    | some (c, rest) =>
      let n := cs.length - rest.length
      if rest.headD ' ' |> isWordChar then (.bad, n) else (.number c, n)
    | none => (.bad, 1)

/-- Operators of two characters. -/
def pairs : List String :=
  ["<=", ">=", "<>", "!=", "==", "||", "<<", ">>"]

/-- The highest position that a placeholder can give. -/
def maxPosition : Nat := 32766

/-- How many characters the name of a placeholder takes, behind its first one. Double colons may
stand in it, but a suffix in parentheses is left out; `started` says that characters of a name were
there. -/
def variableLength : (started : Bool) → List Char → Option Nat
  | started, ':' :: ':' :: rest => (variableLength started rest).map (· + 2)
  | started, c :: rest =>
    if isWordChar c then (variableLength true rest).map (· + 1)
    else if started && c ≠ '(' then some 0
    else none
  | started, [] => if started then some 0 else none

/-- The token at the head of a text, with its length. -/
def nextToken (cs : List Char) : Token.Kind × Nat :=
  match cs with
  | [] => (.bad, 1)
  | '\'' :: rest => quotedToken .string '\'' rest
  | '"' :: rest => quotedToken .quoted '"' rest
  | '\x60' :: rest => quotedToken .name '\x60' rest
  | '[' :: rest =>
    let s := rest.takeWhile (· ≠ ']')
    if s.length < rest.length then (.name (String.ofList s), s.length + 2)
    else (.bad, rest.length + 1)
  | '?' :: rest =>
    let ds := rest.takeWhile isDigit
    let n := decimalValue ds
    if ds = [] then (.param none, 1)
    else (if 1 ≤ n ∧ n ≤ maxPosition then .param (some n) else .bad, ds.length + 1)
  | ':' :: rest => namedToken rest
  | '@' :: rest => namedToken rest
  | '$' :: rest => namedToken rest
  | c :: rest =>
    match c, rest with
    | 'x', '\'' :: r => hexToken r
    | 'X', '\'' :: r => hexToken r
    | _, _ =>
      if isWordStart c then (.word, (cs.takeWhile isWordChar).length)
      else if isDigit c ∨ (c = '.' ∧ isDigit (rest.headD ' ')) then numberToken cs
      else if String.ofList (cs.take 2) ∈ pairs then (.operator, 2)
      else if c ∈ "=<>+-*/%&|~(),.;".toList then (.operator, 1)
      else (.bad, 1)
where
  namedToken (rest : List Char) : Token.Kind × Nat :=
    match variableLength false rest with
    | some n => (.named, n + 1)
    | none => (.bad, 1)
  hexToken (rest : List Char) : Token.Kind × Nat :=
    let ds := rest.takeWhile (· ≠ '\'')
    match rest.drop ds.length, bytesOfHex? ds with
    | '\'' :: _, some bytes => (.blob bytes, ds.length + 3)
    | _, _ => (.bad, ds.length + 2)

/-! ## Texts -/

/-- The tokens of a text, up to the first bad one. -/
def tokensFrom : (fuel : Nat) → List Char → List Token
  | 0, _ => []
  | fuel + 1, cs =>
    let n := gapLength (cs.length + 1) cs
    match cs.drop n with
    | [] => []
    | start =>
      let (kind, k) := nextToken start
      let token : Token := ⟨kind, cs.take n, String.ofList (start.take k)⟩
      if kind = .bad then [token] else token :: tokensFrom fuel (start.drop k)

/-- The tokens of a text. -/
def tokens (s : String) : List Token :=
  tokensFrom (s.length + 1) s.toList

/-- The text that a run of tokens was read from, without the gap before it. -/
def sourceText : List Token → String
  | [] => ""
  | t :: rest => t.text ++ String.join (rest.map fun u => String.ofList u.gap ++ u.text)

/-! ## Names -/

/-- Keywords that cannot stand as names. -/
def reserved : List String :=
  ["add", "all", "alter", "and", "as", "autoincrement", "between", "case", "check", "collate",
   "commit", "constraint", "create", "default", "deferrable", "delete", "distinct", "drop", "else",
   "escape", "except", "exists", "foreign", "from", "group", "having", "in", "index", "insert",
   "intersect", "into", "is", "isnull", "join", "limit", "not", "nothing", "notnull", "null", "on",
   "or", "order", "primary", "references", "returning", "select", "set", "table", "then", "to",
   "transaction", "union", "unique", "update", "using", "values", "when", "where"]

/-- Keywords that stand as names, but not where an expression may stand: there they start one. -/
def expressionWords : List String :=
  ["cast", "current_date", "current_time", "current_timestamp", "raise"]

/-- Keywords of joins; they stand as names, but not as names after a table or column. -/
def joinWords : List String :=
  ["cross", "full", "inner", "left", "natural", "outer", "right"]

/-- The token is the given keyword. -/
def Token.isWord (t : Token) (keyword : String) : Bool :=
  t.kind = .word && lower t.text = keyword

/-- The token is the given operator. -/
def Token.isOperator (t : Token) (op : String) : Bool :=
  t.kind = .operator && t.text = op

/-- The name that the token stands for. -/
def Token.name? (t : Token) : Option String :=
  match t.kind with
  | .word => if lower t.text ∈ reserved then none else some t.text
  | .name s => some s
  | .quoted s => some s
  | .string s => some s
  | _ => none

/-- The name that the token gives to what stands before it. -/
def Token.alias? (t : Token) : Option String :=
  if t.kind = .word ∧ lower t.text ∈ joinWords then none else t.name?

/-- The token starts an expression of its own kind: a conversion, the time, or a raised error. -/
def Token.startsExpression (t : Token) : Bool :=
  t.kind = .word && lower t.text ∈ expressionWords

/-- Names are the same up to the case of ASCII letters. -/
def sameName (a b : String) : Bool :=
  lower a = lower b

end ResourceProvider.Engine
