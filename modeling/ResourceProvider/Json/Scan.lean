import ResourceProvider.Json.Fault
/-!
# Scanning the words of the data format

Each scanner takes the rest of a text and gives what it read with what is left, or the first
fault. Numbers keep at most 64 bits of digits; a text may hold escapes, and the two halves of a
surrogate pair stand for one character.
-/
namespace ResourceProvider.Json

open Text

/-- A result with the rest of the text, or the first fault. -/
abbrev Scanned (α : Type) := Except Fault (α × List Char)

/-- A function from the rest of a text to what stands at its head. -/
abbrev Scan (α : Type) := List Char → Scanned α

/-- The four characters that may stand between words. -/
def isSpace (c : Char) : Bool :=
  c = ' ' || c = '\n' || c = '\t' || c = '\r'

/-- The text from its first word on. -/
def skipSpace (cs : List Char) : List Char :=
  cs.dropWhile isSpace

/-- The remaining letters of a word whose first letter was seen. -/
def word : List Char → List Char → Except Fault (List Char)
  | [], cs => .ok cs
  | _ :: _, [] => .error .endInValue
  | w :: ws, c :: cs => if w = c then word ws cs else .error .expectedIdent

/-! ## Numbers -/

/-- The largest value of an unsigned integer of 64 bits. -/
def maxWhole : Nat := 0xFFFFFFFFFFFFFFFF

/-- Appends digits to `n` while 64 bits hold the result; also tells how many were taken. -/
def takeDigits : (n taken : Nat) → List Char → Nat × Nat
  | n, taken, [] => (n, taken)
  | n, taken, d :: ds =>
    let m := n * 10 + digitValue d
    if m ≤ maxWhole then takeDigits m (taken + 1) ds else (n, taken)

/-- A power of ten as a float. -/
def tenTo (k : Nat) : Float :=
  Float.ofScientific 1 false k

/-- Divides by `10 ^ k` in steps of at most `10 ^ 308`. -/
def scaleDown : (fuel : Nat) → Float → (k : Nat) → Float
  | 0, x, _ => x
  | fuel + 1, x, k =>
    if k ≤ 308 then x / tenTo k
    else if x == 0.0 then x
    else scaleDown fuel (x / tenTo 308) (k - 308)

/-- `n * 10 ^ e` as a float, rounded after each of its two steps. -/
def floatOf (negative : Bool) (n : Nat) (e : Int) : Except Fault Float :=
  let x := n.toUInt64.toFloat
  let sign (y : Float) : Float := if negative then -y else y
  if e < 0 then .ok (sign (scaleDown 8 x e.natAbs))
  else if e ≤ 308 then
    let y := x * tenTo e.natAbs
    if y.isInf then .error .numberOutOfRange else .ok (sign y)
  else if x == 0.0 then .ok (sign x)
  else .error .numberOutOfRange

/-- The exponent after its mark, added to `e`. -/
def scanExponent (negative : Bool) (n : Nat) (e : Int) (cs : List Char) : Scanned Float :=
  let (down, cs) := match cs with
    | '+' :: r => (false, r)
    | '-' :: r => (true, r)
    | r => (false, r)
  match cs with
  | [] => .error .endInValue
  | c :: _ =>
    if !isDigit c then .error .invalidNumber
    else
      let k := decimalValue (cs.takeWhile isDigit)
      let rest := cs.dropWhile isDigit
      if 0x80000000 ≤ k then
        if n ≠ 0 ∧ !down then .error .numberOutOfRange
        else .ok (if negative then -0.0 else 0.0, rest)
      else (floatOf negative n (if down then e - k else e + k)).map fun x => (x, rest)

/-- What follows the digits `n * 10 ^ e`: an exponent or the end of the number. -/
def scanScale (negative : Bool) (n : Nat) (e : Int) : Scan Float
  | 'e' :: cs => scanExponent negative n e cs
  | 'E' :: cs => scanExponent negative n e cs
  | cs => (floatOf negative n e).map fun x => (x, cs)

/-- The digits after the point. -/
def scanFraction (negative : Bool) (n : Nat) (e : Int) (cs : List Char) : Scanned Float :=
  let ds := cs.takeWhile isDigit
  let rest := cs.dropWhile isDigit
  if ds = [] then .error (if rest = [] then .endInValue else .invalidNumber)
  else
    let (m, taken) := takeDigits n 0 ds
    scanScale negative m (e - taken) rest

/-- What follows the whole part of a number. -/
def scanTail (negative : Bool) (n : Nat) (dropped : Nat) (cs : List Char) : Scanned Number :=
  match cs with
  | '.' :: r => (scanFraction negative n dropped r).map fun p => (.float p.1, p.2)
  | 'e' :: r => (scanExponent negative n dropped r).map fun p => (.float p.1, p.2)
  | 'E' :: r => (scanExponent negative n dropped r).map fun p => (.float p.1, p.2)
  | r =>
    if dropped ≠ 0 then (floatOf negative n dropped).map fun x => (.float x, r)
    else if !negative then .ok (.int n, r)
    else if n ≠ 0 ∧ n ≤ 0x8000000000000000 then .ok (.int (-n), r)
    else .ok (.float (-n.toUInt64.toFloat), r)

/-- A number after its sign. -/
def scanMagnitude (negative : Bool) : Scan Number
  | [] => .error .endInValue
  | '0' :: cs =>
    match cs with
    | c :: _ => if isDigit c then .error .invalidNumber else scanTail negative 0 0 cs
    | [] => scanTail negative 0 0 cs
  | cs@(c :: _) =>
    if !isDigit c then .error .invalidNumber
    else
      let ds := cs.takeWhile isDigit
      let (n, taken) := takeDigits 0 0 ds
      scanTail negative n (ds.length - taken) (cs.dropWhile isDigit)

/-- A number. -/
def scanNumber : Scan Number
  | '-' :: cs => scanMagnitude true cs
  | cs => scanMagnitude false cs

/-! ## Texts -/

/-- The value of four hexadecimal digits. -/
def hex4? (a b c d : Char) : Option Nat := do
  let a ← hexValue? a
  let b ← hexValue? b
  let c ← hexValue? c
  let d ← hexValue? d
  return ((a * 16 + b) * 16 + c) * 16 + d

/-- What is wrong when fewer than four characters follow. -/
def shortHex (cs : List Char) : Fault :=
  if (cs.map Char.utf8Size).foldr (· + ·) 0 < 4 then .endInText else .invalidEscape

/-- The character that a one-letter escape stands for. -/
def unescape? : Char → Option Char
  | '"' => some '"'
  | '\\' => some '\\'
  | '/' => some '/'
  | 'b' => some '\x08'
  | 'f' => some '\x0c'
  | 'n' => some '\n'
  | 'r' => some '\r'
  | 't' => some '\t'
  | _ => none

/-- The second half of a surrogate pair. -/
def isTrailing (n : Nat) : Bool :=
  0xDC00 ≤ n && n ≤ 0xDFFF

/-- The first half of a surrogate pair. -/
def isLeading (n : Nat) : Bool :=
  0xD800 ≤ n && n ≤ 0xDBFF

/-- Puts a character before what the rest of a text holds. -/
def prepend (c : Char) (r : Scanned (List Char)) : Scanned (List Char) :=
  r.map fun p => (c :: p.1, p.2)

/-- A text after its opening quote. -/
def scanText : Scan (List Char)
  | [] => .error .endInText
  | '"' :: rest => .ok ([], rest)
  | '\\' :: 'u' :: a :: b :: c :: d :: rest =>
    match hex4? a b c d with
    | none => .error .invalidEscape
    | some n =>
      if isTrailing n then .error .loneSurrogate
      else if isLeading n then
        match rest with
        | '\\' :: 'u' :: a' :: b' :: c' :: d' :: rest' =>
          match hex4? a' b' c' d' with
          | none => .error .invalidEscape
          | some n' =>
            if isTrailing n' then
              prepend (Char.ofNat (0x10000 + (n - 0xD800) * 0x400 + (n' - 0xDC00))) (scanText rest')
            else .error .loneSurrogate
        | '\\' :: 'u' :: short => .error (shortHex short)
        | ['\\'] => .error .endInText
        | [] => .error .endInText
        | _ => .error .unfinishedPair
      else prepend (Char.ofNat n) (scanText rest)
  | '\\' :: 'u' :: short => .error (shortHex short)
  | ['\\'] => .error .endInText
  | '\\' :: c :: rest =>
    match unescape? c with
    | some c' => prepend c' (scanText rest)
    | none => .error .invalidEscape
  | c :: rest => if c.toNat < 0x20 then .error .controlCharacter else prepend c (scanText rest)

/-- A text after its opening quote, as a string. -/
def scanString (cs : List Char) : Scanned String :=
  (scanText cs).map fun p => (String.ofList p.1, p.2)

/-! ## Skipping what no one asked for -/

/-- A text after its opening quote; surrogates may stand alone. -/
def skipText : List Char → Except Fault (List Char)
  | [] => .error .endInText
  | '"' :: rest => .ok rest
  | '\\' :: 'u' :: a :: b :: c :: d :: rest =>
    if (hex4? a b c d).isSome then skipText rest else .error .invalidEscape
  | '\\' :: 'u' :: short => .error (shortHex short)
  | ['\\'] => .error .endInText
  | '\\' :: c :: rest => if (unescape? c).isSome then skipText rest else .error .invalidEscape
  | c :: rest => if c.toNat < 0x20 then .error .controlCharacter else skipText rest

/-- An exponent after its mark. -/
def skipExponent (cs : List Char) : Except Fault (List Char) :=
  let cs := match cs with
    | '+' :: r => r
    | '-' :: r => r
    | r => r
  if cs.takeWhile isDigit = [] then .error .invalidNumber else .ok (cs.dropWhile isDigit)

/-- What may follow the digits of a number. -/
def skipScale : List Char → Except Fault (List Char)
  | 'e' :: cs => skipExponent cs
  | 'E' :: cs => skipExponent cs
  | cs => .ok cs

/-- A number after its sign. -/
def skipMagnitude (cs : List Char) : Except Fault (List Char) :=
  let ds := cs.takeWhile isDigit
  if ds = [] ∨ (ds.head? = some '0' ∧ ds.length ≠ 1) then .error .invalidNumber
  else match cs.dropWhile isDigit with
    | '.' :: r =>
      if r.takeWhile isDigit = [] then .error .invalidNumber else skipScale (r.dropWhile isDigit)
    | r => skipScale r

/-- The key and the colon of a field. -/
def skipKey (cs : List Char) : Except Fault (List Char) :=
  match skipSpace cs with
  | [] => .error .endInObject
  | '"' :: rest => do
    let rest ← skipText rest
    match skipSpace rest with
    | ':' :: rest => .ok rest
    | [] => .error .endInObject
    | _ => .error .expectedColon
  | _ => .error .keyNotText

/-- An open bracket that encloses what is being skipped. -/
inductive Bracket where
  | list
  | object

/-- What a skipper expects next. -/
inductive Ahead where
  | value
  | item (opened : Bool)

/-- Skips a value of any depth; `opened` says that the innermost bracket has no item yet. -/
def skip : (fuel : Nat) → Ahead → List Bracket → List Char → Except Fault (List Char)
  | 0, _, _, _ => .error .expectedValue
  | fuel + 1, .value, stack, cs =>
    match skipSpace cs with
    | [] => .error .endInValue
    | 'n' :: rest => word ['u', 'l', 'l'] rest >>= skip fuel (.item false) stack
    | 't' :: rest => word ['r', 'u', 'e'] rest >>= skip fuel (.item false) stack
    | 'f' :: rest => word ['a', 'l', 's', 'e'] rest >>= skip fuel (.item false) stack
    | '"' :: rest => skipText rest >>= skip fuel (.item false) stack
    | '[' :: rest => skip fuel (.item true) (.list :: stack) rest
    | '\x7b' :: rest => skip fuel (.item true) (.object :: stack) rest
    | '-' :: rest => skipMagnitude rest >>= skip fuel (.item false) stack
    | c :: rest =>
      if isDigit c then skipMagnitude (c :: rest) >>= skip fuel (.item false) stack
      else .error .expectedValue
  | _ + 1, .item _, [], cs => .ok cs
  | fuel + 1, .item opened, .list :: stack, cs =>
    match skipSpace cs with
    | [] => .error .endInList
    | ']' :: rest => skip fuel (.item false) stack rest
    | c :: rest =>
      if opened then skip fuel .value (.list :: stack) (c :: rest)
      else if c = ',' then skip fuel .value (.list :: stack) rest
      else .error .expectedListEnd
  | fuel + 1, .item opened, .object :: stack, cs =>
    match skipSpace cs with
    | [] => .error .endInObject
    | '\x7d' :: rest => skip fuel (.item false) stack rest
    | c :: rest =>
      if opened then skipKey (c :: rest) >>= skip fuel .value (.object :: stack)
      else if c = ',' then skipKey rest >>= skip fuel .value (.object :: stack)
      else .error .expectedObjectEnd

/-- Skips one value. -/
def skipValue (cs : List Char) : Except Fault (List Char) :=
  skip (3 * cs.length + 3) .value [] cs

end ResourceProvider.Json
