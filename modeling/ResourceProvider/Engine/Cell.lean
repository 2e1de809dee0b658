import ResourceProvider.Text.Blank
import ResourceProvider.Text.Decimal
/-!
# Cells

What one column of one row holds. A column has an affinity, to which values are converted when
they are stored, and which decides how they compare: text that spells a number is a number where
a numeric column asks for one, and numbers become text in text columns. A text is a run of bytes,
which need not spell characters.
-/
namespace ResourceProvider.Engine

open Text

/-- A stored value. -/
inductive Cell where
  | null
  | int (n : Int)
  | real (x : Float)
  | text (s : String)
  /-- A text whose bytes spell no characters. -/
  | garbled (bytes : List UInt8)
  | blob (bytes : List UInt8)
deriving DecidableEq, Inhabited

/-- What a column converts values to. -/
inductive Affinity where
  | blob
  | text
  | numeric
  | integer
  | real
deriving DecidableEq, Repr

/-- The affinity converts text to numbers. -/
def Affinity.isNumeric : Affinity → Bool
  | .blob => false
  | .text => false
  | _ => true

/-- `part` occurs in `cs`. -/
def occursIn (part : List Char) : List Char → Bool
  | [] => part = []
  | c :: cs => part.isPrefixOf (c :: cs) || occursIn part cs

/-- The affinity of a declared type. -/
def Affinity.ofType (type : String) : Affinity :=
  let has (part : String) : Bool := occursIn part.toList (lower type).toList
  if has "int" then .integer
  else if has "char" || has "clob" || has "text" then .text
  else if has "blob" || type = "" then .blob
  else if has "real" || has "floa" || has "doub" then .real
  else .numeric

/-! ## Integers and floats -/

/-- The integer fits 64 bits with a sign. -/
def fits (n : Int) : Bool :=
  -0x8000000000000000 ≤ n && n < 0x8000000000000000

/-- The integer that a finite float equals. -/
def wholeOfFloat? (x : Float) : Option Int :=
  let b := Binary.ofBits x.toBits
  if !x.isFinite then none
  else if b.m % Nat.pow 2 (-b.q).toNat ≠ 0 then none
  else
    let n := b.m * Nat.pow 2 b.q.toNat / Nat.pow 2 (-b.q).toNat
    some (if isNegative x then -n else n)

/-- The nearest float. -/
def floatOfInt (n : Int) : Float :=
  if n < 0 then -n.natAbs.toFloat else n.natAbs.toFloat

/-- Compares an integer with a float without rounding. -/
def compareIntFloat (n : Int) (x : Float) : Ordering :=
  if !x.isFinite then (if isNegative x then .gt else .lt)
  else
    let b := Binary.ofBits x.toBits
    let m : Int := if isNegative x then -b.m else b.m
    compare (n * (Nat.pow 2 (-b.q).toNat : Nat)) (m * (Nat.pow 2 b.q.toNat : Nat))

/-- Compares two floats. -/
def compareFloats (x y : Float) : Ordering :=
  if x < y then .lt else if y < x then .gt else .eq

/-- The integer a float stands for where integers are preferred. -/
def preferInt (x : Float) : Cell :=
  match wholeOfFloat? x with
  | some n => if -0x8000000000000000 < n ∧ n < 0x7FFFFFFFFFFFFFFF then .int n else .real x
  | none => .real x

/-! ## Numbers as text -/

/-- White space around numbers. -/
def isGap (c : Char) : Bool :=
  c = ' ' || ('\t' ≤ c && c ≤ '\r')

/-- `n * 10 ^ e` rounded to a float. -/
def floatOfDecimal (n : Nat) (e : Int) : Float :=
  let top := e + (Nat.toDigits 10 n).length
  if n = 0 then 0.0
  else if 400 < top then 1.0 / 0.0
  else if top < -400 then 0.0
  else Float.ofScientific n (e < 0) e.natAbs

/-- The sign at the head of a text, and what follows it. -/
def scanSign : List Char → Bool × List Char
  | '-' :: r => (true, r)
  | '+' :: r => (false, r)
  | r => (false, r)

/-- The digits after a point at the head of a text, what follows them, and whether the point is
there. -/
def scanPoint : List Char → List Char × List Char × Bool
  | '.' :: r => (r.takeWhile isDigit, r.dropWhile isDigit, true)
  | r => ([], r, false)

/-- The power of ten at the head of a text, and what follows it. -/
def scanExponent : List Char → Option (Int × List Char)
  | e :: r =>
    if e = 'e' ∨ e = 'E' then
      let (down, r) := scanSign r
      let ds := r.takeWhile isDigit
      if ds = [] then none
      else
        let n : Int := decimalValue ds
        some (if down then -n else n, r.dropWhile isDigit)
    else none
  | [] => none

/-- A number at the head of a text: its value, and what follows it. -/
def scanNumeric (cs : List Char) : Option (Cell × List Char) :=
  let (negative, body) := scanSign cs
  let whole := body.takeWhile isDigit
  let (part, rest, pointed) := scanPoint (body.dropWhile isDigit)
  if whole = [] ∧ part = [] then none
  else
    let n := decimalValue (whole ++ part)
    let sign (x : Float) : Float := if negative then -x else x
    match scanExponent rest with
    | some (e, rest) => some (.real (sign (floatOfDecimal n (e - part.length))), rest)
    | none =>
      let i : Int := if negative then -n else n
      if !pointed ∧ fits i then some (.int i, rest)
      else some (.real (sign (floatOfDecimal n (-part.length))), rest)

/-- The number that a whole text spells. -/
def numberOfText? (s : String) : Option Cell :=
  match scanNumeric (s.toList.dropWhile isGap) with
  | some (c, rest) => if rest.all isGap then some c else none
  | none => none

/-- The number at the head of a text, or zero. -/
def leadingNumber (s : String) : Cell :=
  match scanNumeric (s.toList.dropWhile isGap) with
  | some (c, _) => c
  | none => .int 0

/-- A float as text: fifteen digits, positional for exponents from -4 to 14. -/
def textOfReal (x : Float) : String :=
  if !x.isFinite then (if isNegative x then "-Inf" else "Inf")
  else
    let d := (Binary.ofBits x.toBits).rounded 15
    let (ds, e) := d.lead
    let sign := if isNegative x ∧ d.digits ≠ 0 then "-" else ""
    if d.digits = 0 then "0.0"
    else if -4 ≤ e ∧ e ≤ 14 then sign ++ String.ofList (positional ds e)
    else
      let k := Nat.toDigits 10 e.natAbs
      sign ++ String.ofList (positional ds 0 ++ ['e', if e < 0 then '-' else '+'] ++
        (if k.length < 2 then '0' :: k else k))

/-! ## Texts and bytes -/

/-- The text that is spelled by bytes. -/
def Cell.ofBytes (bytes : List UInt8) : Cell :=
  match String.fromUTF8? ⟨bytes.toArray⟩ with
  | some s => .text s
  | none => .garbled bytes

/-- The bytes of a text. -/
def bytesOf (s : String) : List UInt8 :=
  s.toUTF8.toList

/-- The character that the bytes of one character stand for; one that there is not is replaced. -/
def charOfBytes (first : UInt8) (more : List UInt8) : Char :=
  let bits := if first < 0xE0 then first.toNat % 32 else if first < 0xF0 then first.toNat % 16
    else if first < 0xF8 then first.toNat % 8 else 0
  let n := more.foldl (fun n b => n * 64 + b.toNat % 64) bits
  if n < 0x80 then '\uFFFD' else if n.isValidChar then Char.ofNat n else '\uFFFD'

/-- The characters that are read from bytes, well formed or not. A byte below `0xC0` stands for
itself; any other one is open to the bytes from `0x80` to `0xBF` that follow it. -/
def charsFrom : (started : Option (UInt8 × List UInt8)) → List UInt8 → List Char
  | none, [] => []
  | some (first, more), [] => [charOfBytes first more]
  | none, b :: rest =>
    if b < 0xC0 then Char.ofNat b.toNat :: charsFrom none rest else charsFrom (some (b, [])) rest
  | some (first, more), b :: rest =>
    if 0x80 ≤ b && b < 0xC0 then charsFrom (some (first, more ++ [b])) rest
    else charOfBytes first more ::
      if b < 0xC0 then Char.ofNat b.toNat :: charsFrom none rest else charsFrom (some (b, [])) rest

/-! ## Conversion -/

/-- The value as a column of the affinity stores it. -/
def Affinity.apply : Affinity → Cell → Cell
  | .blob, c => c
  | .text, .int n => .text (toString n)
  | .text, .real x => .text (textOfReal x)
  | .text, c => c
  | .real, .int n => .real (floatOfInt n)
  | .real, .real x => .real (if x == 0.0 then 0.0 else x)
  | .real, .text s =>
    match numberOfText? s with
    | some (.int n) => .real (floatOfInt n)
    | some (.real x) => .real (if x == 0.0 then 0.0 else x)
    | _ => .text s
  | _, .real x => preferInt x
  | _, .text s =>
    match numberOfText? s with
    | some (.real x) => preferInt x
    | some c => c
    | none => .text s
  | _, c => c

/-- The value as a text, unless its bytes are taken as they are. -/
def Cell.toText? : Cell → Option String
  | .null => some ""
  | .int n => some (toString n)
  | .real x => some (textOfReal x)
  | .text s => some s
  | .garbled _ => none
  | .blob _ => none

/-- The bytes of the value as a text. -/
def Cell.bytes : Cell → List UInt8
  | .garbled bytes => bytes
  | .blob bytes => bytes
  | c => bytesOf (c.toText?.getD "")

/-- The characters of the value as a text. -/
def Cell.chars (c : Cell) : List Char :=
  match c.toText? with
  | some s => s.toList
  | none => charsFrom none c.bytes

/-- The value as a number, as arithmetic takes it. -/
def Cell.toNumber : Cell → Cell
  | .text s => leadingNumber s
  | .garbled bytes => leadingNumber (String.ofList (charsFrom none bytes))
  | .blob bytes => leadingNumber (String.ofList (charsFrom none bytes))
  | c => c

/-- One text behind another. -/
def Cell.append (a b : Cell) : Cell :=
  match a.toText?, b.toText? with
  | some s, some t => .text (s ++ t)
  | _, _ => .ofBytes (a.bytes ++ b.bytes)

/-- The value as a text whose ASCII letters are put in one case. -/
def Cell.inCase (letter : Char → Char) (c : Cell) : Cell :=
  match c.toText? with
  | some s => .text (String.ofList (s.toList.map letter))
  | none =>
    .ofBytes (c.bytes.map fun b => if b < 0x80 then (letter (Char.ofNat b.toNat)).toUInt8 else b)

/-- The value as a condition; null is unknown. -/
def Cell.truth (c : Cell) : Option Bool :=
  match c.toNumber with
  | .int n => some (n ≠ 0)
  | .real x => some (x != 0.0)
  | _ => none

/-- A condition as a value. -/
def Cell.ofTruth : Option Bool → Cell
  | none => .null
  | some b => .int (if b then 1 else 0)

/-! ## Comparison -/

/-- How texts are compared. -/
inductive Collation where
  | binary
  | nocase
  | rtrim
deriving DecidableEq, Repr

/-- The text that stands for `s` in comparisons. -/
def Collation.key : Collation → String → String
  | .binary, s => s
  | .nocase, s => lower s
  | .rtrim, s => String.ofList (s.toList.reverse.dropWhile (· = ' ')).reverse

/-- The bytes that stand for a text in comparisons. -/
def Collation.keyBytes : Collation → List UInt8 → List UInt8
  | .binary, bytes => bytes
  | .nocase, bytes => bytes.map fun b => if 0x41 ≤ b && b ≤ 0x5A then b + 0x20 else b
  | .rtrim, bytes => (bytes.reverse.dropWhile (· = 0x20)).reverse

/-- Compares texts by their code points. -/
def compareTexts (s t : String) : Ordering :=
  if s < t then .lt else if t < s then .gt else .eq

/-- Compares byte by byte; a text that ends first comes first. -/
def compareBytes : List UInt8 → List UInt8 → Ordering
  | [], [] => .eq
  | [], _ => .lt
  | _, [] => .gt
  | a :: as, b :: bs => if a < b then .lt else if b < a then .gt else compareBytes as bs

/-- Null comes first, then numbers, texts and bytes. -/
def Cell.rank : Cell → Nat
  | .null => 0
  | .int _ => 1
  | .real _ => 1
  | .text _ => 2
  | .garbled _ => 2
  | .blob _ => 3

/-- The order of values in keys and sorted results. -/
def Cell.compareBy (collation : Collation) : Cell → Cell → Ordering
  | .int a, .int b => compare a b
  | .int a, .real y => compareIntFloat a y
  | .real x, .int b => (compareIntFloat b x).swap
  | .real x, .real y => compareFloats x y
  | .text s, .text t => compareTexts (collation.key s) (collation.key t)
  | .text s, .garbled b => compareBytes (collation.keyBytes (bytesOf s)) (collation.keyBytes b)
  | .garbled a, .text t => compareBytes (collation.keyBytes a) (collation.keyBytes (bytesOf t))
  | .garbled a, .garbled b => compareBytes (collation.keyBytes a) (collation.keyBytes b)
  | .blob a, .blob b => compareBytes a b
  | a, b => compare a.rank b.rank

/-- Values that a key cannot tell apart. -/
def Cell.same (a b : Cell) : Bool :=
  a.compareBy .binary b = .eq

/-- Converts two operands of a comparison by their affinities, if they have any. -/
def convertOperands : Option Affinity → Option Affinity → Cell → Cell → Cell × Cell
  | some a, some b, x, y =>
    if a.isNumeric || b.isNumeric then (Affinity.apply .numeric x, Affinity.apply .numeric y)
    else (x, y)
  | some a, none, x, y => byOne a x y
  | none, some b, x, y => byOne b x y
  | none, none, x, y => (x, y)
where
  byOne (a : Affinity) (x y : Cell) : Cell × Cell :=
    if a.isNumeric then (Affinity.apply .numeric x, Affinity.apply .numeric y)
    else if a = .text then (Affinity.apply .text x, Affinity.apply .text y)
    else (x, y)

end ResourceProvider.Engine
