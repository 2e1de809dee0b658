import ResourceProvider.Engine.Table
/-!
# Looking up names and evaluating

Names are looked up in the tables of a query, then among its aliases. An expression is evaluated
at a row; functions of rows take the rows of a group.
-/
namespace ResourceProvider.Engine

/-! ## Scopes -/

/-- A table as expressions see it: what it is called, and where its columns start in a row. After
the columns comes the rowid. -/
structure Source where
  name : String
  table : Table
  start : Nat

/-- The tables of a statement and the aliases of its results. -/
structure Scope where
  sources : List Source
  aliases : List (String × Expr Place)
  /-- Functions of rows can be used. -/
  aggregates : Bool

/-- The column of a name in one table. -/
def Source.place? (s : Source) (name : String) : Option Place :=
  match s.table.columnIndex? name with
  | some i => some ⟨s.start + i, s.table.affinityAt i⟩
  | none => none

/-- The rowid of a table, by one of its names. -/
def Source.rowidPlace? (s : Source) (name : String) : Option Place :=
  if ["rowid", "oid", "_rowid_"].any (sameName name) then
    some ⟨s.start + s.table.columns.length, .integer⟩
  else none

/-- What a written column stands for; nothing if it is unknown or stands for several. -/
def Scope.lookup (s : Scope) (c : ColumnName) : Option (Expr Place) :=
  let sources := match c.table with
    | none => s.sources
    | some t => s.sources.filter fun u => sameName u.name t
  match sources.filterMap fun u => u.place? c.name with
  | [place] => some (.column place)
  | _ :: _ :: _ => none
  | [] =>
    match sources.filterMap fun u => u.rowidPlace? c.name with
    | [place] => some (.column place)
    | _ =>
      if c.table.isSome then none
      else
        match s.aliases.find? fun a => sameName a.1 c.name with
        | some (_, e) => some e
        | none =>
          if c.quoted then some (.literal (.text c.name))
          else if sameName c.name "true" then some (.literal (.int 1))
          else if sameName c.name "false" then some (.literal (.int 0))
          else none

mutual

/-- The expressions that an expression is made of, itself among them. -/
def Expr.parts {κ : Type} : Expr κ → List (Expr κ)
  | .literal c => [.literal c]
  | .param i => [.param i]
  | .column c => [.column c]
  | .compare op a b => .compare op a b :: (a.parts ++ b.parts)
  | .is a b => .is a b :: (a.parts ++ b.parts)
  | .and a b => .and a b :: (a.parts ++ b.parts)
  | .or a b => .or a b :: (a.parts ++ b.parts)
  | .not a => .not a :: a.parts
  | .isIn a items => .isIn a items :: (a.parts ++ partsOfAll items)
  | .like a b => .like a b :: (a.parts ++ b.parts)
  | .arithmetic op a b => .arithmetic op a b :: (a.parts ++ b.parts)
  | .negate a => .negate a :: a.parts
  | .concat a b => .concat a b :: (a.parts ++ b.parts)
  | .collate a c => .collate a c :: a.parts
  | .call f args => .call f args :: partsOfAll args
  | .countRows => [.countRows]
  | .aggregate f a => .aggregate f a :: a.parts

/-- The expressions that several expressions are made of. -/
def partsOfAll {κ : Type} : List (Expr κ) → List (Expr κ)
  | [] => []
  | a :: rest => a.parts ++ partsOfAll rest

end

/-- The expression uses a function of rows. -/
def Expr.aggregated {κ : Type} (e : Expr κ) : Bool :=
  e.parts.any fun p => match p with
    | .countRows => true
    | .aggregate .. => true
    | _ => false

/-- The expression has a placeholder. -/
def Expr.hasParam {κ : Type} (e : Expr κ) : Bool :=
  e.parts.any fun p => match p with
    | .param _ => true
    | _ => false

/-- The places that the expression reads. -/
def Expr.places (e : Expr Place) : List Nat :=
  e.parts.filterMap fun p => match p with
    | .column c => some c.index
    | _ => none

mutual

/-- Looks up every name of an expression. -/
def Scope.resolve (s : Scope) : Written → Option (Expr Place)
  | .literal c => some (.literal c)
  | .param i => some (.param i)
  | .column c =>
    match s.lookup c with
    | none => none
    | some e => if e.aggregated && !s.aggregates then none else some e
  | .compare op a b => do return .compare op (← s.resolve a) (← s.resolve b)
  | .is a b => do return .is (← s.resolve a) (← s.resolve b)
  | .and a b => do return .and (← s.resolve a) (← s.resolve b)
  | .or a b => do return .or (← s.resolve a) (← s.resolve b)
  | .not a => do return .not (← s.resolve a)
  | .isIn a items => do return .isIn (← s.resolve a) (← s.resolveAll items)
  | .like a b => do return .like (← s.resolve a) (← s.resolve b)
  | .arithmetic op a b => do return .arithmetic op (← s.resolve a) (← s.resolve b)
  | .negate a => do return .negate (← s.resolve a)
  | .concat a b => do return .concat (← s.resolve a) (← s.resolve b)
  | .collate a c => do return .collate (← s.resolve a) c
  | .call f args => do return .call f (← s.resolveAll args)
  | .countRows => if s.aggregates then some .countRows else none
  | .aggregate f a =>
    if s.aggregates then
      match s.resolve a with
      | none => none
      | some e => if e.aggregated then none else some (.aggregate f e)
    else none

/-- Looks up every name of several expressions. -/
def Scope.resolveAll (s : Scope) : List Written → Option (List (Expr Place))
  | [] => some []
  | a :: rest => do return (← s.resolve a) :: (← s.resolveAll rest)

end

/-! ## Operators -/

/-- Both hold, as far as is known. -/
def andTruth : Option Bool → Option Bool → Option Bool
  | some false, _ => some false
  | _, some false => some false
  | some true, some true => some true
  | _, _ => none

/-- One of two holds, as far as is known. -/
def orTruth : Option Bool → Option Bool → Option Bool
  | some true, _ => some true
  | _, some true => some true
  | some false, some false => some false
  | _, _ => none

/-- The result of a float operation; what is no number is null. -/
def realCell (x : Float) : Cell :=
  if x.isNaN then .null else .real x

/-- A number as a float. -/
def Cell.toFloat : Cell → Float
  | .int n => floatOfInt n
  | .real x => x
  | _ => 0.0

/-- The integer next to a number in the direction of zero, within 64 bits. -/
def Cell.truncated : Cell → Int
  | .int n => n
  | .real x =>
    if x ≤ -9223372036854775808.0 then -0x8000000000000000
    else if 9223372036854775808.0 ≤ x then 0x7FFFFFFFFFFFFFFF
    else (wholeOfFloat? (if x < 0.0 then x.ceil else x.floor)).getD 0
  | _ => 0

/-- Arithmetic on two values; integers stay integers while they fit. -/
def Arithmetic.apply (op : Arithmetic) (a b : Cell) : Cell :=
  if a = .null ∨ b = .null then .null
  else
    let x := a.toNumber
    let y := b.toNumber
    let exact (n : Int) (r : Float) : Cell := if fits n then .int n else realCell r
    match op with
    | .rem =>
      let m := x.truncated
      let n := y.truncated
      if n = 0 then .null
      else
        match x, y with
        | .int _, .int _ => .int (m.tmod n)
        | _, _ => .real (floatOfInt (m.tmod n))
    | .div =>
      match x, y with
      | .int m, .int n => if n = 0 then .null else exact (m.tdiv n) (x.toFloat / y.toFloat)
      | _, _ => if y.toFloat == 0.0 then .null else realCell (x.toFloat / y.toFloat)
    | .add =>
      match x, y with
      | .int m, .int n => exact (m + n) (x.toFloat + y.toFloat)
      | _, _ => realCell (x.toFloat + y.toFloat)
    | .sub =>
      match x, y with
      | .int m, .int n => exact (m - n) (x.toFloat - y.toFloat)
      | _, _ => realCell (x.toFloat - y.toFloat)
    | .mul =>
      match x, y with
      | .int m, .int n => exact (m * n) (x.toFloat * y.toFloat)
      | _, _ => realCell (x.toFloat * y.toFloat)

/-- Text against a pattern, in which `%` stands for any text and `_` for any character; ASCII
letters match in either case. -/
def likeChars : (fuel : Nat) → (pattern text : List Char) → Bool
  | 0, _, _ => false
  | _ + 1, [], text => text = []
  | fuel + 1, '%' :: ps, text =>
    likeChars fuel ps text ||
      match text with
      | [] => false
      | _ :: rest => likeChars fuel ('%' :: ps) rest
  | fuel + 1, p :: ps, c :: rest =>
    (p = '_' || p.toLower = c.toLower) && likeChars fuel ps rest
  | _ + 1, _ :: _, [] => false

/-- A value against a pattern. -/
def likeTruth (text pattern : Cell) : Option Bool :=
  if text = .null ∨ pattern = .null then none
  else
    let p := pattern.chars
    let t := text.chars
    some (likeChars (p.length + t.length + 1) p t)

/-- A function of values; nothing if an integer does not fit. A text is as long as what stands before
its first null character. -/
def Function.apply : Function → List Cell → Option Cell
  | .coalesce, cells => some ((cells.find? (· ≠ .null)).getD .null)
  | _, [.null] => some .null
  | .length, [.blob bytes] => some (.int bytes.length)
  | .length, [c] => some (.int (c.chars.takeWhile (· ≠ '\x00')).length)
  | .lower, [c] => some (c.inCase Char.toLower)
  | .upper, [c] => some (c.inCase Char.toUpper)
  | .abs, [.int n] => if fits n.natAbs then some (.int n.natAbs) else none
  | .abs, [c] => some (.real c.toNumber.toFloat.abs)
  | _, _ => some .null

/-! ## Functions of rows -/

/-- A running sum: integers as long as they fit, then floats with the error of their rounding. -/
structure Sum where
  count : Nat
  int : Int
  isReal : Bool
  overflow : Bool
  real : Float
  error : Float

namespace Sum

/-- The sum of nothing. -/
def zero : Sum := ⟨0, 0, false, false, 0.0, 0.0⟩

/-- Adds a float. -/
def addReal (s : Sum) (r : Float) : Sum :=
  let t := s.real + r
  let e := if r.abs < s.real.abs then (s.real - t) + r else (r - t) + s.real
  { s with real := t, error := s.error + e }

/-- Adds an integer to a sum of floats; a large one goes in two parts. -/
def addInt (s : Sum) (n : Int) : Sum :=
  if n ≤ -4503599627370496 ∨ 4503599627370496 ≤ n then
    (s.addReal (floatOfInt (n - n.tmod 16384))).addReal (floatOfInt (n.tmod 16384))
  else s.addReal (floatOfInt n)

/-- Adds a value; null adds nothing. -/
def add (s : Sum) (c : Cell) : Sum :=
  let number := match c with
    | .text t => (numberOfText? t).getD (.real (leadingNumber t).toFloat)
    | .garbled _ => .real c.toNumber.toFloat
    | .blob _ => .real c.toNumber.toFloat
    | c => c
  match number with
  | .int n =>
    let s := { s with count := s.count + 1 }
    if s.isReal then s.addInt n
    else if fits (s.int + n) then { s with int := s.int + n }
    else (({ s with isReal := true, overflow := true } : Sum).addInt s.int).addInt n
  | .real x =>
    let s := { s with count := s.count + 1 }
    if s.isReal then ({ s with overflow := false } : Sum).addReal x
    else (({ s with isReal := true } : Sum).addInt s.int).addReal x
  | _ => s

/-- The sum as a float. -/
def toFloat (s : Sum) : Float :=
  if s.isReal then (if s.error.isFinite then s.real + s.error else s.real) else floatOfInt s.int

end Sum

/-- A function of the values of a group; nothing if integers do not fit. -/
def Aggregate.apply (f : Aggregate) (cells : List Cell) : Option Cell :=
  let given := cells.filter (· ≠ .null)
  let sum := given.foldl Sum.add Sum.zero
  match f with
  | .count => some (.int given.length)
  | .sum =>
    if sum.count = 0 then some .null
    else if sum.isReal then (if sum.overflow then none else some (realCell sum.toFloat))
    else some (.int sum.int)
  | .total => some (realCell sum.toFloat)
  | .avg => if sum.count = 0 then some .null else some (realCell (sum.toFloat / sum.count.toFloat))
  | .min => some (best given fun a b => a.compareBy .binary b = .lt)
  | .max => some (best given fun a b => a.compareBy .binary b = .gt)
where
  best (cells : List Cell) (before : Cell → Cell → Bool) : Cell :=
    match cells with
    | [] => .null
    | c :: rest => rest.foldl (fun b c => if before c b then c else b) c

/-! ## Evaluation -/

/-- What an expression is evaluated at. -/
structure Env where
  params : List Cell
  row : List Cell
  group : List (List Cell)

/-- Compares two values as the expressions that gave them ask for. -/
def compareAs (a b : Expr Place) (x y : Cell) : Ordering :=
  let (x, y) := convertOperands a.affinity b.affinity x y
  x.compareBy ((a.collation?.or b.collation?).getD .binary) y

mutual

/-- The value of an expression; nothing if it cannot be computed. -/
def Expr.eval (env : Env) : Expr Place → Option Cell
  | .literal c => some c
  | .param i => some ((env.params[i]?).getD .null)
  | .column c => some ((env.row[c.index]?).getD .null)
  | .compare op a b => do
    let x ← a.eval env
    let y ← b.eval env
    return if x = .null ∨ y = .null then .null
      else .ofTruth (some (op.holds (compareAs a b x y)))
  | .is a b => do
    let x ← a.eval env
    let y ← b.eval env
    return .ofTruth (some (if x = .null ∨ y = .null then x = y else compareAs a b x y = .eq))
  | .and a b => do return .ofTruth (andTruth (← a.eval env).truth (← b.eval env).truth)
  | .or a b => do return .ofTruth (orTruth (← a.eval env).truth (← b.eval env).truth)
  | .not a => do return .ofTruth ((← a.eval env).truth.map (!·))
  | .isIn a items => do
    let x ← a.eval env
    let ys ← evalAll env items
    let same (y : Cell) : Bool :=
      let (x, y) := convertOperands a.affinity none x y
      x.compareBy (a.collation?.getD .binary) y = .eq
    return if ys = [] then .int 0
      else if x = .null then .null
      else if ys.any fun y => y ≠ .null && same y then .int 1
      else if ys.any (· = .null) then .null
      else .int 0
  | .like a b => do return .ofTruth (likeTruth (← a.eval env) (← b.eval env))
  | .arithmetic op a b => do return op.apply (← a.eval env) (← b.eval env)
  | .negate a => do return Arithmetic.apply .sub (.int 0) (← a.eval env)
  | .concat a b => do
    let x ← a.eval env
    let y ← b.eval env
    return if x = .null ∨ y = .null then .null else x.append y
  | .collate a _ => a.eval env
  | .call f args => do f.apply (← evalAll env args)
  | .countRows => some (.int env.group.length)
  | .aggregate f a => do
    f.apply (← env.group.mapM fun r => a.eval { env with row := r })

/-- The values of several expressions. -/
def evalAll (env : Env) : List (Expr Place) → Option (List Cell)
  | [] => some []
  | a :: rest => do return (← a.eval env) :: (← evalAll env rest)

end

/-- The condition holds at a row; unknown counts as no. -/
def Expr.holdsAt (env : Env) (e : Expr Place) : Option Bool :=
  (e.eval env).map fun c => c.truth = some true

end ResourceProvider.Engine
