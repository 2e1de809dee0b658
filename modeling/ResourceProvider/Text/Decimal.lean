/-!
# Decimal digits of binary numbers

A finite binary number is `m * 2 ^ q`. `shortest` selects the fewest decimal digits that read
back as the same number, and of those the nearest; `rounded` keeps a set count of digits. Both
work on exact naturals.
-/
namespace ResourceProvider.Text

/-! ## Exact values -/

/-- A non-negative value `m * 2 ^ q` and the shape of the gaps around it. -/
structure Binary where
  m : Nat
  q : Int
  /-- The gap to the value below is half the gap to the value above. -/
  narrowBelow : Bool

/-- The magnitude of a finite number in the 64-bit format. -/
def Binary.ofBits (b : UInt64) : Binary :=
  let e := ((b >>> 52) &&& 0x7FF).toNat
  let f := (b &&& 0xFFFFFFFFFFFFF).toNat
  if e = 0 then ⟨f, -1074, false⟩ else ⟨0x10000000000000 + f, (e : Int) - 1075, f = 0 && 1 < e⟩

/-- The value `digits * 10 ^ exp`. -/
structure Decimal where
  digits : Nat
  exp : Int
deriving Repr, DecidableEq

/-- Compares `a * 10 ^ i` with `n * 2 ^ j` without rounding. -/
def compareScaled (a : Nat) (i : Int) (n : Nat) (j : Int) : Ordering :=
  compare (a * Nat.pow 10 i.toNat * Nat.pow 2 (-j).toNat)
    (n * Nat.pow 2 j.toNat * Nat.pow 10 (-i).toNat)

/-- The decimal lies among the reals that round to `x`; the ends belong to even `m` only. -/
def Binary.readsBack (x : Binary) (d : Decimal) : Bool :=
  let lo := if x.narrowBelow then 4 * x.m - 1 else 4 * x.m - 2
  let hi := 4 * x.m + 2
  let ends := x.m % 2 = 0
  let below := compareScaled d.digits d.exp lo (x.q - 2)
  let above := compareScaled d.digits d.exp hi (x.q - 2)
  (below = .gt || (ends && below = .eq)) && (above = .lt || (ends && above = .eq))

/-- `⌊x / 10 ^ e⌋` and whether the division leaves a rest. -/
def Binary.floorAt (x : Binary) (e : Int) : Nat :=
  (x.m * Nat.pow 2 x.q.toNat * Nat.pow 10 (-e).toNat) /
    (Nat.pow 2 (-x.q).toNat * Nat.pow 10 e.toNat)

/-- The least `k` from `k₀` on with `x < 10 ^ k`, in at most `fuel` steps. -/
def Binary.scaleFrom (x : Binary) : (fuel : Nat) → Int → Int
  | 0, k => k
  | fuel + 1, k => if compareScaled 1 k x.m x.q = .gt then k else x.scaleFrom fuel (k + 1)

/-- The number of digits before the point; it is negative for small values. -/
def Binary.scale (x : Binary) : Int :=
  let bits := (x.m.log2 : Int) + x.q
  x.scaleFrom 8 (bits * 30103 / 100000 - 2)

/-! ## Selecting digits -/

/-- Moves trailing zeros of the digits into the exponent. -/
def Decimal.strip : (fuel : Nat) → Decimal → Decimal
  | 0, d => d
  | fuel + 1, d =>
    if d.digits ≠ 0 ∧ d.digits % 10 = 0 then strip fuel ⟨d.digits / 10, d.exp + 1⟩ else d

/-- The neighbour of `x` on the grid of `10 ^ e` that reads back; of two, the nearer one, and at
equal distance the even one. -/
def Binary.onGrid? (x : Binary) (e : Int) : Option Decimal :=
  let below : Decimal := ⟨x.floorAt e, e⟩
  let above : Decimal := ⟨x.floorAt e + 1, e⟩
  match x.readsBack below, x.readsBack above with
  | true, false => some below
  | false, true => some above
  | false, false => none
  | true, true =>
    match compareScaled (below.digits + above.digits) e x.m (x.q + 1) with
    | .gt => some below
    | .lt => some above
    | .eq => some (if below.digits % 2 = 0 then below else above)

/-- The first grid of at most `n` more digits that holds a decimal for `x`. -/
def Binary.search (x : Binary) : (n : Nat) → Int → Option Decimal
  | 0, _ => none
  | n + 1, e => (x.onGrid? e).or (x.search n (e - 1))

/-- The fewest digits that read back. -/
def Binary.shortest (x : Binary) : Decimal :=
  if x.m = 0 then ⟨0, 0⟩
  else match x.search 17 (x.scale - 1) with
    | some d => d.strip 20
    | none => (⟨x.m * Nat.pow 2 x.q.toNat * Nat.pow 5 (-x.q).toNat, -(-x.q).toNat⟩ : Decimal).strip 400

/-- The value rounded to `n` digits, a half going up. -/
def Binary.rounded (x : Binary) (n : Nat) : Decimal :=
  if x.m = 0 then ⟨0, 0⟩
  else
    let e := x.scale - n
    (⟨(x.floorAt (e - 1) + 5) / 10, e⟩ : Decimal).strip 20

/-! ## Laying digits out -/

/-- The number is negative; a zero can be. -/
def isNegative (x : Float) : Bool :=
  x.toBits >>> 63 = 1

/-- The digits of a decimal and the exponent of the first of them. -/
def Decimal.lead (d : Decimal) : List Char × Int :=
  let ds := Nat.toDigits 10 d.digits
  (ds, d.exp + ds.length - 1)

/-- Positional notation with at least one digit on each side of the point. -/
def positional (ds : List Char) (e : Int) : List Char :=
  if e < 0 then ['0', '.'] ++ List.replicate (-e - 1).toNat '0' ++ ds
  else
    let n := e.toNat + 1
    let whole := ds.take n ++ List.replicate (n - ds.length) '0'
    let part := ds.drop n
    whole ++ ['.'] ++ (if part = [] then ['0'] else part)

end ResourceProvider.Text
