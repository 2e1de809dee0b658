import ResourceProvider.Engine.Token
/-!
# Expressions

Conditions and values of statements. Columns are named as they are written at first, and by
their place in a row once the names were looked up.
-/
namespace ResourceProvider.Engine

/-- How two values are compared. -/
inductive Comparison where
  | eq
  | ne
  | lt
  | le
  | gt
  | ge
deriving DecidableEq, Repr

/-- The comparison holds of two values in the given order. -/
def Comparison.holds : Comparison → Ordering → Bool
  | .eq, o => o = .eq
  | .ne, o => o ≠ .eq
  | .lt, o => o = .lt
  | .le, o => o ≠ .gt
  | .gt, o => o = .gt
  | .ge, o => o ≠ .lt

/-- Arithmetic on two numbers. -/
inductive Arithmetic where
  | add
  | sub
  | mul
  | div
  | rem
deriving DecidableEq, Repr

/-- Functions of the rows of a group. -/
inductive Aggregate where
  | count
  | sum
  | total
  | avg
  | min
  | max
deriving DecidableEq, Repr

/-- Functions of single values. -/
inductive Function where
  | length
  | lower
  | upper
  | abs
  | coalesce
deriving DecidableEq, Repr

/-- An expression whose columns are given by `κ`. -/
inductive Expr (κ : Type) where
  | literal (c : Cell)
  | param (index : Nat)
  | column (c : κ)
  | compare (op : Comparison) (a b : Expr κ)
  /-- Whether two values are the same, where null is the same as null. -/
  | is (a b : Expr κ)
  | and (a b : Expr κ)
  | or (a b : Expr κ)
  | not (a : Expr κ)
  | isIn (a : Expr κ) (items : List (Expr κ))
  | like (a b : Expr κ)
  | arithmetic (op : Arithmetic) (a b : Expr κ)
  | negate (a : Expr κ)
  | concat (a b : Expr κ)
  | collate (a : Expr κ) (by_ : Collation)
  | call (f : Function) (args : List (Expr κ))
  | countRows
  | aggregate (f : Aggregate) (a : Expr κ)

/-- A column as it is written; `quoted` says that it may stand for a text instead. -/
structure ColumnName where
  table : Option String
  name : String
  quoted : Bool

/-- A column by its place in a row. -/
structure Place where
  index : Nat
  affinity : Affinity

/-- The affinity with which an expression takes part in a comparison. -/
def Expr.affinity : Expr Place → Option Affinity
  | .column c => some c.affinity
  | .collate a _ => a.affinity
  | _ => none

/-- The collation that an expression asks for. -/
def Expr.collation? {κ : Type} : Expr κ → Option Collation
  | .collate _ c => some c
  | _ => none

end ResourceProvider.Engine
