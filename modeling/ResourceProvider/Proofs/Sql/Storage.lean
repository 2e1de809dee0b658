import ResourceProvider.Sql.Row
import ResourceProvider.Terms
/-!
# Values in storage

What is read again after a value was stored in a column without conversion. Texts, finite floats and
integers of 64 bits with a sign survive. Larger integers become floats, and so they do not
(`reread_scalar`). In the other direction, what is read from a cell is stored as the same cell,
unless the cell holds bytes: they are read as a list of numbers, and lists are stored as their text.
-/
namespace ResourceProvider.Sql

open Engine (Affinity Cell)
open Json (Value)

/-! ## Values in cells -/

theorem cellOfValue_int {n : Int} (low : -0x8000000000000000 ≤ n) (high : n < 0x8000000000000000) :
    cellOfValue (.num (.int n)) = .int n := by
  have fits : fitsInt64 n := by simp [fitsInt64, low, high]
  simp [cellOfValue, Param.ofValue, Param.toCell, fits]

/-- An integer that does not fit is rounded to a float. -/
theorem cellOfValue_large {n : Int} (large : 0x8000000000000000 ≤ n) :
    cellOfValue (.num (.int n)) = (Param.float (floatOfInt n)).toCell := by
  have outside : fitsInt64 n = false := by simp [fitsInt64, large]
  simp [cellOfValue, Param.ofValue, outside]

theorem not_isNaN_of_isFinite {x : Float} (h : x.isFinite) : x.isNaN = false := by
  unfold Float.isFinite Float.Model.isFinite at h
  unfold Float.isNaN Float.Model.isNaN
  cases kind : x.toModel.unpack with
  | notANumber =>
    rw [kind] at h
    cases h
  | infinity _ | zero _ | finite _ _ _ _ => rfl

theorem toCell_float (x : Float) :
    (Param.float x).toCell = if x.isNaN then .null else .real x := rfl

theorem cellOfValue_float {x : Float} (h : x.isFinite) :
    cellOfValue (.num (.float x)) = .real x := by
  rw [cellOfValue, Param.ofValue, toCell_float, not_isNaN_of_isFinite h]
  rfl

/-- A float never comes back as an integer. -/
theorem valueOfCell_float_ne_int (x : Float) (n : Int) :
    valueOfCell (Param.float x).toCell ≠ .num (.int n) := by
  rw [toCell_float]
  split
  · simp [valueOfCell]
  · rw [valueOfCell]
    split <;> simp

/-! ## Storing and reading -/

/-- What is read from a column of the given type after the value was stored in it. -/
def reread (type : DataType) (v : Value) : Value :=
  valueOfCell ((Affinity.ofType type.name).apply (cellOfValue v))

theorem reread_blob (v : Value) : reread .blob v = valueOfCell (cellOfValue v) := by
  have none : Affinity.ofType DataType.blob.name = .blob := by decide
  rw [reread, none, Affinity.apply]

/-- Null, a text, an integer of 64 bits with or without a sign, or a finite float. -/
def IsScalar : Value → Prop
  | .null | .str _ => True
  | .num (.int n) => -0x8000000000000000 ≤ n ∧ n < 0x10000000000000000
  | .num (.float x) => x.isFinite
  | .bool _ | .arr _ | .obj _ => False

/-- The value is an integer too large for 64 bits with a sign. -/
def IsLarge : Value → Prop
  | .num (.int n) => 0x8000000000000000 ≤ n
  | _ => False

theorem reread_eq_iff {v : Value} (h : IsScalar v) : reread .blob v = v ↔ ¬ IsLarge v := by
  rw [reread_blob]
  cases v with
  | null | str _ => exact iff_of_true rfl id
  | bool _ | arr _ | obj _ => exact h.elim
  | num number =>
    cases number with
    | float x =>
      have finite : x.isFinite := h
      rw [cellOfValue_float finite, valueOfCell, if_pos finite]
      exact iff_of_true rfl id
    | int n =>
      by_cases large : 0x8000000000000000 ≤ n
      · rw [cellOfValue_large large]
        exact iff_of_false (valueOfCell_float_ne_int _ n) (fun small => small large)
      · rw [cellOfValue_int h.1 (by omega)]
        exact iff_of_true rfl large

theorem isLarge_of_meets {m n : Int} (hm : IsScalar (.num (.int m))) (hn : IsScalar (.num (.int n)))
    (other : m ≠ n) (meets : cellOfValue (.num (.int m)) = cellOfValue (.num (.int n))) :
    IsLarge (.num (.int m)) := by
  apply Classical.byContradiction
  intro small
  have survives := (reread_eq_iff hm).2 small
  rw [reread_blob, meets] at survives
  by_cases large : 0x8000000000000000 ≤ n
  · rw [cellOfValue_large large] at survives
    exact valueOfCell_float_ne_int _ m survives
  · rw [cellOfValue_int hn.1 (by omega)] at survives
    cases survives
    exact other rfl

/-- A scalar survives storage exactly if it is no large integer, and an integer meets another one in
storage only if both of them are large. -/
theorem reread_scalar {v : Value} (h : IsScalar v) :
    (reread .blob v = v ↔ ¬ IsLarge v) ∧
      ∀ m n : Int, v = .num (.int m) → IsScalar (.num (.int n)) → m ≠ n →
        cellOfValue v = cellOfValue (.num (.int n)) → IsLarge v ∧ IsLarge (.num (.int n)) := by
  refine ⟨reread_eq_iff h, ?_⟩
  rintro m n rfl hn other meets
  exact ⟨isLarge_of_meets h hn other meets, isLarge_of_meets hn h other.symm meets.symm⟩

theorem isScalar_bound : IsScalar (.num (.int 0x7FFFFFFFFFFFFFFF)) ∧
    IsScalar (.num (.int 0x8000000000000000)) ∧ IsScalar (.num (.int 0x8000000000000001)) := by
  refine ⟨?_, ?_, ?_⟩ <;> constructor <;> decide

theorem cellOfValue_bound :
    cellOfValue (.num (.int 0x8000000000000000)) = cellOfValue (.num (.int 0x8000000000000001)) := by
  decide +kernel

theorem reread_scalar_bound :
    reread .blob (.num (.int 0x7FFFFFFFFFFFFFFF)) = .num (.int 0x7FFFFFFFFFFFFFFF) ∧
      IsLarge (.num (.int 0x8000000000000000)) ∧ IsLarge (.num (.int 0x8000000000000001)) := by
  obtain ⟨last, first, next⟩ := isScalar_bound
  exact ⟨(reread_scalar last).1.2 (by unfold IsLarge; decide),
    (reread_scalar first).2 _ _ rfl next (by decide) cellOfValue_bound⟩

/-- The first integers beyond 64 bits with a sign are stored as the same float, so they are not read
again. -/
theorem not_reread_bound :
    IsScalar (.num (.int 0x8000000000000000)) ∧ IsScalar (.num (.int 0x8000000000000001)) ∧
      reread .blob (.num (.int 0x8000000000000000)) ≠ .num (.int 0x8000000000000000) ∧
      cellOfValue (.num (.int 0x8000000000000000)) =
        cellOfValue (.num (.int 0x8000000000000001)) := by
  obtain ⟨-, first, next⟩ := isScalar_bound
  refine ⟨first, next, fun survives => ?_, cellOfValue_bound⟩
  exact (reread_eq_iff first).1 survives (by unfold IsLarge; decide)

/-! ## Reading and storing -/

/-- The cell holds a value that a database stores: an integer has 64 bits, and a float is finite. -/
def IsStored : Cell → Prop
  | .int n => -0x8000000000000000 ≤ n ∧ n < 0x8000000000000000
  | .real x => x.isFinite
  | .null | .text _ | .garbled _ | .blob _ => True

/-- The cell holds bytes, or a text whose bytes spell no characters. -/
def IsBytes : Cell → Prop
  | .blob _ | .garbled _ => True
  | .null | .int _ | .real _ | .text _ => False

theorem cellOfValue_valueOfCell {c : Cell} (h : IsStored c) :
    cellOfValue (valueOfCell c) = c ↔ ¬ IsBytes c := by
  cases c with
  | null | text _ => exact iff_of_true rfl id
  | int n => exact iff_of_true (cellOfValue_int h.1 h.2) id
  | real x =>
    have finite : x.isFinite := h
    rw [valueOfCell, if_pos finite]
    exact iff_of_true (cellOfValue_float finite) id
  | blob bytes | garbled bytes =>
    refine iff_of_false (fun same => ?_) (fun none => none trivial)
    cases same

end ResourceProvider.Sql
