import ResourceProvider.Proofs.Sql.Building
import ResourceProvider.Sql.Row
/-!
# Rows with repeated names

The columns of a joined row can have names in common. Each name stands once in the record of the
row, with the value of the leftmost column of that name (`lookup_recordOfRow`). Read from left to
right, a column adds a field if its name is new, and is passed over if it is not
(`recordOfRow_concat`); so what the first columns say stays, whatever stands behind them.
-/
namespace ResourceProvider

open Json (insertField)

/-! ## Ordered records -/

/-- A field of an ordered record is the one that is found under its name. -/
theorem Record.IsOrdered.mem_iff {r : Record} (h : r.IsOrdered) {f : String × Json.Value} :
    f ∈ r ↔ r.lookup f.1 = some f.2 := by
  obtain ⟨name, v⟩ := f
  constructor
  · intro hf
    obtain ⟨before, after, rfl⟩ := List.append_of_mem hf
    refine List.lookup_eq_some_iff.2 ⟨before, after, rfl, fun g hg => ?_⟩
    rw [Record.IsOrdered, Record.columns, List.map_append, List.pairwise_append] at h
    have below := h.2.2 g.1 (List.mem_map_of_mem hg) name List.mem_cons_self
    simpa using (String.ne_of_lt below).symm
  · intro found
    obtain ⟨before, after, rfl, -⟩ := List.lookup_eq_some_iff.1 found
    simp

/-- Records in which the same is found are the same. -/
theorem Record.IsOrdered.ext {r s : Record} (hr : r.IsOrdered) (hs : s.IsOrdered)
    (same : ∀ name, r.lookup name = s.lookup name) : r = s := by
  have nodup {r : Record} (h : r.IsOrdered) : r.Nodup :=
    (List.pairwise_map.1 h).imp fun below => fun eq => String.lt_irrefl _ (eq ▸ below)
  have perm : r.Perm s := (List.perm_ext_iff_of_nodup (nodup hr) (nodup hs)).2 fun f => by
    rw [hr.mem_iff, hs.mem_iff, same]
  have below {r : Record} (h : r.IsOrdered) : r.Pairwise fun f g => f.1 < g.1 :=
    List.pairwise_map.1 h
  exact perm.eq_of_pairwise (fun f g _ _ before after => absurd after (String.lt_asymm before))
    (below hr) (below hs)

namespace Sql

open Engine (Cell ResultRow)

/-! ## Records of rows -/

variable (row own joined : ResultRow)

theorem recordOfRow_cons (c : String × Cell) :
    recordOfRow (c :: row) = insertField c.1 (valueOfCell c.2) (recordOfRow row) :=
  rfl

theorem ordered_recordOfRow : (recordOfRow row).IsOrdered := by
  induction row with
  | nil => exact .nil
  | cons c row ih => exact Json.ascending_insertField ih _

/-- The leftmost column of a name counts. -/
theorem lookup_recordOfRow (name : String) :
    (recordOfRow row).lookup name = (row.lookup name).map valueOfCell := by
  induction row with
  | nil => rfl
  | cons c row ih =>
    rw [recordOfRow_cons, Json.lookup_insertField, ih, Json.lookup_cons]
    split <;> rfl

theorem mem_columns_recordOfRow {name : String} :
    name ∈ (recordOfRow row).columns ↔ name ∈ row.map Prod.fst := by
  induction row with
  | nil => rfl
  | cons c row ih =>
    rw [recordOfRow_cons, Record.columns, Json.mem_keys_insertField, List.map_cons, List.mem_cons]
    exact or_congr_right ih

variable {row own joined}

theorem lookup_eq_none {name : String} (new : name ∉ row.map Prod.fst) : row.lookup name = none :=
  List.lookup_eq_none_iff.2 fun c hc => by
    simpa using fun same : name = c.1 => new (same ▸ List.mem_map_of_mem hc)

/-- A column under a name that no column before it has is the one that counts. -/
theorem lookup_leftmost {before after : ResultRow} {name : String} {cell : Cell}
    (new : name ∉ before.map Prod.fst) :
    (recordOfRow (before ++ (name, cell) :: after)).lookup name = some (valueOfCell cell) := by
  rw [lookup_recordOfRow, List.lookup_append, lookup_eq_none new, Json.lookup_cons, if_pos rfl]
  rfl

example : recordOfRow [("id", .int 1), ("title", .text "plan"), ("id", .int 7)] =
    [("id", .num (.int 1)), ("title", .str "plan")] := by
  rfl

/-- What the columns in front say stays. -/
theorem lookup_front {name : String} (known : name ∈ own.map Prod.fst) (joined : ResultRow) :
    (recordOfRow (own ++ joined)).lookup name = (recordOfRow own).lookup name := by
  obtain ⟨c, hc, rfl⟩ := List.mem_map.1 known
  obtain ⟨v, found⟩ : ∃ v, own.lookup c.1 = some v := by
    refine Option.ne_none_iff_exists'.1 fun none => ?_
    simpa using List.lookup_eq_none_iff.1 none c hc
  rw [lookup_recordOfRow, lookup_recordOfRow, List.lookup_append, found, Option.some_or]

/-- A name that only columns behind them have is read from those. -/
theorem lookup_behind {name : String} (new : name ∉ own.map Prod.fst) (joined : ResultRow) :
    (recordOfRow (own ++ joined)).lookup name = (recordOfRow joined).lookup name := by
  rw [lookup_recordOfRow, lookup_recordOfRow, List.lookup_append, lookup_eq_none new,
    Option.none_or]

/-- One more column adds a field, unless its name is there already. -/
theorem recordOfRow_concat (row : ResultRow) (c : String × Cell) :
    recordOfRow (row ++ [c]) =
      if c.1 ∈ (recordOfRow row).columns then recordOfRow row
      else insertField c.1 (valueOfCell c.2) (recordOfRow row) := by
  have ordered := ordered_recordOfRow row
  refine (ordered_recordOfRow _).ext ?_ fun name => ?_
  · split
    · exact ordered
    · exact Json.ascending_insertField ordered _
  by_cases known : name ∈ row.map Prod.fst
  · rw [lookup_front known]
    split
    · rfl
    · rename_i new
      rw [mem_columns_recordOfRow] at new
      rw [Json.lookup_insertField, if_neg (ne_of_mem_of_not_mem known new)]
  · have absent : (recordOfRow row).lookup name = none := by
      rw [lookup_recordOfRow, lookup_eq_none known, Option.map_none]
    rw [lookup_behind known, recordOfRow_cons, Json.lookup_insertField]
    split
    · rename_i same
      subst same
      rw [if_neg (mem_columns_recordOfRow row |>.not.2 known), Json.lookup_insertField, if_pos rfl]
    · rename_i other
      split
      · exact absent.symm
      · rw [Json.lookup_insertField, if_neg other, absent]
        rfl

end Sql

end ResourceProvider
