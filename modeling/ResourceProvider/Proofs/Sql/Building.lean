import Mathlib.Data.List.Sort
import ResourceProvider.Sql.Record
/-!
# Records that are built step by step

A record is built by setting columns of a table, and it is checked as a whole before it is sent. The
two agree: a step is refused for the fault that the check finds in it, what was built passes the
check, and what passes the check can be built in any order (`built_fits`).
-/
namespace ResourceProvider

open Json (insertField sortFields)

/-! ## Fields by key -/

namespace Json

variable {α : Type} {k : String} {fields : List (String × α)}

theorem lookup_cons (k : String) (v : α) (fields : List (String × α)) (c : String) :
    ((k, v) :: fields).lookup c = if c = k then some v else fields.lookup c := by
  by_cases own : c = k
  · simp [own]
  · rw [List.lookup_cons, beq_false_of_ne own, if_neg own]

theorem lookup_insertField (k : String) (v : α) (fields : List (String × α)) (c : String) :
    (insertField k v fields).lookup c = if c = k then some v else fields.lookup c := by
  induction fields with
  | nil => exact lookup_cons k v [] c
  | cons f fields ih =>
    obtain ⟨k', v'⟩ := f
    unfold insertField
    split
    · rename_i same
      subst same
      rw [lookup_cons, lookup_cons]
      split <;> rfl
    · rename_i other
      split
      · exact lookup_cons k v _ c
      · rw [lookup_cons, lookup_cons, ih]
        by_cases first : c = k'
        · rw [if_pos first, if_pos first, if_neg (first ▸ Ne.symm other)]
        · rw [if_neg first, if_neg first]

theorem mem_insertField {v : α} {f : String × α} (h : f ∈ insertField k v fields) :
    f = (k, v) ∨ f ∈ fields := by
  induction fields with
  | nil => simpa [insertField] using h
  | cons g fields ih =>
    obtain ⟨k', v'⟩ := g
    unfold insertField at h
    split at h
    · exact (List.mem_cons.1 h).imp_right fun later => List.mem_cons_of_mem _ later
    · split at h
      · exact List.mem_cons.1 h
      · rcases List.mem_cons.1 h with rfl | later
        · exact .inr List.mem_cons_self
        · exact (ih later).imp_right fun found => List.mem_cons_of_mem _ found

theorem mem_keys_insertField (v : α) {c : String} :
    c ∈ (insertField k v fields).map Prod.fst ↔ c = k ∨ c ∈ fields.map Prod.fst := by
  induction fields with
  | nil => simp [insertField]
  | cons f fields ih =>
    obtain ⟨k', v'⟩ := f
    unfold insertField
    split
    · rename_i same
      simp [same]
    · split
      · simp
      · rw [List.map_cons, List.mem_cons, ih, List.map_cons, List.mem_cons]
        exact or_left_comm

theorem ascending_insertField (ascending : (fields.map Prod.fst).Pairwise (· < ·)) (v : α) :
    ((insertField k v fields).map Prod.fst).Pairwise (· < ·) := by
  induction fields with
  | nil => exact List.pairwise_singleton _ _
  | cons f fields ih =>
    obtain ⟨k', v'⟩ := f
    rw [List.map_cons, List.pairwise_cons] at ascending
    unfold insertField
    split
    · rename_i same
      subst same
      exact List.pairwise_cons.2 ascending
    · rename_i other
      split
      · rename_i below
        rw [List.map_cons, List.pairwise_cons, List.map_cons, List.forall_mem_cons]
        exact ⟨⟨below, fun c hc => String.lt_trans below (ascending.1 c hc)⟩,
          List.pairwise_cons.2 ascending⟩
      · rename_i above
        rw [List.map_cons, List.pairwise_cons]
        refine ⟨fun c hc => ?_, ih ascending.2⟩
        rcases (mem_keys_insertField v).1 hc with rfl | later
        · exact Std.lt_of_le_of_ne (String.not_lt.1 above) (Ne.symm other)
        · exact ascending.1 c later

theorem insertField_perm (new : k ∉ fields.map Prod.fst) (v : α) :
    (insertField k v fields).Perm ((k, v) :: fields) := by
  induction fields with
  | nil => exact .refl _
  | cons f fields ih =>
    obtain ⟨k', v'⟩ := f
    rw [List.map_cons, List.mem_cons, not_or] at new
    unfold insertField
    rw [if_neg new.1]
    split
    · exact .refl _
    · exact ((ih new.2).cons _).trans (.swap _ _ _)

/-! ### Many fields -/

theorem mem_sortFields {f : String × α} (h : f ∈ sortFields fields) : f ∈ fields := by
  have run (fields seen : List (String × α))
      (h : f ∈ fields.foldl (fun r f => insertField f.1 f.2 r) seen) : f ∈ fields ∨ f ∈ seen := by
    induction fields generalizing seen with
    | nil => exact .inr h
    | cons g fields ih =>
      rcases ih _ (List.foldl_cons .. ▸ h) with later | earlier
      · exact .inl (List.mem_cons_of_mem g later)
      · exact (mem_insertField earlier).imp_left fun own => List.mem_cons.2 (.inl own)
  exact (run fields [] h).resolve_right List.not_mem_nil

theorem ascending_sortFields (fields : List (String × α)) :
    ((sortFields fields).map Prod.fst).Pairwise (· < ·) := by
  have run (fields seen : List (String × α)) (ascending : (seen.map Prod.fst).Pairwise (· < ·)) :
      ((fields.foldl (fun r f => insertField f.1 f.2 r) seen).map Prod.fst).Pairwise (· < ·) := by
    induction fields generalizing seen with
    | nil => exact ascending
    | cons f fields ih => exact ih _ (ascending_insertField ascending f.2)
  exact run fields [] List.Pairwise.nil

/-- Of fields with one key the last one counts. -/
theorem lookup_sortFields (fields : List (String × α)) (c : String) :
    (sortFields fields).lookup c = fields.reverse.lookup c := by
  have run (fields seen : List (String × α)) :
      (fields.foldl (fun r f => insertField f.1 f.2 r) seen).lookup c =
        (fields.reverse.lookup c).or (seen.lookup c) := by
    induction fields generalizing seen with
    | nil => rfl
    | cons f fields ih =>
      have last : [f].lookup c = if c = f.1 then some f.2 else none := lookup_cons f.1 f.2 [] c
      rw [List.foldl_cons, ih, lookup_insertField, List.reverse_cons, List.lookup_append, last]
      cases fields.reverse.lookup c with
      | some v => rfl
      | none => split <;> rfl
  exact (run fields []).trans (Option.or_none ..)

theorem sortFields_perm (distinct : (fields.map Prod.fst).Nodup) :
    (sortFields fields).Perm fields := by
  have run (fields seen : List (String × α)) (distinct : ((fields ++ seen).map Prod.fst).Nodup) :
      (fields.foldl (fun r f => insertField f.1 f.2 r) seen).Perm (fields ++ seen) := by
    induction fields generalizing seen with
    | nil => exact .refl _
    | cons f fields ih =>
      have both := distinct
      rw [List.cons_append, List.map_cons, List.nodup_cons, List.map_append, List.mem_append,
        not_or] at both
      have moved : (fields ++ insertField f.1 f.2 seen).Perm (f :: fields ++ seen) :=
        ((insertField_perm both.1.2 f.2).append_left fields).trans List.perm_middle
      exact (ih _ ((moved.map _).nodup_iff.2 distinct)).trans moved
  have all := run fields [] (by rwa [List.append_nil])
  rwa [List.append_nil] at all

/-- Fields with different keys are put in the order of their keys. -/
theorem sortFields_eq {sorted : List (String × α)}
    (ascending : (sorted.map Prod.fst).Pairwise (· < ·)) (same : fields.Perm sorted) :
    sortFields fields = sorted := by
  have distinct : (fields.map Prod.fst).Nodup :=
    (same.map _).nodup_iff.2 (ascending.imp fun h => (String.ne_of_lt h))
  have unique : ∀ f g : String × α, f ∈ sortFields fields → g ∈ sorted → f.1 < g.1 → g.1 < f.1 →
      f = g := fun f g _ _ below above => absurd above (String.lt_asymm below)
  exact List.Perm.eq_of_pairwise unique (List.pairwise_map.1 (ascending_sortFields fields))
    (List.pairwise_map.1 ascending) ((sortFields_perm distinct).trans same)

end Json

/-! ## Steps -/

namespace Record

/-- The columns of a record. -/
def columns (r : Record) : List String :=
  r.map Prod.fst

/-- The record has each column once, by ascending name. -/
def IsOrdered (r : Record) : Prop :=
  r.columns.Pairwise (· < ·)

/-- A step in which a record is built: a column is set to a value, or to null. -/
inductive Setting where
  | value (column : String) (v : Json.Value)
  | null (column : String)

/-- The field that a step sets. -/
def Setting.field : Setting → String × Json.Value
  | .value column v => (column, v)
  | .null column => (column, .null)

/-- Sets fields one after another, until one is refused. -/
def setAll (t : Table) (r : Record) (fields : List (String × Json.Value)) :
    Except SchemaError Record :=
  fields.foldlM (fun r f => set t r f.1 f.2) r

/-- The record after a step; one that is refused changes nothing. -/
def Setting.apply (t : Table) (r : Record) (step : Setting) : Record :=
  match set t r step.field.1 step.field.2 with
  | .ok r' => r'
  | .error _ => r

/-- The record that is built in some steps. -/
def build (t : Table) (steps : List Setting) : Record :=
  steps.foldl (Setting.apply t) []

/-- The table has the column of the field. -/
def Allows (t : Table) (f : String × Json.Value) : Prop :=
  misfit? t [f] = none

instance (t : Table) : DecidablePred (Allows t) :=
  fun f => inferInstanceAs (Decidable (misfit? t [f] = none))

variable {t : Table} {r : Record} {f : String × Json.Value} {fields : List (String × Json.Value)}

theorem misfit?_singleton (t : Table) (f : String × Json.Value) :
    misfit? t [f] = if (t.column? f.1).isSome then none else some (.noSuchColumn t.name f.1) := by
  cases h : t.column? f.1 <;> simp [misfit?, h]

theorem set_allowed (h : Allows t f) (r : Record) :
    set t r f.1 f.2 = .ok (insertField f.1 f.2 r) := by
  rw [Allows, misfit?_singleton] at h
  split at h
  · rename_i has
    obtain ⟨c, found⟩ := Option.isSome_iff_exists.1 has
    simp [set, found]
  · cases h

/-- A field is refused for what the check says about it alone. -/
theorem set_eq_error_iff (t : Table) (r : Record) (f : String × Json.Value) (e : SchemaError) :
    set t r f.1 f.2 = .error e ↔ misfit? t [f] = some e := by
  rw [misfit?_singleton, set]
  cases t.column? f.1 <;> simp

/-- A record passes the check exactly if each of its fields does. -/
theorem misfit?_eq_none_iff : misfit? t r = none ↔ ∀ f ∈ r, Allows t f := by
  simp [Allows, misfit?]

/-- What is built in steps is what the fields that are allowed leave, the later over the earlier. -/
theorem foldl_apply (t : Table) (r : Record) (steps : List Setting) :
    steps.foldl (Setting.apply t) r = ((steps.map Setting.field).filter (Allows t ·)).foldl
      (fun r f => insertField f.1 f.2 r) r := by
  induction steps generalizing r with
  | nil => rfl
  | cons step steps ih =>
    rw [List.foldl_cons, ih, List.map_cons, List.filter_cons]
    by_cases allowed : Allows t step.field
    · simp [allowed, Setting.apply, set_allowed allowed]
    · obtain ⟨e, refused⟩ := Option.ne_none_iff_exists'.1 allowed
      simp [allowed, Setting.apply, (set_eq_error_iff t r step.field e).2 refused]

theorem setAll_allowed (allowed : ∀ f ∈ fields, Allows t f) (r : Record) :
    setAll t r fields = .ok (fields.foldl (fun r f => insertField f.1 f.2 r) r) := by
  unfold setAll
  induction fields generalizing r with
  | nil => rfl
  | cons f fields ih =>
    rw [List.forall_mem_cons] at allowed
    rw [List.foldlM_cons, set_allowed allowed.1]
    exact ih allowed.2 _

/-- What is built in steps passes the check, and each column has the value of the last step for it
that is allowed. A step is refused exactly for what the check says about its field alone. A record
that passes the check is built of its fields in any order. -/
theorem built_fits (t : Table) :
    (∀ steps, misfit? t (build t steps) = none ∧ (build t steps).IsOrdered ∧
      ∀ c, (build t steps).lookup c =
        ((steps.map Setting.field).filter (Allows t ·)).reverse.lookup c) ∧
    (∀ (step : Setting) (r : Record) (e : SchemaError),
      set t r step.field.1 step.field.2 = .error e ↔ misfit? t [step.field] = some e) ∧
    ∀ r : Record, r.IsOrdered → misfit? t r = none → ∀ fields, fields.Perm r →
      setAll t [] fields = .ok r := by
  refine ⟨fun steps => ?_, fun step r e => set_eq_error_iff t r step.field e, ?_⟩
  · have built : build t steps = sortFields ((steps.map Setting.field).filter (Allows t ·)) :=
      foldl_apply t [] steps
    rw [built]
    refine ⟨misfit?_eq_none_iff.2 fun f hf => ?_, Json.ascending_sortFields _,
      Json.lookup_sortFields _⟩
    simpa using (List.mem_filter.1 (Json.mem_sortFields hf)).2
  · intro r ordered fits fields same
    rw [setAll_allowed fun f hf => misfit?_eq_none_iff.1 fits f (same.subset hf)]
    exact congrArg _ (Json.sortFields_eq ordered same)

end Record

end ResourceProvider
