import ResourceProvider.Proofs.Engine.Numbered
import ResourceProvider.Proofs.Engine.Transaction
/-!
# Foreign keys that are put off

Inside a transaction a statement changes the same rows as outside, and ends in the same way but for
one thing: foreign keys that are deferred are looked at when the transaction ends (`SettlesAlike`).
So a statement that succeeds on its own succeeds in a transaction too, and leaves no more for its
end; and one that fails on its own fails there too, unless it fails for a deferred foreign key.
-/
namespace ResourceProvider.Engine

namespace Database

variable {db db' : Database}

/-! ## Steps -/

theorem Step.mark (b : Bool) (step : Step db db') : Step (db.mark b) (db'.mark b) := by
  cases step with
  | remove found rowid => exact @Step.remove (db.mark b) _ _ found rowid
  | write found old numbers => exact @Step.write (db.mark b) _ _ found old _ numbers
  | add found numbers => exact @Step.add (db.mark b) _ _ found _ numbers
  | count found n => exact @Step.count (db.mark b) _ _ found n
  | recount f => exact .recount (db.mark b) f
  | note n => exact .note (db.mark b) n

theorem Steps.mark (b : Bool) (steps : Steps db db') : Steps (db.mark b) (db'.mark b) :=
  steps.lift _ fun _ _ step => step.mark b

theorem Step.enforces (step : Step db db') : db'.enforces = db.enforces := by
  cases step <;> rfl

/-- Changes of rows leave foreign keys looked after, or not. -/
theorem Steps.enforces (steps : Steps db db') : db'.enforces = db.enforces := by
  induction steps with
  | refl => rfl
  | tail _ step ih => rw [step.enforces, ih]

/-- No foreign key of the database is deferred. -/
def IsImmediate (db : Database) : Prop :=
  ∀ t ∈ db.tables, ∀ k ∈ t.foreignKeys, k.target.deferred = false

theorem Step.isImmediate (step : Step db db') (h : db.IsImmediate) : db'.IsImmediate := by
  -- Each table that a step leaves has the foreign keys of one that was there.
  have set {name : String} {t u : Table} (found : db.table? name = some t)
      (same : u.foreignKeys = t.foreignKeys) : (db.setTable u).IsImmediate := by
    intro v hv
    obtain ⟨w, hw, rfl⟩ := List.mem_map.1 hv
    split
    · rw [same]
      exact h t (List.mem_of_find?_eq_some found)
    · exact h w hw
  cases step with
  | remove found rowid => exact set found rfl
  | write found old numbers => exact set found rfl
  | add found numbers => exact set found rfl
  | count found n => exact set found rfl
  | recount f =>
    intro v hv
    obtain ⟨w, hw, rfl⟩ := List.mem_map.1 hv
    exact h w hw
  | note n => exact h

theorem Steps.isImmediate (steps : Steps db db') (h : db.IsImmediate) : db'.IsImmediate := by
  induction steps with
  | refl => exact h
  | tail _ step ih => exact step.isImmediate ih

/-! ## What refers to nothing -/

theorem breaks_self (db : Database) (deferred : Bool) : db.breaks db deferred = false := by
  simp [breaks]

/-- What two changes do not break, they do not break together. -/
theorem breaks_trans {db'' : Database} {deferred : Bool} (first : db.breaks db' deferred = false)
    (second : db'.breaks db'' deferred = false) (same : db''.enforces = db'.enforces) :
    db.breaks db'' deferred = false := by
  simp only [breaks, same, Bool.and_eq_false_imp, decide_eq_false_iff_not, not_lt] at first second ⊢
  exact fun enforces => (second enforces).trans (first enforces)

theorem IsImmediate.breaks (h : db'.IsImmediate) (db : Database) : db.breaks db' true = false := by
  have none : db'.violations true = 0 := by
    have empty : (db'.tables.flatMap fun t =>
        (t.foreignKeys.filter fun k => k.target.deferred = true).map fun k =>
          (t.rows.filter fun r => !db'.holds k r.cells).length) = [] := by
      rw [List.flatMap_eq_nil_iff]
      intro t ht
      rw [List.map_eq_nil_iff, List.filter_eq_nil_iff]
      exact fun k hk => by simp [h t ht k hk]
    rw [violations, empty]
    rfl
  simp [Database.breaks, none]

/-! ## Statements -/

/-- What is run is refused alike with and without the mark of a transaction, or it changes rows alike,
and only its end looks at the mark. -/
def SettlesAlike (db : Database) (run : Database → Ran) : Prop :=
  (∃ e, ∀ b, run (db.mark b) = (db.mark b, .error e)) ∨
    ∃ ran : Database × Except (Refusal × Bool) Nat, Steps db ran.1 ∧
      ∀ b, run (db.mark b) = settle (db.mark b) (ran.1.mark b, ran.2)

theorem insert_settles_alike (db : Database) (params : List Cell) (policy : ConflictPolicy)
    (name : String) (columns : Option (List String)) (rows : Option (List (List Written))) :
    db.SettlesAlike fun db => db.insert params policy name columns rows := by
  unfold SettlesAlike insert
  simp only [table?_mark, canChange_mark]
  cases found : db.table? name with
  | none => exact .inl ⟨.rejected, fun _ => rfl⟩
  | some t =>
    dsimp only
    cases (if rows.isSome then insertPlaces? t columns else some []) with
    | none => exact .inl ⟨.rejected, fun _ => rfl⟩
    | some places =>
      cases (rows.getD [[]]).mapM (constants? params) with
      | none => exact .inl ⟨.rejected, fun _ => rfl⟩
      | some values =>
        dsimp only
        split
        · exact .inl ⟨.rejected, fun _ => rfl⟩
        · generalize (decide (values.length = 1) && _ : Bool) = alone
          refine .inr ⟨_, addRows_steps (table?_name found) policy alone places values, fun b => ?_⟩
          rw [changeEach_mark fun v => addRow_mark policy alone t.name (withDefaults t places v)]

theorem update_settles_alike (db : Database) (params : List Cell) (policy : ConflictPolicy)
    (name : String) (changes : List (String × Written)) (condition : Option Written) :
    db.SettlesAlike fun db => db.update params policy name changes condition := by
  have spreads (b : Bool) (t : Table) (changed : List Nat) :
      (db.mark b).mayDisplace t policy changed = db.mayDisplace t policy changed := rfl
  have order (b : Bool) (t : Table) (changed : List Nat) (condition : Option (Expr Place)) :
      (db.mark b).rowsToChange t policy changed condition =
        db.rowsToChange t policy changed condition := rfl
  unfold SettlesAlike update
  simp only [table?_mark, canChange_mark, spreads, order]
  cases found : db.table? name with
  | none => exact .inl ⟨.rejected, fun _ => rfl⟩
  | some t =>
    dsimp only
    cases resolveChanges? t changes with
    | none => exact .inl ⟨.rejected, fun _ => rfl⟩
    | some assigned =>
      cases resolveCondition? t condition with
      | none => exact .inl ⟨.rejected, fun _ => rfl⟩
      | some condition =>
        dsimp only
        split
        · exact .inl ⟨.rejected, fun _ => rfl⟩
        · split
          · exact .inl ⟨.rejected, fun _ => rfl⟩
          · rename_i rows _
            refine .inr ⟨_, changeRows_steps (table?_name found) params policy assigned rows,
              fun b => ?_⟩
            rw [changeEach_mark fun r b db => Prod.ext rfl
              (blind_changeRow params policy t.name assigned r.rowid b db)]

theorem delete_settles_alike (db : Database) (params : List Cell) (name : String)
    (condition : Option Written) :
    db.SettlesAlike fun db => db.delete params name condition := by
  unfold SettlesAlike delete removeRows
  simp only [table?_mark, canChange_mark]
  cases db.table? name with
  | none => exact .inl ⟨.rejected, fun _ => rfl⟩
  | some t =>
    dsimp only
    cases resolveCondition? t condition with
    | none => exact .inl ⟨.rejected, fun _ => rfl⟩
    | some condition =>
      dsimp only
      split
      · exact .inl ⟨.rejected, fun _ => rfl⟩
      · split
        · exact .inl ⟨.rejected, fun _ => rfl⟩
        · rename_i rows _
          refine .inr ⟨_, removeEach_steps db t.name rows, fun b => ?_⟩
          rw [changeEach_mark fun r b db => Prod.ext rfl (blind_removeRow t.name r.rowid b db)]

theorem runStatement_settles_alike (db : Database) (params : List Cell) {s : Statement}
    (rows : s.changesRows) : db.SettlesAlike fun db => db.runStatement params s := by
  cases s with
  | insert policy table columns values =>
    exact insert_settles_alike db params policy table columns values
  | update policy table changes condition =>
    exact update_settles_alike db params policy table changes condition
  | delete table condition => exact delete_settles_alike db params table condition
  | _ => cases rows

/-- A text that is one change of rows. -/
theorem run_settles_alike (db : Database) {text : String} (params : List Cell)
    (single : IsSingle text) (changes : ChangesRows text) :
    db.SettlesAlike fun db => db.run text params := by
  obtain ⟨ts, single⟩ := single
  unfold SettlesAlike
  simp only [run_single _ params single]
  cases parsed : parseStatement ts with
  | none => exact .inl ⟨.rejected, fun _ => rfl⟩
  | some s =>
    dsimp only
    cases bind params (slotsAfter [] ts) params with
    | ok cells => exact runStatement_settles_alike db cells.1 (changes ts s single parsed)
    | error e =>
      -- Whether the statement makes sense at all is found out apart from the transaction.
      have apart (b : Bool) : (db.mark b).emptied = db.emptied := rfl
      simp only [refusesUnbound, apart]
      split
      · exact .inl ⟨.rejected, fun _ => rfl⟩
      · exact .inl ⟨e, fun _ => rfl⟩

/-! ## Alone and in a transaction -/

theorem settle_inTransaction {ran : Database × Except (Refusal × Bool) Nat}
    (same : ran.1.inTransaction = db.inTransaction) :
    (settle db ran).1.inTransaction = db.inTransaction := by
  obtain ⟨after, ended⟩ := ran
  cases ended with
  | ok count =>
    simp only [settle]
    split
    · rfl
    · exact same
  | error end_ =>
    obtain ⟨e, keeps⟩ := end_
    simp only [settle]
    split
    · rfl
    · split
      · rfl
      · exact same

namespace SettlesAlike

variable {run : Database → Ran}

/-- Rows change by steps, whether the statement succeeds or not, and the mark stays as it was. -/
theorem steps (h : db.SettlesAlike run) (b : Bool) :
    Steps (db.mark b) (run (db.mark b)).1 ∧ (run (db.mark b)).1.inTransaction = b := by
  rcases h with ⟨e, refused⟩ | ⟨ran, steps, settled⟩
  · rw [refused]
    exact ⟨.refl, rfl⟩
  · rw [settled]
    exact ⟨settle_steps (steps.mark b), settle_inTransaction rfl⟩

/-- What succeeds on its own succeeds in a transaction, and leaves nothing to be found at its end. -/
theorem succeeds (h : db.SettlesAlike run) {outcome : Outcome}
    (alone : run (db.mark false) = (db', .ok outcome)) :
    run (db.mark true) = (db'.mark true, .ok outcome) ∧ db.breaks db' true = false := by
  rcases h with ⟨e, refused⟩ | ⟨⟨after, ended⟩, -, settled⟩
  · rw [refused] at alone
    cases alone
  · rw [settled] at alone ⊢
    obtain ⟨count, same, rfl⟩ := settle_ok alone
    obtain ⟨rfl, rfl⟩ : after.mark false = db' ∧ ended = .ok count := Prod.mk.inj same
    simp only [settle] at alone ⊢
    split at alone
    · cases (Prod.mk.inj alone).2
    · rename_i whole
      simp only [isBroken, Bool.or_eq_true, not_or, Bool.not_eq_true] at whole
      have now : db.breaks after false = false := whole.1
      have later : db.breaks after true = false := whole.2
      refine ⟨if_neg ?_, later⟩
      simp only [isBroken, Bool.or_eq_true, not_or, Bool.not_eq_true]
      exact ⟨now, rfl⟩

/-- What fails on its own fails alike in a transaction, unless it fails for a foreign key that might be
put off there. -/
theorem fails (h : db.SettlesAlike run) {e : Refusal}
    (alone : run (db.mark false) = (db', .error e))
    (now : db.IsImmediate ∨ e ≠ .violation .foreignKey) :
    run (db.mark true) = (db'.mark true, .error e) := by
  rcases h with ⟨e', refused⟩ | ⟨⟨after, ended⟩, steps, settled⟩
  · rw [refused] at alone ⊢
    cases alone
    rfl
  · rw [settled] at alone ⊢
    have marks (b : Bool) : (db.mark b).isBroken (after.mark b) =
        (db.breaks after false || (!b && db.breaks after true)) := rfl
    have nowBroken (immediate : db.IsImmediate)
        (broken : db.breaks after false || (!false && db.breaks after true)) :
        db.breaks after false || (!true && db.breaks after true) := by
      rw [(steps.isImmediate immediate).breaks] at broken
      simpa using broken
    cases ended with
    | ok count =>
      simp only [settle, marks] at alone ⊢
      split at alone
      · rename_i broken
        cases alone
        rw [if_pos (nowBroken (now.resolve_right fun other => other rfl) broken)]
        rfl
      · cases alone
    | error end_ =>
      obtain ⟨e', keeps⟩ := end_
      simp only [settle, marks] at alone ⊢
      split at alone
      · rename_i undone
        cases alone
        rw [if_pos undone]
        rfl
      · rename_i kept
        rw [if_neg kept]
        split at alone
        · rename_i broken
          cases alone
          rw [if_pos (nowBroken (now.resolve_right fun other => other rfl) broken)]
          rfl
        · rename_i whole
          cases alone
          simp only [Bool.or_eq_true, not_or, Bool.not_eq_true] at whole
          rw [if_neg (by simp [whole.1])]
          rfl

end SettlesAlike

end Database

end ResourceProvider.Engine
