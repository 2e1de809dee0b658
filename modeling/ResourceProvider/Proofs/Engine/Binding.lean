import ResourceProvider.Engine.Run
import ResourceProvider.Proofs.Engine.Placeholders
/-!
# Values of placeholders

Placeholders without names take the values of a statement one after another (`bind_unnamed`). A value
can be missing, and then the placeholder is null; but a name that is no number stops the statement
(`bind_error`).
-/
namespace ResourceProvider.Engine

namespace Database

/-- Only a name that is no number leaves a statement without its values. -/
theorem bind_error {values next : List Cell} {slots : Slots} {e : Refusal}
    (failed : bind values slots next = .error e) :
    ∃ name, e = .unbound name ∧ some name ∈ slots := by
  induction slots generalizing next with
  | nil => cases failed
  | cons slot slots ih =>
    have later {c : Cell} {next : List Cell}
        (failed : (bind values slots next).map (fun p => (c :: p.1, p.2)) = .error e) :
        ∃ name, e = .unbound name ∧ some name ∈ slots := by
      cases bound : bind values slots next with
      | error e' =>
        rw [bound] at failed
        cases failed
        exact ih bound
      | ok p =>
        rw [bound] at failed
        cases failed
    have weaken : (∃ name, e = .unbound name ∧ some name ∈ slots) →
        ∃ name, e = .unbound name ∧ some name ∈ slot :: slots :=
      fun ⟨name, same, mem⟩ => ⟨name, same, List.mem_cons_of_mem _ mem⟩
    cases slot with
    | none =>
      cases next with
      | nil => cases failed
      | cons c next => exact weaken (later failed)
    | some name =>
      simp only [bind] at failed
      split at failed
      · cases failed
        exact ⟨name, rfl, List.mem_cons_self⟩
      · split at failed
        · cases failed
        · exact weaken (later failed)

/-- Placeholders without names take the values in order. -/
theorem bind_unnamed {slots : Slots} (unnamed : ∀ slot ∈ slots, slot = none)
    (values next : List Cell) : ∃ left, bind values slots next = .ok (next, left) := by
  induction slots generalizing next with
  | nil => exact ⟨next, rfl⟩
  | cons slot slots ih =>
    rw [List.forall_mem_cons] at unnamed
    obtain ⟨rfl, unnamed⟩ := unnamed
    cases next with
    | nil => exact ⟨[], rfl⟩
    | cons c next =>
      obtain ⟨left, bound⟩ := ih unnamed next
      exact ⟨left, by rw [bind, bound]; rfl⟩

end Database

/-! ## Tokens without names -/

/-- The token is no placeholder with a name or a position of its own. -/
def Token.isUnnamed (t : Token) : Bool :=
  match t.kind with
  | .param (some _) => false
  | .named => false
  | _ => true

theorem Token.isUnnamed_of_kind {t : Token}
    (h : t.kind = .operator ∨ t.kind = .word ∨ t.kind = .param none) : t.isUnnamed := by
  rcases h with h | h | h <;> simp [isUnnamed, h]

theorem Token.IsPlain.isUnnamed {t : Token} (h : t.IsPlain) : t.isUnnamed := by
  unfold Token.isUnnamed
  split
  · exact absurd ‹_› (h.1 _)
  · exact absurd ‹_› h.2
  · rfl

theorem Token.slotsAfter_unnamed {t : Token} (h : t.isUnnamed) {slots : Slots}
    (unnamed : ∀ slot ∈ slots, slot = none) : ∀ slot ∈ t.slotsAfter slots, slot = none := by
  unfold Token.slotsAfter
  split
  · intro slot mem
    rcases List.mem_append.1 mem with mem | mem
    · exact unnamed slot mem
    · exact List.mem_singleton.1 mem
  · simp [isUnnamed, ‹t.kind = _›] at h
  · simp [isUnnamed, ‹t.kind = _›] at h
  · exact unnamed

theorem slotsAfter_unnamed {ts : List Token} (h : ∀ t ∈ ts, t.isUnnamed) {slots : Slots}
    (unnamed : ∀ slot ∈ slots, slot = none) : ∀ slot ∈ slotsAfter slots ts, slot = none := by
  induction ts generalizing slots with
  | nil => exact unnamed
  | cons t ts ih =>
    rw [List.forall_mem_cons] at h
    exact ih h.2 (Token.slotsAfter_unnamed h.1 unnamed)

/-- A statement without names takes the values in order. -/
theorem Database.bind_tokens {ts : List Token} (h : ∀ t ∈ ts, t.isUnnamed) (values : List Cell) :
    ∃ left, bind values (slotsAfter [] ts) values = .ok (values, left) :=
  bind_unnamed (slotsAfter_unnamed h (by simp)) values values

/-- The text can be read to its end, its placeholders take the values in order, and no word of it
starts an expression of its own. -/
def isOrdinary (text : String) : Bool :=
  (tokens text).all fun t => t.kind ≠ .bad && t.isUnnamed && !t.startsExpression

theorem isUnnamed_of_isOrdinary {text : String} (h : isOrdinary text) :
    ∀ t ∈ tokens text, t.isUnnamed := by
  intro t mem
  have plain := List.all_eq_true.1 h t mem
  simp only [Bool.and_eq_true] at plain
  exact plain.1.2

/-- What stands in groups is in the conditions, but for what holds them together. -/
theorem Grouped.isUnnamed {tss : List (List Token)} {ts : List Token} (h : Grouped tss ts)
    (unnamed : ∀ us ∈ tss, ∀ t ∈ us, t.isUnnamed) : ∀ t ∈ ts, t.isUnnamed := by
  have operator {t : Token} {op : String} (h : t.isOperator op) : t.isUnnamed :=
    Token.isUnnamed_of_kind (.inl (Token.kind_of_isOperator h))
  induction h with
  | last ts hl hr =>
    simp only [List.forall_mem_cons, List.forall_mem_append]
    exact ⟨operator hl, unnamed _ (by simp), operator hr, by simp⟩
  | cons ts hl hr ha _ ih =>
    rw [List.forall_mem_cons] at unnamed
    simp only [List.forall_mem_cons, List.forall_mem_append]
    exact ⟨operator hl, unnamed.1, operator hr,
      Token.isUnnamed_of_kind (.inr (.inl (Token.kind_of_isWord ha))), ih unnamed.2⟩

/-! ## Runs of statements -/

/-- What every statement of a run keeps is kept by the run, wherever it stops. -/
theorem Database.runAll_keeps {P : Database → Prop} {values : List Cell}
    {parts : List (List Token)}
    (kept : ∀ ts ∈ parts, ∀ s, parseStatement ts = some s →
      ∀ {db : Database} (params : List Cell), P db → P (db.runStatement params s).1)
    {db : Database} (h : P db) (next : List Cell) (last : Nat) :
    P (db.runAll values next last parts).1 := by
  induction parts generalizing db next last with
  | nil => exact h
  | cons ts parts ih =>
    rw [List.forall_mem_cons] at kept
    unfold Database.runAll
    split
    · exact h
    · rename_i s parsed
      split
      · split <;> exact h
      · rename_i params left _
        have first := kept.1 s parsed params h
        split
        · rename_i ran
          rw [ran] at first
          exact first
        · rename_i outcome ran
          rw [ran] at first
          have rest := ih kept.2 first left (reportedChanges s outcome last)
          split
          · rename_i ran'
            rw [ran'] at rest
            exact rest
          · rename_i ran'
            rw [ran'] at rest
            exact rest

end ResourceProvider.Engine
