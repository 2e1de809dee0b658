import ResourceProvider.Proofs.Engine.Groups
/-!
# Placeholders of a statement

The placeholders of a statement are numbered before it is read. What follows a run of tokens is
numbered from where the run ends, and nothing but placeholders changes.
-/
namespace ResourceProvider.Engine

/-! ## One token -/

theorem numberParams_cons (slots : Slots) (t : Token) (ts : List Token) :
    numberParams slots (t :: ts) = t.numbered slots :: numberParams (t.slotsAfter slots) ts := rfl

theorem numberParams_append (slots : Slots) (ts us : List Token) :
    numberParams slots (ts ++ us) =
      numberParams slots ts ++ numberParams (slotsAfter slots ts) us := by
  induction ts generalizing slots with
  | nil => rfl
  | cons t ts ih =>
    rw [List.cons_append, numberParams_cons, numberParams_cons, ih]
    rfl

namespace Token

/-- The token is no placeholder whose position is still open. -/
def IsNumbered (t : Token) : Prop :=
  t.kind ≠ .param none ∧ t.kind ≠ .named

theorem numbered_of_isNumbered {t : Token} (h : t.IsNumbered) (slots : Slots) :
    t.numbered slots = t := by
  unfold numbered
  split
  · exact absurd ‹_› h.1
  · exact absurd ‹_› h.2
  · rfl

/-- The token is no placeholder. -/
def IsPlain (t : Token) : Prop :=
  (∀ position, t.kind ≠ .param position) ∧ t.kind ≠ .named

theorem IsPlain.numbered {t : Token} (h : t.IsPlain) (slots : Slots) : t.numbered slots = t :=
  numbered_of_isNumbered ⟨h.1 none, h.2⟩ slots

theorem IsPlain.slotsAfter {t : Token} (h : t.IsPlain) (slots : Slots) :
    t.slotsAfter slots = slots := by
  unfold Token.slotsAfter
  split
  · exact absurd ‹_› (h.1 _)
  · exact absurd ‹_› (h.1 _)
  · exact absurd ‹_› h.2
  · rfl

theorem isPlain_of_kind {t : Token} (h : t.kind = .operator ∨ t.kind = .word) : t.IsPlain := by
  rcases h with h | h <;> simp [IsPlain, h]

@[simp] theorem isPlain_word (g : List Char) (s : String) : (⟨.word, g, s⟩ : Token).IsPlain :=
  isPlain_of_kind (.inr rfl)

@[simp] theorem isPlain_operator (g : List Char) (s : String) :
    (⟨.operator, g, s⟩ : Token).IsPlain :=
  isPlain_of_kind (.inl rfl)

theorem kind_of_isOperator {t : Token} {op : String} (h : t.isOperator op) :
    t.kind = .operator := by
  simp only [isOperator, Bool.and_eq_true, decide_eq_true_eq] at h
  exact h.1

theorem kind_of_isWord {t : Token} {k : String} (h : t.isWord k) : t.kind = .word := by
  simp only [isWord, Bool.and_eq_true, decide_eq_true_eq] at h
  exact h.1

/-- Numbering looks at neither operators nor words. -/
theorem numberParams_plain {t : Token} (h : t.kind = .operator ∨ t.kind = .word) (slots : Slots)
    (ts : List Token) : numberParams slots (t :: ts) = t :: numberParams slots ts := by
  rw [numberParams_cons, (isPlain_of_kind h).numbered, (isPlain_of_kind h).slotsAfter]

theorem nest_numbered (slots : Slots) (t : Token) (depth : Nat) :
    (t.numbered slots).nest depth = t.nest depth := by
  unfold numbered
  split
  · simp [nest, isOperator, ‹t.kind = _›]
  · simp [nest, isOperator, ‹t.kind = _›]
  · rfl

end Token

theorem nest_numberParams (slots : Slots) (ts : List Token) (depth : Nat) :
    (numberParams slots ts).foldlM Token.nest depth = ts.foldlM Token.nest depth := by
  induction ts generalizing slots depth with
  | nil => rfl
  | cons t ts ih =>
    rw [numberParams_cons, List.foldlM_cons, List.foldlM_cons, Token.nest_numbered]
    exact congrArg _ (funext fun depth => ih _ depth)

/-! ## Groups -/

/-- Runs of tokens, numbered one after another. -/
def numberAll : Slots → List (List Token) → List (List Token)
  | _, [] => []
  | slots, ts :: rest => numberParams slots ts :: numberAll (slotsAfter slots ts) rest

theorem nest_numberAll {tss : List (List Token)}
    (neutral : ∀ ts ∈ tss, ts.foldlM Token.nest 0 = some 0) (slots : Slots) :
    ∀ ts ∈ numberAll slots tss, ts.foldlM Token.nest 0 = some 0 := by
  induction tss generalizing slots with
  | nil => simp [numberAll]
  | cons ts tss ih =>
    rw [List.forall_mem_cons] at neutral
    rw [numberAll, List.forall_mem_cons, nest_numberParams]
    exact ⟨neutral.1, ih neutral.2 _⟩

/-- Groups are numbered one after another. -/
theorem Grouped.numbered {tss : List (List Token)} {ts : List Token} (h : Grouped tss ts)
    (slots : Slots) : Grouped (numberAll slots tss) (numberParams slots ts) := by
  induction h generalizing slots with
  | last ts hl hr =>
    rw [Token.numberParams_plain (.inl (Token.kind_of_isOperator hl)), numberParams_append,
      Token.numberParams_plain (.inl (Token.kind_of_isOperator hr))]
    exact .last _ hl hr
  | cons ts hl hr ha _ ih =>
    rw [Token.numberParams_plain (.inl (Token.kind_of_isOperator hl)), numberParams_append,
      Token.numberParams_plain (.inl (Token.kind_of_isOperator hr)),
      Token.numberParams_plain (.inr (Token.kind_of_isWord ha))]
    exact .cons _ hl hr ha (ih _)

end ResourceProvider.Engine
