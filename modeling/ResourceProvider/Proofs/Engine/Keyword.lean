import ResourceProvider.Proofs.Engine.Transaction
/-!
# The first word of a statement

A text that starts with a word starts with the token of that word, and a statement is read in the
form that its first word names. So a text that starts like an insertion, an update or a removal
changes rows, if it says anything at all.
-/
namespace ResourceProvider.Engine

open Text

/-! ## Words at the head of a text -/

theorem isGap_of_isWordStart {c : Char} (h : isWordStart c) : isGap c = false := by
  simp only [isWordStart, isWordChar, isDigit, isGap, Bool.and_eq_true, Bool.or_eq_true,
    Char.le_def, UInt32.le_iff_toNat_le, Bool.or_eq_false_iff, Bool.not_eq_true',
    Bool.and_eq_false_iff,
    decide_eq_true_eq, decide_eq_false_iff_not, ← Char.toNat_inj, Char.toNat_val,
    Char.reduceToNat] at *
  omega

theorem gapLength_of_isWordStart {fuel : Nat} {c : Char} (cs : List Char) (h : isWordStart c) :
    gapLength fuel (c :: cs) = 0 := by
  cases fuel with
  | zero => rfl
  | succ fuel =>
    unfold gapLength
    split
    · rename_i heq
      cases heq
      cases h
    · rename_i heq
      cases heq
      cases h
    · rename_i heq
      cases heq
      rw [isGap_of_isWordStart h]
      rfl
    · rfl

theorem takeWhile_append_stop {α : Type} {p : α → Bool} {xs : List α} {y : α} (ys : List α)
    (all : xs.all p) (stop : p y = false) : (xs ++ y :: ys).takeWhile p = xs := by
  induction xs with
  | nil => simp [stop]
  | cons x xs ih =>
    rw [List.all_cons, Bool.and_eq_true] at all
    simp [all.1, ih all.2]

/-- A word is a token of its own if neither a letter nor a quote follows it. -/
theorem nextToken_word {c d : Char} {w : List Char} (rest : List Char) (start : isWordStart c)
    (all : w.all isWordChar) (stop : isWordChar d = false) (quote : d ≠ '\'') :
    nextToken (c :: (w ++ d :: rest)) = (.word, w.length + 1) := by
  have word : isWordChar c := by
    simp only [isWordStart, Bool.and_eq_true] at start
    exact start.1.1
  have letters : ((c :: (w ++ d :: rest)).takeWhile isWordChar).length = w.length + 1 := by
    rw [List.takeWhile_cons, if_pos word, takeWhile_append_stop rest all stop, List.length_cons]
  have unquoted (r : List Char) : w ++ d :: rest ≠ '\'' :: r := by
    cases w with
    | nil => simp [quote]
    | cons a w =>
      rintro heq
      cases heq
      cases all
  -- No other kind of token starts with such a letter.
  unfold nextToken
  split
  case h_1 => rename_i heq; cases heq
  case h_10 =>
    rename_i heq
    cases heq
    split
    · exact absurd ‹w ++ d :: rest = _› (unquoted _)
    · exact absurd ‹w ++ d :: rest = _› (unquoted _)
    · rw [if_pos start, letters]
  all_goals
    rename_i heq
    cases heq
    cases start

/-- A text that starts with a word starts with its token. -/
theorem tokens_of_word {text : String} {c d : Char} {w rest : List Char}
    (htext : text.toList = c :: (w ++ d :: rest)) (start : isWordStart c)
    (all : w.all isWordChar) (stop : isWordChar d = false) (quote : d ≠ '\'') :
    ∃ more, tokens text = ⟨.word, [], String.ofList (c :: w)⟩ :: more := by
  unfold tokens tokensFrom
  rw [htext]
  simp only [gapLength_of_isWordStart _ start, List.drop_zero, List.take_zero,
    nextToken_word rest start all stop quote, reduceCtorEq, if_false]
  refine ⟨tokensFrom text.length (d :: rest), ?_⟩
  rw [List.take_succ_cons, List.take_left' rfl, List.drop_succ_cons, List.drop_left' rfl]

/-! ## Single statements -/

theorem splitStatements_cons {t : Token} {rest ts : List Token} (word : t.kind = .word)
    (single : splitStatements (t :: rest) = [ts]) : ∃ more, ts = t :: more := by
  have operator : t.isOperator ";" = false := by simp [Token.isOperator, word]
  unfold splitStatements at single
  simp only [operator, Bool.false_eq_true, if_false] at single
  split at single
  · split at single
    · cases single
    · cases single
      exact ⟨_, rfl⟩
  · obtain ⟨rfl, -⟩ := List.cons.inj single
    exact ⟨_, rfl⟩

/-- What a run of tokens says is read in one of the forms, up to its end. -/
theorem parseStatement_form {ts : List Token} {s : Statement}
    (parsed : parseStatement ts = some s) :
    ∃ form ∈ statementForms, ∃ rest, keywords form.1 (numberParams [] ts) = some rest ∧
      form.2 rest = some (s, []) := by
  obtain ⟨form, hform, h⟩ := List.exists_of_findSome?_eq_some parsed
  refine ⟨form, hform, ?_⟩
  split at h
  · cases h
  · rename_i rest hrest
    split at h
    · cases h
      exact ⟨rest, hrest, ‹_›⟩
    · cases h

theorem changesRows_of_parseInsert {ts rest : List Token} {s : Statement}
    (h : parseInsert ts = some (s, rest)) : s.changesRows := by
  simp only [parseInsert, Option.bind_eq_bind, Option.bind_eq_some_iff] at h
  obtain ⟨_, -, _, -, _, -, h⟩ := h
  -- The columns may be named or not; the values follow either way.
  split at h
  all_goals
    obtain ⟨_, -, h⟩ := Option.bind_eq_some_iff.1 h
    split at h
    · cases h
      rfl
    · simp only [Option.bind_eq_some_iff] at h
      obtain ⟨_, -, _, -, h⟩ := h
      cases h
      rfl

theorem changesRows_of_parseUpdate {ts rest : List Token} {s : Statement}
    (h : parseUpdate ts = some (s, rest)) : s.changesRows := by
  simp only [parseUpdate, Option.bind_eq_bind, Option.bind_eq_some_iff] at h
  obtain ⟨_, -, _, -, _, -, _, -, _, -, h⟩ := h
  cases h
  rfl

theorem changesRows_of_parseDelete {ts rest : List Token} {s : Statement}
    (h : parseDelete ts = some (s, rest)) : s.changesRows := by
  simp only [parseDelete, Option.bind_eq_bind, Option.bind_eq_some_iff] at h
  obtain ⟨_, -, _, -, _, -, h⟩ := h
  cases h
  rfl

/-- A statement whose first word names a change of rows is one. -/
theorem changesRows_of_word {t : Token} {rest : List Token} {s : Statement}
    (word : t.kind = .word) (first : lower t.text ∈ ["insert", "update", "delete"])
    (parsed : parseStatement (t :: rest) = some s) : s.changesRows := by
  obtain ⟨form, hform, rest', hrest, hs⟩ := parseStatement_form parsed
  have head : numberParams [] (t :: rest) = t :: numberParams [] rest := by
    simp only [numberParams, Token.numbered, Token.slotsAfter, word]
  have isWord (k : String) : t.isWord k = decide (lower t.text = k) := by
    simp [Token.isWord, word]
  rw [head] at hrest
  simp only [statementForms, List.mem_cons, List.not_mem_nil, or_false] at hform first
  rcases hform with
    rfl | rfl | rfl | rfl | rfl | rfl | rfl | rfl | rfl | rfl | rfl | rfl | rfl
  · rcases first with h | h | h <;> simp [keywords, keyword, isWord, h] at hrest
  · exact changesRows_of_parseInsert hs
  · rcases first with h | h | h <;> simp [keywords, keyword, isWord, h] at hrest
  · exact changesRows_of_parseUpdate hs
  · exact changesRows_of_parseDelete hs
  all_goals rcases first with h | h | h <;> simp [keywords, keyword, isWord, h] at hrest

/-- A text that starts like a change of rows is one, if it is a single statement. -/
theorem changesRows_of_text {text : String} {c : Char} {w r : List Char}
    (htext : text.toList = c :: (w ++ ' ' :: r)) (start : isWordStart c) (all : w.all isWordChar)
    (first : lower (String.ofList (c :: w)) ∈ ["insert", "update", "delete"]) :
    ChangesRows text := by
  intro ts s single parsed
  obtain ⟨more, hmore⟩ := tokens_of_word htext start all (by decide) (by decide)
  rw [hmore] at single
  obtain ⟨more, rfl⟩ := splitStatements_cons rfl single
  exact changesRows_of_word (t := ⟨.word, [], String.ofList (c :: w)⟩) rfl first parsed

end ResourceProvider.Engine
