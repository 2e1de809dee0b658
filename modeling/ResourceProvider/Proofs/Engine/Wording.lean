import ResourceProvider.Proofs.Engine.Single
import ResourceProvider.Schema.Identifier
/-!
# The wording of updates and removals

The tokens of a statement that updates or removes what meets a list of conditions: the words of the
statement with its table and columns, which are identifiers, then the conditions in groups.
-/
namespace ResourceProvider.Engine

open Schema (isIdentifier isNameStart isNameChar)
open Sql (conjunction isBalanced)

/-! ## Identifiers -/

theorem isWordStart_of_isNameStart {c : Char} (h : isNameStart c) : isWordStart c := by
  simp only [isNameStart, isWordStart, isWordChar, Text.isDigit, Bool.and_eq_true, Bool.or_eq_true,
    Char.le_def, UInt32.le_iff_toNat_le, Bool.not_eq_true', Bool.and_eq_false_iff,
    decide_eq_true_eq, decide_eq_false_iff_not, ne_eq, ← Char.toNat_inj, Char.toNat_val,
    Char.reduceToNat] at *
  omega

theorem isWordChar_of_isNameChar {c : Char} (h : isNameChar c) : isWordChar c := by
  simp only [isNameChar, Bool.or_eq_true] at h
  rcases h with start | digit
  · have word := isWordStart_of_isNameStart start
    simp only [isWordStart, Bool.and_eq_true] at word
    exact word.1.1
  · simp [isWordChar, digit]

/-- An identifier is a word of its own. -/
theorem tokensFrom_identifier {s : String} (hs : isIdentifier s) {g : List Char} (hg : isSlim g)
    {d : Char} (stop : isWordChar d = false) (quote : d ≠ '\'') (fuel : Nat) (rest : List Char) :
    tokensFrom (fuel + 1) (g ++ (s.toList ++ d :: rest)) =
      ⟨.word, g, s⟩ :: tokensFrom fuel (d :: rest) := by
  unfold isIdentifier at hs
  split at hs
  · cases hs
  · rename_i c w text
    rw [Bool.and_eq_true, List.all_eq_true] at hs
    have all : w.all isWordChar :=
      List.all_eq_true.2 fun c mem => isWordChar_of_isNameChar (hs.2 c mem)
    have word := tokensFrom_word hg fuel rest (isWordStart_of_isNameStart hs.1) all stop quote
    rw [text, List.cons_append, word, ← text, String.ofList_toList]

/-- An identifier between blanks. -/
theorem tokensFrom_blank {s : String} (hs : isIdentifier s) (fuel : Nat) (rest : List Char) :
    tokensFrom (fuel + 1) (' ' :: (s.toList ++ ' ' :: rest)) =
      ⟨.word, [' '], s⟩ :: tokensFrom fuel (' ' :: rest) :=
  tokensFrom_identifier hs (g := [' ']) (.inr rfl) (by decide) (by decide) fuel rest

/-! ## Columns that are set -/

/-- Columns that are set to placeholders. -/
def assignments (columns : List String) : String :=
  Text.join ", " (columns.map fun c => c ++ "=?")

theorem toList_assignments_cons (c : String) (cs : List String) :
    (assignments (c :: cs)).toList = c.toList ++ '=' :: '?' ::
      if cs = [] then [] else ", ".toList ++ (assignments cs).toList := by
  cases cs with
  | nil => simp [assignments, Text.join]
  | cons c' cs => simp [assignments, Text.join]

theorem length_assignments (cs : List String) :
    4 * cs.length ≤ (assignments cs).toList.length + 2 := by
  induction cs with
  | nil => simp
  | cons c cs ih =>
    rw [toList_assignments_cons]
    split
    · rename_i last
      simp [last]
    · simp only [List.length_append, List.length_cons] at ih ⊢
      simp
      omega

theorem tokensFrom_assignment {c : String} (hc : isIdentifier c) (tail : List Char)
    (stop : ∀ d ∈ tail.head?, Text.isDigit d = false) (fuel : Nat) :
    tokensFrom (fuel + 3) (' ' :: (c.toList ++ '=' :: '?' :: tail)) =
      ⟨.word, [' '], c⟩ :: ⟨.operator, [], "="⟩ :: ⟨.param none, [], "?"⟩ ::
        tokensFrom fuel tail := by
  have name := tokensFrom_identifier hc (g := [' ']) (.inr rfl) (d := '=') (by decide) (by decide)
    (fuel + 2) ('?' :: tail)
  have pair : String.ofList ['=', '?'] ∉ pairs := by decide
  have equals := tokensFrom_operator (.inl rfl) (by decide) pair (fuel + 1) (g := []) (c := '=')
    (r := '?' :: tail)
  have mark : nextToken ('?' :: tail) = (.param none, 1) := by
    cases tail with
    | nil => rfl
    | cons d tail => simp [nextToken, stop d rfl]
  have gap : gapLength (('?' :: tail).length + 1) ('?' :: tail) = ([] : List Char).length :=
    gapLength_of_not_startsGap (by simp [startsGap, isGap]) _
  have param := tokensFrom_succ (w := []) fuel rfl gap (by simp) mark
  rw [List.singleton_append] at name
  rw [List.nil_append] at equals param
  rw [name, equals, param]
  rfl

theorem tokensFrom_assignments {cs : List String} (nonempty : cs ≠ [])
    (names : ∀ c ∈ cs, isIdentifier c) {tail : List Char}
    (stop : ∀ d ∈ tail.head?, Text.isDigit d = false) (fuel : Nat) :
    ∃ ts, tokensFrom (fuel + 4 * cs.length) (' ' :: ((assignments cs).toList ++ tail)) =
        ts ++ tokensFrom (fuel + 1) tail ∧ Assigns none cs ts := by
  induction cs with
  | nil => exact absurd rfl nonempty
  | cons c cs ih =>
    rw [List.forall_mem_cons] at names
    rw [toList_assignments_cons]
    by_cases last : cs = []
    · subst last
      refine ⟨[⟨.word, [' '], c⟩, ⟨.operator, [], "="⟩, ⟨.param none, [], "?"⟩], ?_,
        .last (n := ⟨.word, [' '], c⟩) rfl rfl rfl⟩
      simp only [List.length_singleton, if_true, List.append_assoc, List.cons_append,
        List.nil_append]
      exact tokensFrom_assignment names.1 tail stop (fuel + 1)
    · obtain ⟨ts, read, assigns⟩ := ih last names.2
      refine ⟨⟨.word, [' '], c⟩ :: ⟨.operator, [], "="⟩ :: ⟨.param none, [], "?"⟩ ::
        ⟨.operator, [], ","⟩ :: ts, ?_,
        .cons (n := ⟨.word, [' '], c⟩) (p := none) rfl rfl rfl rfl assigns⟩
      rw [if_neg last]
      have pair : String.ofList [',', ' '] ∉ pairs := by decide
      have comma := tokensFrom_operator (.inl rfl) (by decide) pair (fuel + 4 * cs.length)
        (g := []) (c := ',') (r := ' ' :: ((assignments cs).toList ++ tail))
      have column := tokensFrom_assignment names.1
        (',' :: ' ' :: ((assignments cs).toList ++ tail))
        (fun d hd => by cases hd; decide) (fuel + 4 * cs.length + 1)
      rw [List.nil_append] at comma
      rw [comma, read] at column
      simpa [Nat.mul_add, ← Nat.add_assoc] using column

/-! ## Statements -/

/-- The first word of a text. -/
theorem tokensFrom_first {s : String} (hs : isIdentifier s) (fuel : Nat) (rest : List Char) :
    tokensFrom (fuel + 1) (s.toList ++ ' ' :: rest) =
      ⟨.word, [], s⟩ :: tokensFrom fuel (' ' :: rest) :=
  tokensFrom_identifier hs (g := []) (.inl rfl) (by decide) (by decide) fuel rest

theorem tokens_eq {s : String} {cs : List Char} (text : s.toList = cs) (fuel k : Nat)
    (enough : fuel + k = cs.length + 1) : tokens s = tokensFrom (fuel + k) cs := by
  rw [tokens, ← String.length_toList, text, enough]

/-- The tokens of a removal by conditions. -/
theorem tokens_delete {table : String} (name : isIdentifier table) {es : List String}
    (nonempty : es ≠ []) (balanced : ∀ e ∈ es, isBalanced e) :
    ∃ ts, tokens ("DELETE FROM " ++ table ++ " WHERE " ++ conjunction es) =
        ⟨.word, [], "DELETE"⟩ :: ⟨.word, [' '], "FROM"⟩ :: ⟨.word, [' '], table⟩ ::
          ⟨.word, [' '], "WHERE"⟩ :: ts ∧
      Listed (es.map tokens) ts := by
  have text : ("DELETE FROM " ++ table ++ " WHERE " ++ conjunction es).toList =
      "DELETE".toList ++ ' ' :: ("FROM".toList ++ ' ' :: (table.toList ++ ' ' ::
        ("WHERE".toList ++ ' ' :: (conjunction es).toList))) := by
    simp [String.toList_append]
  -- What is left of the fuel when the conditions start.
  obtain ⟨fuel, enough, hfuel⟩ : ∃ fuel, (conjunction es).toList.length + 1 < fuel ∧
      fuel = table.toList.length + (conjunction es).toList.length + 16 :=
    ⟨_, by omega, rfl⟩
  refine ⟨tokensFrom fuel ([' '] ++ (conjunction es).toList), ?_,
    tokensFrom_conjunction nonempty balanced (.inr rfl) (by simp; omega)⟩
  rw [tokens_eq text fuel 4 (by simp; omega), tokensFrom_first (by decide),
    tokensFrom_blank (by decide), tokensFrom_blank name, tokensFrom_blank (by decide)]
  rfl

/-- The tokens of an update, whatever follows its columns. -/
theorem tokens_changes {table : String} (name : isIdentifier table) {columns : List String}
    (some_ : columns ≠ []) (names : ∀ c ∈ columns, isIdentifier c) (clause : String)
    (stop : ∀ d ∈ clause.toList.head?, Text.isDigit d = false) :
    ∃ as fuel, clause.toList.length < fuel ∧
      tokens ("UPDATE " ++ table ++ " SET " ++ assignments columns ++ clause) =
        ⟨.word, [], "UPDATE"⟩ :: ⟨.word, [' '], table⟩ :: ⟨.word, [' '], "SET"⟩ ::
          (as ++ tokensFrom fuel clause.toList) ∧
      Assigns none columns as := by
  have text : ("UPDATE " ++ table ++ " SET " ++ assignments columns ++ clause).toList =
      "UPDATE".toList ++ ' ' :: (table.toList ++ ' ' :: ("SET".toList ++ ' ' ::
        ((assignments columns).toList ++ clause.toList))) := by
    simp [String.toList_append]
  have room := length_assignments columns
  -- What is left of the fuel when the columns end.
  obtain ⟨fuel, enough, hfuel⟩ : ∃ fuel, clause.toList.length < fuel + 1 ∧
      fuel + 4 * columns.length + 3 = table.toList.length + (assignments columns).toList.length +
        clause.toList.length + 13 :=
    ⟨table.toList.length + (assignments columns).toList.length + clause.toList.length + 10 -
      4 * columns.length, by omega, by omega⟩
  obtain ⟨as, read, assigns⟩ := tokensFrom_assignments some_ names stop fuel
  refine ⟨as, fuel + 1, enough, ?_, assigns⟩
  rw [tokens_eq text (fuel + 4 * columns.length) 3 (by simp; omega),
    tokensFrom_first (by decide), tokensFrom_blank name, tokensFrom_blank (by decide), read]

/-- The tokens of an update by conditions. -/
theorem tokens_update {table : String} (name : isIdentifier table) {columns : List String}
    (some_ : columns ≠ []) (names : ∀ c ∈ columns, isIdentifier c) {es : List String}
    (nonempty : es ≠ []) (balanced : ∀ e ∈ es, isBalanced e) :
    ∃ as ts, tokens ("UPDATE " ++ table ++ " SET " ++ assignments columns ++ " WHERE " ++
        conjunction es) =
        ⟨.word, [], "UPDATE"⟩ :: ⟨.word, [' '], table⟩ :: ⟨.word, [' '], "SET"⟩ ::
          (as ++ ⟨.word, [' '], "WHERE"⟩ :: ts) ∧
      Assigns none columns as ∧ Listed (es.map tokens) ts := by
  have clause : (" WHERE " ++ conjunction es).toList =
      ' ' :: ("WHERE".toList ++ ' ' :: (conjunction es).toList) := by
    simp [String.toList_append]
  obtain ⟨as, fuel, enough, read, assigns⟩ := tokens_changes name some_ names
    (" WHERE " ++ conjunction es) fun d hd => by
      rw [clause] at hd
      cases hd
      decide
  rw [clause] at read enough
  obtain ⟨fuel, rfl⟩ := Nat.exists_eq_add_of_le' (show 1 ≤ fuel by omega)
  rw [tokensFrom_blank (by decide), ← String.append_assoc] at read
  exact ⟨as, tokensFrom fuel ([' '] ++ (conjunction es).toList), read, assigns,
    tokensFrom_conjunction nonempty balanced (.inr rfl) (by simp at enough ⊢; omega)⟩

end ResourceProvider.Engine
