import ResourceProvider.Proofs.Engine.Locality
/-!
# Conditions in parentheses

A list of conditions in parentheses with `and` between them says that all of them hold, each as it
is read alone. An operand is read alike at every level if no operator of the levels goes on with it.
-/
namespace ResourceProvider.Engine

/-! ## What ends an operand -/

/-- Nothing at these levels goes on with an operand. -/
structure Halts (low : Nat) (ts : List Token) : Prop where
  stops : ∀ level, low ≤ level → Stops level ts
  collate : keyword "collate" ts = none

/-- The words that a test starts with. -/
def suffixWords : List String :=
  ["isnull", "notnull", "is", "not", "null", "in", "between", "like"]

theorem parseSuffix_eq_none {ts : List Token} (h : ∀ k ∈ suffixWords, keyword k ts = none)
    (fuel : Nat) (a : Written) : parseSuffix (fuel + 1) a ts = none := by
  simp only [suffixWords, List.forall_mem_cons] at h
  obtain ⟨isnull, notnull, is, not, null, isIn, between, like, -⟩ := h
  simp [parseSuffix, optionalKeywords, keywords, isnull, notnull, is, not, null, isIn, between,
    like]

theorem Halts.nil : Halts 0 [] where
  stops := fun _ _ => ⟨by simp, fun _ => parseSuffix_eq_none fun _ _ => rfl⟩
  collate := rfl

theorem Halts.mono {low high : Nat} {ts : List Token} (h : Halts low ts) (le : low ≤ high) :
    Halts high ts :=
  ⟨fun level above => h.stops level (Nat.le_trans le above), h.collate⟩

theorem Halts.word {low : Nat} {t : Token} {k : String} (h : t.isWord k)
    (other : k ∉ "collate" :: suffixWords) (or : low = 0 → k ≠ "or") (and : low ≤ 1 → k ≠ "and")
    (ts : List Token) : Halts low (t :: ts) where
  stops := fun level above => by
    have text : t.kind = .word ∧ Text.lower t.text = k := by simpa [Token.isWord] using h
    refine ⟨?_, fun _ => parseSuffix_eq_none fun k' hk => keyword_other h ?_ ts⟩
    · rintro u ⟨⟩
      have symbol : symbolOf level t = none := by simp [symbolOf, text.1]
      have word : wordOf level t = none := by
        unfold wordOf
        split
        · simp [Token.isWord, text, or (by omega)]
        · simp [Token.isWord, text, and (by omega)]
        · rfl
      simp [joins, symbol, word]
    · rintro rfl
      exact other (List.mem_cons_of_mem _ hk)
  collate := keyword_other h (by rintro rfl; exact other (List.mem_cons_self ..)) ts

/-- An item of a list ends before a comma, and the last one before the parenthesis. -/
theorem Halts.separator {t : Token} {op : String} (h : t.isOperator op) (ends : op ∈ [",", ")"])
    (ts : List Token) : Halts 0 (t :: ts) := by
  have text : t.kind = .operator ∧ t.text = op := by simpa [Token.isOperator] using h
  have absent (k : String) : keyword k (t :: ts) = none := by
    simp [keyword, Token.isWord, text.1]
  refine ⟨fun level _ => ⟨?_, fun _ => parseSuffix_eq_none fun k _ => absent k⟩, absent _⟩
  rintro u ⟨⟩
  have symbol : symbolOf level t = none := by
    have either : op = "," ∨ op = ")" := by simpa using ends
    unfold symbolOf
    rw [if_neg (by simp [text.1])]
    rcases either with rfl | rfl <;> split <;> first | rfl | simp_all
  have word : wordOf level t = none := by
    unfold wordOf
    split <;> simp [Token.isWord, text.1]
  simp [joins, symbol, word]

/-! ## Operands -/

/-- The token starts an operand without a sign and without a negation. -/
structure StartsOperand (t : Token) : Prop where
  minus : t.isOperator "-" = false
  plus : t.isOperator "+" = false
  not : t.isWord "not" = false

theorem parseExpr_top {fuel : Nat} {t : Token} {ts : List Token} (starts : StartsOperand t) :
    parseExpr (fuel + 1) 8 (t :: ts) =
      (parsePrimary fuel (t :: ts)).bind fun p => parseCollate fuel p.1 p.2 := by
  simp only [parseExpr, starts.minus, starts.plus, Nat.reduceEqDiff, Nat.lt_irrefl, if_false,
    Bool.false_eq_true]
  cases parsePrimary fuel (t :: ts) <;> rfl

theorem parseExpr_level {fuel level : Nat} {ts : List Token} (two : level ≠ 2)
    (below : level < 8) : parseExpr (fuel + 1) level ts =
      (parseExpr fuel (level + 1) ts).bind fun p => parseMore fuel level p.1 p.2 := by
  simp only [parseExpr, two, below, if_false, if_true]
  cases parseExpr fuel (level + 1) ts <;> rfl

theorem parseExpr_not {fuel : Nat} {t : Token} {ts : List Token} (h : t.isWord "not" = false) :
    parseExpr (fuel + 1) 2 (t :: ts) = parseExpr fuel 3 (t :: ts) := by
  simp only [parseExpr, keyword, h, if_true, Bool.false_eq_true, if_false]

/-- An operand is read alike at every level that nothing goes on with. -/
theorem parseExpr_operand {n : Nat} {t : Token} {ts : List Token} (starts : StartsOperand t)
    (k : Nat) (hk : k ≤ 8) (halts : ∀ a rest, parsePrimary (n + 1) (t :: ts) = some (a, rest) →
      Halts (8 - k) rest) :
    parseExpr (n + k + 2) (8 - k) (t :: ts) = parsePrimary (n + 1) (t :: ts) := by
  induction k with
  | zero =>
    rw [show n + 0 + 2 = n + 1 + 1 from rfl, parseExpr_top starts]
    cases h : parsePrimary (n + 1) (t :: ts) with
    | none => rfl
    | some p => simp [parseCollate, (halts _ _ h).collate]
  | succ k ih =>
    have below := ih (by omega) fun a rest h => (halts a rest h).mono (by omega)
    obtain ⟨level, hlevel, rfl⟩ : ∃ level, level < 8 ∧ k = 7 - level := ⟨7 - k, by omega, by omega⟩
    rw [show 8 - (7 - level) = level + 1 by omega] at below
    rw [show 8 - (7 - level + 1) = level by omega] at halts ⊢
    rw [show n + (7 - level + 1) + 2 = (n + (7 - level) + 2) + 1 by omega]
    by_cases two : level = 2
    · subst two
      rw [parseExpr_not starts.not]
      exact below
    · rw [parseExpr_level two hlevel, below]
      cases h : parsePrimary (n + 1) (t :: ts) with
      | none => rfl
      | some p => exact parseMore_stops ((halts _ _ h).stops level (Nat.le_refl _)) _ _

/-- A group in parentheses is an operand. -/
theorem parseExpr_operand_group {fuel : Nat} {l r : Token} {ts more rest : List Token}
    {a : Written} (hl : l.isOperator "(") (hr : r.isOperator ")")
    (neutral : ts.foldlM Token.nest 0 = some 0) (halts : Halts 2 more)
    (enough : 20 * (l :: (ts ++ r :: more)).length + 18 ≤ fuel)
    (read : parseExpr fuel 2 (l :: (ts ++ r :: more)) = some (a, rest)) :
    rest = more ∧ parseValue ts = some (a, []) := by
  obtain ⟨fuel, rfl⟩ := Nat.exists_eq_add_of_le' (show 9 ≤ fuel by omega)
  simp only [List.length_cons] at enough
  have text : l.kind = .operator ∧ l.text = "(" := by simpa [Token.isOperator] using hl
  have inside {a : Written} {rest : List Token}
      (h : parsePrimary (fuel + 1 + 1) (l :: (ts ++ r :: more)) = some (a, rest)) :
      rest = more ∧ parseValue ts = some (a, []) := by
    simp only [parsePrimary, text] at h
    split at h
    case isFalse => cases h
    split at h
    · cases h
    · rename_i read
      obtain ⟨_, closed, heq⟩ := Option.map_eq_some_iff.1 h
      cases heq
      exact parseExpr_group neutral hr (by omega) read closed
  have starts : StartsOperand l :=
    ⟨Token.not_isOperator_of_ne hl (by decide), Token.not_isOperator_of_ne hl (by decide),
      by simp [Token.isWord, text.1]⟩
  refine inside ?_
  rw [← read]
  refine (parseExpr_operand (n := fuel + 1) starts 6 (by decide) fun a rest h => ?_).symm
  rw [(inside h).1]
  exact halts

/-! ## Groups -/

/-- Groups in parentheses with `and` between them. -/
inductive Grouped : List (List Token) → List Token → Prop where
  | last {l r : Token} (ts : List Token) : l.isOperator "(" → r.isOperator ")" →
      Grouped [ts] (l :: (ts ++ [r]))
  | cons {l r a : Token} (ts : List Token) {tss : List (List Token)} {us : List Token} :
      l.isOperator "(" → r.isOperator ")" → a.isWord "and" → Grouped tss us →
      Grouped (ts :: tss) (l :: (ts ++ r :: a :: us))

/-- What each of the groups says alone. -/
def ReadAlone (tss : List (List Token)) (es : List Written) : Prop :=
  tss.map parseValue = es.map fun e => some (e, [])

theorem Halts.and {t : Token} (h : t.isWord "and") (ts : List Token) : Halts 2 (t :: ts) :=
  .word h (by decide) (by simp) (by simp) ts

theorem parseMore_grouped {tss : List (List Token)} {ts : List Token} (grouped : Grouped tss ts)
    (neutral : ∀ ts ∈ tss, ts.foldlM Token.nest 0 = some 0) {fuel : Nat} {a : Token}
    (ha : a.isWord "and") (enough : 20 * (a :: ts).length + 2 ≤ fuel) {e e' : Written}
    {rest : List Token} (read : parseMore fuel 1 e (a :: ts) = some (e', rest)) :
    rest = [] ∧ ∃ es, ReadAlone tss es ∧ e' = es.foldl both e := by
  have join (a : Token) (ha : a.isWord "and") : (symbolOf 1 a).or (wordOf 1 a) = some both := by
    have kind : a.kind = .word := by
      simp only [Token.isWord, Bool.and_eq_true, decide_eq_true_eq] at ha
      exact ha.1
    simp [symbolOf, kind, wordOf, ha]
  -- Each group is the operand of one `and`, and the same loop reads what follows it.
  induction grouped generalizing fuel a e with
  | last ts hl hr =>
    simp only [List.length_cons] at enough
    obtain ⟨fuel, rfl⟩ := Nat.exists_eq_add_of_le' (show 1 ≤ fuel by omega)
    simp only [parseMore, join a ha] at read
    split at read
    · cases read
    · rename_i b rest₁ hb
      obtain ⟨rfl, alone⟩ := parseExpr_operand_group hl hr (neutral _ (by simp))
        (Halts.nil.mono (by decide)) (by simp at enough ⊢; omega) hb
      obtain ⟨fuel, rfl⟩ := Nat.exists_eq_add_of_le' (show 1 ≤ fuel by omega)
      cases read
      exact ⟨rfl, [b], by simp [ReadAlone, alone], rfl⟩
  | cons ts hl hr ha' grouped ih =>
    simp only [List.length_cons, List.length_append] at enough
    obtain ⟨fuel, rfl⟩ := Nat.exists_eq_add_of_le' (show 1 ≤ fuel by omega)
    simp only [parseMore, join a ha] at read
    split at read
    · cases read
    · rename_i b rest₁ hb
      obtain ⟨rfl, alone⟩ := parseExpr_operand_group hl hr (neutral _ (by simp))
        (.and ha' _) (by simp; omega) hb
      obtain ⟨rfl, es, hes, rfl⟩ := ih (fun ts hts => neutral ts (List.mem_cons_of_mem _ hts)) ha'
        (by simp; omega) read
      exact ⟨rfl, b :: es, by rw [ReadAlone, List.map_cons, alone, hes]; rfl, rfl⟩

/-- Groups with `and` between them say that all of them hold, each as it is read alone. -/
theorem parseValue_grouped {tss : List (List Token)} {ts : List Token} (grouped : Grouped tss ts)
    (neutral : ∀ ts ∈ tss, ts.foldlM Token.nest 0 = some 0) {e : Written}
    (read : parseValue ts = some (e, [])) :
    ∃ a es, ReadAlone tss (a :: es) ∧ e = es.foldl both a := by
  rw [parseValue, parseExpr_level (by decide) (by decide)] at read
  obtain ⟨⟨b, rest⟩, hb, read⟩ := Option.bind_eq_some_iff.1 read
  rw [parseExpr_level (by decide) (by decide)] at hb
  obtain ⟨⟨a, rest₁⟩, ha, more⟩ := Option.bind_eq_some_iff.1 hb
  obtain ⟨rfl, es, hes, rfl⟩ : rest = [] ∧ ∃ es, ReadAlone tss (a :: es) ∧ b = es.foldl both a := by
    cases grouped with
    | last ts hl hr =>
      obtain ⟨rfl, alone⟩ := parseExpr_operand_group hl hr (neutral _ (by simp))
        (Halts.nil.mono (by decide)) (Nat.le_refl _) ha
      cases more
      exact ⟨rfl, [], by simp [ReadAlone, alone], rfl⟩
    | cons ts hl hr hw grouped =>
      obtain ⟨rfl, alone⟩ := parseExpr_operand_group hl hr (neutral _ (by simp)) (.and hw _)
        (Nat.le_refl _) ha
      obtain ⟨rfl, es, hes, rfl⟩ := parseMore_grouped grouped
        (fun ts hts => neutral ts (List.mem_cons_of_mem _ hts)) hw
        (by simp only [List.length_cons, List.length_append]; omega) more
      exact ⟨rfl, es, by rw [ReadAlone, List.map_cons, alone, hes]; rfl, rfl⟩
  cases read
  exact ⟨a, es, hes, rfl⟩

end ResourceProvider.Engine
