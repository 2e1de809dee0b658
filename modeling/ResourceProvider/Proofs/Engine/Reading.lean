import ResourceProvider.Engine.Parser
/-!
# What readers look at

Lists of tokens are `Alike` if they agree up to an end: nothing, or a parenthesis that closes.
Keywords, operators and names are found or missed alike in such lists. `nest` counts the
parentheses of tokens, and `Stops` says that no operator of a level goes on with an operand.
-/
namespace ResourceProvider.Engine

/-! ## Nested parentheses -/

/-- How many parentheses are open after a token; nothing if it closes one that was not opened. -/
def Token.nest (depth : Nat) (t : Token) : Option Nat :=
  if t.isOperator "(" then some (depth + 1)
  else if t.isOperator ")" then
    match depth with
    | 0 => none
    | depth + 1 => some depth
  else some depth

/-- Tokens whose parentheses are closed among themselves. -/
def Neutral (ts : List Token) : Prop :=
  ∀ depth, ts.foldlM Token.nest depth = some depth

theorem Neutral.nil : Neutral [] :=
  fun _ => rfl

theorem Neutral.append {ts us : List Token} (ht : Neutral ts) (hu : Neutral us) :
    Neutral (ts ++ us) := by
  intro depth
  rw [List.foldlM_append, ht depth]
  exact hu depth

theorem Token.not_isOperator_of_isWord {t : Token} {k : String} (h : t.isWord k) (op : String) :
    t.isOperator op = false := by
  simp only [isWord, Bool.and_eq_true, decide_eq_true_eq] at h
  simp [isOperator, h.1]

theorem Token.not_isOperator_of_ne {t : Token} {a b : String} (h : t.isOperator a) (ne : a ≠ b) :
    t.isOperator b = false := by
  simp only [isOperator, Bool.and_eq_true, decide_eq_true_eq] at h
  simp [isOperator, h.2, ne]

theorem Token.not_isOperator_of_kind {t : Token} (h : t.kind ≠ .operator) (op : String) :
    t.isOperator op = false := by
  simp [isOperator, h]

theorem Token.nest_plain {t : Token} (opens : t.isOperator "(" = false)
    (closes : t.isOperator ")" = false) (depth : Nat) : t.nest depth = some depth := by
  simp [nest, opens, closes]

theorem Token.nest_open {t : Token} (h : t.isOperator "(") (depth : Nat) :
    t.nest depth = some (depth + 1) := by
  simp [nest, h]

theorem Token.nest_close {t : Token} (h : t.isOperator ")") (depth : Nat) :
    t.nest (depth + 1) = some depth := by
  simp [nest, h, not_isOperator_of_ne h (b := "(") (by decide)]

theorem Token.nest_close_zero {t : Token} (h : t.isOperator ")") : t.nest 0 = none := by
  simp [nest, h, not_isOperator_of_ne h (b := "(") (by decide)]

theorem Neutral.cons {t : Token} {ts : List Token} (opens : t.isOperator "(" = false)
    (closes : t.isOperator ")" = false) (h : Neutral ts) : Neutral (t :: ts) := by
  intro depth
  rw [List.foldlM_cons, Token.nest_plain opens closes]
  exact h depth

theorem Neutral.word {t : Token} {k : String} {ts : List Token} (h : t.isWord k)
    (hts : Neutral ts) : Neutral (t :: ts) :=
  hts.cons (Token.not_isOperator_of_isWord h _) (Token.not_isOperator_of_isWord h _)

theorem Neutral.operator {t : Token} {op : String} {ts : List Token} (h : t.isOperator op)
    (opens : op ≠ "(") (closes : op ≠ ")") (hts : Neutral ts) : Neutral (t :: ts) :=
  hts.cons (Token.not_isOperator_of_ne h opens) (Token.not_isOperator_of_ne h closes)

theorem Neutral.kind {t : Token} {ts : List Token} (h : t.kind ≠ .operator)
    (hts : Neutral ts) : Neutral (t :: ts) :=
  hts.cons (Token.not_isOperator_of_kind h _) (Token.not_isOperator_of_kind h _)

/-- Tokens that close one parenthesis more than they open. -/
def Closing (ts : List Token) : Prop :=
  ∀ depth, ts.foldlM Token.nest (depth + 1) = some depth

theorem Closing.last {r : Token} (h : r.isOperator ")") : Closing [r] := by
  intro depth
  rw [List.foldlM_cons, Token.nest_close h]
  rfl

theorem Neutral.closing {ts us : List Token} (ht : Neutral ts) (hu : Closing us) :
    Closing (ts ++ us) := by
  intro depth
  rw [List.foldlM_append, ht (depth + 1)]
  exact hu depth

theorem Closing.open {l : Token} {ts : List Token} (hl : l.isOperator "(") (h : Closing ts) :
    Neutral (l :: ts) := by
  intro depth
  rw [List.foldlM_cons, Token.nest_open hl]
  exact h depth

/-! ## Lists that agree up to an end -/

/-- Nothing stands there, or a parenthesis closes. -/
def Ends (ts : List Token) : Prop :=
  ∀ t ∈ ts.head?, t.isOperator ")"

/-- Lists of tokens that agree up to an end of each. -/
inductive Alike : List Token → List Token → Prop where
  | ends {ts us : List Token} : Ends ts → Ends us → Alike ts us
  | cons (t : Token) {ts us : List Token} : Alike ts us → Alike (t :: ts) (t :: us)

theorem Alike.append {ts us : List Token} (h : Alike ts us) (vs : List Token) :
    Alike (vs ++ ts) (vs ++ us) := by
  induction vs with
  | nil => exact h
  | cons v vs ih => exact ih.cons v

theorem Alike.refl (ts : List Token) : Alike ts ts := by
  induction ts with
  | nil => exact .ends (by simp [Ends]) (by simp [Ends])
  | cons t ts ih => exact ih.cons t

theorem exists_cons_append {t : Token} {ts us rest : List Token} (h : t :: ts = us ++ rest)
    (nonempty : 0 < us.length) : ∃ us', us = t :: us' ∧ ts = us' ++ rest := by
  cases us with
  | nil => cases nonempty
  | cons u us =>
    obtain ⟨rfl, rfl⟩ := List.cons.inj h
    exact ⟨us, rfl, rfl⟩

/-! ## Keywords and operators -/

theorem keyword_eq_some {k : String} {ts rest : List Token} (h : keyword k ts = some rest) :
    ∃ t, ts = t :: rest ∧ t.isWord k := by
  cases ts with
  | nil => cases h
  | cons t ts =>
    simp only [keyword, Option.ite_none_right_eq_some, Option.some.injEq] at h
    exact ⟨t, by rw [h.2], h.1⟩

theorem keyword_cons {k : String} {t : Token} (h : t.isWord k) (rest : List Token) :
    keyword k (t :: rest) = some rest := by
  simp [keyword, h]

theorem operator_eq_some {op : String} {ts rest : List Token} (h : operator op ts = some rest) :
    ∃ t, ts = t :: rest ∧ t.isOperator op := by
  cases ts with
  | nil => cases h
  | cons t ts =>
    simp only [operator, Option.ite_none_right_eq_some, Option.some.injEq] at h
    exact ⟨t, by rw [h.2], h.1⟩

theorem operator_cons {op : String} {t : Token} (h : t.isOperator op) (rest : List Token) :
    operator op (t :: rest) = some rest := by
  simp [operator, h]

theorem keyword_other {a b : String} {t : Token} (h : t.isWord a) (ne : a ≠ b)
    (rest : List Token) : keyword b (t :: rest) = none := by
  simp only [Token.isWord, Bool.and_eq_true, decide_eq_true_eq] at h
  simp [keyword, Token.isWord, h.2, ne]

theorem operator_other {a b : String} {t : Token} (h : t.isOperator a) (ne : a ≠ b)
    (rest : List Token) : operator b (t :: rest) = none := by
  simp [operator, Token.not_isOperator_of_ne h ne]

/-- Two operators are looked for in what is known. -/
theorem operators_append {a b : String} {ts : List Token} (long : 2 ≤ ts.length)
    {rest : List Token} (absent : (operator a (ts ++ rest)).bind (operator b) = none)
    (rest' : List Token) : (operator a (ts ++ rest')).bind (operator b) = none := by
  match ts, long with
  | t :: u :: ts, _ =>
    cases ht : t.isOperator a with
    | false => simp [operator, ht]
    | true =>
      simp only [List.cons_append, operator_cons ht, Option.bind_some] at absent ⊢
      simpa [operator] using absent

theorem keyword_ends {ts : List Token} (h : Ends ts) (k : String) : keyword k ts = none := by
  cases ts with
  | nil => rfl
  | cons t ts =>
    have closes : t.isOperator ")" := h t rfl
    simp only [Token.isOperator, Bool.and_eq_true, decide_eq_true_eq] at closes
    simp [keyword, Token.isWord, closes.1]

theorem operator_ends {ts : List Token} (h : Ends ts) {op : String} (ne : op ≠ ")") :
    operator op ts = none := by
  cases ts with
  | nil => rfl
  | cons t ts => simp [operator, Token.not_isOperator_of_ne (h t rfl) ne.symm]

theorem Alike.keyword_eq_none {ts us : List Token} (h : Alike ts us) {k : String}
    (absent : keyword k ts = none) : keyword k us = none := by
  cases h with
  | ends _ hu => exact keyword_ends hu k
  | cons t h => simpa [keyword] using absent

theorem Alike.operator_eq_none {ts us : List Token} (h : Alike ts us) {op : String} (ne : op ≠ ")")
    (absent : operator op ts = none) : operator op us = none := by
  cases h with
  | ends _ hu => exact operator_ends hu ne
  | cons t h => simpa [operator] using absent

theorem keywords_eq_some {ks : List String} {ts rest : List Token}
    (h : keywords ks ts = some rest) :
    ∃ us, ts = us ++ rest ∧ Neutral us ∧ ∀ rest', keywords ks (us ++ rest') = some rest' := by
  induction ks generalizing ts with
  | nil =>
    cases h
    exact ⟨[], rfl, Neutral.nil, fun _ => rfl⟩
  | cons k ks ih =>
    obtain ⟨ts', first, more⟩ := Option.bind_eq_some_iff.1 h
    obtain ⟨t, rfl, ht⟩ := keyword_eq_some first
    obtain ⟨us, rfl, neutral, again⟩ := ih more
    refine ⟨t :: us, rfl, neutral.word ht, fun rest' => ?_⟩
    rw [List.cons_append, keywords, keyword_cons ht]
    exact again rest'

theorem Alike.keywords_eq_none {ts us : List Token} (h : Alike ts us) {ks : List String}
    (absent : keywords ks ts = none) : keywords ks us = none := by
  induction ks generalizing ts us with
  | nil => cases absent
  | cons k ks ih =>
    rw [keywords] at absent ⊢
    cases h with
    | ends _ hu => rw [keyword_ends hu]; rfl
    | cons t h =>
      cases ht : t.isWord k with
      | false => simp [keyword, ht]
      | true =>
        rw [keyword_cons ht] at absent ⊢
        exact ih h absent

theorem optionalKeywords_local (ks : List String) (ts : List Token) :
    ∃ us, ts = us ++ (optionalKeywords ks ts).2 ∧ Neutral us ∧
      ∀ rest', Alike (optionalKeywords ks ts).2 rest' →
        optionalKeywords ks (us ++ rest') = ((optionalKeywords ks ts).1, rest') := by
  cases h : keywords ks ts with
  | some rest =>
    obtain ⟨us, rfl, neutral, again⟩ := keywords_eq_some h
    simp only [optionalKeywords, h]
    exact ⟨us, rfl, neutral, fun rest' _ => by rw [again]⟩
  | none =>
    simp only [optionalKeywords, h]
    refine ⟨[], rfl, Neutral.nil, fun rest' alike => ?_⟩
    rw [List.nil_append, alike.keywords_eq_none h]

theorem parseName_eq_some {ts rest : List Token} {n : String}
    (h : parseName ts = some (n, rest)) :
    ∃ t, ts = t :: rest ∧ t.name? = some n ∧ t.kind ≠ .operator := by
  cases ts with
  | nil => cases h
  | cons t ts =>
    obtain ⟨_, hn, heq⟩ := Option.map_eq_some_iff.1 h
    cases heq
    refine ⟨t, rfl, hn, fun kind => ?_⟩
    rw [Token.name?, kind] at hn
    cases hn

/-! ## Operators that end an operand -/

/-- The operators of a level that a token stands for. -/
def joins (level : Nat) (t : Token) : Option (Written → Written → Written) :=
  (symbolOf level t).or (wordOf level t)

theorem joins_parenthesis {t : Token} {op : String} (h : t.isOperator op)
    (parenthesis : op = "(" ∨ op = ")") (level : Nat) : joins level t = none := by
  simp only [Token.isOperator, Bool.and_eq_true, decide_eq_true_eq] at h
  have word : wordOf level t = none := by
    unfold wordOf
    split <;> simp [Token.isWord, h.1]
  have symbol : symbolOf level t = none := by
    unfold symbolOf
    rw [if_neg (by simp [h.1])]
    split <;> first | rfl | (rcases parenthesis with rfl | rfl <;> simp_all)
  simp [joins, word, symbol]

/-- A test that is absent stays absent, whatever else follows. -/
theorem parseSuffix_alike {fuel fuel' : Nat} {a a' : Written} {ts us : List Token}
    (alike : Alike ts us) (absent : parseSuffix (fuel + 1) a ts = none) :
    parseSuffix (fuel' + 1) a' us = none := by
  simp only [parseSuffix] at absent
  split at absent
  case h_4 isnull notnull is =>
    -- After a negation some test must follow, so an absent test has none in front.
    have positive : keywords ["not"] ts = none := by
      cases h : keywords ["not"] ts with
      | none => rfl
      | some r =>
        simp only [optionalKeywords, h, if_true] at absent
        split at absent
        case h_2 =>
          split at absent
          · cases absent
          · split at absent <;> cases absent
        all_goals cases absent
    simp only [optionalKeywords, positive, Bool.false_eq_true, if_false] at absent
    simp only [parseSuffix, alike.keyword_eq_none isnull, alike.keyword_eq_none notnull,
      alike.keyword_eq_none is, optionalKeywords, alike.keywords_eq_none positive,
      Bool.false_eq_true, if_false]
    split at absent
    case h_1 null =>
      obtain ⟨t, rfl, ht⟩ := keyword_eq_some null
      cases alike with
      | ends closes _ => rw [keyword_ends closes] at null; cases null
      | cons t alike => simp [keyword_cons ht]
    case h_2 =>
      split at absent
      · cases absent
      · split at absent <;> cases absent
    case h_5 null isIn between like =>
      simp [alike.keyword_eq_none null, alike.keyword_eq_none isIn,
        alike.keyword_eq_none between, alike.keyword_eq_none like]
    all_goals cases absent
  all_goals cases absent

/-- No operator of the level goes on with an operand. -/
structure Stops (level : Nat) (ts : List Token) : Prop where
  operator : ∀ t ∈ ts.head?, joins level t = none
  suffix : level = 3 → ∀ fuel a, parseSuffix (fuel + 1) a ts = none

theorem Stops.alike {level : Nat} {ts us : List Token} (h : Stops level ts)
    (alike : Alike ts us) : Stops level us where
  operator := by
    intro u hu
    cases alike with
    | ends _ ends => exact joins_parenthesis (ends u hu) (.inr rfl) level
    | cons t alike => exact h.operator u hu
  suffix := fun three fuel a => parseSuffix_alike alike (h.suffix three fuel a)

theorem parseMore_stops {level : Nat} {ts : List Token} (h : Stops level ts) (fuel : Nat)
    (a : Written) : parseMore (fuel + 2) level a ts = some (a, ts) := by
  cases ts with
  | nil => rfl
  | cons t ts =>
    have operator : (symbolOf level t).or (wordOf level t) = none := h.operator t rfl
    simp only [parseMore, operator]
    split
    · rfl
    · rename_i three
      rw [h.suffix (by simpa using three)]

end ResourceProvider.Engine
