import ResourceProvider.Proofs.Engine.Reading
/-!
# What an expression takes

A reader of expressions takes tokens whose parentheses are balanced, and what it takes does not
depend on what comes after the parenthesis that closes around it. So an expression in parentheses
is read as it is read alone. `Local` says this of every reader with a given fuel, and
`isLocal` proves it by induction on the fuel, one reader after another.
-/
namespace ResourceProvider.Engine

/-! ## Readers that do not look further -/

/-- A reader took tokens of a shape, and takes them again from any list that starts with them and
goes on alike. The fuel must last for the whole list. -/
structure Takes {α : Type} (read : Nat → Parse α) (shape : List Token → Prop) (cost least : Nat)
    (us rest : List Token) (a : α) : Prop where
  shape : shape us
  least : least ≤ us.length
  again : ∀ {r n}, Alike rest r → 20 * (us ++ r).length + cost ≤ n →
    read n (us ++ r) = some (a, r)

theorem Takes.of_succ {α : Type} {read : Nat → Parse α} {shape : List Token → Prop}
    {cost least : Nat} {us rest : List Token} {a : α} (positive : 0 < cost) (hs : shape us)
    (hl : least ≤ us.length)
    (again : ∀ rest' fuel, Alike rest rest' → 20 * (us ++ rest').length + cost ≤ fuel + 1 →
      read (fuel + 1) (us ++ rest') = some (a, rest')) :
    Takes read shape cost least us rest a where
  shape := hs
  least := hl
  again {r n} alike enough := by
    cases n with
    | zero => omega
    | succ n => exact again r n alike enough

/-- Whatever the reader takes with this fuel, it takes again. -/
def IsLocal {α : Type} (read : Nat → Parse α) (shape : List Token → Prop) (cost least : Nat)
    (fuel : Nat) : Prop :=
  ∀ {s a r}, 20 * s.length + cost ≤ fuel → read fuel s = some (a, r) →
    ∃ us, s = us ++ r ∧ Takes read shape cost least us r a

/-- Every reader of expressions is local with this fuel. -/
structure Local (fuel : Nat) : Prop where
  expr {level : Nat} : level ≤ 8 → IsLocal (parseExpr · level) Neutral (20 - level) 1 fuel
  more {level : Nat} {a : Written} : level < 8 →
    IsLocal (parseMore · level a) Neutral 2 0 fuel
  suffix {a : Written} :
    IsLocal (fun fuel ts => (parseSuffix fuel a ts).join) Neutral 1 1 fuel
  collate {a : Written} : IsLocal (parseCollate · a) Neutral 1 0 fuel
  args : IsLocal parseArgs Neutral 2 3 fuel
  argsFrom : IsLocal parseArgsFrom Closing 21 2 fuel
  primary : IsLocal parsePrimary Neutral 1 1 fuel

namespace Local

variable {fuel : Nat}

theorem collate_succ (h : Local fuel) (a : Written) :
    IsLocal (parseCollate · a) Neutral 1 0 (fuel + 1) := by
  intro ts b rest enough read
  simp only [parseCollate] at read
  split at read
  · rename_i absent
    cases read
    refine ⟨[], rfl, .of_succ (by decide) Neutral.nil (by simp) fun rest' fuel' alike _ => ?_⟩
    simp [parseCollate, alike.keyword_eq_none absent]
  · rename_i named hk
    obtain ⟨t, rfl, ht⟩ := keyword_eq_some hk
    split at read
    · cases read
    · rename_i name rest₁ hn
      obtain ⟨u, rfl, hu, kind⟩ := parseName_eq_some hn
      split at read
      · cases read
      · rename_i c hc
        obtain ⟨us, rfl, took⟩ := h.collate (by simp at enough; omega) read
        refine ⟨t :: u :: us, rfl, .of_succ (by decide) ((took.shape.kind kind).word ht)
          (by simp) fun rest' fuel' alike enough => ?_⟩
        simp only [List.cons_append, List.length_cons] at enough ⊢
        simp only [parseCollate, keyword_cons ht, parseName, hu, Option.map_some, hc]
        exact took.again alike (by omega)

theorem argsFrom_succ (h : Local fuel) : IsLocal parseArgsFrom Closing 21 2 (fuel + 1) := by
  intro ts as rest enough read
  simp only [parseArgsFrom] at read
  split at read
  · cases read
  · rename_i a rest₁ ha
    obtain ⟨us, rfl, first⟩ := h.expr (by decide) (by omega) ha
    have := first.least
    simp only [List.length_append] at enough
    -- A comma leads to the next argument, and a parenthesis ends the list.
    split at read
    · rename_i rest₂ comma
      obtain ⟨⟨as, _⟩, has, heq⟩ := Option.map_eq_some_iff.1 read
      cases heq
      obtain ⟨t, rfl, ht⟩ := operator_eq_some comma
      simp only [List.length_cons] at enough
      obtain ⟨vs, rfl, more⟩ := h.argsFrom (by omega) has
      have separated : Closing (t :: vs) :=
        (Neutral.nil.operator ht (by decide) (by decide)).closing more.shape
      refine ⟨us ++ t :: vs, by simp, .of_succ (by decide) (first.shape.closing separated)
        (by simp; omega) fun rest' fuel' alike enough => ?_⟩
      simp only [List.append_assoc, List.cons_append, List.length_append,
        List.length_cons] at enough ⊢
      have same := first.again (r := t :: (vs ++ rest')) (n := fuel')
        ((alike.append vs).cons t) (by simp; omega)
      simp only [parseArgsFrom, same, operator_cons ht,
        more.again (n := fuel') alike (by simp; omega), Option.map_some]
    · rename_i comma
      obtain ⟨_, close, heq⟩ := Option.map_eq_some_iff.1 read
      cases heq
      obtain ⟨t, rfl, ht⟩ := operator_eq_some close
      refine ⟨us ++ [t], by simp, .of_succ (by decide) (first.shape.closing (Closing.last ht))
        (by simp; omega) fun rest' fuel' alike enough => ?_⟩
      simp only [List.append_assoc, List.cons_append, List.nil_append, List.length_append,
        List.length_cons] at enough ⊢
      have same := first.again (r := t :: rest') (n := fuel') (alike.cons t)
        (by simp; omega)
      simp only [parseArgsFrom, same, operator_other ht (b := ",") (by decide), operator_cons ht,
        Option.map_some]

theorem args_succ (h : Local fuel) : IsLocal parseArgs Neutral 2 3 (fuel + 1) := by
  intro ts as rest enough read
  simp only [parseArgs] at read
  split at read
  · cases read
  · rename_i rest₁ opened
    obtain ⟨t, rfl, ht⟩ := operator_eq_some opened
    simp only [List.length_cons] at enough
    obtain ⟨us, rfl, took⟩ := h.argsFrom (by omega) read
    have := took.least
    refine ⟨t :: us, rfl, .of_succ (by decide) (took.shape.open ht) (by simp; omega)
      fun rest' fuel' alike enough => ?_⟩
    simp only [List.cons_append, List.length_cons] at enough ⊢
    simp only [parseArgs, operator_cons ht]
    exact took.again alike (by omega)

/-! ### Operands -/

/-- A token that is read on its own. -/
theorem primary_token {t : Token} {ts : List Token} {a : Written} (kind : t.kind ≠ .operator)
    (again : ∀ r n, Alike ts r → parsePrimary (n + 1) (t :: r) = some (a, r)) :
    ∃ us, t :: ts = us ++ ts ∧ Takes parsePrimary Neutral 1 1 us ts a :=
  ⟨[t], rfl, .of_succ (by decide) (Neutral.nil.kind kind) (by simp)
    fun r n alike _ => again r n alike⟩

/-- Only the head of a list shows whether a query starts. -/
theorem startsQuery_append {us : List Token} (long : 0 < us.length) (r r' : List Token) :
    startsQuery (us ++ r) = startsQuery (us ++ r') := by
  cases us with
  | nil => cases long
  | cons u us => simp [startsQuery, keyword, apply_ite Option.isSome]

/-- An expression in parentheses. -/
theorem primary_group (h : Local fuel) {l : Token} {ts rest rest' : List Token} {a : Written}
    (kind : l.kind = .operator) (text : l.text = "(") (plain : startsQuery ts = false)
    (enough : 20 * (l :: ts).length + 1 ≤ fuel + 1) (read : parseExpr fuel 0 ts = some (a, rest))
    (closed : operator ")" rest = some rest') :
    ∃ us, l :: ts = us ++ rest' ∧ Takes parsePrimary Neutral 1 1 us rest' a := by
  obtain ⟨us, rfl, took⟩ := h.expr (by decide) (by simp at enough; omega) read
  obtain ⟨r, rfl, hr⟩ := operator_eq_some closed
  have opens : l.isOperator "(" := by simp [Token.isOperator, kind, text]
  refine ⟨l :: (us ++ [r]), by simp, .of_succ (by decide)
    ((took.shape.closing (Closing.last hr)).open opens) (by simp) fun more n alike enough => ?_⟩
  simp only [List.cons_append, List.append_assoc, List.nil_append, List.length_cons,
    List.length_append] at enough ⊢
  have same := took.again (r := r :: more) (n := n) (alike.cons r) (by simp; omega)
  rw [startsQuery_append took.least _ (r :: more)] at plain
  simp [parsePrimary, kind, text, plain, same, operator_cons hr]

/-- A token that is read as a name. -/
structure Names (t : Token) (name : String) : Prop where
  number : ∀ c, t.kind = .number c → False
  string : ∀ s, t.kind = .string s → False
  blob : ∀ b, t.kind = .blob b → False
  param : ∀ k, t.kind = .param (some k) → False
  mark : t.kind = .param none → False
  named : t.kind = .named → False
  operator : t.kind = .operator → False
  bad : t.kind = .bad → False
  null : t.isWord "null" = false
  plain : t.startsExpression = false
  name : t.name? = some name

/-- A column with its table. -/
theorem primary_qualified {t d : Token} {ts rest : List Token} {table column : String}
    (named : Names t table) (hd : d.isOperator ".") (read : parseName ts = some (column, rest)) :
    ∃ us, t :: d :: ts = us ++ rest ∧
      Takes parsePrimary Neutral 1 1 us rest (.column ⟨some table, column, false⟩) := by
  obtain ⟨number, string, blob, param, mark, isNamed, operator, bad, null, plain, name⟩ := named
  obtain ⟨u, rfl, hu, kind⟩ := parseName_eq_some read
  have neutral : Neutral [t, d, u] :=
    ((Neutral.nil.kind kind).operator hd (by decide) (by decide)).kind operator
  refine ⟨[t, d, u], rfl, .of_succ (by decide) neutral (by simp) fun r n _ _ => ?_⟩
  simp [parsePrimary, null, plain, name, operator_cons hd, parseName, hu]

/-- A function of all rows. -/
theorem primary_count {t l : Token} {ts rest : List Token} {name : String} (named : Names t name)
    (hl : l.isOperator "(") (counts : Text.lower name = "count")
    (star : (Engine.operator "*" ts).bind (Engine.operator ")") = some rest) :
    ∃ us, t :: l :: ts = us ++ rest ∧ Takes parsePrimary Neutral 1 1 us rest .countRows := by
  obtain ⟨number, string, blob, param, mark, isNamed, operator, bad, null, plain, name⟩ := named
  obtain ⟨_, hstar, hclose⟩ := Option.bind_eq_some_iff.1 star
  obtain ⟨m, rfl, hm⟩ := operator_eq_some hstar
  obtain ⟨r, rfl, hr⟩ := operator_eq_some hclose
  have closing : Closing [m, r] :=
    (Neutral.nil.operator hm (by decide) (by decide)).closing (Closing.last hr)
  refine ⟨[t, l, m, r], rfl, .of_succ (by decide) ((closing.open hl).kind operator) (by simp)
    fun more n _ _ => ?_⟩
  simp [parsePrimary, null, plain, name, operator_other hl (b := ".") (by decide), operator_cons hl,
    operator_cons hm, operator_cons hr, counts]

/-- A function of values. -/
theorem primary_call (h : Local fuel) {t l : Token} {ts rest : List Token} {name : String}
    {args : List Written} {e : Written} (named : Names t name) (hl : l.isOperator "(")
    (star : (Engine.operator "*" ts).bind (Engine.operator ")") = none)
    (enough : 20 * (t :: l :: ts).length + 1 ≤ fuel + 1)
    (read : parseArgs fuel (l :: ts) = some (args, rest)) (he : functionOf? name args = some e) :
    ∃ us, t :: l :: ts = us ++ rest ∧ Takes parsePrimary Neutral 1 1 us rest e := by
  obtain ⟨number, string, blob, param, mark, isNamed, operator, bad, null, plain, name⟩ := named
  obtain ⟨us, hus, took⟩ := h.args (by simp at enough; simp; omega) read
  have long := took.least
  obtain ⟨vs, rfl, rfl⟩ := exists_cons_append hus (by omega)
  simp only [List.length_cons] at long
  refine ⟨t :: l :: vs, rfl, .of_succ (by decide) (took.shape.kind operator) (by simp)
    fun more n alike enough => ?_⟩
  have same := took.again (n := n) alike (by simp at enough ⊢; omega)
  rw [List.cons_append] at same
  simp [parsePrimary, null, plain, name, operator_other hl (b := ".") (by decide), operator_cons hl,
    operators_append (by omega) star more, same, he]

theorem primary_succ (h : Local fuel) : IsLocal parsePrimary Neutral 1 1 (fuel + 1) := by
  intro ts a rest enough read
  cases ts with
  | nil => cases read
  | cons t ts =>
  simp only [parsePrimary] at read
  -- One case for each kind of token. Only behind a parenthesis or a name there is more to read.
  split at read
  case h_1 | h_2 | h_3 =>
    rename_i kind
    cases read
    exact primary_token (by simp [kind]) fun r n _ => by simp [parsePrimary, kind]
  case h_4 =>
    rename_i k kind
    split at read
    · cases read
    · rename_i positive
      cases read
      exact primary_token (by simp [kind]) fun r n _ => by simp [parsePrimary, kind, positive]
  case h_5 | h_6 => cases read
  case h_7 =>
    rename_i kind
    split at read
    · rename_i opened
      simp only [Bool.and_eq_true, decide_eq_true_eq, Bool.not_eq_true'] at opened
      split at read
      · cases read
      · rename_i hb
        obtain ⟨_, close, heq⟩ := Option.map_eq_some_iff.1 read
        cases heq
        exact h.primary_group kind opened.1 opened.2 enough hb close
    · cases read
  case h_8 => cases read
  case h_9 =>
    rename_i number string blob param mark isNamed operator bad
    split at read
    · rename_i null
      cases read
      exact primary_token operator fun r n _ => by simp [parsePrimary, null]
    · rename_i null
      split at read
      · cases read
      rename_i plain
      split at read
      · cases read
      · rename_i name hname
        have named : Names t name :=
          ⟨number, string, blob, param, mark, isNamed, operator, bad, by simpa using null,
            by simpa using plain, hname⟩
        split at read
        · rename_i dot
          obtain ⟨d, rfl, hd⟩ := operator_eq_some dot
          obtain ⟨p, hp, heq⟩ := Option.map_eq_some_iff.1 read
          cases heq
          exact primary_qualified named hd hp
        · rename_i opened
          obtain ⟨l, rfl, hl⟩ := operator_eq_some opened
          split at read
          · rename_i star
            split at read
            · rename_i counts
              cases read
              exact primary_count named hl counts star
            · cases read
          · rename_i star
            split at read
            · cases read
            · rename_i hargs
              obtain ⟨e, he, heq⟩ := Option.map_eq_some_iff.1 read
              cases heq
              exact h.primary_call named hl star enough hargs he
        · rename_i dot opened
          cases read
          exact primary_token operator fun r n alike => by
            simp [parsePrimary, null, plain, hname, alike.operator_eq_none (by decide) dot,
              alike.operator_eq_none (by decide) opened]

/-! ### Tests -/

/-- The word `is`, which may be followed by a negation. -/
theorem suffix_is (h : Local fuel) {t : Token} {ts : List Token} {a b : Written}
    {rest : List Token} (ht : t.isWord "is") (enough : 20 * (t :: ts).length + 1 ≤ fuel + 1)
    (read : (parseSuffix (fuel + 1) a (t :: ts)).join = some (b, rest)) :
    ∃ us, t :: ts = us ++ rest ∧
      Takes (fun fuel ts => (parseSuffix fuel a ts).join) Neutral 1 1 us rest b := by
  simp only [parseSuffix, keyword_cons ht, keyword_other ht (b := "isnull") (by decide),
    keyword_other ht (b := "notnull") (by decide), Option.join_some] at read
  -- Two optional groups of words stand between `is` and its operand.
  obtain ⟨us, hus, neutralNot, againNot⟩ := optionalKeywords_local ["not"] ts
  generalize optionalKeywords ["not"] ts = first at *
  obtain ⟨n, r₁⟩ := first
  dsimp only at hus againNot read
  subst hus
  obtain ⟨vs, hvs, neutralFrom, againFrom⟩ := optionalKeywords_local ["distinct", "from"] r₁
  generalize optionalKeywords ["distinct", "from"] r₁ = second at *
  obtain ⟨d, r₂⟩ := second
  dsimp only at hvs againFrom read
  subst hvs
  obtain ⟨p, hp, heq⟩ := Option.map_eq_some_iff.1 read
  cases heq
  simp only [List.length_cons, List.length_append] at enough
  obtain ⟨ws, rfl, took⟩ := h.expr (by decide) (by omega) hp
  refine ⟨t :: (us ++ (vs ++ ws)), by simp, .of_succ (by decide)
    ((neutralNot.append (neutralFrom.append took.shape)).word ht) (by simp)
    fun more k alike enough => ?_⟩
  simp only [List.cons_append, List.append_assoc, List.length_cons,
    List.length_append] at enough ⊢
  have same := took.again (n := k) alike (by simp; omega)
  simp only [parseSuffix, keyword_cons ht, keyword_other ht (b := "isnull") (by decide),
    keyword_other ht (b := "notnull") (by decide), againNot _ ((alike.append ws).append vs),
    againFrom _ (alike.append ws), same, Option.map_some, Option.join_some]

/-- What stands before the word of a test that may be negated. -/
structure Negation (ns : List Token) (n : Bool) (r : List Token) : Prop where
  neutral : Neutral ns
  again : ∀ {r'}, Alike r r' → optionalKeywords ["not"] (ns ++ r') = (n, r')
  absent : ∀ {r' k}, Alike r r' → k ∈ ["isnull", "notnull", "is"] → keyword k (ns ++ r') = none

theorem Negation.suffix {ns r : List Token} {n : Bool} (h : Negation ns n r) {r' : List Token}
    (alike : Alike r r') : keyword "isnull" (ns ++ r') = none ∧
      keyword "notnull" (ns ++ r') = none ∧ keyword "is" (ns ++ r') = none :=
  ⟨h.absent alike (by simp), h.absent alike (by simp), h.absent alike (by simp)⟩

variable {ns ts rest : List Token} {n : Bool} {t : Token} {a : Written}

theorem suffix_null (negation : Negation ns true (t :: rest)) (ht : t.isWord "null") :
    ∃ us, ns ++ t :: rest = us ++ rest ∧
      Takes (fun fuel ts => (parseSuffix fuel a ts).join) Neutral 1 1 us rest
        (.not (.is a (.literal .null))) := by
  refine ⟨ns ++ [t], by simp, .of_succ (by decide)
    (negation.neutral.append (Neutral.nil.word ht)) (by simp) fun more k alike _ => ?_⟩
  rw [List.append_assoc]
  simp [parseSuffix, negation.suffix (alike.cons t), negation.again (alike.cons t),
    keyword_cons ht]

/-- The word `in` before an empty list. -/
theorem suffix_in_nil {ts : List Token} (negation : Negation ns n (t :: ts)) (ht : t.isWord "in")
    (empty : (operator "(" ts).bind (operator ")") = some rest) :
    ∃ us, ns ++ t :: ts = us ++ rest ∧
      Takes (fun fuel ts => (parseSuffix fuel a ts).join) Neutral 1 1 us rest
        (negated n (.isIn a [])) := by
  obtain ⟨_, opened, closed⟩ := Option.bind_eq_some_iff.1 empty
  obtain ⟨l, rfl, hl⟩ := operator_eq_some opened
  obtain ⟨r, rfl, hr⟩ := operator_eq_some closed
  have neutral : Neutral [t, l, r] := ((Closing.last hr).open hl).word ht
  refine ⟨ns ++ [t, l, r], by simp, .of_succ (by decide) (negation.neutral.append neutral)
    (by simp) fun more k alike _ => ?_⟩
  rw [List.append_assoc]
  have alike := ((alike.cons r).cons l).cons t
  simp [parseSuffix, negation.suffix alike, negation.again alike, keyword_cons ht,
    keyword_other ht (b := "null") (by decide), operator_cons hl, operator_cons hr]

theorem suffix_in (h : Local fuel) {items : List Written} (negation : Negation ns n (t :: ts))
    (ht : t.isWord "in") (filled : (operator "(" ts).bind (operator ")") = none)
    (plain : startsQuery (ts.drop 1) = false)
    (enough : 20 * (ns ++ t :: ts).length + 1 ≤ fuel + 1)
    (read : parseArgs fuel ts = some (items, rest)) :
    ∃ us, ns ++ t :: ts = us ++ rest ∧
      Takes (fun fuel ts => (parseSuffix fuel a ts).join) Neutral 1 1 us rest
        (negated n (.isIn a items)) := by
  simp only [List.length_cons, List.length_append] at enough
  obtain ⟨us, rfl, took⟩ := h.args (by omega) read
  have long := took.least
  refine ⟨ns ++ t :: us, by simp, .of_succ (by decide)
    (negation.neutral.append (took.shape.word ht)) (by simp; omega) fun more k alike enough => ?_⟩
  rw [List.append_assoc]
  have same := took.again (n := k) alike (by simp at enough ⊢; omega)
  have alike := (alike.append us).cons t
  rw [List.drop_append_of_le_length (by omega),
    startsQuery_append (by rw [List.length_drop]; omega) _ more,
    ← List.drop_append_of_le_length (by omega)] at plain
  simp [parseSuffix, negation.suffix alike, negation.again alike, keyword_cons ht,
    keyword_other ht (b := "null") (by decide), operators_append (by omega) filled more, same,
    List.drop_one ▸ plain]

theorem suffix_between (h : Local fuel) {low high : Written} {mid high' : List Token}
    (negation : Negation ns n (t :: ts)) (ht : t.isWord "between")
    (enough : 20 * (ns ++ t :: ts).length + 1 ≤ fuel + 1)
    (first : parseExpr fuel 4 ts = some (low, mid)) (and : keyword "and" mid = some high')
    (second : parseExpr fuel 4 high' = some (high, rest)) :
    ∃ us, ns ++ t :: ts = us ++ rest ∧
      Takes (fun fuel ts => (parseSuffix fuel a ts).join) Neutral 1 1 us rest
        (negated n (.and (.compare .ge a low) (.compare .le a high))) := by
  simp only [List.length_cons, List.length_append] at enough
  obtain ⟨us, rfl, took⟩ := h.expr (by decide) (by omega) first
  obtain ⟨u, rfl, hu⟩ := keyword_eq_some and
  simp only [List.length_cons, List.length_append] at enough
  obtain ⟨vs, rfl, more⟩ := h.expr (by decide) (by omega) second
  have neutral : Neutral (t :: (us ++ u :: vs)) :=
    (took.shape.append (more.shape.word hu)).word ht
  refine ⟨ns ++ t :: (us ++ u :: vs), by simp, .of_succ (by decide)
    (negation.neutral.append neutral) (by simp; omega) fun _ k alike enough => ?_⟩
  simp only [List.cons_append, List.append_assoc, List.length_cons,
    List.length_append] at enough ⊢
  have upper := more.again (n := k) alike (by simp; omega)
  have alike := (alike.append vs).cons u
  have lower := took.again (n := k) alike (by simp; omega)
  have alike := (alike.append us).cons t
  simp [parseSuffix, negation.suffix alike, negation.again alike, keyword_cons ht,
    keyword_cons hu, keyword_other ht (b := "null") (by decide),
    keyword_other ht (b := "in") (by decide), lower, upper]

theorem suffix_like (h : Local fuel) {pattern : Written} (negation : Negation ns n (t :: ts))
    (ht : t.isWord "like") (enough : 20 * (ns ++ t :: ts).length + 1 ≤ fuel + 1)
    (read : parseExpr fuel 4 ts = some (pattern, rest)) :
    ∃ us, ns ++ t :: ts = us ++ rest ∧
      Takes (fun fuel ts => (parseSuffix fuel a ts).join) Neutral 1 1 us rest
        (negated n (.like a pattern)) := by
  simp only [List.length_cons, List.length_append] at enough
  obtain ⟨us, rfl, took⟩ := h.expr (by decide) (by omega) read
  refine ⟨ns ++ t :: us, by simp, .of_succ (by decide)
    (negation.neutral.append (took.shape.word ht)) (by simp; omega) fun more k alike enough => ?_⟩
  rw [List.append_assoc]
  have same := took.again (n := k) alike (by simp at enough ⊢; omega)
  have alike := (alike.append us).cons t
  simp [parseSuffix, negation.suffix alike, negation.again alike, keyword_cons ht,
    keyword_other ht (b := "null") (by decide), keyword_other ht (b := "in") (by decide),
    keyword_other ht (b := "between") (by decide), same]

theorem suffix_succ (h : Local fuel) (a : Written) :
    IsLocal (fun fuel ts => (parseSuffix fuel a ts).join) Neutral 1 1 (fuel + 1) := by
  intro ts b rest enough read
  have whole := read
  simp only [parseSuffix] at read
  split at read
  case h_1 isnull =>
    obtain ⟨t, rfl, ht⟩ := keyword_eq_some isnull
    cases read
    refine ⟨[t], rfl, .of_succ (by decide) (Neutral.nil.word ht) (by simp) fun r n _ _ => ?_⟩
    simp [parseSuffix, keyword_cons ht]
  case h_2 notnull _ =>
    obtain ⟨t, rfl, ht⟩ := keyword_eq_some notnull
    cases read
    refine ⟨[t], rfl, .of_succ (by decide) (Neutral.nil.word ht) (by simp) fun r n _ _ => ?_⟩
    simp [parseSuffix, keyword_cons ht, keyword_other ht (b := "isnull") (by decide)]
  case h_3 is _ _ =>
    obtain ⟨t, rfl, ht⟩ := keyword_eq_some is
    exact h.suffix_is ht enough whole
  case h_4 isnull notnull is =>
    obtain ⟨ns, hns, neutral, again⟩ := optionalKeywords_local ["not"] ts
    generalize optionalKeywords ["not"] ts = first at *
    obtain ⟨n, r⟩ := first
    dsimp only at hns again read
    subst hns
    -- The tests that take no negation in front are not there, whatever follows.
    have negation : Negation ns n r := by
      refine ⟨neutral, fun alike => again _ alike, fun alike mem => ?_⟩
      simp only [List.mem_cons, List.not_mem_nil, or_false] at mem
      rcases mem with rfl | rfl | rfl
      · exact (alike.append ns).keyword_eq_none isnull
      · exact (alike.append ns).keyword_eq_none notnull
      · exact (alike.append ns).keyword_eq_none is
    split at read
    case h_1 null =>
      obtain ⟨t, rfl, ht⟩ := keyword_eq_some null
      split at read
      · rename_i negative
        cases read
        obtain rfl := negative
        exact suffix_null negation ht
      · cases read
    case h_2 isIn _ =>
      obtain ⟨t, rfl, ht⟩ := keyword_eq_some isIn
      split at read
      · rename_i empty
        cases read
        exact suffix_in_nil negation ht empty
      · rename_i filled
        split at read
        · cases read
        rename_i plain
        obtain ⟨p, hp, heq⟩ := Option.map_eq_some_iff.1 read
        cases heq
        exact h.suffix_in negation ht filled (by simpa using plain) enough hp
    case h_3 between _ _ =>
      obtain ⟨t, rfl, ht⟩ := keyword_eq_some between
      rw [Option.join_some] at read
      split at read
      · cases read
      · rename_i first
        split at read
        · cases read
        · rename_i and
          obtain ⟨p, second, heq⟩ := Option.map_eq_some_iff.1 read
          cases heq
          exact h.suffix_between negation ht enough first and second
    case h_4 like _ _ _ =>
      obtain ⟨t, rfl, ht⟩ := keyword_eq_some like
      obtain ⟨p, hp, heq⟩ := Option.map_eq_some_iff.1 read
      cases heq
      exact h.suffix_like negation ht enough hp
    case h_5 =>
      split at read <;> cases read

/-! ### Operators -/

theorem more_stops {level : Nat} {ts : List Token} (stops : Stops level ts) :
    ∃ us, ts = us ++ ts ∧ Takes (parseMore · level a) Neutral 2 0 us ts a := by
  refine ⟨[], rfl, .of_succ (by decide) Neutral.nil (by simp) fun r n alike enough => ?_⟩
  obtain ⟨n, rfl⟩ := Nat.exists_eq_add_of_le' (show 1 ≤ n by omega)
  exact parseMore_stops (stops.alike alike) n a

/-- An operator with its second operand. -/
theorem more_operator (h : Local fuel) {level : Nat} {b c : Written} {mid : List Token}
    {make : Written → Written → Written} (hl : level < 8) (joined : joins level t = some make)
    (enough : 20 * (t :: ts).length + 2 ≤ fuel + 1)
    (first : parseExpr fuel (level + 1) ts = some (c, mid))
    (read : parseMore fuel level (make a c) mid = some (b, rest)) :
    ∃ us, t :: ts = us ++ rest ∧ Takes (parseMore · level a) Neutral 2 0 us rest b := by
  simp only [List.length_cons] at enough
  obtain ⟨us, rfl, took⟩ := h.expr (by omega) (by omega) first
  simp only [List.length_append] at enough
  obtain ⟨vs, rfl, more⟩ := h.more hl (by omega) read
  have single (op : String) (parenthesis : op = "(" ∨ op = ")") : t.isOperator op = false := by
    cases ht : t.isOperator op with
    | false => rfl
    | true =>
      rw [joins_parenthesis ht parenthesis] at joined
      cases joined
  refine ⟨t :: (us ++ vs), by simp, .of_succ (by decide)
    ((took.shape.append more.shape).cons (single _ (.inl rfl)) (single _ (.inr rfl)))
    (by simp) fun r n alike enough => ?_⟩
  simp only [List.cons_append, List.append_assoc, List.length_cons,
    List.length_append] at enough ⊢
  have operand := took.again (n := n) (alike.append vs) (by simp; omega)
  rw [joins] at joined
  simp only [parseMore, joined, operand]
  exact more.again alike (by simp; omega)

/-- A test that follows an operand. -/
theorem more_suffix (h : Local fuel) {b c : Written} {mid : List Token}
    (joined : joins 3 t = none) (enough : 20 * (t :: ts).length + 2 ≤ fuel + 1)
    (first : parseSuffix fuel a (t :: ts) = some (some (c, mid)))
    (read : parseMore fuel 3 c mid = some (b, rest)) :
    ∃ us, t :: ts = us ++ rest ∧ Takes (parseMore · 3 a) Neutral 2 0 us rest b := by
  simp only [List.length_cons] at enough
  obtain ⟨us, hus, took⟩ := h.suffix (s := t :: ts) (by simp; omega)
    (Option.join_eq_some_iff.2 first)
  obtain ⟨us, rfl, rfl⟩ := exists_cons_append hus took.least
  simp only [List.length_append] at enough
  obtain ⟨vs, rfl, more⟩ := h.more (by decide) (by omega) read
  refine ⟨t :: us ++ vs, by simp, .of_succ (by decide) (took.shape.append more.shape)
    (by simp) fun r n alike enough => ?_⟩
  have room : 20 * (us.length + (vs.length + r.length) + 1) + 2 ≤ n + 1 := by
    simpa using enough
  have test := took.again (n := n) (alike.append vs) (by simp; omega)
  rw [Option.join_eq_some_iff, List.cons_append] at test
  rw [joins] at joined
  simp only [List.cons_append, List.append_assoc, parseMore, joined, ne_eq, not_true_eq_false,
    if_false, test]
  exact more.again alike (by simp; omega)

theorem more_succ (h : Local fuel) {level : Nat} (hl : level < 8) (a : Written) :
    IsLocal (parseMore · level a) Neutral 2 0 (fuel + 1) := by
  intro ts b rest enough read
  cases ts with
  | nil =>
    cases read
    have absent (fuel : Nat) (a : Written) : parseSuffix (fuel + 1) a [] = none := by
      simp [parseSuffix, keyword, optionalKeywords, keywords]
    exact more_stops ⟨by simp, fun _ => absent⟩
  | cons t ts =>
    simp only [parseMore] at read
    split at read
    · rename_i joined
      split at read
      · cases read
      · rename_i first
        exact h.more_operator hl joined enough first read
    · rename_i joined
      -- Without an operator the loop ends, unless a test follows at level three.
      have operator : ∀ u ∈ (t :: ts).head?, joins level u = none := by
        rintro u ⟨⟩
        exact joined
      split at read
      · rename_i notThree
        cases read
        exact more_stops ⟨operator, fun three => absurd three notThree⟩
      · rename_i three
        obtain rfl : level = 3 := by simpa using three
        split at read
        · rename_i absent
          cases read
          simp only [List.length_cons] at enough
          obtain ⟨fuel, rfl⟩ := Nat.exists_eq_add_of_le' (show 1 ≤ fuel by omega)
          exact more_stops ⟨operator, fun _ fuel a => parseSuffix_alike (.refl _) absent⟩
        · cases read
        · rename_i first
          exact h.more_suffix joined enough first read

theorem expr_not (h : Local fuel) (ht : t.isWord "not")
    (enough : 20 * (t :: ts).length + 18 ≤ fuel + 1) (read : parseExpr fuel 2 ts = some (a, rest)) :
    ∃ us, t :: ts = us ++ rest ∧ Takes (parseExpr · 2) Neutral 18 1 us rest (.not a) := by
  simp only [List.length_cons] at enough
  obtain ⟨us, rfl, took⟩ := h.expr (by decide) (by omega) read
  refine ⟨t :: us, rfl, .of_succ (by decide) (took.shape.word ht) (by simp)
    fun more n alike enough => ?_⟩
  simp only [List.cons_append, List.length_cons] at enough ⊢
  have same := took.again (n := n) alike (by omega)
  simp only [parseExpr, keyword_cons ht, same, if_true, Option.map_some]

/-- An operand with the operators of a level that follow it. -/
theorem expr_level (h : Local fuel) {level : Nat} {b : Written} {mid : List Token}
    (two : level ≠ 2) (below : level < 8) (enough : 20 * ts.length + (20 - level) ≤ fuel + 1)
    (first : parseExpr fuel (level + 1) ts = some (b, mid))
    (read : parseMore fuel level b mid = some (a, rest)) :
    ∃ us, ts = us ++ rest ∧ Takes (parseExpr · level) Neutral (20 - level) 1 us rest a := by
  obtain ⟨us, rfl, took⟩ := h.expr (by omega) (by omega) first
  have := took.least
  simp only [List.length_append] at enough
  obtain ⟨vs, rfl, more⟩ := h.more below (by omega) read
  refine ⟨us ++ vs, by simp, .of_succ (by omega) (took.shape.append more.shape)
    (by simp; omega) fun r n alike enough => ?_⟩
  simp only [List.append_assoc, List.length_append] at enough ⊢
  have operand := took.again (n := n) (alike.append vs) (by simp; omega)
  simp only [parseExpr, two, if_false, below, if_true, operand]
  exact more.again alike (by simp; omega)

/-- A number with its sign, which is read at once. -/
theorem expr_number (h : Local fuel) {u : Token} {b : Written} (minus : t.isOperator "-")
    (kind : u.kind ≠ .operator)
    (reads : ∀ n r, parseExpr (n + 1) 8 (t :: u :: r) = parseCollate n b r)
    (enough : 20 * (t :: u :: ts).length + 12 ≤ fuel + 1)
    (read : parseCollate fuel b ts = some (a, rest)) :
    ∃ us, t :: u :: ts = us ++ rest ∧ Takes (parseExpr · 8) Neutral 12 1 us rest a := by
  simp only [List.length_cons] at enough
  obtain ⟨us, rfl, took⟩ := h.collate (by omega) read
  refine ⟨t :: u :: us, rfl, .of_succ (by decide)
    ((took.shape.kind kind).operator minus (by decide) (by decide)) (by simp)
    fun more n alike enough => ?_⟩
  simp only [List.cons_append, List.length_cons, reads] at enough ⊢
  exact took.again alike (by omega)

theorem expr_negate (h : Local fuel) (minus : t.isOperator "-")
    (notInt : ∀ n gap text r, ts = ⟨.number (.int n), gap, text⟩ :: r → False)
    (notReal : ∀ x gap text r, ts = ⟨.number (.real x), gap, text⟩ :: r → False)
    (enough : 20 * (t :: ts).length + 12 ≤ fuel + 1) (read : parseExpr fuel 8 ts = some (a, rest)) :
    ∃ us, t :: ts = us ++ rest ∧ Takes (parseExpr · 8) Neutral 12 1 us rest (.negate a) := by
  simp only [List.length_cons] at enough
  obtain ⟨us, rfl, took⟩ := h.expr (by decide) (by omega) read
  refine ⟨t :: us, rfl, .of_succ (by decide)
    (took.shape.operator minus (by decide) (by decide)) (by simp) fun more n alike enough => ?_⟩
  simp only [List.cons_append, List.length_cons] at enough ⊢
  have same := took.again (n := n) alike (by omega)
  -- The tokens start with the same token whatever follows them, so it is no number there either.
  obtain ⟨u, us, rfl⟩ := List.exists_cons_of_length_pos took.least
  have int : ∀ n gap text r,
      u :: (us ++ more) = ⟨.number (.int n), gap, text⟩ :: r → False := by
    rintro n gap text r ⟨⟩
    exact notInt _ _ _ _ rfl
  have real : ∀ x gap text r,
      u :: (us ++ more) = ⟨.number (.real x), gap, text⟩ :: r → False := by
    rintro x gap text r ⟨⟩
    exact notReal _ _ _ _ rfl
  simp only [List.cons_append] at same ⊢
  simp [parseExpr, minus, same]

theorem expr_plus (h : Local fuel) (plus : t.isOperator "+")
    (enough : 20 * (t :: ts).length + 12 ≤ fuel + 1) (read : parseExpr fuel 8 ts = some (a, rest)) :
    ∃ us, t :: ts = us ++ rest ∧ Takes (parseExpr · 8) Neutral 12 1 us rest a := by
  simp only [List.length_cons] at enough
  obtain ⟨us, rfl, took⟩ := h.expr (by decide) (by omega) read
  refine ⟨t :: us, rfl, .of_succ (by decide)
    (took.shape.operator plus (by decide) (by decide)) (by simp) fun more n alike enough => ?_⟩
  simp only [List.cons_append, List.length_cons] at enough ⊢
  have minus : t.isOperator "-" = false := Token.not_isOperator_of_ne plus (by decide)
  simp only [parseExpr, minus, plus, Nat.reduceEqDiff, Nat.lt_irrefl, Bool.false_eq_true,
    if_false, if_true]
  exact took.again alike (by omega)

/-- An operand with the collations that follow it. -/
theorem expr_operand (h : Local fuel) {b : Written} {mid : List Token}
    (minus : t.isOperator "-" = false) (plus : t.isOperator "+" = false)
    (enough : 20 * (t :: ts).length + 12 ≤ fuel + 1)
    (first : parsePrimary fuel (t :: ts) = some (b, mid))
    (read : parseCollate fuel b mid = some (a, rest)) :
    ∃ us, t :: ts = us ++ rest ∧ Takes (parseExpr · 8) Neutral 12 1 us rest a := by
  simp only [List.length_cons] at enough
  obtain ⟨us, hus, took⟩ := h.primary (s := t :: ts) (by simp; omega) first
  obtain ⟨us, rfl, rfl⟩ := exists_cons_append hus took.least
  simp only [List.length_append] at enough
  obtain ⟨vs, rfl, more⟩ := h.collate (by omega) read
  refine ⟨t :: us ++ vs, by simp, .of_succ (by decide) (took.shape.append more.shape)
    (by simp) fun r n alike enough => ?_⟩
  have room : 20 * (us.length + (vs.length + r.length) + 1) + 12 ≤ n + 1 := by
    simpa using enough
  have operand := took.again (n := n) (alike.append vs) (by simp; omega)
  rw [List.cons_append] at operand
  simp only [List.cons_append, List.append_assoc, parseExpr, minus, plus, Nat.reduceEqDiff,
    Nat.lt_irrefl, Bool.false_eq_true, if_false, operand]
  exact more.again alike (by simp; omega)

theorem expr_succ (h : Local fuel) {level : Nat} (hl : level ≤ 8) :
    IsLocal (parseExpr · level) Neutral (20 - level) 1 (fuel + 1) := by
  intro ts a rest enough read
  simp only [parseExpr] at read
  -- Level two has `not`, other levels below eight have operators, and level eight has signs.
  split at read
  · rename_i two
    subst two
    split at read
    · rename_i r hr
      obtain ⟨p, hp, heq⟩ := Option.map_eq_some_iff.1 read
      cases heq
      obtain ⟨t, rfl, ht⟩ := keyword_eq_some hr
      exact h.expr_not ht enough hp
    · rename_i absent
      obtain ⟨us, rfl, took⟩ := h.expr (by decide) (by omega) read
      refine ⟨us, rfl, .of_succ (by decide) took.shape took.least fun r n alike enough => ?_⟩
      simp only [parseExpr, if_true, (alike.append us).keyword_eq_none absent]
      exact took.again alike (by omega)
  · rename_i two
    split at read
    · rename_i below
      split at read
      · cases read
      · rename_i first
        exact h.expr_level two below enough first read
    · rename_i above
      obtain rfl : level = 8 := by omega
      cases ts with
      | nil => cases read
      | cons t ts =>
      dsimp only at read
      split at read
      · rename_i minus
        split at read
        · refine h.expr_number minus (by simp) (fun n r => ?_) enough read
          simp only [parseExpr, two, above, minus, if_false, if_true]
        · refine h.expr_number minus (by simp) (fun n r => ?_) enough read
          simp only [parseExpr, two, above, minus, if_false, if_true]
        · rename_i notInt notReal
          obtain ⟨p, hp, heq⟩ := Option.map_eq_some_iff.1 read
          cases heq
          exact h.expr_negate minus notInt notReal enough hp
      · rename_i minus
        split at read
        · rename_i plus
          exact h.expr_plus plus enough read
        · rename_i plus
          split at read
          · cases read
          · rename_i first
            exact h.expr_operand (by simpa using minus) (by simpa using plus) enough first read

end Local

theorem isLocal (fuel : Nat) : Local fuel := by
  induction fuel with
  | zero =>
    constructor
    all_goals
      intros
      intro _ _ _ enough
      omega
  | succ fuel ih =>
    exact ⟨ih.expr_succ, fun below => ih.more_succ below _, ih.suffix_succ _, ih.collate_succ _,
      ih.args_succ, ih.argsFrom_succ, ih.primary_succ⟩

/-! ## Expressions in parentheses -/

/-- Tokens up to the parenthesis that closes around them. -/
theorem append_closing_inj {ts us xs ys : List Token} {t u : Token}
    (hts : ts.foldlM Token.nest 0 = some 0) (hus : us.foldlM Token.nest 0 = some 0)
    (ht : t.isOperator ")") (hu : u.isOperator ")") (same : ts ++ t :: xs = us ++ u :: ys) :
    ts = us := by
  have beyond {ts : List Token} {t : Token} (hts : ts.foldlM Token.nest 0 = some 0)
      (ht : t.isOperator ")") (vs : List Token) : (ts ++ t :: vs).foldlM Token.nest 0 = none := by
    simp [List.foldlM_append, hts, Token.nest_close_zero ht]
  rcases List.append_eq_append_iff.1 same with ⟨vs, rfl, h⟩ | ⟨vs, rfl, h⟩
  · cases vs with
    | nil => simp
    | cons v vs =>
      obtain ⟨rfl, -⟩ := List.cons.inj h
      rw [beyond hts ht] at hus
      cases hus
  · cases vs with
    | nil => simp
    | cons v vs =>
      obtain ⟨rfl, -⟩ := List.cons.inj h
      rw [beyond hus hu] at hts
      cases hts

/-- An expression in parentheses is read as it is read alone. -/
theorem parseExpr_group {fuel : Nat} {ts more rest rest' : List Token} {r : Token} {a : Written}
    (neutral : ts.foldlM Token.nest 0 = some 0) (hr : r.isOperator ")")
    (enough : 20 * (ts ++ r :: more).length + 20 ≤ fuel)
    (read : parseExpr fuel 0 (ts ++ r :: more) = some (a, rest))
    (closed : operator ")" rest = some rest') :
    rest' = more ∧ parseValue ts = some (a, []) := by
  obtain ⟨us, same, took⟩ := (isLocal fuel).expr (by decide) enough read
  obtain ⟨u, rfl, hu⟩ := operator_eq_some closed
  obtain rfl := append_closing_inj neutral (took.shape 0) hr hu same
  obtain ⟨rfl, rfl⟩ := List.cons.inj (List.append_cancel_left same)
  have alone := took.again (r := []) (n := 20 * ts.length + 20)
    (.ends (by simpa [Ends] using hr) (by simp [Ends])) (by simp)
  exact ⟨rfl, by simpa [parseValue] using alone⟩

end ResourceProvider.Engine
