import ResourceProvider.Proofs.Engine.Settled
/-!
# The wording of insertions

The text of an insertion names its columns in parentheses, with a placeholder for each of them, or
it asks for defaults. It says that one row is added, or it is refused (`run_insert`,
`run_insert_default`).
-/
namespace ResourceProvider.Engine

open Schema (isIdentifier)

variable {α β : Type}

/-! ## Lists in parentheses -/

/-- One token for each item, with commas between them. -/
inductive Commas (P : α → Token → Prop) : List α → List Token → Prop where
  | last {a : α} {t : Token} : P a t → Commas P [a] [t]
  | cons {a : α} {t c : Token} {as : List α} {ts : List Token} : P a t → c.isOperator "," →
      Commas P as ts → Commas P (a :: as) (t :: c :: ts)

namespace Commas

variable {P : α → Token → Prop} {as : List α} {ts : List Token}

/-- What items and commas have in common is true of every token. -/
theorem forall_tokens {Q : Token → Prop} (h : Commas P as ts) (item : ∀ a t, P a t → Q t)
    (comma : ∀ c : Token, c.isOperator "," → Q c) : ∀ t ∈ ts, Q t := by
  induction h with
  | last ht =>
    rw [List.forall_mem_singleton]
    exact item _ _ ht
  | cons ht hc _ ih =>
    rw [List.forall_mem_cons, List.forall_mem_cons]
    exact ⟨item _ _ ht, comma _ hc, ih⟩

theorem plain (h : Commas P as ts) (plain : ∀ a t, P a t → t.kind ≠ .operator) :
    ∀ t ∈ ts, (!t.isOperator ";") = true :=
  h.forall_tokens (fun a t ht => not_semicolon (.inr (plain a t ht)))
    fun _ hc => not_semicolon (.inl ⟨_, hc, by decide⟩)

theorem isUnnamed (h : Commas P as ts)
    (unnamed : ∀ a t, P a t → t.kind = .word ∨ t.kind = .param none) : ∀ t ∈ ts, t.isUnnamed :=
  h.forall_tokens (fun a t ht => Token.isUnnamed_of_kind (.inr (unnamed a t ht)))
    fun _ hc => Token.isUnnamed_of_kind (.inl (Token.kind_of_isOperator hc))

/-- Placeholders are numbered one after another. -/
theorem numbered (h : Commas (fun _ t => t.kind = .param none) as ts) (slots : Slots) :
    Commas (fun k t => t.kind = .param (some (k + 1))) (List.range' slots.length as.length)
      (numberParams slots ts) := by
  induction h generalizing slots with
  | last ht =>
    rw [numberParams_cons]
    exact .last (Token.numbered_param ht slots).1
  | cons ht hc _ ih =>
    obtain ⟨kind, after⟩ := Token.numbered_param ht slots
    have next := ih (slots ++ [none])
    rw [List.length_append] at next
    rw [numberParams_cons, after, Token.numberParams_plain (.inl (Token.kind_of_isOperator hc)),
      List.length_cons, List.range'_succ]
    exact .cons kind hc next

/-- Words are not numbered. -/
theorem numberParams_words (h : Commas P as ts) (words : ∀ a t, P a t → t.kind = .word)
    (slots : Slots) (us : List Token) :
    numberParams slots (ts ++ us) = ts ++ numberParams slots us := by
  induction h with
  | last ht => exact Token.numberParams_plain (.inr (words _ _ ht)) slots us
  | cons ht hc _ ih =>
    rw [List.cons_append, List.cons_append, Token.numberParams_plain (.inr (words _ _ ht)),
      Token.numberParams_plain (.inl (Token.kind_of_isOperator hc)), ih]
    rfl

end Commas

/-- The items of a list say what their tokens say, if each of them ends with its token. -/
theorem parseList_commas {P : α → Token → Prop} {item : Parse β} {value : α → β}
    (reads : ∀ a t u ts x rest, P a t → (∃ op ∈ [",", ")"], u.isOperator op) →
      item (t :: u :: ts) = some (x, rest) → x = value a ∧ rest = u :: ts)
    {as : List α} {ts : List Token} (h : Commas P as ts) {r : Token} (hr : r.isOperator ")")
    {more rest : List Token} {fuel : Nat} {xs : List β}
    (read : parseList item fuel (ts ++ r :: more) = some (xs, rest)) :
    xs = as.map value ∧ rest = r :: more := by
  induction h generalizing fuel xs with
  | last ht =>
    exact parseList_last (fun _ _ => reads _ _ _ _ _ _ ht ⟨_, by simp, hr⟩)
      (operator_other hr (by decide) _) read
  | cons ht hc _ ih =>
    obtain ⟨fuel, ys, list, rfl⟩ :=
      parseList_comma (fun _ _ => reads _ _ _ _ _ _ ht ⟨_, by simp, hc⟩) hc read
    obtain ⟨rfl, rfl⟩ := ih list
    exact ⟨rfl, rfl⟩

theorem parseParens_commas {P : α → Token → Prop} {item : Parse β} {f : α → β}
    (reads : ∀ a t u ts x rest, P a t → (∃ op ∈ [",", ")"], u.isOperator op) →
      item (t :: u :: ts) = some (x, rest) → x = f a ∧ rest = u :: ts)
    {as : List α} {ts : List Token} (h : Commas P as ts) {l r : Token} (hl : l.isOperator "(")
    (hr : r.isOperator ")") {more rest : List Token} {xs : List β}
    (read : parseParens item (l :: (ts ++ r :: more)) = some (xs, rest)) :
    xs = as.map f ∧ rest = more := by
  rw [parseParens, operator_cons hl] at read
  dsimp only at read
  split at read
  · cases read
  · rename_i list
    obtain ⟨_, closed, same⟩ := Option.map_eq_some_iff.1 read
    cases same
    obtain ⟨rfl, rfl⟩ := parseList_commas reads h hr list
    rw [operator_cons hr] at closed
    cases closed
    exact ⟨rfl, rfl⟩

/-! ## Statements -/

/-- A word that names a column. -/
def NamesColumn (c : String) (t : Token) : Prop :=
  t.kind = .word ∧ t.text = c

/-- The placeholders of a row, from the first parameter on. -/
def placeholderRow (width : Nat) : List Written :=
  (List.range' 0 width).map .param

theorem parseName_column {c : String} {t : Token} (h : NamesColumn c t) {ts rest : List Token}
    {name : String} (read : parseName (t :: ts) = some (name, rest)) : name = c ∧ rest = ts := by
  obtain ⟨_, same, named, -⟩ := parseName_eq_some read
  cases same
  exact ⟨(name?_word h.1 named).trans h.2, rfl⟩

theorem parseValue_mark {k : Nat} {t u : Token} {ts rest : List Token} {e : Written}
    (kind : t.kind = .param (some (k + 1))) (ends : ∃ op ∈ [",", ")"], u.isOperator op)
    (read : parseValue (t :: u :: ts) = some (e, rest)) : e = .param k ∧ rest = u :: ts := by
  obtain ⟨op, mem, hu⟩ := ends
  rw [parseValue_param kind (.separator hu mem ts)] at read
  cases read
  exact ⟨rfl, rfl⟩

/-- An insertion of one row with a placeholder for each column. -/
theorem parseStatement_insert {i o n l r v l' r' : Token} {columns fills : List String}
    {names marks : List Token} {s : Statement} (hi : i.isWord "insert") (ho : o.isWord "into")
    (hn : n.kind = .word) (hl : l.isOperator "(") (hnames : Commas NamesColumn columns names)
    (hr : r.isOperator ")") (hv : v.isWord "values") (hl' : l'.isOperator "(")
    (hmarks : Commas (fun _ t => t.kind = .param none) fills marks) (hr' : r'.isOperator ")")
    (parsed : parseStatement
      (i :: o :: n :: l :: (names ++ r :: v :: l' :: (marks ++ [r']))) = some s) :
    n.name? = some n.text ∧
      s = .insert .none n.text (some columns) (some [placeholderRow fills.length]) := by
  have read := parseStatement_of_word parseInsert hi (by simp [statementForms]) parsed
  rw [Token.numberParams_plain (.inr (Token.kind_of_isWord ho)), Token.numberParams_plain (.inr hn),
    Token.numberParams_plain (.inl (Token.kind_of_isOperator hl)),
    hnames.numberParams_words fun _ _ h => h.1,
    Token.numberParams_plain (.inl (Token.kind_of_isOperator hr)),
    Token.numberParams_plain (.inr (Token.kind_of_isWord hv)),
    Token.numberParams_plain (.inl (Token.kind_of_isOperator hl')), numberParams_append,
    Token.numberParams_plain (.inl (Token.kind_of_isOperator hr'))] at read
  simp only [parseInsert, parseOr, keyword_other ho (show "into" ≠ "or" by decide),
    keyword_cons ho, Option.bind_eq_bind, Option.bind_some, Option.bind_eq_some_iff] at read
  obtain ⟨⟨name, rest⟩, table, read⟩ := read
  obtain ⟨_, same, named, -⟩ := parseName_eq_some table
  cases same
  simp only [operator_cons hl, Option.bind_eq_some_iff, Option.map_eq_some_iff] at read
  obtain ⟨_, ⟨⟨cs, rest⟩, list, rfl⟩, read⟩ := read
  obtain ⟨rfl, rfl⟩ := parseParens_commas (f := id)
    (fun _ _ _ _ _ _ h _ read => parseName_column h read) hnames hl hr list
  simp only [keywords, keyword_other hv (show "values" ≠ "default" by decide), keyword_cons hv,
    Option.bind_none, Option.bind_some, Option.bind_eq_some_iff, List.length_cons,
    parseList] at read
  obtain ⟨⟨rows, rest⟩, list, same⟩ := read
  cases same
  split at list
  · cases list
  · rename_i row
    obtain ⟨rfl, rfl⟩ := parseParens_commas (f := Expr.param)
      (fun _ _ _ _ _ _ kind ends read => parseValue_mark kind ends read) (hmarks.numbered []) hl' hr'
      row
    cases list
    cases name?_word hn named
    rw [List.map_id, placeholderRow]
    exact ⟨named, rfl⟩

/-- An insertion of defaults. -/
theorem parseStatement_defaults {i o n d v : Token} {s : Statement} (hi : i.isWord "insert")
    (ho : o.isWord "into") (hn : n.kind = .word) (hd : d.isWord "default") (hv : v.isWord "values")
    (parsed : parseStatement [i, o, n, d, v] = some s) :
    n.name? = some n.text ∧ s = .insert .none n.text none none := by
  have read := parseStatement_of_word parseInsert hi (by simp [statementForms]) parsed
  rw [Token.numberParams_plain (.inr (Token.kind_of_isWord ho)), Token.numberParams_plain (.inr hn),
    Token.numberParams_plain (.inr (Token.kind_of_isWord hd)),
    Token.numberParams_plain (.inr (Token.kind_of_isWord hv))] at read
  simp only [parseInsert, parseOr, keyword_other ho (show "into" ≠ "or" by decide),
    keyword_cons ho, Option.bind_eq_bind, Option.bind_some, Option.bind_eq_some_iff] at read
  obtain ⟨⟨name, rest⟩, table, read⟩ := read
  obtain ⟨_, same, named, -⟩ := parseName_eq_some table
  cases same
  simp only [operator, Token.not_isOperator_of_isWord hd, Bool.false_eq_true, if_false, keywords,
    keyword_cons hd, keyword_cons hv, Option.bind_some] at read
  cases read
  cases name?_word hn named
  exact ⟨named, rfl⟩

/-! ## Texts -/

theorem tokensFrom_close (fuel : Nat) (rest : List Char) :
    tokensFrom (fuel + 1) (')' :: rest) = ⟨.operator, [], ")"⟩ :: tokensFrom fuel rest := by
  have gap : gapLength ((')' :: rest).length + 1) (')' :: rest) = ([] : List Char).length :=
    gapLength_of_not_startsGap (by simp [startsGap, isGap]) _
  exact tokensFrom_succ (w := []) fuel rfl gap (by simp) (nextToken_close rest)

theorem tokensFrom_mark {g : List Char} (hg : isSlim g) {d : Char} (stop : Text.isDigit d = false)
    (fuel : Nat) (rest : List Char) :
    tokensFrom (fuel + 1) (g ++ '?' :: d :: rest) =
      ⟨.param none, g, "?"⟩ :: tokensFrom fuel (d :: rest) := by
  have mark : nextToken ('?' :: d :: rest) = (.param none, 1) := by
    simp [nextToken, stop]
  rw [tokensFrom_succ fuel rfl (gapLength_slim hg (by simp [startsGap, isGap])) (by simp) mark]
  rfl

theorem toList_join (s s' : String) (texts : List String) :
    (Text.join ", " (s :: s' :: texts)).toList =
      s.toList ++ ',' :: ' ' :: (Text.join ", " (s' :: texts)).toList := by
  simp [Text.join]

/-- Items with commas between them, up to the closing parenthesis. -/
theorem tokensFrom_commas {P : String → Token → Prop} {texts : List String} (nonempty : texts ≠ [])
    (reads : ∀ s ∈ texts, ∀ g d rest fuel, isSlim g → d ∈ [',', ')'] → ∃ t, P s t ∧
      tokensFrom (fuel + 1) (g ++ (s.toList ++ d :: rest)) = t :: tokensFrom fuel (d :: rest))
    {g : List Char} (hg : isSlim g) (fuel : Nat) (rest : List Char) :
    ∃ ts, tokensFrom (fuel + 2 * texts.length)
        (g ++ ((Text.join ", " texts).toList ++ ')' :: rest)) =
          ts ++ tokensFrom (fuel + 1) (')' :: rest) ∧ Commas P texts ts := by
  induction texts generalizing g with
  | nil => exact absurd rfl nonempty
  | cons s texts ih =>
    rw [List.forall_mem_cons] at reads
    cases texts with
    | nil =>
      obtain ⟨t, ht, read⟩ := reads.1 g ')' rest (fuel + 1) hg (by simp)
      exact ⟨[t], read, .last ht⟩
    | cons s' texts =>
      obtain ⟨ts, more, commas⟩ := ih (by simp) reads.2 (g := [' ']) (.inr rfl)
      obtain ⟨t, ht, read⟩ := reads.1 g ','
        (' ' :: ((Text.join ", " (s' :: texts)).toList ++ ')' :: rest))
        (fuel + 2 * (s' :: texts).length + 1) hg (by simp)
      have comma := tokensFrom_operator (g := []) (c := ',') (.inl rfl) (by decide)
        (show String.ofList [',', ' '] ∉ pairs by decide) (fuel + 2 * (s' :: texts).length)
        (r := ' ' :: ((Text.join ", " (s' :: texts)).toList ++ ')' :: rest))
      rw [List.nil_append] at comma
      rw [List.singleton_append] at more
      refine ⟨t :: ⟨.operator, [], ","⟩ :: ts, ?_, .cons ht rfl commas⟩
      rw [toList_join, show fuel + 2 * (s :: s' :: texts).length =
        fuel + 2 * (s' :: texts).length + 1 + 1 by simp; omega, List.append_assoc, List.cons_append,
        List.cons_append, read, comma, more]
      rfl

theorem length_join (texts : List String) :
    2 * texts.length ≤ (Text.join ", " texts).toList.length + 2 := by
  induction texts with
  | nil => simp
  | cons s texts ih =>
    cases texts with
    | nil => simp
    | cons s' texts =>
      rw [toList_join]
      simp only [List.length_append, List.length_cons] at ih ⊢
      omega

/-- The tokens of an insertion with a placeholder for each column. -/
theorem tokens_insert {table : String} (name : isIdentifier table) {columns fills : List String}
    (some_ : columns ≠ []) (names : ∀ c ∈ columns, isIdentifier c) (filled : fills ≠ [])
    (marked : ∀ s ∈ fills, s = "?") :
    ∃ ns ms, tokens ("INSERT INTO " ++ table ++ " (" ++ Text.join ", " columns ++ ") VALUES (" ++
        Text.join ", " fills ++ ")") =
        ⟨.word, [], "INSERT"⟩ :: ⟨.word, [' '], "INTO"⟩ :: ⟨.word, [' '], table⟩ ::
          ⟨.operator, [' '], "("⟩ :: (ns ++ ⟨.operator, [], ")"⟩ :: ⟨.word, [' '], "VALUES"⟩ ::
            ⟨.operator, [' '], "("⟩ :: (ms ++ [⟨.operator, [], ")"⟩])) ∧
      Commas NamesColumn columns ns ∧ Commas (fun _ t => t.kind = .param none) fills ms := by
  have text : ("INSERT INTO " ++ table ++ " (" ++ Text.join ", " columns ++ ") VALUES (" ++
      Text.join ", " fills ++ ")").toList =
      "INSERT".toList ++ ' ' :: ("INTO".toList ++ ' ' :: (table.toList ++ ' ' :: '(' ::
        ((Text.join ", " columns).toList ++ ')' :: ' ' :: ("VALUES".toList ++ ' ' :: '(' ::
          ((Text.join ", " fills).toList ++ [')']))))) := by
    simp [String.toList_append]
  have room := length_join columns
  have room' := length_join fills
  -- What is left of the fuel when the text ends.
  obtain ⟨fuel, hfuel⟩ : ∃ fuel, fuel + 2 * fills.length + 2 + 2 * columns.length + 4 =
      table.toList.length + (Text.join ", " columns).toList.length +
        (Text.join ", " fills).toList.length + 26 :=
    ⟨table.toList.length + (Text.join ", " columns).toList.length +
      (Text.join ", " fills).toList.length + 20 - 2 * fills.length - 2 * columns.length, by omega⟩
  obtain ⟨ms, marks, hms⟩ := tokensFrom_commas (P := fun _ t => t.kind = .param none) (by simpa)
    (fun s hs g d rest fuel hg hd => ⟨⟨.param none, g, "?"⟩, rfl, by
      rw [marked s hs]
      exact tokensFrom_mark hg (by rcases List.mem_pair.1 hd with rfl | rfl <;> rfl) fuel rest⟩)
    (.inl rfl) fuel []
  obtain ⟨ns, listed, hns⟩ := tokensFrom_commas (P := NamesColumn) some_
    (fun c hc g d rest fuel hg hd => ⟨⟨.word, g, c⟩, ⟨rfl, rfl⟩, tokensFrom_identifier (names c hc)
      hg (by rcases List.mem_pair.1 hd with rfl | rfl <;> rfl)
      (by rcases List.mem_pair.1 hd with rfl | rfl <;> decide) fuel rest⟩)
    (.inl rfl) (fuel + 2 * fills.length + 2)
    (' ' :: ("VALUES".toList ++ ' ' :: '(' :: ((Text.join ", " fills).toList ++ [')'])))
  have last : tokensFrom fuel [] = [] := by cases fuel <;> simp [tokensFrom]
  refine ⟨ns, ms, ?_, hns, hms⟩
  rw [List.nil_append] at marks listed
  rw [tokens_eq text (fuel + 2 * fills.length + 2 + 2 * columns.length) 4 (by simp; omega),
    tokensFrom_first (by decide), tokensFrom_blank (by decide), tokensFrom_blank name]
  have open_ := tokensFrom_open (g := [' ']) (.inr rfl)
    (fuel + 2 * fills.length + 2 + 2 * columns.length)
  have open_' := tokensFrom_open (g := [' ']) (.inr rfl) (fuel + 2 * fills.length)
  simp only [List.singleton_append] at open_ open_'
  rw [open_, listed, tokensFrom_close, tokensFrom_blank (by decide), open_', marks,
    tokensFrom_close, last]

/-- The tokens of an insertion of defaults. -/
theorem tokens_defaults {table : String} (name : isIdentifier table) :
    tokens ("INSERT INTO " ++ table ++ " DEFAULT VALUES") =
      [⟨.word, [], "INSERT"⟩, ⟨.word, [' '], "INTO"⟩, ⟨.word, [' '], table⟩,
        ⟨.word, [' '], "DEFAULT"⟩, ⟨.word, [' '], "VALUES"⟩] := by
  have text : ("INSERT INTO " ++ table ++ " DEFAULT VALUES").toList =
      "INSERT".toList ++ ' ' :: ("INTO".toList ++ ' ' :: (table.toList ++ ' ' ::
        ("DEFAULT".toList ++ ' ' :: "VALUES".toList))) := by
    simp [String.toList_append]
  rw [tokens_eq text (table.toList.length + 23) 5 (by simp), tokensFrom_first (by decide),
    tokensFrom_blank (by decide), tokensFrom_blank name, tokensFrom_blank (by decide),
    tokensFrom_last (by decide)]

namespace Database

/-- A text without semicolons and names for placeholders is one statement, or it is refused. -/
theorem run_whole (db : Database) (params : List Cell) {text : String} {t : Token}
    {ts : List Token} (read : tokens text = t :: ts)
    (plain : ∀ u ∈ t :: ts, (!u.isOperator ";") = true) (unnamed : ∀ u ∈ t :: ts, u.isUnnamed)
    (other : t.isWord "create" = false) :
    db.run text params = db.refuse ∨
      ∃ s, parseStatement (t :: ts) = some s ∧ db.run text params = db.runStatement params s := by
  rcases db.run_firstPart params t ts [] (by rw [List.append_nil, read]) plain other with
    refused | ⟨s, parsed, run⟩
  · exact .inl refused
  · rw [firstPart, List.takeWhile_nil, List.append_nil] at parsed
    obtain ⟨left, bound⟩ := bind_tokens unnamed params
    exact .inr ⟨s, parsed, run rfl (by rw [List.append_nil, bound])⟩

theorem not_reserved {g : List Char} {name : String}
    (named : (⟨.word, g, name⟩ : Token).name? = some name) : Text.lower name ∉ reserved := by
  intro keyword
  simp [Token.name?, keyword] at named

/-- An insertion of values adds one row, or it is refused. -/
theorem run_insert (db : Database) (params : List Cell) {table : String}
    (name : isIdentifier table) {columns : List String} (some_ : columns ≠ [])
    (names : ∀ c ∈ columns, isIdentifier c) :
    let text := "INSERT INTO " ++ table ++ " (" ++ Text.join ", " columns ++ ") VALUES (" ++
      Text.join ", " (columns.map fun _ => "?") ++ ")"
    db.run text params = db.refuse ∨ Text.lower table ∉ reserved ∧
      db.run text params =
        db.insert params .none table (some columns) (some [placeholderRow columns.length]) := by
  intro text
  obtain ⟨ns, ms, read, listed, marks⟩ :=
    tokens_insert name some_ names (show columns.map (fun _ => "?") ≠ [] by simpa) (by simp)
  have names := listed.plain fun _ _ h => by simp [h.1]
  have fills := marks.plain fun _ _ h => by simp [h]
  have unnamed := And.intro (listed.isUnnamed fun _ _ h => .inl h.1)
    (marks.isUnnamed fun _ _ h => .inr h)
  rcases db.run_whole params read
    (by simpa [or_imp, forall_and, Token.isOperator] using And.intro names fills)
    (by simpa [or_imp, forall_and, Token.isUnnamed] using unnamed) (by decide) with
    refused | ⟨s, parsed, run⟩
  · exact .inl refused
  · right
    obtain ⟨named, rfl⟩ := parseStatement_insert (by decide) (by decide) rfl rfl listed rfl
      (by decide) rfl marks rfl parsed
    rw [run, List.length_map]
    exact ⟨not_reserved named, rfl⟩

/-- An insertion of defaults adds one row, or it is refused. -/
theorem run_insert_default (db : Database) (params : List Cell) {table : String}
    (name : isIdentifier table) :
    let text := "INSERT INTO " ++ table ++ " DEFAULT VALUES"
    db.run text params = db.refuse ∨ Text.lower table ∉ reserved ∧
      db.run text params = db.insert params .none table none none := by
  intro text
  rcases db.run_whole params (tokens_defaults name) (by simp [Token.isOperator])
    (by simp [Token.isUnnamed]) (by decide) with
    refused | ⟨s, parsed, run⟩
  · exact .inl refused
  · right
    obtain ⟨named, rfl⟩ := parseStatement_defaults (by decide) (by decide) rfl (by decide)
      (by decide) parsed
    rw [run]
    exact ⟨not_reserved named, rfl⟩

end Database

end ResourceProvider.Engine
