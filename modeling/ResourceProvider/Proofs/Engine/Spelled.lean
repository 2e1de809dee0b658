import ResourceProvider.Proofs.Engine.Naming
/-!
# What statements of names say

The texts of insertions, updates and removals are read as what they spell, if the table and the
columns in them are bare; what a condition says does not matter to that. With a name that is
reserved they say nothing.
-/
namespace ResourceProvider.Engine

open Schema (isIdentifier)

/-! ## Single statements -/

/-- The statement that the engine reads out of a text, if the text is a single one. -/
def statement? (text : String) : Option Statement :=
  match splitStatements (tokens text) with
  | [ts] => parseStatement ts
  | _ => none

/-- The text is a single query as the engine reads one: of tables that are joined from the left, alone
and with no query inside. -/
def IsQuery (text : String) : Prop :=
  ∃ q, statement? text = some (.select q)

instance (text : String) : Decidable (IsQuery text) :=
  match read : statement? text with
  | some (.select q) => .isTrue ⟨q, read⟩
  | none => .isFalse fun ⟨_, h⟩ => by cases read.symm.trans h
  | some (.createTable _) | some (.addColumn ..) | some (.dropTable ..) | some (.createTrigger ..)
  | some (.dropTrigger ..) | some (.insert ..) | some (.update ..) | some (.delete ..)
  | some (.pragma ..) => .isFalse fun ⟨_, h⟩ => by cases read.symm.trans h

theorem IsQuery.single {text : String} (h : IsQuery text) : IsSingle text := by
  obtain ⟨q, read⟩ := h
  unfold statement? at read
  split at read
  · rename_i ts single
    exact ⟨ts, single⟩
  · cases read

/-- No token of them ends a statement. -/
def IsUncut (ts : List Token) : Prop :=
  ∀ t ∈ ts, (!t.isOperator ";") = true

theorem splitStatements_uncut {t : Token} {ts : List Token} (uncut : IsUncut (t :: ts)) :
    splitStatements (t :: ts) = [t :: ts] := by
  have whole : firstPart (t :: ts) = t :: ts := List.takeWhile_eq_self_iff.2 uncut
  obtain ⟨more, split, last⟩ := splitStatements_firstPart ts
    (by simpa using uncut t (List.mem_cons_self ..))
  rw [split, last whole, whole]

theorem statement?_uncut {text : String} {t : Token} {ts : List Token}
    (read : tokens text = t :: ts) (uncut : IsUncut (t :: ts)) :
    statement? text = parseStatement (t :: ts) := by
  rw [statement?, read, splitStatements_uncut uncut]

/-- A statement that starts with the words of a form says what the reader of that form reads. -/
theorem parseStatement_eq {ts rest : List Token} {ks : List String} (read : Parse Statement)
    (words : keywords ks (numberParams [] ts) = some rest) (known : (ks, read) ∈ statementForms) :
    parseStatement ts = (read rest).bind fun p => if p.2 = [] then some p.1 else none := by
  have reads (s : Statement) : (read rest).bind (fun p => if p.2 = [] then some p.1 else none) =
      some s ↔ read rest = some (s, []) := by
    simp only [Option.bind_eq_some_iff, Option.ite_none_right_eq_some, Option.some.injEq]
    constructor
    · rintro ⟨⟨s', _⟩, said, rfl, rfl⟩
      exact said
    · exact fun said => ⟨(s, []), said, rfl, rfl⟩
  ext s
  rw [reads]
  constructor
  · exact parseStatement_of_words read words known
  · intro said
    cases parsed : parseStatement ts with
    | none =>
      have form := List.findSome?_eq_none_iff.1 parsed (ks, read) known
      simp only [words, said] at form
      cases form
    | some s' =>
      cases said.symm.trans (parseStatement_of_words read words known parsed)
      rfl

theorem parseStatement_word_eq {t : Token} {ts : List Token} {k : String} (read : Parse Statement)
    (word : t.isWord k) (known : ([k], read) ∈ statementForms) :
    parseStatement (t :: ts) = (read (numberParams [] ts)).bind fun p =>
      if p.2 = [] then some p.1 else none := by
  refine parseStatement_eq read ?_ known
  rw [Token.numberParams_plain (.inr (Token.kind_of_isWord word)), keywords, keyword_cons word]
  rfl

/-! ## Insertions -/

/-- Placeholders in parentheses are one row of them. -/
theorem parseRow_marks {α : Type} {fills : List α} {marks : List Token} {l r : Token}
    (hl : l.isOperator "(") (hr : r.isOperator ")")
    (h : Commas (fun _ t => t.kind = .param none) fills marks) :
    parseParens parseValue (l :: (numberParams [] marks ++ [r])) =
      some (placeholderRow fills.length, []) := by
  have reads (k : Nat) (t : Token) (ts : List Token) (kind : t.kind = .param (some (k + 1)))
      (ends : EndsItem ts) :
      parseValue (t :: ts) = if True then some (Expr.param k, ts) else none := by
    obtain ⟨u, rest, rfl, op, mem, hu⟩ := ends
    rw [if_pos trivial]
    exact parseValue_param kind (.separator hu mem rest)
  have row := parseParens_items reads (h.numbered []) hl hr []
  rwa [if_pos fun _ _ => trivial] at row

/-- An insertion of one row with a placeholder for each column says so, if the names are bare. -/
theorem parseStatement_row {table : String} {columns fills : List String}
    {i o n l r v l' r' : Token} {names marks : List Token} (hi : i.isWord "insert")
    (ho : o.isWord "into") (hn : NamesColumn table n) (hl : l.isOperator "(")
    (hnames : Commas NamesColumn columns names) (hr : r.isOperator ")") (hv : v.isWord "values")
    (hl' : l'.isOperator "(") (hmarks : Commas (fun _ t => t.kind = .param none) fills marks)
    (hr' : r'.isOperator ")") :
    parseStatement (i :: o :: n :: l :: (names ++ r :: v :: l' :: (marks ++ [r']))) =
      if IsBare table ∧ ∀ c ∈ columns, IsBare c then
        some (.insert .none table (some columns) (some [placeholderRow fills.length]))
      else none := by
  have reads (n : String) (t : Token) (ts : List Token) (h : NamesColumn n t) (_ : EndsItem ts) :
      parseName (t :: ts) = if IsBare n then some (n, ts) else none := parseName_bare h ts
  have columnsRead := parseParens_names reads hnames hl hr
    (v :: l' :: (numberParams [] marks ++ [r']))
  have row := parseRow_marks hl' hr' hmarks
  have rows : parseList (parseParens parseValue) (l' :: (numberParams [] marks ++ [r'])).length
      (l' :: (numberParams [] marks ++ [r'])) = some ([placeholderRow fills.length], []) := by
    rw [List.length_cons, parseList, row]
    rfl
  rw [parseStatement_word_eq parseInsert hi (by simp [statementForms]),
    Token.numberParams_plain (.inr (Token.kind_of_isWord ho)),
    Token.numberParams_plain (.inr hn.1),
    Token.numberParams_plain (.inl (Token.kind_of_isOperator hl)),
    hnames.numberParams_words fun _ _ h => h.1,
    Token.numberParams_plain (.inl (Token.kind_of_isOperator hr)),
    Token.numberParams_plain (.inr (Token.kind_of_isWord hv)),
    Token.numberParams_plain (.inl (Token.kind_of_isOperator hl')), numberParams_append,
    Token.numberParams_plain (.inl (Token.kind_of_isOperator hr'))]
  simp only [numberParams, parseInsert, parseOr, keyword_other ho (show "into" ≠ "or" by decide),
    keyword_cons ho, parseName_bare hn, Option.bind_eq_bind, Option.bind_some]
  by_cases bare : IsBare table
  · simp only [bare, if_true, Option.bind_some, operator_cons hl, columnsRead, true_and]
    by_cases own : ∀ c ∈ columns, IsBare c
    · simp only [if_pos own, Option.map_some, Option.bind_some, keywords,
        keyword_other hv (show "values" ≠ "default" by decide), Option.bind_none, keyword_cons hv,
        rows]
      rfl
    · simp only [if_neg own, Option.map_none, Option.bind_none]
  · simp only [bare, if_false, Option.bind_none, false_and]

/-- An insertion of defaults says so, if the name of the table is bare. -/
theorem parseStatement_none {table : String} {i o n d v : Token} (hi : i.isWord "insert")
    (ho : o.isWord "into") (hn : NamesColumn table n) (hd : d.isWord "default")
    (hv : v.isWord "values") :
    parseStatement [i, o, n, d, v] =
      if IsBare table then some (.insert .none table none none) else none := by
  have opens : operator "(" [d, v] = none := by
    simp [operator, Token.not_isOperator_of_isWord hd]
  rw [parseStatement_word_eq parseInsert hi (by simp [statementForms]),
    Token.numberParams_plain (.inr (Token.kind_of_isWord ho)),
    Token.numberParams_plain (.inr hn.1), Token.numberParams_plain (.inr (Token.kind_of_isWord hd)),
    Token.numberParams_plain (.inr (Token.kind_of_isWord hv))]
  simp only [numberParams, parseInsert, parseOr, keyword_other ho (show "into" ≠ "or" by decide),
    keyword_cons ho, parseName_bare hn, Option.bind_eq_bind, Option.bind_some]
  by_cases bare : IsBare table
  · simp only [bare, if_true, Option.bind_some, opens, keywords, keyword_cons hd, keyword_cons hv]
    rfl
  · simp only [bare, if_false, Option.bind_none]

/-- The text that adds a row is read as such, if the names in it are bare. -/
theorem statement?_row {table : String} (name : isIdentifier table) {columns : List String}
    (some_ : columns ≠ []) (names : ∀ c ∈ columns, isIdentifier c) :
    statement? ("INSERT INTO " ++ table ++ " (" ++ Text.join ", " columns ++ ") VALUES (" ++
        Text.join ", " (columns.map fun _ => "?") ++ ")") =
      if IsBare table ∧ ∀ c ∈ columns, IsBare c then
        some (.insert .none table (some columns) (some [placeholderRow columns.length]))
      else none := by
  obtain ⟨ns, ms, read, listed, marks⟩ :=
    tokens_insert name some_ names (show columns.map (fun _ => "?") ≠ [] by simpa) (by simp)
  have nouns := listed.plain fun _ _ h => by simp [h.1]
  have fills := marks.plain fun _ _ h => by simp [h]
  rw [statement?_uncut read (by
    simpa [IsUncut, or_imp, forall_and, Token.isOperator] using And.intro nouns fills)]
  refine (parseStatement_row (by decide) (by decide) (namesColumn_word [' '] table) rfl listed rfl
    (by decide) rfl marks rfl).trans ?_
  rw [List.length_map]

theorem statement?_none {table : String} (name : isIdentifier table) :
    statement? ("INSERT INTO " ++ table ++ " DEFAULT VALUES") =
      if IsBare table then some (.insert .none table none none) else none := by
  rw [statement?_uncut (tokens_defaults name) (by simp [IsUncut, Token.isOperator])]
  exact parseStatement_none (by decide) (by decide) (namesColumn_word [' '] table) (by decide)
    (by decide)

/-! ## Conditions -/

/-- The condition that a clause states behind some placeholders; an empty clause states none. -/
def condition? (taken : Nat) (clause : String) : Option (Option Written) :=
  match splitStatements (tokens clause) with
  | [] => some none
  | [ts] => (parseAfter ["where"] (numberParams (List.replicate taken none) ts)).bind fun p =>
    if p.2 = [] then some p.1 else none
  | _ => none

theorem splitStatements_step {t u : Token} {ts us : List Token} {more : List (List Token)}
    (first : (!t.isOperator ";") = true) (next : (!u.isOperator ";") = true)
    (parts : splitStatements (u :: ts) = us :: more) :
    splitStatements (t :: u :: ts) = (t :: us) :: more := by
  rw [Bool.not_eq_true'] at first next
  unfold splitStatements
  rw [parts]
  simp [first, next]

/-- Tokens in front of a statement belong to it. -/
theorem splitStatements_append {t : Token} {pre ts us : List Token} {more : List (List Token)}
    (uncut : IsUncut (t :: pre)) (parts : splitStatements ts = us :: more)
    (starts : ∀ u ∈ ts.head?, (!u.isOperator ";") = true) :
    splitStatements (t :: (pre ++ ts)) = (t :: (pre ++ us)) :: more := by
  induction pre generalizing t with
  | nil =>
    cases ts with
    | nil => cases parts
    | cons u ts => exact splitStatements_step (uncut t (.head _)) (starts u rfl) parts
  | cons t' pre ih =>
    obtain ⟨first, rest⟩ := List.forall_mem_cons.1 uncut
    exact splitStatements_step first (rest t' (.head _)) (ih rest)

/-- A statement that ends in a clause is read with the clause alone. -/
theorem statement?_clause {text clause : String} {t : Token} {pre : List Token}
    (read : tokens text = t :: (pre ++ tokens clause)) (uncut : IsUncut (t :: pre))
    (opens : Opens ["where"] (tokens clause)) {make : Option Written → Statement} {good : Prop}
    [Decidable good] {taken : Nat}
    (parse : ∀ ts, Opens ["where"] ts → parseStatement (t :: (pre ++ ts)) =
      if good then (parseAfter ["where"] (numberParams (List.replicate taken none) ts)).bind fun p =>
        if p.2 = [] then some (make p.1) else none
      else none) :
    statement? text = if good then (condition? taken clause).map make else none := by
  rw [statement?, condition?, read]
  cases clauses : tokens clause with
  | nil =>
    rw [List.append_nil, splitStatements_uncut uncut]
    have said := parse [] (by simp [Opens])
    rw [List.append_nil] at said
    exact said
  | cons w ts =>
    rw [clauses] at opens
    obtain ⟨k, -, word⟩ := opens w rfl
    have starts : w.isOperator ";" = false := Token.not_isOperator_of_isWord word _
    obtain ⟨more, split, -⟩ := splitStatements_firstPart ts starts
    rw [splitStatements_append uncut split (by rintro _ ⟨⟩; simp [starts]), split]
    cases more with
    | nil =>
      refine (parse _ opens.firstPart).trans ?_
      by_cases h : good
      · rw [if_pos h, if_pos h]
        dsimp only
        cases parseAfter ["where"]
          (numberParams (List.replicate taken none) (firstPart (w :: ts))) with
        | none => rfl
        | some p => by_cases spent : p.2 = [] <;> simp [spent]
      · rw [if_neg h, if_neg h]
    | cons => simp

/-! ## Removals and updates -/

/-- A removal says so, if the name of the table is bare and its condition can be read. -/
theorem parseStatement_removal {table : String} {d f n : Token} (hd : d.isWord "delete")
    (hf : f.isWord "from") (hn : NamesColumn table n) {ts : List Token} :
    parseStatement (d :: f :: n :: ts) =
      if IsBare table then (parseAfter ["where"] (numberParams [] ts)).bind fun p =>
        if p.2 = [] then some (.delete table p.1) else none
      else none := by
  rw [parseStatement_word_eq parseDelete hd (by simp [statementForms]),
    Token.numberParams_plain (.inr (Token.kind_of_isWord hf)),
    Token.numberParams_plain (.inr hn.1)]
  simp only [parseDelete, keyword_cons hf, parseName_bare hn, Option.bind_eq_bind, Option.bind_some]
  by_cases bare : IsBare table
  · simp only [bare, if_true, Option.bind_some]
    cases parseAfter ["where"] (numberParams [] ts) <;> rfl
  · simp only [bare, if_false, Option.bind_none]

theorem parseChange_bare {n e m : Token} (hn : n.kind = .word) (he : e.isOperator "=") {k : Nat}
    (hm : m.kind = .param (some (k + 1))) {ts : List Token} (halts : Halts 0 ts) :
    parseChange (n :: e :: m :: ts) =
      if IsBare n.text then some ((n.text, .param k), ts) else none := by
  simp only [parseChange, parseName_bare ⟨hn, rfl⟩, Option.bind_eq_bind]
  by_cases bare : IsBare n.text
  · simp only [bare, if_true, Option.bind_some, operator_cons he, parseValue_param hm halts]
    rfl
  · simp only [bare, if_false, Option.bind_none]

/-- Columns that are set to placeholders are read, if their names are bare. -/
theorem parseList_changes {k : Nat} {cs : List String} {ts : List Token}
    (h : Assigns (some (k + 1)) cs ts) {more : List Token} (opens : Opens ["where"] more)
    {fuel : Nat} (enough : ts.length ≤ fuel) :
    parseList parseChange fuel (ts ++ more) =
      if ∀ c ∈ cs, IsBare c then some (placeholderChanges k cs, more) else none := by
  generalize numbered : some (k + 1) = position at h
  induction h generalizing k fuel with
  | @last p n e m hn he hm =>
    subst numbered
    obtain ⟨fuel, rfl⟩ := Nat.exists_eq_add_of_le' (show 1 ≤ fuel by simp at enough; omega)
    simp only [List.cons_append, List.nil_append, parseList,
      parseChange_bare hn he hm (opens.halts (by decide))]
    by_cases bare : IsBare n.text
    · simp only [bare, if_true, opens.operator, List.mem_singleton, forall_eq]
      rfl
    · simp [bare]
  | @cons p n e m c cs ts hn he hm hc _ ih =>
    subst numbered
    obtain ⟨fuel, rfl⟩ := Nat.exists_eq_add_of_le' (show 1 ≤ fuel by simp at enough; omega)
    have rest := ih (k := k + 1) (show ts.length ≤ fuel by simp at enough; omega) rfl
    simp only [List.cons_append, parseList,
      parseChange_bare hn he hm (.separator hc (by decide) _)]
    by_cases bare : IsBare n.text
    · simp only [bare, if_true, operator_cons hc, rest, List.forall_mem_cons, true_and]
      split <;> rfl
    · simp [bare]

/-- An update says so, if its names are bare and its condition can be read. -/
theorem parseStatement_setting {table : String} {columns : List String} {u n k : Token}
    {assigns : List Token} (hu : u.isWord "update") (hn : NamesColumn table n) (hk : k.isWord "set")
    (ha : Assigns none columns assigns) {ts : List Token} (opens : Opens ["where"] ts) :
    parseStatement (u :: n :: k :: (assigns ++ ts)) =
      if IsBare table ∧ ∀ c ∈ columns, IsBare c then
        (parseAfter ["where"] (numberParams (slotsAfter [] assigns) ts)).bind fun p =>
          if p.2 = [] then some (.update .none table (placeholderChanges 0 columns) p.1) else none
      else none := by
  have enough : (numberParams [] assigns).length ≤
      (numberParams [] assigns ++ numberParams (slotsAfter [] assigns) ts).length := by simp
  have list := parseList_changes (ha.numbered []) (opens.numbered (slotsAfter [] assigns)) enough
  rw [parseStatement_word_eq parseUpdate hu (by simp [statementForms]),
    Token.numberParams_plain (.inr hn.1), Token.numberParams_plain (.inr (Token.kind_of_isWord hk)),
    numberParams_append]
  by_cases bare : IsBare table
  · have policy (ts : List Token) : parseOr (n :: k :: ts) = some (.none, n :: k :: ts) := by
      rw [parseOr, keyword_bare (by decide) hn bare]
    simp only [parseUpdate, policy, parseName_bare hn, bare, if_true, true_and,
      keyword_cons hk, Option.bind_eq_bind, Option.bind_some, list]
    by_cases own : ∀ c ∈ columns, IsBare c
    · simp only [if_pos own, Option.bind_some]
      cases parseAfter ["where"] (numberParams (slotsAfter [] assigns) ts) <;> rfl
    · simp only [if_neg own, Option.bind_none]
  · rw [if_neg fun all => bare all.1, parseUpdate]
    cases policy : parseOr (n :: k :: (numberParams [] assigns ++
        numberParams (slotsAfter [] assigns) ts)) with
    | none => rfl
    | some p =>
      obtain ⟨-, rest⟩ := parseOr_table hk policy
      simp only [Option.bind_eq_bind, Option.bind_some, rest, parseName_bare hn, bare, if_false,
        Option.bind_none]

/-! ## Texts -/

/-- The text that removes rows is read as such, if the name of its table is bare. -/
theorem statement?_removal {table : String} (name : isIdentifier table) {clause : String}
    (clauses : IsClauses ["where"] clause) :
    statement? ("DELETE FROM " ++ table ++ clause) =
      if IsBare table then (condition? 0 clause).map (.delete table) else none := by
  have head : Cuts ("DELETE FROM " ++ table).toList
      [⟨.word, [], "DELETE"⟩, word "FROM", word table] := by
    have text : ("DELETE FROM " ++ table).toList = "DELETE".toList ++ spaced ["FROM", table] := by
      simp [spaced]
    rw [text]
    exact (Cuts.word (g := []) (s := "DELETE") (by decide) (.inl rfl)).append
      (.words (List.forall_mem_cons.2 ⟨by decide, List.forall_mem_singleton.2 name⟩))
      (endsPiece_spaced _)
  have ends : EndsPiece clause.toList := fun c mem => by simp [clauses.head c mem]
  have read : tokens ("DELETE FROM " ++ table ++ clause) =
      ⟨.word, [], "DELETE"⟩ :: ([word "FROM", word table] ++ tokens clause) :=
    head.tokens_append ends
  refine statement?_clause read (by simp [IsUncut, word, Token.isOperator]) (clauses.opens _)
    fun ts _ => ?_
  exact parseStatement_removal (by decide) (by decide) (namesColumn_word [' '] table)

/-- The text that sets columns is read as such, if the names in it are bare. -/
theorem statement?_setting {table : String} (name : isIdentifier table) {columns : List String}
    (some_ : columns ≠ []) (names : ∀ c ∈ columns, isIdentifier c) {clause : String}
    (clauses : IsClauses ["where"] clause) :
    statement? ("UPDATE " ++ table ++ " SET " ++ assignments columns ++ clause) =
      if IsBare table ∧ ∀ c ∈ columns, IsBare c then
        (condition? columns.length clause).map
          (.update .none table (placeholderChanges 0 columns))
      else none := by
  obtain ⟨as, fuel, enough, read, assigns⟩ := tokens_changes name some_ names clause
    fun d mem => by rw [clauses.head d mem]; decide
  rw [tokensFrom_enough enough (Nat.lt_succ_self _), ← tokensOf, ← tokens_eq_tokensOf] at read
  have shape : tokens ("UPDATE " ++ table ++ " SET " ++ assignments columns ++ clause) =
      ⟨.word, [], "UPDATE"⟩ :: ((word table :: word "SET" :: as) ++ tokens clause) := read
  refine statement?_clause shape ?_ (clauses.opens _) fun ts opens => ?_
  · have plain := assigns.plain
    simpa [IsUncut, word, Token.isOperator] using plain
  · have said := parseStatement_setting (u := ⟨.word, [], "UPDATE"⟩) (by decide)
      (namesColumn_word [' '] table) (k := word "SET") (by decide) assigns opens
    rwa [assigns.slotsAfter, List.nil_append] at said

end ResourceProvider.Engine
