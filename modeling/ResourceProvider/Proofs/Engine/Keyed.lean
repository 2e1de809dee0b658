import ResourceProvider.Proofs.Engine.Insertion
import ResourceProvider.Proofs.Engine.Numbered
import ResourceProvider.Proofs.Engine.Setting
import ResourceProvider.Proofs.Json.Scan
/-!
# Rows that are looked up by their numbers

A query for all columns of a table, by the equation of one column with a placeholder, is read and
run as it is meant. Where the column is the one of the rowid, and the parameter spells the number of
a row, it gives that row and no other (`run_key`).
-/
namespace ResourceProvider.Engine

open Schema (isIdentifier)

/-! ## Queries by a condition -/

/-- A query for all columns of one table by a condition, without other clauses. -/
def whereQuery (table : String) (e : Written) : Query :=
  ⟨[.all], [⟨table, none, false, none⟩], some e, [], none, [], none, none⟩

/-- The scope of the condition of a query on one table: its columns are aliases of themselves. -/
def queryScope (table : String) (t : Table) : Scope :=
  ⟨[⟨table, t, 0⟩], (Source.outputs ⟨table, t, 0⟩).filterMap fun o =>
    o.alias?.map fun a => (a, o.value), false⟩

/-- Without sort terms things stay in their order. -/
theorem sortByKeys_unsorted {α : Type} (xs : List α) :
    sortByKeys (xs.map fun x => (([] : List SortKey), x)) = xs := by
  have none : (xs.map fun x => (([] : List SortKey), x)).Pairwise
      fun a b => compareKeys a.1 b.1 ≠ .gt := by
    rw [List.pairwise_map]
    exact List.pairwise_of_forall fun _ _ => by simp [compareKeys]
  rw [sortByKeys, List.mergeSort_of_pairwise (none.imp fun h => decide_eq_true h), List.map_map]
  exact List.map_id xs

/-- A query by a condition gives the rows that fulfil it, in the order in which they are visited. -/
theorem runQuery_where {db : Database} {params : List Cell} {table : String} {t : Table}
    (found : db.table? table = some t) {e : Written} {x : Expr Place}
    (resolved : (queryScope table t).resolve e = some x) {q : Row → Bool}
    (holds : ∀ r ∈ t.rows, x.holdsAt ⟨params, r.places, []⟩ = some (q r)) :
    ∃ rows : List Row, rows.Perm (t.rows.filter q) ∧
      runQuery db params (whereQuery table e) = some (rows.map t.named) := by
  have plain := outputs_plain ⟨table, t, 0⟩
  have scope : (⟨[⟨table, t, 0⟩], (Source.outputs ⟨table, t, 0⟩).filterMap fun o =>
      o.alias?.map fun a => (a, o.value), false⟩ : Scope) = queryScope table t := rfl
  simp only [runQuery, whereQuery, sourcesFrom, found, Option.getD_none, Option.map_some,
    Option.bind_eq_bind, Option.bind_some, Option.pure_def, List.mapM_cons, List.mapM_nil,
    itemOutputs, List.isEmpty_cons, Bool.false_eq_true, if_false, List.flatMap_cons,
    List.flatMap_nil, List.append_nil, List.flatten_cons, List.flatten_nil, plain, scope, resolved,
    limitOf, joinConditions, List.zip_cons_cons, List.zip_nil_right, joinAll, Source.grouping,
    Source.wanted, Table.groupOrder?, List.any_nil, Option.isSome_none, Bool.false_and, ne_eq,
    not_true_eq_false, decide_false, Bool.or_false, List.drop_zero, if_true, Option.bind_none]
  generalize seen : t.visited _ = visited
  have perm : visited.Perm t.rows := seen ▸ t.visited_perm _
  refine ⟨visited.filter q, perm.filter q, ?_⟩
  have kept : (visited.map Row.places).filterM (fun row => x.holdsAt ⟨params, row, []⟩) =
      some ((visited.filter q).map Row.places) := by
    rw [filterM_of_some (q := fun row => (x.holdsAt ⟨params, row, []⟩).getD false), List.filter_map]
    · refine congrArg (fun rows => some (rows.map Row.places)) (List.filter_congr fun r hr => ?_)
      simp [holds r (perm.mem_iff.1 hr)]
    · intro row hrow
      obtain ⟨r, hr, rfl⟩ := List.mem_map.1 hrow
      simp [holds r (perm.mem_iff.1 hr)]
  have keyed (envs : List Env) : envs.mapM (fun env =>
      (keysAt env []).bind fun keys => some (keys, env)) = some (envs.map fun env => ([], env)) :=
    mapM_eq_map fun _ _ => rfl
  rw [kept, Option.bind_some, keyed, Option.bind_some, sortByKeys_unsorted, List.mapM_map,
    List.mapM_map, List.mapM_map]
  exact mapM_eq_map fun r _ => outputs_eval table t params r [r.places]

/-! ## Wording -/

/-- The column of a name equals the first parameter. -/
def keyCondition (key : String) : Written :=
  .compare .eq (.column ⟨none, key, false⟩) (.param 0)

theorem Halts.equals {t : Token} (h : t.isOperator "=") (ts : List Token) : Halts 4 (t :: ts) := by
  have text : t.kind = .operator ∧ t.text = "=" := by simpa [Token.isOperator] using h
  have absent (k : String) : keyword k (t :: ts) = none := by
    simp [keyword, Token.isWord, text.1]
  refine ⟨fun level above => ⟨?_, fun _ => parseSuffix_eq_none fun k _ => absent k⟩, absent _⟩
  rintro u ⟨⟩
  have symbol : symbolOf level t = none := by
    unfold symbolOf
    rw [if_neg (by simp [text.1])]
    split <;> first | rfl | (exfalso; omega) | simp_all
  have word : wordOf level t = none := by
    unfold wordOf
    split <;> simp [Token.isWord, text.1]
  simp [joins, symbol, word]

/-- What stands for a name is no keyword. -/
theorem not_isWord_of_name? {t : Token} {name : String} (named : t.name? = some name) {k : String}
    (hk : k ∈ reserved) : t.isWord k = false := by
  cases word : t.isWord k with
  | false => rfl
  | true =>
    simp only [Token.isWord, Bool.and_eq_true, decide_eq_true_eq] at word
    simp [Token.name?, word.1, word.2, hk] at named

/-- A word that is read as a column wherever a condition in parentheses may start. -/
def isColumnWord (name : String) : Bool :=
  Text.lower name ∉ "with" :: expressionWords ++ reserved

/-- The token is a word that is read as a column. -/
structure Token.NamesOperand (t : Token) : Prop where
  word : t.kind = .word
  reads : isColumnWord t.text

namespace Token.NamesOperand

variable {t : Token}

theorem name? (h : t.NamesOperand) : t.name? = some t.text := by
  have plain := h.reads
  simp only [isColumnWord, List.cons_append, List.mem_cons, List.mem_append, decide_eq_true_eq,
    not_or] at plain
  simp [Token.name?, h.word, plain.2.2]

theorem startsExpression (h : t.NamesOperand) : t.startsExpression = false := by
  have plain := h.reads
  simp only [isColumnWord, List.cons_append, List.mem_cons, List.mem_append, decide_eq_true_eq,
    not_or] at plain
  simp [Token.startsExpression, plain.2.1]

theorem not_with (h : t.NamesOperand) : t.isWord "with" = false := by
  have plain := h.reads
  simp only [isColumnWord, List.cons_append, List.mem_cons, List.mem_append, decide_eq_true_eq,
    not_or] at plain
  simp [Token.isWord, plain.1]

end Token.NamesOperand

/-- Such a word is a column, as it stands alone. -/
theorem parsePrimary_column {n t : Token} {ts : List Token} (names : n.NamesOperand)
    (dot : t.isOperator "." = false) (call : t.isOperator "(" = false) (fuel : Nat) :
    parsePrimary (fuel + 1) (n :: t :: ts) = some (.column ⟨none, n.text, false⟩, t :: ts) := by
  have other := not_isWord_of_name? names.name? (k := "null") (by decide)
  simp [parsePrimary, names.word, other, names.startsExpression, names.name?, operator, dot, call]

/-- A column, an equals sign and a placeholder are a comparison. -/
theorem parseExpr_key {n e m r : Token} (names : n.NamesOperand) (he : e.isOperator "=")
    (hm : m.kind = .param (some 1)) (hr : r.isOperator ")") (fuel : Nat) :
    parseExpr (fuel + 11) 0 [n, e, m, r] = some (keyCondition n.text, [r]) := by
  have plain (op : String) : n.isOperator op = false :=
    Token.not_isOperator_of_kind (by simp [names.word]) op
  have name := names.name?
  have column : parseExpr (fuel + 7) 4 [n, e, m, r] =
      some (.column ⟨none, n.text, false⟩, [e, m, r]) := by
    have read : parsePrimary (fuel + 2) [n, e, m, r] =
        some (.column ⟨none, n.text, false⟩, [e, m, r]) :=
      parsePrimary_column names (Token.not_isOperator_of_ne he (by decide))
        (Token.not_isOperator_of_ne he (by decide)) (fuel + 1)
    have starts : StartsOperand n := ⟨plain _, plain _, not_isWord_of_name? name (by decide)⟩
    refine (parseExpr_operand (n := fuel + 1) starts 4 (by decide) fun a rest h => ?_).trans read
    rw [read] at h
    cases h
    exact .equals he _
  have param : parseExpr (fuel + 6) 4 [m, r] = some (.param 0, [r]) := by
    have read : parsePrimary (fuel + 1) [m, r] = some (.param 0, [r]) := by
      simp [parsePrimary, hm]
    have starts : StartsOperand m :=
      ⟨Token.not_isOperator_of_kind (by simp [hm]) _, Token.not_isOperator_of_kind (by simp [hm]) _,
        by simp [Token.isWord, hm]⟩
    refine (parseExpr_operand (n := fuel) starts 4 (by decide) fun a rest h => ?_).trans read
    rw [read] at h
    cases h
    exact (Halts.separator hr (by decide) _).mono (by decide)
  have stops (level : Nat) : Stops level [r] :=
    (Halts.separator hr (by decide) _).stops level (by omega)
  have join : (symbolOf 3 e).or (wordOf 3 e) = some (.compare .eq) := by
    have text : e.kind = .operator ∧ e.text = "=" := by simpa [Token.isOperator] using he
    simp [symbolOf, text]
  have compared : parseMore (fuel + 7) 3 (.column ⟨none, n.text, false⟩) [e, m, r] =
      some (keyCondition n.text, [r]) := by
    simp only [parseMore, join, param]
    exact parseMore_stops (stops 3) (fuel + 4) _
  rw [parseExpr_level (by decide) (by decide), parseExpr_level (by decide) (by decide),
    parseExpr_not (not_isWord_of_name? name (by decide)), parseExpr_level (by decide) (by decide),
    column, Option.bind_some, compared, Option.bind_some, parseMore_stops (stops 1),
    Option.bind_some, parseMore_stops (stops 0)]

/-- The comparison stands in parentheses. -/
theorem parseValue_key {l n e m r : Token} (hl : l.isOperator "(") (names : n.NamesOperand)
    (he : e.isOperator "=") (hm : m.kind = .param (some 1)) (hr : r.isOperator ")") :
    parseValue [l, n, e, m, r] = some (keyCondition n.text, []) := by
  have text : l.kind = .operator ∧ l.text = "(" := by simpa [Token.isOperator] using hl
  have read : parsePrimary (110 + 1) [l, n, e, m, r] = some (keyCondition n.text, []) := by
    have query : startsQuery [n, e, m, r] = false := by
      simp [startsQuery, keyword, names.not_with]
    simp only [parsePrimary, text, query, decide_true, Bool.not_false, Bool.and_self, if_true,
      parseExpr_key names he hm hr 99, operator_cons hr, Option.map_some]
  have starts : StartsOperand l :=
    ⟨Token.not_isOperator_of_ne hl (by decide), Token.not_isOperator_of_ne hl (by decide),
      by simp [Token.isWord, text.1]⟩
  refine (parseExpr_operand (n := 110) starts 8 (by decide) fun a rest h => ?_).trans read
  rw [read] at h
  cases h
  exact .nil

/-- A query for all columns of a table by the column of a name. -/
theorem parseQuery_key {s f t w l n e m r : Token} (hs : s.isOperator "*") (hf : f.isWord "from")
    (ht : t.name? = some t.text) (hw : w.isWord "where") (hl : l.isOperator "(")
    (names : n.NamesOperand) (he : e.isOperator "=") (hm : m.kind = .param (some 1))
    (hr : r.isOperator ")") :
    parseQuery [s, f, t, w, l, n, e, m, r] =
      some (whereQuery t.text (keyCondition n.text), []) := by
  have item : parseItem [s, f, t, w, l, n, e, m, r] = some (.all, [f, t, w, l, n, e, m, r]) := by
    rw [parseItem, operator_cons hs]
  have word : optionalKeywords ["all"] [s, f, t, w, l, n, e, m, r] =
      (false, [s, f, t, w, l, n, e, m, r]) := by
    simp [optionalKeywords, keywords, keyword, Token.isWord, Token.kind_of_isOperator hs]
  have comma : operator "," [f, t, w, l, n, e, m, r] = none := by
    simp [operator, Token.not_isOperator_of_isWord hf]
  have clause : Opens clauseWords [w, l, n, e, m, r] := fun _ same =>
    ⟨"where", by decide, Option.some.inj same ▸ hw⟩
  have tables : parseFrom [f, t, w, l, n, e, m, r] =
      some ([⟨t.text, none, false, none⟩], [w, l, n, e, m, r]) := by
    simp [parseFrom, keyword_cons hf, parseTableName, parseName, ht, parseAlias_clause clause,
      parseJoins_clause clause]
  simp only [parseQuery, word, List.length_cons, parseList, item, comma, Option.bind_eq_bind,
    tables, parseAfter, keywords, keyword_cons hw, parseValue_key hl names he hm hr,
    Option.map_some, Option.bind_some]
  rfl

theorem parseStatement_key {k s f t w l n e m r : Token} (hk : k.isWord "select")
    (hs : s.isOperator "*") (hf : f.isWord "from") (ht : t.kind = .word)
    (table : t.name? = some t.text) (hw : w.isWord "where") (hl : l.isOperator "(")
    (names : n.NamesOperand) (he : e.isOperator "=") (hm : m.kind = .param none)
    (hr : r.isOperator ")") :
    parseStatement [k, s, f, t, w, l, n, e, m, r] =
      some (.select (whereQuery t.text (keyCondition n.text))) := by
  have numbered : numberParams [] [k, s, f, t, w, l, n, e, m, r] =
      [k, s, f, t, w, l, n, e, m.numbered [], r] := by
    rw [Token.numberParams_plain (.inr (Token.kind_of_isWord hk)),
      Token.numberParams_plain (.inl (Token.kind_of_isOperator hs)),
      Token.numberParams_plain (.inr (Token.kind_of_isWord hf)), Token.numberParams_plain (.inr ht),
      Token.numberParams_plain (.inr (Token.kind_of_isWord hw)),
      Token.numberParams_plain (.inl (Token.kind_of_isOperator hl)),
      Token.numberParams_plain (.inr names.word),
      Token.numberParams_plain (.inl (Token.kind_of_isOperator he)), numberParams_cons,
      Token.numberParams_plain (.inl (Token.kind_of_isOperator hr)), numberParams]
  have query := parseQuery_key hs hf table hw hl names he (Token.numbered_param hm []).1 hr
  simp only [parseStatement, numbered, statementForms, List.findSome?_cons, keywords,
    keyword_cons hk, Option.bind_some, query, Option.map_some]

/-- The tokens of a query by the column of a name. -/
theorem tokens_key {table key : String} (htable : isIdentifier table) (hkey : isIdentifier key) :
    tokens ("SELECT * FROM " ++ table ++ " WHERE (" ++ key ++ "=?)") =
      [⟨.word, [], "SELECT"⟩, ⟨.operator, [' '], "*"⟩, ⟨.word, [' '], "FROM"⟩,
        ⟨.word, [' '], table⟩, ⟨.word, [' '], "WHERE"⟩, ⟨.operator, [' '], "("⟩, ⟨.word, [], key⟩,
        ⟨.operator, [], "="⟩, ⟨.param none, [], "?"⟩, ⟨.operator, [], ")"⟩] := by
  have text : ("SELECT * FROM " ++ table ++ " WHERE (" ++ key ++ "=?)").toList =
      "SELECT".toList ++ ' ' :: '*' :: ' ' :: ("FROM".toList ++ ' ' :: (table.toList ++ ' ' ::
        ("WHERE".toList ++ ' ' :: '(' :: (key.toList ++ '=' :: '?' :: ')' :: [])))) := by
    simp [String.toList_append]
  have opening := tokensFrom_open (g := [' ']) (.inr rfl)
    (table.toList.length + key.toList.length + 20) (key.toList ++ '=' :: '?' :: ')' :: [])
  have name := tokensFrom_identifier hkey (g := []) (.inl rfl) (d := '=') (by decide) (by decide)
    (table.toList.length + key.toList.length + 19) ('?' :: ')' :: [])
  have equals := tokensFrom_operator (g := []) (c := '=') (r := '?' :: ')' :: []) (.inl rfl)
    (by decide) (by decide) (table.toList.length + key.toList.length + 18)
  have mark := tokensFrom_mark (g := []) (.inl rfl) (d := ')') rfl
    (table.toList.length + key.toList.length + 17) []
  rw [List.singleton_append] at opening
  rw [List.nil_append] at name equals mark
  rw [tokens_eq text (table.toList.length + key.toList.length + 21) 5 (by simp; omega),
    tokensFrom_first (by decide), tokensFrom_star, tokensFrom_blank (by decide),
    tokensFrom_blank htable, tokensFrom_blank (by decide), opening, name, equals, mark,
    tokensFrom_close]
  simp [tokensFrom]

/-- A text without semicolons and names for placeholders that is read is run. -/
theorem Database.run_parsed (db : Database) (params : List Cell) {text : String} {t : Token}
    {ts : List Token} {s : Statement} (read : tokens text = t :: ts)
    (plain : ∀ u ∈ t :: ts, (!u.isOperator ";") = true) (unnamed : ∀ u ∈ t :: ts, u.isUnnamed)
    (parsed : parseStatement (t :: ts) = some s) :
    db.run text params = db.runStatement params s := by
  have whole : firstPart (t :: ts) = t :: ts := List.takeWhile_eq_self_iff.2 plain
  rw [List.forall_mem_cons, Bool.not_eq_true'] at plain
  obtain ⟨more, split, rest⟩ := splitStatements_firstPart ts plain.1
  have single : splitStatements (tokens text) = [t :: ts] := by
    rw [read, split, rest whole, whole]
  obtain ⟨left, bound⟩ := bind_tokens unnamed params
  rw [db.run_single params single, parsed, bound]

/-! ## Numbers of rows -/

theorem isGap_of_isDigit {c : Char} (h : Text.isDigit c) : isGap c = false := by
  simp only [Text.isDigit, isGap, Bool.and_eq_true, Char.le_def, UInt32.le_iff_toNat_le,
    Bool.or_eq_false_iff, Bool.and_eq_false_iff, decide_eq_true_eq, decide_eq_false_iff_not,
    ← Char.toNat_inj, Char.toNat_val, Char.reduceToNat] at *
  omega

/-- The digits of a number spell it, if it has 64 bits. -/
theorem numberOfText?_toString {n : Int} (nonneg : 0 ≤ n) (small : n < 0x8000000000000000) :
    numberOfText? (toString n) = some (.int n) := by
  obtain ⟨k, rfl⟩ := Int.eq_ofNat_of_zero_le nonneg
  have digits : ∀ c ∈ Nat.toDigits 10 k, Text.isDigit c := fun c hc =>
    Text.isDigit_of_mem_toDigits hc
  obtain ⟨d, ds, written, digit⟩ := Json.toDigits_eq_cons k
  have solid : (Nat.toDigits 10 k).dropWhile isGap = Nat.toDigits 10 k := by
    rw [written]
    exact List.dropWhile_cons_of_neg (by simp [isGap_of_isDigit digit])
  have unsigned : scanSign (Nat.toDigits 10 k) = (false, Nat.toDigits 10 k) := by
    rw [written]
    unfold scanSign
    split
    · rename_i same
      cases same
      cases digit
    · rename_i same
      cases same
      cases digit
    · rfl
  have all : (Nat.toDigits 10 k).takeWhile Text.isDigit = Nat.toDigits 10 k :=
    List.takeWhile_eq_self_iff.2 digits
  have none : (Nat.toDigits 10 k).dropWhile Text.isDigit = [] :=
    List.dropWhile_eq_nil_iff.2 digits
  have fits_ : fits k := by
    simp [fits]
    omega
  have scanned : scanNumeric (Nat.toDigits 10 k) = some (.int k, []) := by
    simp [scanNumeric, unsigned, all, none, scanPoint, scanExponent, Text.decimalValue_toDigits,
      fits_, Nat.toDigits_ne_nil]
  rw [numberOfText?, Text.toList_toString, solid, scanned]
  rfl

theorem resolve_key (table : String) {key : String} {t : Table} {i : Nat}
    (place : t.columnIndex? key = some i) :
    (queryScope table t).resolve (keyCondition key) =
      some (.compare .eq (.column ⟨i, t.affinityAt i⟩) (.param 0)) := by
  simp [keyCondition, Scope.resolve, Scope.lookup, queryScope, Source.place?, place,
    Expr.aggregated, Expr.parts]

/-- An integer equals a text that spells it. -/
theorem holdsAt_key {r : Row} {i : Nat} {m n : Int} (here : r.cells[i]? = some (.int m))
    {digits : String} (spelled : numberOfText? digits = some (.int n)) :
    (Expr.compare .eq (.column ⟨i, .integer⟩) (.param 0)).holdsAt
      ⟨[.text digits], r.places, []⟩ = some (decide (m = n)) := by
  have cell : r.places[i]? = some (.int m) := by
    rw [Row.places, List.getElem?_append_left (List.getElem?_eq_some_iff.1 here).1]
    exact here
  have order : compareAs (.column ⟨i, .integer⟩) (.param 0) (.int m) (.text digits) =
      compare m n := by
    simp [compareAs, Expr.affinity, convertOperands, convertOperands.byOne, Affinity.isNumeric,
      Affinity.apply, spelled, Cell.compareBy]
  simp [Expr.holdsAt, Expr.eval, cell, order, Comparison.holds, Table.truth_ofTruth]

/-- Only one row has the number of a row. -/
theorem filter_rowid {rows : List Row} (ordered : rows.Pairwise fun r s => r.rowid < s.rowid)
    {r : Row} (hr : r ∈ rows) : (rows.filter fun s => s.rowid = r.rowid) = [r] := by
  induction rows with
  | nil => cases hr
  | cons s rows ih =>
    rw [List.pairwise_cons] at ordered
    rcases List.mem_cons.1 hr with rfl | later
    · have others : (rows.filter fun s => s.rowid = r.rowid) = [] := by
        refine List.filter_eq_nil_iff.2 fun s hs => ?_
        have after := ordered.1 s hs
        simp only [decide_eq_true_eq]
        omega
      rw [List.filter_cons_of_pos (by simp), others]
    · have before := ordered.1 r later
      rw [List.filter_cons_of_neg (by simp only [decide_eq_true_eq]; omega), ih ordered.2 later]

namespace Database

/-- A row is looked up by the digits of its number. -/
theorem run_key {db : Database} (numbered : db.Numbered) {table key : String}
    (htable : isIdentifier table) (hkey : isIdentifier key)
    (table_free : Text.lower table ∉ reserved) (key_free : isColumnWord key) {t : Table}
    (found : db.table? table = some t) {k : RowidKey} (rowid : t.rowidKey = some k)
    (place : t.columnIndex? key = some k.column) {r : Row} (hr : r ∈ t.rows) {digits : String}
    (spelled : numberOfText? digits = some (.int r.rowid)) :
    db.run ("SELECT * FROM " ++ table ++ " WHERE (" ++ key ++ "=?)") [.text digits] =
      (db, .ok ⟨0, [t.named r]⟩) := by
  have table_numbered : t.Numbered := Keeps.table? numbered found
  have integer := table_numbered.integer k rowid
  have holds (s : Row) (hs : s ∈ t.rows) :
      (Expr.compare .eq (.column ⟨k.column, .integer⟩) (.param 0)).holdsAt
        ⟨[.text digits], s.places, []⟩ = some (decide (s.rowid = r.rowid)) :=
    holdsAt_key (table_numbered.rows s hs k rowid integer) spelled
  have resolved := resolve_key table place
  rw [integer] at resolved
  obtain ⟨rows, perm, answer⟩ := runQuery_where found resolved holds
  rw [filter_rowid table_numbered.ordered hr, List.perm_singleton] at perm
  have parsed : parseStatement _ = some (.select (whereQuery table (keyCondition key))) :=
    parseStatement_key (k := ⟨.word, [], "SELECT"⟩) (s := ⟨.operator, [' '], "*"⟩)
      (f := ⟨.word, [' '], "FROM"⟩) (t := ⟨.word, [' '], table⟩) (w := ⟨.word, [' '], "WHERE"⟩)
      (l := ⟨.operator, [' '], "("⟩) (n := ⟨.word, [], key⟩) (e := ⟨.operator, [], "="⟩)
      (m := ⟨.param none, [], "?"⟩) (r := ⟨.operator, [], ")"⟩) (by decide) (by decide) (by decide)
      rfl (by simp [Token.name?, table_free]) (by decide) rfl ⟨rfl, key_free⟩ rfl rfl rfl
  rw [db.run_parsed _ (tokens_key htable hkey) (by simp [Token.isOperator])
    (by simp [Token.isUnnamed]) parsed, runStatement, answer, perm]
  rfl

end Database

end ResourceProvider.Engine
