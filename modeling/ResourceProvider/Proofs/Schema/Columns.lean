import ResourceProvider.Proofs.Engine.Naming
import ResourceProvider.Proofs.Schema.Counter
/-!
# Columns as the engine reads them

The definition of a column is read clause by clause. A default and a check are SQL that may spell
anything, so it is taken for granted how they are read (`Wording`). Then a column is read as it is
declared if the names in it are bare and it counts in its key, if it counts; otherwise nothing is
read (`Wording.parseColumnSpec_column`).
-/
namespace ResourceProvider.Schema

open Document (Column Reference)
open Engine hiding Column Key Table

/-! ## SQL -/

/-- Tokens that end no statement and hold no placeholder. -/
def IsFixed (ts : List Token) : Prop :=
  ∀ t ∈ ts, (!t.isOperator ";") = true ∧ t.IsPlain

theorem isFixed_append {ts us : List Token} : IsFixed (ts ++ us) ↔ IsFixed ts ∧ IsFixed us :=
  List.forall_mem_append

theorem isFixed_cons {t : Token} {ts : List Token} : IsFixed (t :: ts) ↔
    ((!t.isOperator ";") = true ∧ t.IsPlain) ∧ IsFixed ts :=
  List.forall_mem_cons

theorem isFixed_words (ws : List String) : IsFixed (ws.map word) := by
  simp [IsFixed, word, Token.isOperator]

theorem isFixed_separated {α : Type} {item : List Char → α → List Token} {g : List Char}
    {as : List α} (fixed : ∀ g, ∀ a ∈ as, IsFixed (item g a)) : IsFixed (separated item g as) := by
  fun_induction separated item g as with
  | case1 => simp [IsFixed]
  | case2 g a => exact fixed g a (.head _)
  | case3 g a b as ih =>
    have comma : (⟨.operator, [], ","⟩ : Token).isOperator ";" = false := rfl
    have rest := ih fun g a mem => fixed g a (.tail _ mem)
    simp only [isFixed_append, isFixed_cons, fixed g a (.head _), rest, comma, and_true, true_and]
    exact ⟨rfl, by simp⟩

theorem isFixed_parens (g : List Char) (names : List String) : IsFixed (parens g names) := by
  have inner : IsFixed (nameTokens [] names) :=
    isFixed_separated fun g n _ => by simp [IsFixed, Token.isOperator]
  simp only [parens, isFixed_cons, isFixed_append, inner, true_and]
  exact ⟨⟨rfl, by simp⟩, ⟨rfl, by simp⟩, by simp [IsFixed]⟩

theorem isFixed_targetTokens (g : List Char) (target : Target) :
    IsFixed (targetTokens g target) := by
  exact isFixed_cons.2 ⟨⟨rfl, by simp [word]⟩,
    isFixed_append.2 ⟨isFixed_parens _ _, isFixed_words _⟩⟩

theorem numberParams_fixed {ts : List Token} (fixed : IsFixed ts) (slots : Slots) :
    numberParams slots ts = ts := by
  induction ts with
  | nil => rfl
  | cons t ts ih =>
    obtain ⟨⟨-, mark⟩, rest⟩ := isFixed_cons.1 fixed
    rw [numberParams_cons, mark.numbered, mark.slotsAfter, ih rest]

/-- A condition in parentheses: its tokens, the one that closes it, and what it states. -/
structure Enclosed where
  tokens : List Token
  close : Token
  value : Written

/-- How SQL is read where a table carries it: defaults, checks, and names of constraints. -/
structure Wording where
  default : String → List Token × Written
  check : String → Enclosed
  label : String → Token × String

namespace Wording

variable (w : Wording)

/-- The SQL of a default is read like this, whatever follows it. -/
structure ReadsDefault (text : String) : Prop where
  cut : Cuts (' ' :: text.toList) (w.default text).1
  fixed : IsFixed (w.default text).1
  read : ∀ rest, parseDefault ((w.default text).1 ++ rest) = some ((w.default text).2, rest)

/-- The SQL of a check is read like this between its parentheses. -/
structure ReadsCheck (text : String) : Prop where
  cut : Cuts (' ' :: (text.toList ++ [' ', ')'])) ((w.check text).tokens ++ [(w.check text).close])
  fixed : IsFixed (w.check text).tokens
  close : (w.check text).close.isOperator ")"
  read : ∀ rest, parseValue ((w.check text).tokens ++ (w.check text).close :: rest) =
    some ((w.check text).value, (w.check text).close :: rest)

/-! ## Clauses -/

/-- The target of a reference. -/
def target (r : Reference) : Target :=
  ⟨r.table, [r.column], r.onDelete, r.onUpdate, false⟩

/-- The tokens of a clause. -/
def clause : Clause → List Token
  | .notNull p => ("NOT" :: "NULL" :: conflictWords p).map word
  | .default d => word "DEFAULT" :: (w.default d).1
  | .primaryKey p => ("PRIMARY" :: "KEY" :: conflictWords p).map word
  | .unique p => ("UNIQUE" :: conflictWords p).map word
  | .check e =>
    word "CHECK" :: ⟨.operator, [' '], "("⟩ :: ((w.check e).tokens ++ [(w.check e).close])
  | .autoIncrement => [word "AUTOINCREMENT"]
  | .references r => word "REFERENCES" :: targetTokens [] (target r)

/-- The clause can be cut into its tokens. -/
def ReadsClause : Clause → Prop
  | .default d => w.ReadsDefault d
  | .check e => w.ReadsCheck e
  | .references r => isIdentifier r.table ∧ isIdentifier r.column
  | .notNull _ | .primaryKey _ | .unique _ | .autoIncrement => True

theorem toList_conflictText (p : ConflictPolicy) :
    (conflictText p).toList = spaced (conflictWords p) := by
  cases p <;> rfl

theorem toList_actionsText (onDelete onUpdate : ForeignKeyAction) :
    (actionsText onDelete onUpdate).toList =
      spaced (actionWords "DELETE" onDelete ++ actionWords "UPDATE" onUpdate) := by
  have first : (actionsText onDelete .none).toList = spaced (actionWords "DELETE" onDelete) := by
    cases onDelete <;> rfl
  have second : (actionsText .none onUpdate).toList = spaced (actionWords "UPDATE" onUpdate) := by
    cases onUpdate <;> rfl
  rw [actionsText_eq, String.toList_append, first, second, spaced, spaced, spaced,
    List.flatMap_append]

/-- The text of a target is cut into its tokens; `g` stands in front of its columns. -/
theorem cuts_target {t : Target} (table : isIdentifier t.table)
    (columns : ∀ n ∈ t.columns, isIdentifier n) (nonempty : t.columns ≠ []) {g : List Char}
    (hg : isSlim g) :
    Cuts (' ' :: (t.table.toList ++ (g ++ ((columnList t.columns).toList ++
      (actionsText t.onDelete t.onUpdate).toList)))) (targetTokens g t) := by
  have known (event : String) (own : isIdentifier event) (a : ForeignKeyAction) :
      ∀ w ∈ actionWords event a, isIdentifier w := by
    cases a <;> simp [actionWords, own] <;> decide
  have actions := Cuts.words (List.forall_mem_append.2
    ⟨known "DELETE" (by decide) t.onDelete, known "UPDATE" (by decide) t.onUpdate⟩)
  rw [← toList_actionsText] at actions
  have list : (columnList t.columns).toList =
      '(' :: ((Text.join ", " t.columns).toList ++ [')']) := by
    simp [columnList]
  have behind : EndsPiece (actionsText t.onDelete t.onUpdate).toList := by
    rw [toList_actionsText]
    exact endsPiece_spaced _
  have start : EndsPiece (g ++ '(' :: ((Text.join ", " t.columns).toList ++ [')'])) := by
    rcases hg with rfl | rfl <;> exact endsPiece_cons (by decide) _
  have name : Cuts (' ' :: t.table.toList) [word t.table] := .word table (g := [' ']) (.inr rfl)
  have whole := name.append ((cuts_parens columns nonempty hg).append actions behind)
    (start.append behind)
  rw [list]
  simpa [targetTokens] using whole

/-- A clause is cut into its tokens. -/
theorem cuts_clause {k : Clause} (reads : w.ReadsClause k) :
    Cuts (' ' :: k.text.toList) (w.clause k) := by
  have policy (ws : List String) (known : ∀ s ∈ ws, isIdentifier s) (p : ConflictPolicy) :
      Cuts (spaced ws ++ (conflictText p).toList) ((ws ++ conflictWords p).map word) := by
    rw [toList_conflictText, List.map_append]
    exact (Cuts.words known).append (.words (by cases p <;> decide)) (endsPiece_spaced _)
  unfold Clause.text
  cases k with
  | notNull p => simpa [clause, spaced] using policy ["NOT", "NULL"] (by decide) p
  | primaryKey p =>
    simpa [clause, spaced] using policy ["PRIMARY", "KEY"] (by decide) p
  | unique p => simpa [clause, spaced] using policy ["UNIQUE"] (by decide) p
  | autoIncrement => exact .word (s := "AUTOINCREMENT") (by decide) (g := [' ']) (.inr rfl)
  | default d =>
    have cut := (Cuts.word (s := "DEFAULT") (by decide) (g := [' ']) (.inr rfl)).append
      (ReadsDefault.cut reads) (endsPiece_cons (by decide) _)
    simpa [clause, word] using cut
  | check e =>
    have inner := Cuts.opening (g := [' ']) (.inr rfl) (ReadsCheck.cut reads)
    have cut := (Cuts.word (s := "CHECK") (by decide) (g := [' ']) (.inr rfl)).append
      inner (endsPiece_cons (by decide) _)
    simpa [clause, checkText, word] using cut
  | references r =>
    have names := cuts_target (t := target r) reads.1 (List.forall_mem_singleton.2 reads.2)
      (List.cons_ne_nil _ _) (g := []) (.inl rfl)
    have cut := (Cuts.word (s := "REFERENCES") (by decide) (g := [' ']) (.inr rfl)).append
      names (endsPiece_cons (by decide) _)
    simpa [clause, word, target, columnList, Text.join] using cut

theorem isFixed_check {e : String} (reads : w.ReadsCheck e) :
    IsFixed (⟨.operator, [' '], "("⟩ :: ((w.check e).tokens ++ [(w.check e).close])) := by
  have close := Token.kind_of_isOperator reads.close
  have other : (w.check e).close.isOperator ";" = false := by
    have text := reads.close
    simp only [Token.isOperator, Bool.and_eq_true, decide_eq_true_eq] at text ⊢
    simp [text.2]
  refine isFixed_cons.2 ⟨⟨rfl, by simp⟩, isFixed_append.2 ⟨reads.fixed, ?_⟩⟩
  exact isFixed_cons.2 ⟨⟨by simp [other], Token.isPlain_of_kind (.inl close)⟩, by simp [IsFixed]⟩

theorem isFixed_clause {k : Clause} (reads : w.ReadsClause k) : IsFixed (w.clause k) := by
  have plain (s : String) : (!(word s).isOperator ";") = true ∧ (word s).IsPlain :=
    ⟨rfl, Token.isPlain_word _ s⟩
  cases k with
  | notNull p | primaryKey p | unique p => exact isFixed_words _
  | autoIncrement => exact isFixed_words ["AUTOINCREMENT"]
  | default d => exact isFixed_cons.2 ⟨plain _, ReadsDefault.fixed reads⟩
  | check e => exact isFixed_cons.2 ⟨plain _, w.isFixed_check reads⟩
  | references r => exact isFixed_cons.2 ⟨plain _, isFixed_targetTokens _ _⟩

/-! ## Rules -/

/-- What a list of clauses says. A key says that its column counts if that comes right behind it,
and nowhere else can it be said. -/
def rules? : List Clause → Option (List ColumnRule)
  | [] => some []
  | .notNull p :: ks => (rules? ks).map (.notNull p :: ·)
  | .default d :: ks => (rules? ks).map (.default (w.default d).2 :: ·)
  | .primaryKey p :: .autoIncrement :: ks => (rules? ks).map (.primaryKey false p true :: ·)
  | .primaryKey p :: ks => (rules? ks).map (.primaryKey false p false :: ·)
  | .unique p :: ks => (rules? ks).map (.unique p :: ·)
  | .check e :: ks => (rules? ks).map
    (.check (checkLabel none (w.check e).tokens) (w.check e).value :: ·)
  | .autoIncrement :: _ => none
  | .references r :: ks =>
    if IsBare r.table ∧ IsBare r.column then (rules? ks).map (.references (target r) :: ·) else none

theorem clause_head (k : Clause) :
    ∃ t rest, w.clause k = t :: rest ∧ ∃ head ∈ clauseHeads, t.isWord head := by
  cases k <;> exact ⟨_, _, rfl, by decide⟩

theorem endsRule_clauses (ks : List Clause) {ts : List Token} (ends : EndsItem ts) :
    EndsRule (ks.flatMap w.clause ++ ts) := by
  cases ks with
  | nil => exact .inl ends
  | cons k ks =>
    obtain ⟨t, rest, same, head⟩ := w.clause_head k
    rw [List.flatMap_cons, same]
    exact .inr ⟨t, _, rfl, head⟩

/-- A check is read with its label: its own name, or the text of its condition. -/
theorem parseCheck_enclosed {e : String} (reads : w.ReadsCheck e) (name : Option String)
    (ts : List Token) :
    parseCheck name (⟨.operator, [' '], "("⟩ :: ((w.check e).tokens ++ (w.check e).close :: ts)) =
      some ((checkLabel name (w.check e).tokens, (w.check e).value), ts) := by
  have opens : (⟨.operator, [' '], "("⟩ : Token).isOperator "(" := rfl
  have condition : ((w.check e).tokens ++ (w.check e).close :: ts).take
      (((w.check e).tokens ++ (w.check e).close :: ts).length -
        ((w.check e).close :: ts).length) = (w.check e).tokens := by
    rw [List.length_append, Nat.add_sub_cancel, List.take_left]
  rw [parseCheck, operator_cons opens]
  simp only [reads.read ts, operator_cons reads.close, Option.map_some, condition]

/-- The rule of a clause, with what is left of the tokens behind it. -/
def rule? (ts : List Token) : Clause → Option (ColumnRule × List Token)
  | .notNull p => some (.notNull p, ts)
  | .default d => some (.default (w.default d).2, ts)
  | .primaryKey p =>
    let (auto, ts) := optionalKeywords ["autoincrement"] ts
    some (.primaryKey false p auto, ts)
  | .unique p => some (.unique p, ts)
  | .check e => some (.check (checkLabel none (w.check e).tokens) (w.check e).value, ts)
  | .autoIncrement => none
  | .references r =>
    if IsBare r.table ∧ IsBare r.column then some (.references (target r), ts) else none

theorem parseColumnRule_clause {k : Clause} (reads : w.ReadsClause k) {ts : List Token}
    (ends : EndsRule ts) : parseColumnRule none (w.clause k ++ ts) = w.rule? ts k := by
  cases k with
  | notNull p =>
    have read : parseColumnRule none (w.clause (.notNull p) ++ ts) =
        (parseConflict ((conflictWords p).map word ++ ts)).map fun p => (.notNull p.1, p.2) := rfl
    rw [read, parseConflict_words p ends]
    rfl
  | default d =>
    have read : parseColumnRule none (w.clause (.default d) ++ ts) =
        (parseDefault ((w.default d).1 ++ ts)).map fun p => (.default p.1, p.2) := rfl
    rw [read, ReadsDefault.read reads]
    rfl
  | primaryKey p =>
    have read : parseColumnRule none (w.clause (.primaryKey p) ++ ts) =
        let (descending, us) := parseDirection ((conflictWords p).map word ++ ts)
        (parseConflict us).map fun q =>
          let (auto, us) := optionalKeywords ["autoincrement"] q.2
          (.primaryKey descending q.1 auto, us) := rfl
    have absent (k : String) (other : k ∉ "on" :: clauseHeads) :
        keyword k ((conflictWords p).map word ++ ts) = none := by
      cases p with
      | none => exact ends.keyword fun mem => other (.tail _ mem)
      | rollback | abort | fail | ignore | replace =>
        have on : (word "ON").isWord "on" := by decide
        exact keyword_other on (fun same => other (same ▸ .head _)) _
    have plain : parseDirection ((conflictWords p).map word ++ ts) =
        (false, (conflictWords p).map word ++ ts) := by
      simp [parseDirection, optionalKeywords, keywords, absent "asc" (by decide),
        absent "desc" (by decide)]
    rw [read]
    simp only [plain, parseConflict_words p ends]
    rfl
  | unique p =>
    have read : parseColumnRule none (w.clause (.unique p) ++ ts) =
        (parseConflict ((conflictWords p).map word ++ ts)).map fun p => (.unique p.1, p.2) := rfl
    rw [read, parseConflict_words p ends]
    rfl
  | check e =>
    have read : parseColumnRule none (w.clause (.check e) ++ ts) =
        (parseCheck none (⟨.operator, [' '], "("⟩ :: ((w.check e).tokens ++ [(w.check e).close] ++
          ts))).map fun p => (.check p.1.1 p.1.2, p.2) := rfl
    rw [read, List.append_assoc, List.singleton_append, w.parseCheck_enclosed reads]
    rfl
  | autoIncrement => rfl
  | references r =>
    have read : parseColumnRule none (w.clause (.references r) ++ ts) =
        (parseTarget (targetTokens [] (target r) ++ ts)).map fun p => (.references p.1, p.2) := rfl
    rw [read, parseTarget_tokens [] _ (List.cons_ne_nil _ _) rfl ends]
    simp only [target, List.mem_singleton, forall_eq, rule?]
    split <;> rfl

theorem length_clauses (ks : List Clause) : ks.length ≤ (ks.flatMap w.clause).length := by
  induction ks with
  | nil => exact Nat.le_refl _
  | cons k ks ih =>
    obtain ⟨t, rest, same, -⟩ := w.clause_head k
    simp only [List.flatMap_cons, same, List.length_append, List.length_cons]
    omega

/-- A clause is read, then those that follow it. -/
theorem parseColumnRules_cons {k : Clause} (reads : w.ReadsClause k) (ks : List Clause)
    {ts : List Token} (ends : EndsItem ts) (fuel : Nat) :
    parseColumnRules (fuel + 1) none ((k :: ks).flatMap w.clause ++ ts) =
      (w.rule? (ks.flatMap w.clause ++ ts) k).bind fun p =>
        (parseColumnRules fuel none p.2).map fun q => (p.1 :: q.1, q.2) := by
  have first := w.parseColumnRule_clause reads (w.endsRule_clauses ks ends)
  obtain ⟨t, rest, same, head⟩ := w.clause_head k
  rw [List.flatMap_cons, List.append_assoc, ← first, same, List.cons_append]
  have starts : EndsRule (t :: (rest ++ (ks.flatMap w.clause ++ ts))) := .inr ⟨t, _, rfl, head⟩
  obtain ⟨k', -, word⟩ := head
  have more : endsDefinition (t :: (rest ++ (ks.flatMap w.clause ++ ts))) = false := by
    simp [endsDefinition, operator, Token.not_isOperator_of_isWord word]
  rw [parseColumnRules, parseConstraintName, starts.keyword (by decide)]
  simp only [more, Bool.false_eq_true, if_false]
  cases parseColumnRule none (t :: (rest ++ (ks.flatMap w.clause ++ ts))) <;> rfl

/-- A clause that does not say that its column counts is not taken for one that does. -/
theorem optionalKeywords_counter {ks : List Clause} (other : ∀ ls, ks ≠ .autoIncrement :: ls)
    {ts : List Token} (ends : EndsItem ts) :
    optionalKeywords ["autoincrement"] (ks.flatMap w.clause ++ ts) =
      (false, ks.flatMap w.clause ++ ts) := by
  have absent : keyword "autoincrement" (ks.flatMap w.clause ++ ts) = none := by
    cases ks with
    | nil => exact ends.keyword _
    | cons k ks =>
      cases k with
      | autoIncrement => exact absurd rfl (other ks)
      | notNull | default | primaryKey | unique | check | references => rfl
  simp [optionalKeywords, keywords, absent]

/-- Clauses are read one after another, up to the end of the definition. -/
theorem parseColumnRules_clauses {ks : List Clause} (reads : ∀ k ∈ ks, w.ReadsClause k)
    {ts : List Token} (ends : EndsItem ts) {fuel : Nat} (enough : ks.length < fuel) :
    parseColumnRules fuel none (ks.flatMap w.clause ++ ts) =
      (w.rules? ks).map fun rules => (rules, ts) := by
  -- One case for each clause; behind a key there may be the word that its column counts.
  fun_induction rules? w ks generalizing fuel with
  | case1 =>
    obtain ⟨fuel, rfl⟩ := Nat.exists_eq_add_of_le' (show 1 ≤ fuel by omega)
    have behind : endsDefinition ts = true := by
      obtain ⟨t, rest, rfl, op, mem, ht⟩ := ends
      rcases List.mem_pair.1 mem with rfl | rfl <;> simp [endsDefinition, operator_cons ht]
    rw [List.flatMap_nil, List.nil_append, parseColumnRules, parseConstraintName,
      ends.keyword "constraint"]
    simp only [behind, if_true, Option.map_some]
  | case2 p ks ih | case3 d ks ih | case6 p ks ih | case7 e ks ih =>
    rw [List.forall_mem_cons] at reads
    obtain ⟨fuel, rfl⟩ := Nat.exists_eq_add_of_le' (show 1 ≤ fuel by omega)
    have rest := ih reads.2 (Nat.succ_lt_succ_iff.1 enough)
    simp only [w.parseColumnRules_cons reads.1 ks ends, rule?, Option.bind_some, rest]
    cases w.rules? ks <;> rfl
  | case4 p ks ih =>
    rw [List.forall_mem_cons, List.forall_mem_cons] at reads
    obtain ⟨fuel, rfl⟩ := Nat.exists_eq_add_of_le' (show 1 ≤ fuel by omega)
    have rest := ih reads.2.2 (show ks.length < fuel by simp at enough; omega)
    have counts : optionalKeywords ["autoincrement"]
        ((.autoIncrement :: ks).flatMap w.clause ++ ts) = (true, ks.flatMap w.clause ++ ts) := rfl
    simp only [w.parseColumnRules_cons reads.1 _ ends, rule?, Option.bind_some, counts, rest]
    cases w.rules? ks <;> rfl
  | case5 p ks other ih =>
    rw [List.forall_mem_cons] at reads
    obtain ⟨fuel, rfl⟩ := Nat.exists_eq_add_of_le' (show 1 ≤ fuel by omega)
    have rest := ih reads.2 (Nat.succ_lt_succ_iff.1 enough)
    simp only [w.parseColumnRules_cons reads.1 ks ends, rule?, Option.bind_some,
      w.optionalKeywords_counter other ends, rest]
    cases w.rules? ks <;> rfl
  | case8 ks =>
    obtain ⟨fuel, rfl⟩ := Nat.exists_eq_add_of_le' (show 1 ≤ fuel by omega)
    rw [w.parseColumnRules_cons (reads _ (.head _)) ks ends]
    rfl
  | case9 r ks bare ih =>
    rw [List.forall_mem_cons] at reads
    obtain ⟨fuel, rfl⟩ := Nat.exists_eq_add_of_le' (show 1 ≤ fuel by omega)
    have rest := ih reads.2 (Nat.succ_lt_succ_iff.1 enough)
    simp only [w.parseColumnRules_cons reads.1 ks ends, rule?, if_pos bare, Option.bind_some, rest]
    cases w.rules? ks <;> rfl
  | case10 r ks bare =>
    obtain ⟨fuel, rfl⟩ := Nat.exists_eq_add_of_le' (show 1 ≤ fuel by omega)
    rw [w.parseColumnRules_cons (reads _ (.head _)) ks ends, rule?, if_neg bare]
    rfl

/-! ## Columns -/

/-- What a column is declared with. -/
def columnRules (c : Column) (isKey : Bool) : List ColumnRule :=
  (c.notNull.map .notNull).toList ++
  (c.default.map fun d => .default (w.default d).2).toList ++
  (if isKey then [.primaryKey false (c.primaryKey.getD .none) c.autoIncrement] else []) ++
  (c.unique.map .unique).toList ++
  (c.check.map fun e => .check (checkLabel none (w.check e).tokens) (w.check e).value).toList ++
  (c.references.map fun r => .references (target r)).toList

theorem rules?_lead (c : Column) (ks : List Clause) :
    w.rules? (keyLead c ++ ks) = (w.rules? ks).map fun rules =>
      (c.notNull.map .notNull).toList ++
        (c.default.map fun d => .default (w.default d).2).toList ++ rules := by
  unfold keyLead
  cases c.notNull <;> cases c.default <;> simp [rules?, Function.comp_def]

theorem rules?_gap (c : Column) (ks : List Clause) :
    w.rules? (keyGap c ++ ks) = (w.rules? ks).map fun rules =>
      (c.unique.map .unique).toList ++ (c.check.map fun e =>
        .check (checkLabel none (w.check e).tokens) (w.check e).value).toList ++ rules := by
  unfold keyGap
  cases c.unique <;> cases c.check <;> simp [rules?, Function.comp_def]

theorem rules?_key (p : ConflictPolicy) {ks : List Clause}
    (other : ∀ ls, ks ≠ .autoIncrement :: ls) :
    w.rules? (.primaryKey p :: ks) = (w.rules? ks).map (.primaryKey false p false :: ·) := by
  rw [rules?]
  exact other

/-- A reference names a table and a column. -/
def referenceNames (r : Option Reference) : List String :=
  match r with
  | some r => [r.table, r.column]
  | none => []

theorem rules?_references (r : Option Reference) :
    w.rules? (r.map .references).toList =
      if ∀ n ∈ referenceNames r, IsBare n then some (r.map fun r => .references (target r)).toList
      else none := by
  cases r with
  | none => simp [rules?, referenceNames]
  | some r =>
    simp [rules?, referenceNames]

/-- The clauses of a column say what it is declared with, if the names in them are bare and nothing
stands between its key and the word that it counts. -/
theorem rules?_columnClauses {c : Column} {isKey : Bool} (key : c.autoIncrement → isKey) :
    w.rules? (columnClauses c isKey) =
      if (∀ n ∈ referenceNames c.references, IsBare n) ∧ (c.autoIncrement → keyGap c = []) then
        some (w.columnRules c isKey)
      else none := by
  have shape : columnClauses c isKey = keyLead c ++
      ((if isKey then [.primaryKey (c.primaryKey.getD .none)] else []) ++ (keyGap c ++
        ((if c.autoIncrement then [.autoIncrement] else []) ++
          (c.references.map .references).toList))) := by
    simp [columnClauses, keyLead, keyGap]
  -- A clause in the gap keeps the key apart from what says that the column counts.
  have apart {ks : List Clause} (first : keyGap c = [] → ∀ ls, ks ≠ .autoIncrement :: ls) :
      ∀ ls, keyGap c ++ ks ≠ .autoIncrement :: ls := by
    intro ls
    cases gap : keyGap c with
    | nil => exact first gap ls
    | cons k more =>
      have other : Clause.autoIncrement ∉ keyGap c := by simp [keyGap]
      rintro ⟨⟩
      exact other (gap ▸ .head _)
  have references : ∀ ls, (c.references.map Clause.references).toList ≠ .autoIncrement :: ls := by
    cases c.references <;> simp
  rw [shape, rules?_lead]
  cases counts : c.autoIncrement with
  | false =>
    cases isKey with
    | false =>
      simp only [Bool.false_eq_true, if_false, List.nil_append, rules?_gap, rules?_references,
        false_implies, and_true, columnRules]
      split <;> simp
    | true =>
      have key := w.rules?_key (c.primaryKey.getD .none) (apart fun _ => references)
      simp only [Bool.false_eq_true, if_true, if_false, List.nil_append, List.singleton_append, key,
        rules?_gap, rules?_references, false_implies, and_true, columnRules, counts]
      split <;> simp
  | true =>
    obtain rfl := key counts
    by_cases gap : keyGap c = []
    · obtain ⟨unique, check⟩ := keyGap_eq_nil_iff.1 gap
      simp only [if_true, List.singleton_append, gap, List.nil_append, rules?, rules?_references,
        implies_true, and_true, columnRules, counts, unique, check]
      split <;> simp
    · have other : ∀ ls, keyGap c ++ .autoIncrement :: (c.references.map .references).toList ≠
          .autoIncrement :: ls := apart fun none => absurd none gap
      have key := w.rules?_key (c.primaryKey.getD .none) other
      simp only [if_true, List.singleton_append, key, rules?_gap, rules?, Option.map_none,
        gap, true_implies, and_false, if_false]

/-- The tokens of the definition of a column; `g` is the gap before its name. -/
def column (g : List Char) (c : Column) (isKey : Bool) : List Token :=
  ⟨.word, g, c.name⟩ :: word c.type.name :: (columnClauses c isKey).flatMap w.clause

/-- What the definition of a column declares. -/
def columnSpec (c : Column) (isKey : Bool) : ColumnSpec :=
  ⟨c.name, c.type.name, w.columnRules c isKey⟩

/-- The names that the definition of a column holds. -/
def columnNames (c : Column) : List String :=
  c.name :: referenceNames c.references

/-- The names in the definition are bare, and nothing keeps the key of the column apart from the
word that it counts. -/
def IsReadable (c : Column) : Prop :=
  (∀ n ∈ columnNames c, IsBare n) ∧ (c.autoIncrement → keyGap c = [])

instance (c : Column) : Decidable (IsReadable c) :=
  inferInstanceAs (Decidable ((∀ n ∈ columnNames c, IsBare n) ∧ (c.autoIncrement → keyGap c = [])))

/-- How the SQL in the definition of a column is read, and that its names are words. -/
structure ReadsColumn (c : Column) : Prop where
  name : isIdentifier c.name
  clauses : ∀ isKey, ∀ k ∈ columnClauses c isKey, w.ReadsClause k

theorem cuts_clauses {ks : List Clause} (reads : ∀ k ∈ ks, w.ReadsClause k) :
    Cuts (Text.marked " ".toList (fun k : Clause => k.text.toList) ks) (ks.flatMap w.clause) ∧
      EndsPiece (Text.marked " ".toList (fun k : Clause => k.text.toList) ks) := by
  induction ks with
  | nil => exact ⟨.nil, by simp [EndsPiece, Text.marked]⟩
  | cons k ks ih =>
    rw [List.forall_mem_cons] at reads
    obtain ⟨rest, behind⟩ := ih reads.2
    have whole := (w.cuts_clause reads.1).append rest behind
    refine ⟨?_, endsPiece_cons (by decide) _⟩
    simpa [Text.marked] using whole

theorem cuts_column {c : Column} (reads : w.ReadsColumn c) (isKey : Bool) {g : List Char}
    (hg : isSlim g) : Cuts (g ++ (columnText c isKey).toList) (w.column g c isKey) := by
  obtain ⟨clauses, behind⟩ := w.cuts_clauses (reads.clauses isKey)
  have type : Cuts (' ' :: c.type.name.toList) [word c.type.name] :=
    .word (by cases c.type <;> decide) (g := [' ']) (.inr rfl)
  have whole := (Cuts.word reads.name hg).append (type.append clauses behind)
    (endsPiece_cons (by decide) _)
  rw [toList_columnText]
  simpa [column] using whole

theorem isFixed_column {c : Column} (reads : w.ReadsColumn c) (isKey : Bool) (g : List Char) :
    IsFixed (w.column g c isKey) := by
  have clauses : IsFixed ((columnClauses c isKey).flatMap w.clause) := by
    simp only [IsFixed, List.mem_flatMap]
    rintro t ⟨k, mem, ht⟩
    exact w.isFixed_clause (reads.clauses isKey k mem) t ht
  refine isFixed_cons.2 ⟨⟨rfl, by simp⟩, isFixed_cons.2 ⟨⟨rfl, by simp [word]⟩, clauses⟩⟩

theorem parseType_name (type : DataType) {ts : List Token} (ends : EndsRule ts) (fuel : Nat) :
    parseType (fuel + 1) (word type.name :: ts) = (type.name, ts) := by
  have behind : parseType fuel ts = ("", ts) := by
    cases fuel with
    | zero => rfl
    | succ fuel =>
      cases ts with
      | nil => rfl
      | cons t ts => simp [parseType, ends.name?]
  have first : parseType (fuel + 1) (word type.name :: ts) =
      (if (parseType fuel ts).1 = "" then type.name
        else type.name ++ " " ++ (parseType fuel ts).1, (parseType fuel ts).2) := by
    cases type <;> rfl
  rw [first, behind]
  rfl

/-- The definition of a column is read as it is declared, or not at all. -/
theorem parseColumnSpec_column {c : Column} (reads : w.ReadsColumn c) {isKey : Bool}
    (key : c.autoIncrement → isKey) (g : List Char) {ts : List Token} (ends : EndsItem ts) :
    parseColumnSpec (w.column g c isKey ++ ts) =
      if IsReadable c then some (w.columnSpec c isKey, ts) else none := by
  have clauses := w.endsRule_clauses (columnClauses c isKey) ends
  have enough : (columnClauses c isKey).length <
      ((columnClauses c isKey).flatMap w.clause ++ ts).length.succ := by
    have long := w.length_clauses (columnClauses c isKey)
    rw [List.length_append]
    omega
  have rules := w.parseColumnRules_clauses (reads.clauses isKey) ends enough
  rw [w.rules?_columnClauses key] at rules
  have shape : w.column g c isKey ++ ts = ⟨.word, g, c.name⟩ :: word c.type.name ::
      ((columnClauses c isKey).flatMap w.clause ++ ts) := rfl
  rw [shape, parseColumnSpec, parseName_bare (namesColumn_word g c.name)]
  by_cases bare : IsBare c.name
  · rw [if_pos bare]
    simp only [List.length_cons, parseType_name c.type clauses, rules]
    have same : IsReadable c ↔ (∀ n ∈ referenceNames c.references, IsBare n) ∧
        (c.autoIncrement → keyGap c = []) := by
      simp [IsReadable, columnNames, bare]
    simp only [same]
    split <;> rfl
  · rw [if_neg bare, if_neg fun all => bare (all.1 _ (.head _))]

end Wording

end ResourceProvider.Schema
