import ResourceProvider.Proofs.Engine.Spelled
import ResourceProvider.Proofs.Schema.Columns
import ResourceProvider.Proofs.Schema.Fragments
/-!
# Tables as the engine reads them

The statement that creates a table is read definition by definition. It is read as the table is
declared if all names in it are bare where they stand and no column has its key apart from the word
that it counts (`Wording.declaration?_createText`). Otherwise it is refused, or what is read has
fewer columns than the table.
-/
namespace ResourceProvider.Schema

open Document (Column Key Check ForeignKey)
open Engine hiding Column Key Table Statement

namespace Wording

variable (w : Wording)

/-! ## Constraints -/

/-- The tokens of a constraint, behind its name if it has one; `g` is the gap before them. -/
def named (g : List Char) (name : Option String) (first : String) (rest : List Token) :
    List Token :=
  match name with
  | some n => ⟨.word, g, "CONSTRAINT"⟩ :: (w.label n).1 :: word first :: rest
  | none => ⟨.word, g, first⟩ :: rest

/-- The word that a constraint starts with. -/
def head : Constraint → String
  | .primaryKey _ => "PRIMARY"
  | .check _ => "CHECK"
  | .unique _ => "UNIQUE"
  | .foreignKey _ => "FOREIGN"

/-- The tokens behind that word. -/
def tail : Constraint → List Token
  | .primaryKey k =>
    word "KEY" :: (parens [' '] k.columns ++ (conflictWords k.onConflict).map word)
  | .check c =>
    ⟨.operator, [' '], "("⟩ :: ((w.check c.expression).tokens ++ [(w.check c.expression).close])
  | .unique k => parens [' '] k.columns ++ (conflictWords k.onConflict).map word
  | .foreignKey k => word "KEY" :: (parens [' '] k.columns ++ word "REFERENCES" ::
    targetTokens [' '] ⟨k.table, k.referenced, k.onDelete, k.onUpdate, false⟩)

/-- The tokens of a constraint. -/
def constraint (g : List Char) (k : Constraint) : List Token :=
  w.named g k.name? (head k) (w.tail k)

/-- What a constraint declares. -/
def tableRule : Constraint → TableRule
  | .primaryKey k => .primaryKey k.columns k.onConflict
  | .check c =>
    .check (checkLabel (c.name.map fun n => (w.label n).2) (w.check c.expression).tokens)
      (w.check c.expression).value
  | .unique k => .unique k.columns k.onConflict
  | .foreignKey k => .foreignKey k.columns ⟨k.table, k.referenced, k.onDelete, k.onUpdate, false⟩

/-- The name of a constraint is one token. -/
structure ReadsLabel (name : String) : Prop where
  cut : Cuts (' ' :: name.toList) [(w.label name).1]
  fixed : IsFixed [(w.label name).1]
  read : (w.label name).1.name? = some (w.label name).2

/-- How the SQL of a constraint is read, and that its names are words. -/
structure ReadsConstraint (k : Constraint) : Prop where
  label : ∀ n, k.name? = some n → w.ReadsLabel n
  sql : match k with
    | .check c => w.ReadsCheck c.expression
    | .primaryKey k | .unique k => IsNameList k.columns
    | .foreignKey k => IsNameList k.columns ∧ isIdentifier k.table ∧ IsNameList k.referenced

/-- The names that a constraint holds. -/
def constraintNames : Constraint → List String
  | .check _ => []
  | .primaryKey k | .unique k => k.columns
  | .foreignKey k => k.columns ++ k.table :: k.referenced

/-- The columns of a key, where expressions could stand. -/
def indexedNames : Constraint → List String
  | .check _ | .foreignKey _ => []
  | .primaryKey k | .unique k => k.columns

/-- The names in the constraint are bare, and those in a key start no expression. -/
def IsBareRule (k : Constraint) : Prop :=
  (∀ n ∈ constraintNames k, IsBare n) ∧ ∀ n ∈ indexedNames k, Text.lower n ∉ expressionWords

instance : DecidablePred IsBareRule :=
  fun k => inferInstanceAs (Decidable ((∀ n ∈ constraintNames k, IsBare n) ∧
    ∀ n ∈ indexedNames k, Text.lower n ∉ expressionWords))

/-- A list of columns is cut into its tokens. -/
theorem cuts_columnList {names : List String} (list : IsNameList names) :
    Cuts (' ' :: (columnList names).toList) (parens [' '] names) := by
  have cut := cuts_parens list.2 list.1 (g := [' ']) (.inr rfl)
  simpa [columnList] using cut

/-- A list of columns with a policy. -/
theorem cuts_key {k : Key} (list : IsNameList k.columns) :
    Cuts (' ' :: ((columnList k.columns).toList ++ (conflictText k.onConflict).toList))
      (parens [' '] k.columns ++ (conflictWords k.onConflict).map word) := by
  rw [toList_conflictText]
  exact (cuts_columnList list).append (.words (by cases k.onConflict <;> decide))
    (endsPiece_spaced _)

theorem cuts_named {name : Option String} (label : ∀ n, name = some n → w.ReadsLabel n)
    {first : String} (known : isIdentifier first) {rest : List Char} {ts : List Token}
    (more : Cuts rest ts) (behind : EndsPiece rest) {g : List Char} (hg : isSlim g) :
    Cuts (g ++ ((constraintName name).toList ++ (first.toList ++ rest)))
      (w.named g name first ts) := by
  cases name with
  | none =>
    have whole := (Cuts.word known hg).append more behind
    simpa [constraintName, named] using whole
  | some n =>
    have tail := (Cuts.word known (g := [' ']) (.inr rfl)).append more behind
    have whole := (Cuts.word (s := "CONSTRAINT") (by decide) hg).append
      ((label n rfl).cut.append tail (endsPiece_cons (by decide) _)) (endsPiece_cons (by decide) _)
    simpa [constraintName, named, word] using whole

theorem cuts_constraint {k : Constraint} (reads : w.ReadsConstraint k) {g : List Char}
    (hg : isSlim g) : Cuts (g ++ k.text.toList) (w.constraint g k) := by
  have blank (cs : List Char) : EndsPiece (' ' :: cs) := endsPiece_cons (by decide) cs
  have known : isIdentifier (head k) := by cases k <;> (rw [head]; decide)
  have key : Cuts " KEY".toList [word "KEY"] :=
    .word (s := "KEY") (by decide) (.inr rfl) (g := [' '])
  have whole {cs : List Char} (more : Cuts cs (w.tail k)) (behind : EndsPiece cs) :=
    w.cuts_named reads.label known more behind hg
  cases k with
  | primaryKey k =>
    have cut := whole (key.append (cuts_key reads.sql) (blank _)) (blank _)
    simpa [Constraint.text, Constraint.name?, constraint, head] using cut
  | check c =>
    have cut := whole (.opening (g := [' ']) (.inr rfl) (ReadsCheck.cut reads.sql)) (blank _)
    simpa [Constraint.text, Constraint.name?, constraint, head, checkText] using cut
  | unique k =>
    have cut := whole (cuts_key reads.sql) (blank _)
    simpa [Constraint.text, Constraint.name?, constraint, head] using cut
  | foreignKey k =>
    have references : Cuts " REFERENCES".toList [word "REFERENCES"] :=
      .word (s := "REFERENCES") (by decide) (.inr rfl) (g := [' '])
    have target := cuts_target (t := ⟨k.table, k.referenced, k.onDelete, k.onUpdate, false⟩)
      reads.sql.2.1 reads.sql.2.2.2 reads.sql.2.2.1 (g := [' ']) (.inr rfl)
    have cut := whole (key.append ((cuts_columnList reads.sql.1).append
      (references.append target (blank _)) (blank _)) (blank _)) (blank _)
    simpa [Constraint.text, Constraint.name?, constraint, head] using cut

theorem isFixed_constraint {k : Constraint} (reads : w.ReadsConstraint k) (g : List Char) :
    IsFixed (w.constraint g k) := by
  have plain (g : List Char) (s : String) : (!(⟨.word, g, s⟩ : Token).isOperator ";") = true ∧
      (⟨.word, g, s⟩ : Token).IsPlain :=
    ⟨rfl, Token.isPlain_word g s⟩
  have key (columns : List String) (p : ConflictPolicy) :
      IsFixed (parens [' '] columns ++ (conflictWords p).map word) :=
    isFixed_append.2 ⟨isFixed_parens _ _, isFixed_words _⟩
  have rest : IsFixed (w.tail k) := by
    cases k with
    | primaryKey k => exact isFixed_cons.2 ⟨plain _ _, key _ _⟩
    | unique k => exact key _ _
    | check c => exact w.isFixed_check reads.sql
    | foreignKey k =>
      exact isFixed_cons.2 ⟨plain _ _, isFixed_append.2 ⟨isFixed_parens _ _,
        isFixed_cons.2 ⟨plain _ _, isFixed_targetTokens _ _⟩⟩⟩
  unfold constraint named
  split
  · rename_i n name
    have label := isFixed_cons.1 (reads.label n name).fixed
    exact isFixed_cons.2 ⟨plain _ _, isFixed_cons.2 ⟨label.1, isFixed_cons.2 ⟨plain _ _, rest⟩⟩⟩
  · exact isFixed_cons.2 ⟨plain _ _, rest⟩

theorem parseConstraintName_named {name : Option String}
    (label : ∀ n, name = some n → w.ReadsLabel n) (first : String)
    (other : Text.lower first ≠ "constraint") (g : List Char) (ts us : List Token) :
    ∃ g', parseConstraintName none (w.named g name first ts ++ us) =
      some (name.map fun n => (w.label n).2, ⟨.word, g', first⟩ :: (ts ++ us)) := by
  cases name with
  | none =>
    refine ⟨g, ?_⟩
    simp [named, parseConstraintName, keyword, Token.isWord, other]
  | some n =>
    have read : keyword "constraint" (w.named g (some n) first ts ++ us) =
        some ((w.label n).1 :: word first :: (ts ++ us)) :=
      keyword_cons (t := word "CONSTRAINT") (by decide) _
    refine ⟨[' '], ?_⟩
    rw [parseConstraintName, read]
    simp [parseName, (label n rfl).read, word]

/-- The gap before a word does not matter to what it says. -/
theorem parseTableRule_word (name : Option String) (g : List Char) (s : String) (ts : List Token) :
    parseTableRule name (⟨.word, g, s⟩ :: ts) = parseTableRule name (word s :: ts) := rfl

/-- What follows the name of a constraint is read, if the names in it are bare. -/
theorem parseTableRule_tail {k : Constraint} (reads : w.ReadsConstraint k) (g : List Char)
    {ts : List Token} (ends : EndsItem ts) :
    parseTableRule (k.name?.map fun n => (w.label n).2)
        (⟨.word, g, head k⟩ :: (w.tail k ++ ts)) =
      if IsBareRule k then some (w.tableRule k, ts) else none := by
  rw [parseTableRule_word]
  -- Keys of both kinds: names in parentheses, then what to do where rows clash.
  have key {columns : List String} (nonempty : columns ≠ []) (p : ConflictPolicy)
      (make : List String → ConflictPolicy → TableRule) :
      ((parseParens parseIndexedColumn
          (parens [' '] columns ++ (conflictWords p).map word ++ ts)).bind fun key =>
        (parseConflict key.2).map fun policy => (make key.1 policy.1, policy.2)) =
        if (∀ n ∈ columns, IsBare n) ∧ ∀ n ∈ columns, Text.lower n ∉ expressionWords then
          some (make columns p, ts)
        else none := by
    rw [List.append_assoc, parseParens_parens (fun _ _ _ h => parseIndexedColumn_bare h) nonempty]
    simp only [forall_isIndexable_iff]
    by_cases bare : (∀ n ∈ columns, IsBare n) ∧ ∀ n ∈ columns, Text.lower n ∉ expressionWords
    · simp only [if_pos bare, Option.bind_some, parseConflict_words p (.inl ends), Option.map_some]
    · simp only [if_neg bare, Option.bind_none]
  cases k with
  | primaryKey k =>
    exact (parseTableRule_primaryKey _ _).trans (key reads.sql.1 k.onConflict .primaryKey)
  | unique k => exact (parseTableRule_unique _ _).trans (key reads.sql.1 k.onConflict .unique)
  | check c =>
    have policy : parseConflict ts = some (.none, ts) := parseConflict_words .none (.inl ends)
    have condition := w.parseCheck_enclosed reads.sql (c.name.map fun n => (w.label n).2) ts
    refine (parseTableRule_check _ _).trans ?_
    rw [if_pos (by simp [IsBareRule, constraintNames, indexedNames]), tail, List.cons_append,
      List.append_assoc, List.singleton_append, Constraint.name?, condition, Option.bind_some,
      policy]
    rfl
  | foreignKey k =>
    let target : Target := ⟨k.table, k.referenced, k.onDelete, k.onUpdate, false⟩
    have references (ts : List Token) : keyword "references" (word "REFERENCES" :: ts) = some ts :=
      keyword_cons (by decide) ts
    have targetRead := parseTarget_tokens [' '] target reads.sql.2.2.1 rfl (.inl ends)
    have columns := parseParens_parens (fun _ _ _ h => parseKeyColumn_bare h) reads.sql.1.1 [' ']
      (word "REFERENCES" :: targetTokens [' '] target ++ ts)
    have shape : w.tail (.foreignKey k) ++ ts = word "KEY" :: (parens [' '] k.columns ++
        (word "REFERENCES" :: targetTokens [' '] target ++ ts)) := by
      simp [tail, target]
    rw [shape]
    refine (parseTableRule_foreignKey _ _).trans ?_
    rw [columns]
    by_cases own : ∀ n ∈ k.columns, IsBare n
    · have same : IsBareRule (.foreignKey k) ↔
          IsBare k.table ∧ ∀ n ∈ k.referenced, IsBare n := by
        have names : IsBareRule (.foreignKey k) ↔
            ∀ n ∈ k.columns ++ k.table :: k.referenced, IsBare n :=
          and_iff_left (by simp [indexedNames])
        rw [names, List.forall_mem_append, List.forall_mem_cons, and_iff_right own]
      simp only [if_pos own, Option.bind_some, List.cons_append, references, targetRead, same,
        target]
      split
      · simp only [Option.map_some, ends.parseDeferral]
        rfl
      · rfl
    · have names : ¬ IsBareRule (.foreignKey k) :=
        fun all => own (List.forall_mem_append.1 all.1).1
      simp only [if_neg own, if_neg names, Option.bind_none]

theorem operator_named (op : String) (g : List Char) (name : Option String) (first : String)
    (ts us : List Token) : operator op (w.named g name first ts ++ us) = none := by
  cases name <;> simp [named, operator, Token.isOperator]

/-- Where a comma follows or a parenthesis, a name that was given before does not matter. -/
theorem parseTableRules_ends {ts : List Token} (ends : EndsItem ts) (fuel : Nat)
    (name : Option String) : parseTableRules fuel name ts = parseTableRules fuel none ts := by
  obtain ⟨t, rest, rfl, op, mem, ht⟩ := ends
  cases fuel with
  | zero => rfl
  | succ fuel =>
    rcases List.mem_pair.1 mem with rfl | rfl
    · simp only [parseTableRules, operator_cons ht, operator_other ht (show "," ≠ ")" by decide)]
    · simp only [parseTableRules, operator_cons ht]

/-- A constraint is read, then those that follow it. -/
theorem parseTableRules_constraint {k : Constraint} (reads : w.ReadsConstraint k) (g : List Char)
    {ts : List Token} (ends : EndsItem ts) (fuel : Nat) :
    parseTableRules (fuel + 1) none (w.constraint g k ++ ts) =
      if IsBareRule k then
        (parseTableRules fuel none ts).map fun p => (w.tableRule k :: p.1, p.2)
      else none := by
  obtain ⟨g', named⟩ := w.parseConstraintName_named reads.label (head k)
    (by cases k <;> (rw [head]; decide)) g (w.tail k) ts
  have more : endsDefinition (⟨.word, g', head k⟩ :: (w.tail k ++ ts)) = false := by
    simp [endsDefinition, operator, Token.isOperator]
  rw [← constraint] at named
  have closes := w.operator_named ")" g k.name? (head k) (w.tail k) ts
  have parts := w.operator_named "," g k.name? (head k) (w.tail k) ts
  rw [← constraint] at closes parts
  simp only [parseTableRules, closes, parts, named, more, Bool.false_eq_true, if_false,
    w.parseTableRule_tail reads g' ends]
  by_cases bare : IsBareRule k
  · simp only [if_pos bare, parseTableRules_ends ends]
  · simp only [if_neg bare]

/-- The words that a constraint starts with; all of them are reserved. -/
def ruleHeads : List String :=
  ["constraint", "primary", "unique", "check", "foreign"]

theorem constraint_start (g : List Char) (k : Constraint) :
    ∃ t rest, w.constraint g k = t :: rest ∧ ∃ head ∈ ruleHeads, t.isWord head := by
  have heads : Text.lower (head k) ∈ ruleHeads := by cases k <;> (rw [head]; decide)
  unfold constraint named
  split
  · exact ⟨_, _, rfl, "constraint", .head _, by simp [Token.isWord]; decide⟩
  · exact ⟨_, _, rfl, _, heads, by simp [Token.isWord]⟩

theorem startsTableRule_cons {t : Token} {ts : List Token} :
    startsTableRule (t :: ts) ↔ ∃ k ∈ ruleHeads, t.isWord k := by
  have same : startsTableRule (t :: ts) = ruleHeads.any fun k => (keyword k (t :: ts)).isSome := rfl
  simp [same, keyword]

/-- Constraints are read one after another, if the names in all of them are bare. -/
theorem parseTableRules_constraints {ks : List Constraint} (reads : ∀ k ∈ ks, w.ReadsConstraint k)
    (nonempty : ks ≠ []) (g : List Char) {r : Token} (hr : r.isOperator ")") (more : List Token)
    {fuel : Nat} (enough : (separated w.constraint g ks).length < fuel) :
    parseTableRules fuel none (separated w.constraint g ks ++ r :: more) =
      if ∀ k ∈ ks, IsBareRule k then some (ks.map w.tableRule, more)
      else none := by
  -- One unit of fuel for each constraint, one for each comma, and one for the end.
  fun_induction separated w.constraint g ks generalizing fuel with
  | case1 => exact absurd rfl nonempty
  | case2 g k =>
    obtain ⟨t, rest, same, -⟩ := w.constraint_start g k
    rw [same, List.length_cons] at enough
    obtain ⟨fuel, rfl⟩ := Nat.exists_eq_add_of_le' (show 2 ≤ fuel by omega)
    rw [w.parseTableRules_constraint (reads k (.head _)) g (endsItem_close hr more)]
    simp only [parseTableRules, operator_cons hr, List.forall_mem_singleton]
    rfl
  | case3 g k l ks ih =>
    rw [List.forall_mem_cons] at reads
    obtain ⟨t, rest, same, -⟩ := w.constraint_start g k
    rw [same, List.length_append, List.length_cons, List.length_cons] at enough
    obtain ⟨fuel, rfl⟩ := Nat.exists_eq_add_of_le' (show 2 ≤ fuel by omega)
    have others := ih reads.2 (by simp)
      (show (separated w.constraint [' '] (l :: ks)).length < fuel by omega)
    have comma : (⟨.operator, [], ","⟩ : Token).isOperator "," := rfl
    obtain ⟨u, rest', first, word, -, starts⟩ := w.constraint_start [' '] l
    obtain ⟨us, next⟩ := separated_start first ks
    have open_ : endsDefinition (separated w.constraint [' '] (l :: ks) ++ r :: more) = false := by
      simp [next, endsDefinition, operator, Token.not_isOperator_of_isWord starts]
    rw [List.append_assoc, List.cons_append,
      w.parseTableRules_constraint reads.1 g (endsItem_comma comma _), parseTableRules]
    simp only [operator_cons comma, operator_other comma (show "," ≠ ")" by decide), open_,
      Bool.false_eq_true, if_false, others]
    simp only [List.forall_mem_cons]
    by_cases first : IsBareRule k
    · simp only [first, if_true, true_and]
      split <;> rfl
    · simp only [first, if_false, false_and]

/-! ## Definitions -/

/-- The tokens of a definition: those of a column, of which is known whether it is the key, or those
of a constraint. -/
def definition (g : List Char) : (Column × Bool) ⊕ Constraint → List Token
  | .inl (c, isKey) => w.column g c isKey
  | .inr k => w.constraint g k

/-- A column is read, then what follows it: constraints, or more columns. -/
theorem parseDefinitions_column {c : Column × Bool} (reads : w.ReadsColumn c.1)
    (key : c.1.autoIncrement → c.2) (g : List Char) (after : List Token) (fuel : Nat) :
    parseDefinitions (fuel + 1) (w.column g c.1 c.2 ++ ⟨.operator, [], ","⟩ :: after) =
      if IsReadable c.1 then
        if startsTableRule after then
          (parseTableRules (after.length + 2) none after).map
            fun p => (([w.columnSpec c.1 c.2], p.1), p.2)
        else (parseDefinitions fuel after).map
          fun p => ((w.columnSpec c.1 c.2 :: p.1.1, p.1.2), p.2)
      else none := by
  have comma : (⟨.operator, [], ","⟩ : Token).isOperator "," := rfl
  have read := w.parseColumnSpec_column reads key g (endsItem_comma comma after)
  rw [parseDefinitions, read]
  by_cases readable : IsReadable c.1
  · simp only [readable, if_true, operator_cons comma, List.length_cons]
  · simp only [readable, if_false]

/-- The last column is read, then the constraints behind it. -/
theorem parseDefinitions_last {c : Column × Bool} (reads : w.ReadsColumn c.1)
    (key : c.1.autoIncrement → c.2) {ks : List Constraint} (rules : ∀ k ∈ ks, w.ReadsConstraint k)
    (g : List Char) {r : Token} (hr : r.isOperator ")") (more : List Token) (fuel : Nat) :
    parseDefinitions (fuel + 1) (separated w.definition g (.inl c :: ks.map .inr) ++ r :: more) =
      if IsReadable c.1 ∧ ∀ k ∈ ks, IsBareRule k then
        some (([w.columnSpec c.1 c.2], ks.map w.tableRule), more)
      else none := by
  cases ks with
  | nil =>
    have read := w.parseColumnSpec_column reads key g (endsItem_close hr more)
    rw [List.map_nil, separated, definition, parseDefinitions, read]
    by_cases readable : IsReadable c.1
    · simp [readable, operator_other hr (show ")" ≠ "," by decide), operator_cons hr]
    · simp [readable]
  | cons k ks =>
    let after := separated w.constraint [' '] (k :: ks) ++ r :: more
    have shape : separated w.definition g (.inl c :: (k :: ks).map .inr) ++ r :: more =
        w.column g c.1 c.2 ++ ⟨.operator, [], ","⟩ :: after := by
      have same := separated_map w.definition Sum.inr [' '] (k :: ks)
      rw [List.map_cons] at same
      rw [List.map_cons, separated, same, List.append_assoc]
      rfl
    have starts : startsTableRule after := by
      obtain ⟨t, rest, first, head⟩ := w.constraint_start [' '] k
      obtain ⟨us, next⟩ := separated_start first ks
      simp only [after, next, List.cons_append, startsTableRule_cons]
      exact head
    have enough : (separated w.constraint [' '] (k :: ks)).length < after.length + 2 := by
      simp [after]
      omega
    have read := w.parseTableRules_constraints rules (by simp) [' '] hr more enough
    rw [shape, w.parseDefinitions_column reads key, if_pos starts, read]
    by_cases readable : IsReadable c.1
    · simp only [readable, if_true, true_and]
      split <;> rfl
    · simp only [readable, if_false, false_and]

/-- A column that is taken for a constraint has a name that is reserved. -/
theorem not_isReadable_of_startsTableRule {c : Column × Bool} {g : List Char}
    {ds : List ((Column × Bool) ⊕ Constraint)} {us : List Token}
    (starts : startsTableRule (separated w.definition g (.inl c :: ds) ++ us)) :
    ¬ IsReadable c.1 := by
  intro readable
  have first : w.definition g (.inl c) = ⟨.word, g, c.1.name⟩ :: (w.column g c.1 c.2).tail := rfl
  obtain ⟨rest, next⟩ := separated_start first ds
  rw [next, List.cons_append] at starts
  obtain ⟨k, mem, word⟩ := startsTableRule_cons.1 starts
  have known : ∀ k ∈ ruleHeads, k ∈ reserved := by decide
  simp only [Token.isWord, Bool.and_eq_true, decide_eq_true_eq] at word
  exact readable.1 c.1.name (.head _) (word.2 ▸ known k mem)

/-- The definitions of a table are read if the names in them are bare and their columns count in
their keys. Otherwise fewer columns are read than there are, if anything is. -/
theorem parseDefinitions_definitions {cs : List (Column × Bool)} {ks : List Constraint}
    (columns : ∀ c ∈ cs, w.ReadsColumn c.1 ∧ (c.1.autoIncrement → c.2))
    (rules : ∀ k ∈ ks, w.ReadsConstraint k) (nonempty : cs ≠ []) (g : List Char) {r : Token}
    (hr : r.isOperator ")") (more : List Token) {fuel : Nat} (enough : cs.length ≤ fuel) :
    ∃ other, parseDefinitions fuel
        (separated w.definition g (cs.map .inl ++ ks.map .inr) ++ r :: more) =
        (if (∀ c ∈ cs, IsReadable c.1) ∧ ∀ k ∈ ks, IsBareRule k then
          some ((cs.map fun c => w.columnSpec c.1 c.2, ks.map w.tableRule), more)
        else other) ∧ ∀ p ∈ other, p.1.1.length < cs.length := by
  induction cs generalizing g fuel with
  | nil => exact absurd rfl nonempty
  | cons c cs ih =>
    obtain ⟨fuel, rfl⟩ := Nat.exists_eq_add_of_le' (show 1 ≤ fuel by simp at enough; omega)
    obtain ⟨⟨reads, key⟩, others⟩ := List.forall_mem_cons.1 columns
    cases cs with
    | nil =>
      refine ⟨none, ?_, by simp⟩
      simp only [List.forall_mem_singleton]
      exact w.parseDefinitions_last reads key rules g hr more fuel
    | cons d cs =>
      let after := separated w.definition [' '] ((d :: cs).map .inl ++ ks.map .inr) ++ r :: more
      have shape : separated w.definition g ((c :: d :: cs).map .inl ++ ks.map .inr) ++ r :: more =
          w.column g c.1 c.2 ++ ⟨.operator, [], ","⟩ :: after := by
        simp [separated, definition, after]
      rw [shape, w.parseDefinitions_column reads key]
      by_cases readable : IsReadable c.1
      · simp only [readable, if_true, List.forall_mem_cons (a := c), true_and]
        by_cases starts : startsTableRule after
        · refine ⟨(parseTableRules (after.length + 2) none after).map
            fun p => (([w.columnSpec c.1 c.2], p.1), p.2), ?_, ?_⟩
          · simp [starts, w.not_isReadable_of_startsTableRule starts]
          · rintro p mem
            obtain ⟨q, -, rfl⟩ := Option.map_eq_some_iff.1 mem
            simp
        · obtain ⟨other, read, fewer⟩ := ih others (by simp) [' '] (Nat.le_of_succ_le_succ enough)
          refine ⟨other.map fun p => ((w.columnSpec c.1 c.2 :: p.1.1, p.1.2), p.2), ?_, ?_⟩
          · simp only [starts, Bool.false_eq_true, if_false, after, read]
            split <;> rfl
          · rintro p mem
            obtain ⟨q, found, rfl⟩ := Option.map_eq_some_iff.1 mem
            exact Nat.succ_lt_succ (fewer q found)
      · exact ⟨none, by simp [readable], by simp⟩

/-! ## Tables -/

/-- The columns of a table, each with whether it is the primary key. -/
def keyedColumns (t : Table) : List (Column × Bool) :=
  t.columns.mapIdx fun i c => (c, t.primaryKey = .column i)

/-- What the statement of a table declares. -/
def spec (t : Table) : TableSpec :=
  ⟨t.name, t.ifNotExists, (keyedColumns t).map fun c => w.columnSpec c.1 c.2,
    (tableConstraints t).map w.tableRule⟩

/-- All names in the statement of the table are bare where they stand, and its columns count in
their keys. -/
def IsReadableTable (t : Table) : Prop :=
  IsNewName t.name ∧ (∀ c ∈ t.columns, IsReadable c) ∧ ∀ k ∈ tableConstraints t, IsBareRule k

instance (t : Table) : Decidable (IsReadableTable t) :=
  inferInstanceAs (Decidable (IsNewName t.name ∧ (∀ c ∈ t.columns, IsReadable c) ∧
    ∀ k ∈ tableConstraints t, IsBareRule k))

/-- How the SQL in a table is read, and that its names are words. -/
structure ReadsTable (t : Table) : Prop where
  name : isIdentifier t.name
  nonempty : t.columns ≠ []
  columns : ∀ c ∈ keyedColumns t, w.ReadsColumn c.1 ∧ (c.1.autoIncrement → c.2)
  constraints : ∀ k ∈ tableConstraints t, w.ReadsConstraint k

theorem map_keyedColumns {β : Type} (t : Table) (f : Column → Bool → β) :
    (keyedColumns t).map (fun c => f c.1 c.2) =
      t.columns.mapIdx fun i c => f c (t.primaryKey = .column i) := by
  refine List.ext_getElem? fun i => ?_
  simp [keyedColumns, Function.comp_def]

theorem fst_keyedColumns (t : Table) : (keyedColumns t).map Prod.fst = t.columns := by
  rw [map_keyedColumns t fun c _ => c]
  exact List.ext_getElem? fun i => by simp

/-- The definitions of a table, with what is known of them. -/
def items (t : Table) : List ((Column × Bool) ⊕ Constraint) :=
  (keyedColumns t).map .inl ++ (tableConstraints t).map .inr

theorem definitions_items (t : Table) :
    definitions t = (items t).map (Sum.elim (fun c => columnText c.1 c.2) Constraint.text) := by
  rw [items, List.map_append, List.map_map, List.map_map, definitions,
    ← map_keyedColumns t fun c isKey => columnText c isKey]
  rfl

/-- The statement of a table is cut into its tokens. -/
theorem tokens_createText {t : Table} (reads : w.ReadsTable t) :
    tokens (createText t) = creationTokens t.ifNotExists t.name ++
      (separated w.definition [] (items t) ++ [⟨.operator, [], ")"⟩]) := by
  have some_ : items t ≠ [] := by
    simp [items, keyedColumns, reads.nonempty]
  have definitions : Cuts (Text.join ", " (definitions t)).toList
      (separated w.definition [] (items t)) := by
    rw [definitions_items]
    refine Cuts.separated (g := []) (fun d mem g hg => ?_) (.inl rfl) some_
    rcases List.mem_append.1 mem with column | constraint
    · obtain ⟨c, own, rfl⟩ := List.mem_map.1 column
      exact w.cuts_column (reads.columns c own).1 c.2 hg
    · obtain ⟨k, own, rfl⟩ := List.mem_map.1 constraint
      exact w.cuts_constraint (reads.constraints k own) hg
  have body := Cuts.opening (g := [' ']) (.inr rfl)
    (definitions.append .closing (endsPiece_cons (by decide) []))
  have guard : ∀ s ∈ (if t.ifNotExists then ["IF", "NOT", "EXISTS"] else []), isIdentifier s := by
    cases t.ifNotExists <;> decide
  have head : Cuts ("CREATE".toList ++ spaced ("TABLE" ::
      ((if t.ifNotExists then ["IF", "NOT", "EXISTS"] else []) ++ [t.name]))) _ :=
    (Cuts.word (g := []) (s := "CREATE") (by decide) (.inl rfl)).append
      (.words (List.forall_mem_cons.2 ⟨by decide, List.forall_mem_append.2
        ⟨guard, List.forall_mem_singleton.2 reads.name⟩⟩)) (endsPiece_spaced _)
  have whole := head.append body (endsPiece_cons (by decide) _)
  have text : (createText t).toList = "CREATE".toList ++ spaced ("TABLE" ::
      ((if t.ifNotExists then ["IF", "NOT", "EXISTS"] else []) ++ [t.name])) ++
        ([' '] ++ '(' :: ((Text.join ", " (Schema.definitions t)).toList ++ [')'])) := by
    rw [createText_eq]
    cases t.ifNotExists <;> simp [spaced]
  rw [← text] at whole
  rw [whole.tokens]
  cases t.ifNotExists <;> simp [creationTokens, guardTokens, word]

theorem isFixed_items {t : Table} (reads : w.ReadsTable t) :
    IsFixed (separated w.definition [] (items t) ++ [⟨.operator, [], ")"⟩]) := by
  refine isFixed_append.2 ⟨isFixed_separated fun g d mem => ?_, by simp [IsFixed, Token.isOperator]⟩
  rcases List.mem_append.1 mem with column | constraint
  · obtain ⟨c, own, rfl⟩ := List.mem_map.1 column
    exact w.isFixed_column (reads.columns c own).1 c.2 g
  · obtain ⟨k, own, rfl⟩ := List.mem_map.1 constraint
    exact w.isFixed_constraint (reads.constraints k own) g

theorem isUncut_creation {guarded : Bool} {table : String} {body : List Token}
    (fixed : IsFixed body) : IsUncut (creationTokens guarded table ++ body) := by
  have body := fun t mem => (fixed t mem).1
  cases guarded <;> simpa [IsUncut, creationTokens, guardTokens, Token.isOperator] using body

/-- A text that starts like the creation of a table declares what its definitions say, if the name
of the table is bare. -/
theorem declaration?_tokens {text : String} {guarded : Bool} {table : String} {body : List Token}
    (read : tokens text = creationTokens guarded table ++ body) (fixed : IsFixed body) :
    declaration? text =
      if IsNewName table then
        (parseDefinitions body.length body).bind fun p =>
          if p.2 = [] then some ⟨table, guarded, p.1.1, p.1.2⟩ else none
      else none := by
  let rest := (creationTokens guarded table).tail ++ body
  have parsed : parseStatement (⟨.word, [], "CREATE"⟩ :: rest) = (parseCreate (guardTokens guarded ++
      [⟨.word, [' '], table⟩, ⟨.operator, [' '], "("⟩] ++ numberParams [] body)).bind fun p =>
        if p.2 = [] then some p.1 else none :=
    parseStatement_eq parseCreate (keywords_creation guarded table body) (by simp [statementForms])
  rw [numberParams_fixed fixed, List.append_assoc, List.cons_append, List.cons_append,
    List.nil_append] at parsed
  have single : splitStatements (tokens text) = [⟨.word, [], "CREATE"⟩ :: rest] := by
    have starts : creationTokens guarded table ++ body = ⟨.word, [], "CREATE"⟩ :: rest := rfl
    rw [read, starts, splitStatements_uncut (starts ▸ isUncut_creation fixed)]
  rw [declaration?_of_split single, parsed]
  simp only [parseCreate, optionalKeywords_guard, parseNewName_bare (namesColumn_word [' '] table),
    Option.bind_eq_bind]
  have opens : (⟨.operator, [' '], "("⟩ : Token).isOperator "(" := rfl
  by_cases bare : IsNewName table
  · simp only [bare, if_true, Option.bind_some, operator_cons opens]
    cases parseDefinitions body.length body with
    | none => rfl
    | some p =>
      simp only [Option.bind_some]
      by_cases spent : p.2 = [] <;> simp [spent, pure]
  · simp only [bare, if_false, Option.bind_none]

/-- The statement of a table is read as the table is declared, if that is possible at all; otherwise
fewer columns are read than the table has, if anything is. -/
theorem declaration?_createText {t : Table} (reads : w.ReadsTable t) :
    ∃ other, declaration? (createText t) =
      (if IsReadableTable t then some (w.spec t) else other) ∧
      ∀ s ∈ other, s.columns.length < t.columns.length := by
  let body := separated w.definition [] (items t) ++ [⟨.operator, [], ")"⟩]
  have length : (keyedColumns t).length = t.columns.length := by
    rw [← fst_keyedColumns t, List.length_map]
  have enough : (keyedColumns t).length ≤ body.length := by
    have long := length_separated w.definition [] (items t)
    simp only [items, body, List.length_append, List.length_map, List.length_singleton] at long ⊢
    omega
  obtain ⟨other, read, fewer⟩ := w.parseDefinitions_definitions reads.columns reads.constraints
    (by simpa [keyedColumns] using reads.nonempty) [] (r := ⟨.operator, [], ")"⟩) rfl [] enough
  have own : (∀ c ∈ keyedColumns t, IsReadable c.1) ↔ ∀ c ∈ t.columns, IsReadable c := by
    conv_rhs => rw [← fst_keyedColumns t]
    rw [List.forall_mem_map]
  have whole := declaration?_tokens (w.tokens_createText reads) (w.isFixed_items reads)
  rw [← items] at read
  rw [whole, read]
  refine ⟨if IsNewName t.name then other.bind fun p =>
    if p.2 = [] then some ⟨t.name, t.ifNotExists, p.1.1, p.1.2⟩ else none else none, ?_, ?_⟩
  · by_cases bare : IsNewName t.name
    · simp only [own, IsReadableTable, bare, if_true, true_and]
      split <;> rfl
    · simp only [IsReadableTable, bare, if_false, false_and]
  · rintro s found
    simp only [Option.mem_def, Option.ite_none_right_eq_some, Option.bind_eq_some_iff] at found
    obtain ⟨-, p, mem, -, made⟩ := found
    cases made
    exact length ▸ fewer p mem

end Wording

end ResourceProvider.Schema
