import ResourceProvider.Proofs.Engine.Creation
import ResourceProvider.Proofs.Engine.Pieces
/-!
# Names without quotes

A word stands as a name unless it is reserved. So what is read of a list of columns, of the target
of a foreign key or of a statement that names a table and its columns is what the names spell if all
of them are bare, and nothing otherwise. Two places take fewer words for names: the list of a key,
where expressions could stand (`IsIndexable`), and the name of a table that is created
(`IsNewName`).
-/
namespace ResourceProvider.Engine

open Schema (isIdentifier)

/-- The name stands for itself where it is written without quotes. -/
def IsBare (name : String) : Prop :=
  Text.lower name ∉ reserved

instance : DecidablePred IsBare :=
  fun name => inferInstanceAs (Decidable (Text.lower name ∉ reserved))

/-! ## Words -/

theorem name?_bare {name : String} {t : Token} (h : NamesColumn name t) :
    t.name? = if IsBare name then some name else none := by
  obtain ⟨kind, rfl⟩ := h
  unfold IsBare Token.name?
  by_cases known : Text.lower t.text ∈ reserved <;> simp [kind, known]

theorem parseName_bare {name : String} {t : Token} (h : NamesColumn name t) (ts : List Token) :
    parseName (t :: ts) = if IsBare name then some (name, ts) else none := by
  rw [parseName, name?_bare h]
  split <;> rfl

theorem namesColumn_word (g : List Char) (name : String) : NamesColumn name ⟨.word, g, name⟩ :=
  ⟨rfl, rfl⟩

/-- The name may be given to a table that is created. -/
def IsNewName (name : String) : Prop :=
  IsBare name ∧ Text.lower name ≠ "if"

instance : DecidablePred IsNewName :=
  fun name => inferInstanceAs (Decidable (IsBare name ∧ Text.lower name ≠ "if"))

theorem parseNewName_bare {name : String} {t : Token} (h : NamesColumn name t) (ts : List Token) :
    parseNewName (t :: ts) = if IsNewName name then some (name, ts) else none := by
  rw [parseNewName, parseName_bare h]
  obtain ⟨kind, rfl⟩ := h
  unfold IsNewName
  by_cases guard : Text.lower t.text = "if" <;> simp [keyword, Token.isWord, kind, guard]

/-- A name that stands for itself is no keyword that is reserved. -/
theorem keyword_bare {k : String} (known : k ∈ reserved) {name : String} {t : Token}
    (h : NamesColumn name t) (bare : IsBare name) (ts : List Token) :
    keyword k (t :: ts) = none := by
  obtain ⟨kind, rfl⟩ := h
  have other : Text.lower t.text ≠ k := by
    rintro rfl
    exact bare known
  simp [keyword, Token.isWord, other]

theorem keyword_operator {t : Token} {op : String} (h : t.isOperator op) (k : String)
    (ts : List Token) : keyword k (t :: ts) = none := by
  simp [keyword, Token.isWord, Token.kind_of_isOperator h]

/-! ## Lists -/

/-- A comma follows, or a closing parenthesis. -/
def EndsItem (ts : List Token) : Prop :=
  ∃ t rest, ts = t :: rest ∧ ∃ op ∈ [",", ")"], t.isOperator op

theorem endsItem_comma {t : Token} (h : t.isOperator ",") (ts : List Token) : EndsItem (t :: ts) :=
  ⟨t, ts, rfl, ",", by simp, h⟩

theorem endsItem_close {t : Token} (h : t.isOperator ")") (ts : List Token) : EndsItem (t :: ts) :=
  ⟨t, ts, rfl, ")", by simp, h⟩

theorem EndsItem.keyword {ts : List Token} (h : EndsItem ts) (k : String) :
    keyword k ts = none := by
  obtain ⟨t, rest, rfl, op, -, ht⟩ := h
  exact keyword_operator ht k rest

theorem EndsItem.parseDeferral {ts : List Token} (h : EndsItem ts) : parseDeferral ts = none := by
  simp [Engine.parseDeferral, optionalKeywords, keywords, h.keyword]

section

variable {α β : Type} {P : α → Token → Prop} {item : Parse β} {value : α → β} {good : α → Prop}
  [DecidablePred good]

/-- A list is read as its items, if each of them can be read. -/
theorem parseList_items (reads : ∀ a t ts, P a t → EndsItem ts →
      item (t :: ts) = if good a then some (value a, ts) else none)
    {as : List α} {ts : List Token} (h : Commas P as ts) {r : Token} (hr : r.isOperator ")")
    (more : List Token) {fuel : Nat} (enough : ts.length ≤ fuel) :
    parseList item fuel (ts ++ r :: more) =
      if ∀ a ∈ as, good a then some (as.map value, r :: more) else none := by
  induction h generalizing fuel with
  | @last a t ht =>
    obtain ⟨fuel, rfl⟩ := Nat.exists_eq_add_of_le' (show 1 ≤ fuel from enough)
    rw [List.singleton_append, parseList, reads a t _ ht (endsItem_close hr more)]
    by_cases first : good a <;> simp [first, operator_other hr (show ")" ≠ "," by decide)]
  | @cons a t c as ts ht hc _ ih =>
    obtain ⟨fuel, rfl⟩ := Nat.exists_eq_add_of_le' (show 1 ≤ fuel by simp at enough; omega)
    have rest := ih (show ts.length ≤ fuel by simp at enough; omega)
    rw [List.cons_append, List.cons_append, parseList, reads a t _ ht (endsItem_comma hc _)]
    by_cases first : good a
    · rw [if_pos first]
      simp only [operator_cons hc, rest, List.forall_mem_cons, first, true_and]
      split <;> rfl
    · rw [if_neg first, if_neg fun all => first (List.forall_mem_cons.1 all).1]

theorem parseParens_items (reads : ∀ a t ts, P a t → EndsItem ts →
      item (t :: ts) = if good a then some (value a, ts) else none)
    {as : List α} {ts : List Token} (h : Commas P as ts) {l r : Token} (hl : l.isOperator "(")
    (hr : r.isOperator ")") (more : List Token) :
    parseParens item (l :: (ts ++ r :: more)) =
      if ∀ a ∈ as, good a then some (as.map value, more) else none := by
  have list := parseList_items reads h hr more (show ts.length ≤ (ts ++ r :: more).length by simp)
  rw [parseParens, operator_cons hl]
  simp only [list]
  by_cases all : ∀ a ∈ as, good a
  · rw [if_pos all, if_pos all]
    simp only [operator_cons hr, Option.map_some]
  · rw [if_neg all, if_neg all]

end

/-! ## Lists of names -/

theorem parseKeyColumn_bare {name : String} {t : Token} (h : NamesColumn name t) {ts : List Token}
    (ends : EndsItem ts) :
    parseKeyColumn (t :: ts) = if IsBare name then some (name, ts) else none := by
  rw [parseKeyColumn, parseName_bare h]
  by_cases bare : IsBare name
  · simp [bare, parseDirection, optionalKeywords, keywords, ends.keyword]
  · simp [bare]

/-- The name stands for itself in a list where expressions could stand. -/
def IsIndexable (name : String) : Prop :=
  IsBare name ∧ Text.lower name ∉ expressionWords

instance : DecidablePred IsIndexable :=
  fun name => inferInstanceAs (Decidable (IsBare name ∧ Text.lower name ∉ expressionWords))

theorem forall_isIndexable_iff {names : List String} : (∀ n ∈ names, IsIndexable n) ↔
    (∀ n ∈ names, IsBare n) ∧ ∀ n ∈ names, Text.lower n ∉ expressionWords :=
  forall₂_and

theorem parseIndexedColumn_bare {name : String} {t : Token} (h : NamesColumn name t)
    {ts : List Token} (ends : EndsItem ts) :
    parseIndexedColumn (t :: ts) = if IsIndexable name then some (name, ts) else none := by
  rw [parseIndexedColumn, parseKeyColumn_bare h ends]
  obtain ⟨kind, rfl⟩ := h
  unfold IsIndexable
  by_cases starts : Text.lower t.text ∈ expressionWords <;>
    simp [Token.startsExpression, kind, starts]

/-- The tokens of names in a list. -/
def nameTokens (g : List Char) (names : List String) : List Token :=
  separated (fun g n => [⟨.word, g, n⟩]) g names

theorem commas_nameTokens {names : List String} (nonempty : names ≠ []) (g : List Char) :
    Commas NamesColumn names (nameTokens g names) := by
  unfold nameTokens
  fun_induction separated (fun g n => [(⟨.word, g, n⟩ : Token)]) g names with
  | case1 => exact absurd rfl nonempty
  | case2 g n => exact .last (namesColumn_word g n)
  | case3 g a b as ih => exact .cons (namesColumn_word g a) rfl (ih (by simp))

theorem cuts_names {names : List String} (words : ∀ n ∈ names, isIdentifier n)
    (nonempty : names ≠ []) {g : List Char} (hg : isSlim g) :
    Cuts (g ++ (Text.join ", " names).toList) (nameTokens g names) := by
  have cut : Cuts (g ++ (Text.join ", " (names.map id)).toList) (nameTokens g names) :=
    Cuts.separated (fun n mem g hg => .word (words n mem) hg) hg nonempty
  rwa [List.map_id] at cut

/-- The tokens of names in parentheses; `g` is the gap before them. -/
def parens (g : List Char) (names : List String) : List Token :=
  ⟨.operator, g, "("⟩ :: (nameTokens [] names ++ [⟨.operator, [], ")"⟩])

theorem cuts_parens {names : List String} (words : ∀ n ∈ names, isIdentifier n)
    (nonempty : names ≠ []) {g : List Char} (hg : isSlim g) :
    Cuts (g ++ '(' :: ((Text.join ", " names).toList ++ [')'])) (parens g names) := by
  have inner := cuts_names words nonempty (g := []) (.inl rfl)
  rw [List.nil_append] at inner
  exact .opening hg (inner.append .closing (endsPiece_cons (by decide) []))

section

variable {item : Parse String} {good : String → Prop} [DecidablePred good]
  (reads : ∀ n t ts, NamesColumn n t → EndsItem ts →
    item (t :: ts) = if good n then some (n, ts) else none)

include reads

/-- Names in parentheses are read, if each of them can be read. -/
theorem parseParens_names {names : List String} {ts : List Token}
    (h : Commas NamesColumn names ts) {l r : Token} (hl : l.isOperator "(") (hr : r.isOperator ")")
    (more : List Token) :
    parseParens item (l :: (ts ++ r :: more)) =
      if ∀ n ∈ names, good n then some (names, more) else none := by
  have list : parseParens item (l :: (ts ++ r :: more)) =
      if ∀ n ∈ names, good n then some (names.map id, more) else none :=
    parseParens_items reads h hl hr more
  rwa [List.map_id] at list

theorem parseParens_parens {names : List String} (nonempty : names ≠ []) (g : List Char)
    (more : List Token) : parseParens item (parens g names ++ more) =
      if ∀ n ∈ names, good n then some (names, more) else none := by
  rw [parens, List.cons_append, List.append_assoc]
  exact parseParens_names reads (commas_nameTokens nonempty []) rfl rfl more

end

/-! ## Clauses -/

/-- The words that clauses of a column start with; all of them are reserved. -/
def clauseHeads : List String :=
  ["not", "default", "primary", "unique", "check", "autoincrement", "references"]

/-- A clause is over: the next one starts, or the definition ends. -/
def EndsRule (ts : List Token) : Prop :=
  EndsItem ts ∨ ∃ t rest, ts = t :: rest ∧ ∃ k ∈ clauseHeads, t.isWord k

theorem EndsRule.keyword {ts : List Token} (h : EndsRule ts) {k : String}
    (other : k ∉ clauseHeads) : keyword k ts = none := by
  rcases h with ends | ⟨t, rest, rfl, k', mem, ht⟩
  · exact ends.keyword k
  · exact keyword_other ht (by rintro rfl; exact other mem) rest

theorem EndsRule.keywords {ts : List Token} (h : EndsRule ts) {k : String}
    (other : k ∉ clauseHeads) (ks : List String) : keywords (k :: ks) ts = none := by
  rw [Engine.keywords, h.keyword other]
  rfl

/-- What ends a clause is no name. -/
theorem EndsRule.name? {t : Token} {ts : List Token} (h : EndsRule (t :: ts)) : t.name? = none := by
  rcases h with ⟨_, _, same, op, -, ht⟩ | ⟨_, _, same, k, mem, ht⟩ <;> cases same
  · simp [Token.name?, Token.kind_of_isOperator ht]
  · have known : ∀ k ∈ clauseHeads, k ∈ reserved := by decide
    simp only [Token.isWord, Bool.and_eq_true, decide_eq_true_eq] at ht
    simp [Token.name?, ht, known k mem]

/-- The words of a conflict clause. -/
def conflictWords : ConflictPolicy → List String
  | .none => []
  | p => ["ON", "CONFLICT", p.name]

theorem parseConflict_words (p : ConflictPolicy) {ts : List Token} (ends : EndsRule ts) :
    parseConflict ((conflictWords p).map word ++ ts) = some (p, ts) := by
  cases p with
  | none =>
    rw [conflictWords, List.map_nil, List.nil_append, parseConflict, ends.keywords (by decide)]
  | rollback | abort | fail | ignore | replace => rfl

/-- The words that say what happens when a row goes away or changes. -/
def actionWords (event : String) : ForeignKeyAction → List String
  | .none => []
  | .noAction => ["ON", event, "NO", "ACTION"]
  | .restrict => ["ON", event, "RESTRICT"]
  | .setNull => ["ON", event, "SET", "NULL"]
  | .setDefault => ["ON", event, "SET", "DEFAULT"]
  | .cascade => ["ON", event, "CASCADE"]

theorem parseActions_ends (fuel : Nat) (target : Target) {ts : List Token} (ends : EndsRule ts) :
    parseActions (fuel + 1) target ts = some (target, ts) := by
  rw [parseActions, ends.keywords (by decide), ends.keywords (by decide)]

theorem parseActions_update (table : String) (columns : List String)
    (onDelete onUpdate : ForeignKeyAction) {ts : List Token} (ends : EndsRule ts) (fuel : Nat)
    (enough : (actionWords "UPDATE" onUpdate).length < fuel) :
    parseActions fuel ⟨table, columns, onDelete, .none, false⟩
        ((actionWords "UPDATE" onUpdate).map word ++ ts) =
      some (⟨table, columns, onDelete, onUpdate, false⟩, ts) := by
  obtain ⟨fuel, rfl⟩ := Nat.exists_eq_add_of_le' (show 1 ≤ fuel by omega)
  cases onUpdate with
  | none => exact parseActions_ends _ _ ends
  | noAction | restrict | setNull | setDefault | cascade =>
    obtain ⟨fuel, rfl⟩ := Nat.exists_eq_add_of_le'
      (show 1 ≤ fuel by simp [actionWords] at enough; omega)
    exact parseActions_ends fuel _ ends

theorem parseActions_words (table : String) (columns : List String)
    (onDelete onUpdate : ForeignKeyAction) {ts : List Token} (ends : EndsRule ts) (fuel : Nat)
    (enough : (actionWords "DELETE" onDelete ++ actionWords "UPDATE" onUpdate).length < fuel) :
    parseActions fuel ⟨table, columns, .none, .none, false⟩
        ((actionWords "DELETE" onDelete ++ actionWords "UPDATE" onUpdate).map word ++ ts) =
      some (⟨table, columns, onDelete, onUpdate, false⟩, ts) := by
  rw [List.map_append, List.append_assoc]
  rw [List.length_append] at enough
  have rest := parseActions_update table columns onDelete onUpdate ends
  cases onDelete with
  | none => exact rest fuel (by omega)
  | noAction | restrict | setNull | setDefault | cascade =>
    obtain ⟨fuel, rfl⟩ := Nat.exists_eq_add_of_le' (show 1 ≤ fuel by omega)
    exact rest fuel (by simp [actionWords] at enough ⊢; omega)

/-- The tokens behind the keyword of a reference; `g` is the gap before its columns. -/
def targetTokens (g : List Char) (target : Target) : List Token :=
  word target.table :: (parens g target.columns ++
    (actionWords "DELETE" target.onDelete ++ actionWords "UPDATE" target.onUpdate).map word)

/-- A reference is read if the names of the table and of its columns are bare. -/
theorem parseTarget_tokens (g : List Char) (target : Target) (nonempty : target.columns ≠ [])
    (immediate : target.deferred = false) {ts : List Token} (ends : EndsRule ts) :
    parseTarget (targetTokens g target ++ ts) =
      if IsBare target.table ∧ ∀ n ∈ target.columns, IsBare n then some (target, ts) else none := by
  obtain ⟨table, columns, onDelete, onUpdate, deferred⟩ := target
  cases immediate
  let actions := actionWords "DELETE" onDelete ++ actionWords "UPDATE" onUpdate
  have shape : targetTokens g ⟨table, columns, onDelete, onUpdate, false⟩ ++ ts =
      word table :: (parens g columns ++ (actions.map word ++ ts)) := by
    simp [targetTokens, actions]
  have opens (more : List Token) : operator "(" (parens g columns ++ more) =
      some (nameTokens [] columns ++ [⟨.operator, [], ")"⟩] ++ more) := rfl
  have enough : actions.length < (actions.map word ++ ts).length.succ := by
    simp only [List.length_append, List.length_map]
    exact Nat.lt_succ_of_le (Nat.le_add_right _ _)
  have actionsRead := parseActions_words table columns onDelete onUpdate ends _ enough
  rw [shape, parseTarget, word, parseName_bare (namesColumn_word [' '] table)]
  by_cases bare : IsBare table
  · rw [if_pos bare]
    simp only [opens, parseParens_parens (fun _ _ _ h => parseKeyColumn_bare h) nonempty]
    by_cases own : ∀ n ∈ columns, IsBare n
    · rw [if_pos own, if_pos ⟨bare, own⟩]
      exact actionsRead
    · rw [if_neg own, if_neg fun all => own all.2]
  · rw [if_neg bare, if_neg fun all => bare all.1]

/-! ## Constraints

A constraint of a table is known by the words that it starts with. -/

variable (name : Option String) (ts : List Token)

theorem parseTableRule_primaryKey :
    parseTableRule name (word "PRIMARY" :: word "KEY" :: ts) =
      (parseParens parseIndexedColumn ts).bind fun key =>
        (parseConflict key.2).map fun policy => (.primaryKey key.1 policy.1, policy.2) := by
  have primary : keywords ["primary", "key"] (word "PRIMARY" :: word "KEY" :: ts) = some ts := rfl
  simp only [parseTableRule, primary]
  cases parseParens parseIndexedColumn ts <;> rfl

theorem parseTableRule_unique :
    parseTableRule name (word "UNIQUE" :: ts) =
      (parseParens parseIndexedColumn ts).bind fun key =>
        (parseConflict key.2).map fun policy => (.unique key.1 policy.1, policy.2) := by
  have primary : keywords ["primary", "key"] (word "UNIQUE" :: ts) = none := rfl
  have unique : keyword "unique" (word "UNIQUE" :: ts) = some ts := rfl
  simp only [parseTableRule, primary, unique]
  cases parseParens parseIndexedColumn ts <;> rfl

theorem parseTableRule_check :
    parseTableRule name (word "CHECK" :: ts) =
      (parseCheck name ts).bind fun check =>
        (parseConflict check.2).map fun policy => (.check check.1.1 check.1.2, policy.2) := by
  have primary : keywords ["primary", "key"] (word "CHECK" :: ts) = none := rfl
  have unique : keyword "unique" (word "CHECK" :: ts) = none := rfl
  have check : keyword "check" (word "CHECK" :: ts) = some ts := rfl
  simp only [parseTableRule, primary, unique, check]
  cases parseCheck name ts <;> rfl

theorem parseTableRule_foreignKey :
    parseTableRule name (word "FOREIGN" :: word "KEY" :: ts) =
      (parseParens parseKeyColumn ts).bind fun key =>
        (keyword "references" key.2).bind fun rest =>
          (parseTarget rest).map fun target =>
            match parseDeferral target.2 with
            | some (deferred, rest) => (.foreignKey key.1 { target.1 with deferred }, rest)
            | none => (.foreignKey key.1 target.1, target.2) := by
  have primary : keywords ["primary", "key"] (word "FOREIGN" :: word "KEY" :: ts) = none := rfl
  have unique : keyword "unique" (word "FOREIGN" :: word "KEY" :: ts) = none := rfl
  have check : keyword "check" (word "FOREIGN" :: word "KEY" :: ts) = none := rfl
  have foreign : keywords ["foreign", "key"] (word "FOREIGN" :: word "KEY" :: ts) = some ts := rfl
  simp only [parseTableRule, primary, unique, check, foreign]
  cases parseParens parseKeyColumn ts with
  | none => rfl
  | some key =>
    simp only [Option.bind_some]
    cases keyword "references" key.2 with
    | none => rfl
    | some rest =>
      simp only [Option.bind_some]
      cases parseTarget rest with
      | none => rfl
      | some target =>
        simp only [Option.map_some]
        cases parseDeferral target.2 <;> rfl

end ResourceProvider.Engine
