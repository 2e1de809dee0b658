import ResourceProvider.Proofs.Engine.Numbered
import ResourceProvider.Proofs.Engine.Wording
/-!
# Tables that stay

A table that is there stays, whatever a statement does to its rows, unless the statement removes
tables (`Database.run_declares`). So a text that creates a table, and does not say that it may be
there already, is refused as long as the table is there (`Database.run_create_refused`), and leaves
it there if it succeeds (`Database.run_create_declares`).
-/
namespace ResourceProvider.Engine

open Schema (isIdentifier)

/-! ## Names of new tables -/

namespace Table

variable {t t' : Table}

theorem name_of_stripped (same : t'.stripped = t.stripped) : t'.name = t.name :=
  show t'.stripped.name = t.stripped.name by rw [same]

theorem addPrimaryKey_name {places : List Nat} {isInteger auto : Bool} {policy : ConflictPolicy}
    (made : t.addPrimaryKey places isInteger policy auto = some t') : t'.name = t.name := by
  rcases addPrimaryKey_stripped made with same | ⟨_, -, -, same⟩
  · exact name_of_stripped same
  · exact show t'.stripped.name = t.name by rw [same]; rfl

theorem addColumnKey_name {i : Nat} {type : String} {rule : ColumnRule}
    (made : t.addColumnKey i type rule = some t') : t'.name = t.name := by
  unfold addColumnKey at made
  split at made
  · exact addPrimaryKey_name made
  · exact name_of_stripped (addKeys_stripped made)
  · cases made
    rfl

theorem addRule_name {types : List String} {rule : TableRule}
    (made : t.addRule types rule = some t') : t'.name = t.name := by
  unfold addRule at made
  split at made
  · split at made
    · cases made
    · exact addPrimaryKey_name made
  · split at made
    · cases made
    · exact name_of_stripped (addKeys_stripped made)
  · exact name_of_stripped (addCheck_stripped made)
  · exact name_of_stripped (addForeignKey_stripped made)

end Table

/-- A table has the name of its declaration. -/
theorem TableSpec.name_of_table? {spec : TableSpec} {t : Table} (made : spec.table? = some t) :
    t.name = spec.name := by
  obtain ⟨columns, -, made⟩ := Option.bind_eq_some_iff.1 made
  split at made
  · cases made
  obtain ⟨keyed, hkeyed, made⟩ := Option.bind_eq_some_iff.1 made
  obtain ⟨ruled, hruled, made⟩ := Option.bind_eq_some_iff.1 made
  have first : keyed.name = spec.name :=
    foldlM_keeps (P := fun t : Table => t.name = spec.name) (fun _ _ _ _ named made =>
      foldlM_keeps (P := fun t : Table => t.name = spec.name) (fun _ _ _ _ named made =>
        (Table.addColumnKey_name made).trans named) named made) rfl hkeyed
  have second : ruled.name = spec.name :=
    foldlM_keeps (P := fun t : Table => t.name = spec.name) (fun _ _ _ _ named made =>
      foldlM_keeps (P := fun t : Table => t.name = spec.name) (fun _ _ _ _ named made =>
        (Table.name_of_stripped (Table.addColumnRule_stripped made)).trans named) named made)
      first hruled
  exact foldlM_keeps (P := fun t : Table => t.name = spec.name)
    (fun _ _ _ _ named made => (Table.addRule_name made).trans named) second made

/-! ## Statements -/

/-- The statement removes a table. -/
def Statement.drops : Statement → Bool
  | .dropTable .. => true
  | _ => false

/-- Every statement of a text can be read, and none of them removes a table. -/
def keepsTables (text : String) : Bool :=
  (statementsOf text).all fun ts => (parseStatement ts).any fun s => !s.drops

namespace Database

variable {db db' : Database} {name : String}

/-- The table is there. -/
def declares (db : Database) (name : String) : Bool :=
  (db.table? name).isSome

theorem Steps.declares (h : Steps db db') (name : String) :
    db'.declares name = db.declares name := by
  have same := congrArg Option.isSome (h.declared name)
  rwa [Option.isSome_map, Option.isSome_map] at same

theorem declares_setTable (db : Database) (t : Table) (name : String) :
    (db.setTable t).declares name = db.declares name := by
  unfold Database.declares
  rw [table?_setTable]
  split
  · exact Option.isSome_map
  · rfl

theorem createTable_declares {spec : TableSpec} (made : createTable db spec = some db') :
    db'.declares spec.name := by
  unfold createTable at made
  split at made
  · cases made
  · split at made
    · split at made
      · cases made
        assumption
      · cases made
    · obtain ⟨t, new, rfl⟩ := Option.map_eq_some_iff.1 made
      simp [Database.declares, Database.table?, TableSpec.name_of_table? new, sameName]

theorem declares_createTable {spec : TableSpec} (made : createTable db spec = some db')
    (there : db.declares name) : db'.declares name := by
  unfold createTable at made
  split at made
  · cases made
  · split at made
    · split at made
      · cases made
        exact there
      · cases made
    · obtain ⟨t, -, rfl⟩ := Option.map_eq_some_iff.1 made
      unfold Database.declares Database.table? at there ⊢
      rw [List.find?_append, Option.isSome_or, there, Bool.true_or]

theorem declares_addColumn {table : String} {spec : ColumnSpec}
    (made : addColumn db table spec = some db') (name : String) :
    db'.declares name = db.declares name := by
  obtain ⟨t, -, made⟩ := Option.bind_eq_some_iff.1 made
  obtain ⟨column, -, made⟩ := Option.bind_eq_some_iff.1 made
  dsimp only at made
  split at made
  · cases made
  split at made
  · cases made
  split at made
  · cases made
  obtain ⟨ruled, -, made⟩ := Option.bind_eq_some_iff.1 made
  split at made
  · cases made
  cases made
  exact declares_setTable db ruled name

theorem declares_of_tables (same : db'.tables = db.tables) (name : String) :
    db'.declares name = db.declares name := by
  unfold Database.declares Database.table?
  rw [same]

/-- A table stays, unless the statement removes tables. -/
theorem runStatement_declares (params : List Cell) {s : Statement} (stays : s.drops = false)
    (there : db.declares name) : (db.runStatement params s).1.declares name := by
  have defined {new : Option Database} (made : ∀ db', new = some db' → db'.declares name) :
      (db.orRefuse new).1.declares name := by
    cases new with
    | none => exact there
    | some db' => exact made db' rfl
  have changed {db' : Database} (steps : Steps db db') : db'.declares name := by
    rw [steps.declares name]
    exact there
  cases s with
  | createTable spec => exact defined fun _ made => declares_createTable made there
  | addColumn table spec =>
    exact defined fun _ made => (declares_addColumn made name).trans there
  | dropTable ifExists table => cases stays
  | createTrigger ifNotExists trigger table =>
    exact defined fun _ made => (declares_of_tables (tables_createTrigger made) name).trans there
  | dropTrigger ifExists trigger =>
    exact defined fun _ made => (declares_of_tables (tables_dropTrigger made) name).trans there
  | insert policy table columns rows =>
    exact changed (db.insert_steps params policy table columns rows)
  | update policy table changes condition =>
    exact changed (db.update_steps params policy table changes condition)
  | delete table condition => exact changed (db.delete_steps params table condition)
  | select query =>
    simp only [Database.runStatement]
    split <;> exact there
  | pragma setting value =>
    simp only [Database.runStatement, Database.setting]
    split
    · split <;> exact there
    · split
      · split
        · exact there
        · dsimp only
          split <;> exact there
      · split <;> exact there

/-- A table stays when statements run one after another that remove none. -/
theorem runAll_declares {values : List Cell} {parts : List (List Token)}
    (stay : ∀ ts ∈ parts, ∀ s, parseStatement ts = some s → s.drops = false)
    (there : db.declares name) (next : List Cell) (last : Nat) :
    (db.runAll values next last parts).1.declares name :=
  runAll_keeps (P := fun db => db.declares name)
    (fun ts mem s parsed _ params => runStatement_declares params (stay ts mem s parsed)) there next
    last

theorem stays_of_keepsTables {text : String} (keeps : keepsTables text) :
    ∀ ts ∈ statementsOf text, ∀ s, parseStatement ts = some s → s.drops = false := by
  intro ts mem s parsed
  have each := List.all_eq_true.1 keeps ts mem
  rw [parsed] at each
  simpa using each

theorem run_declares {text : String} (params : List Cell) (keeps : keepsTables text)
    (there : db.declares name) : (db.run text params).1.declares name :=
  runAll_declares (stays_of_keepsTables keeps) there params 0

end Database

/-! ## Texts that create tables -/

/-- The text that creates a table; a guard says that the table may be there already. -/
def creation (guarded : Bool) (table body : String) : String :=
  "CREATE TABLE " ++ (if guarded then "IF NOT EXISTS " else "") ++ table ++ " (" ++ body

theorem creation_plain (table body : String) :
    creation false table body = "CREATE TABLE " ++ table ++ " (" ++ body :=
  rfl

theorem creation_guarded (table body : String) : creation true table body =
    "CREATE TABLE " ++ "IF NOT EXISTS " ++ table ++ " (" ++ body :=
  rfl

/-- The words of the guard. -/
def guardTokens (guarded : Bool) : List Token :=
  if guarded then [⟨.word, [' '], "IF"⟩, ⟨.word, [' '], "NOT"⟩, ⟨.word, [' '], "EXISTS"⟩] else []

/-- The tokens with which the creation of a table starts. -/
def creationTokens (guarded : Bool) (table : String) : List Token :=
  ⟨.word, [], "CREATE"⟩ :: ⟨.word, [' '], "TABLE"⟩ ::
    (guardTokens guarded ++ [⟨.word, [' '], table⟩, ⟨.operator, [' '], "("⟩])

theorem creationTokens_plain {guarded : Bool} {table : String} :
    ∀ t ∈ creationTokens guarded table, t.kind = .operator ∨ t.kind = .word := by
  cases guarded <;> simp [creationTokens, guardTokens]

theorem tokens_creation (guarded : Bool) {table : String} (name : isIdentifier table)
    (body : String) :
    ∃ ts, tokens (creation guarded table body) = creationTokens guarded table ++ ts := by
  cases guarded with
  | false =>
    have text : (creation false table body).toList =
        "CREATE".toList ++ ' ' :: ("TABLE".toList ++ ' ' :: (table.toList ++ ' ' :: '(' ::
          body.toList)) := by
      simp [creation_plain, String.toList_append]
    have opened := tokensFrom_open (g := [' ']) (.inr rfl)
      (table.toList.length + body.toList.length + 12) body.toList
    rw [List.singleton_append] at opened
    refine ⟨tokensFrom (table.toList.length + body.toList.length + 12) body.toList, ?_⟩
    rw [tokens_eq text (table.toList.length + body.toList.length + 12) 4 (by simp; omega),
      tokensFrom_first (by decide), tokensFrom_blank (by decide), tokensFrom_blank name, opened]
    rfl
  | true =>
    have text : (creation true table body).toList = "CREATE".toList ++ ' ' :: ("TABLE".toList ++
        ' ' :: ("IF".toList ++ ' ' :: ("NOT".toList ++ ' ' :: ("EXISTS".toList ++ ' ' ::
          (table.toList ++ ' ' :: '(' :: body.toList))))) := by
      simp [creation_guarded, String.toList_append]
    have opened := tokensFrom_open (g := [' ']) (.inr rfl)
      (table.toList.length + body.toList.length + 23) body.toList
    rw [List.singleton_append] at opened
    refine ⟨tokensFrom (table.toList.length + body.toList.length + 23) body.toList, ?_⟩
    rw [tokens_eq text (table.toList.length + body.toList.length + 23) 7 (by simp; omega),
      tokensFrom_first (by decide), tokensFrom_blank (by decide), tokensFrom_blank (by decide),
      tokensFrom_blank (by decide), tokensFrom_blank (by decide), tokensFrom_blank name, opened]
    rfl

theorem optionalKeywords_operator {t u : Token} {op : String} (hu : u.isOperator op)
    (k k' : String) (ks : List String) (ts : List Token) :
    optionalKeywords (k :: k' :: ks) (t :: u :: ts) = (false, t :: u :: ts) := by
  have second : keywords (k' :: ks) (u :: ts) = none := by
    simp [keywords, keyword, Token.isWord, Token.kind_of_isOperator hu]
  have absent : keywords (k :: k' :: ks) (t :: u :: ts) = none := by
    rw [keywords, keyword]
    split
    · exact second
    · rfl
  rw [optionalKeywords, absent]

theorem optionalKeywords_guard (guarded : Bool) (table : String) (ts : List Token) :
    optionalKeywords ["if", "not", "exists"] (guardTokens guarded ++
      ⟨.word, [' '], table⟩ :: ⟨.operator, [' '], "("⟩ :: ts) =
      (guarded, ⟨.word, [' '], table⟩ :: ⟨.operator, [' '], "("⟩ :: ts) := by
  cases guarded with
  | false =>
    have opens : (⟨.operator, [' '], "("⟩ : Token).isOperator "(" := rfl
    exact optionalKeywords_operator opens "if" "not" ["exists"] ts
  | true =>
    have words : (["IF", "NOT", "EXISTS"].map Text.lower) = ["if", "not", "exists"] := by decide
    simp only [List.map_cons, List.map_nil, List.cons.injEq, and_true] at words
    simp [optionalKeywords, keywords, keyword, guardTokens, Token.isWord, words]

/-- Numbering looks at no word and no operator. -/
theorem numberParams_plain_append {ts : List Token}
    (plain : ∀ t ∈ ts, t.kind = .operator ∨ t.kind = .word) (slots : Slots) (us : List Token) :
    numberParams slots (ts ++ us) = ts ++ numberParams slots us := by
  induction ts with
  | nil => rfl
  | cons t ts ih =>
    rw [List.forall_mem_cons] at plain
    rw [List.cons_append, Token.numberParams_plain plain.1, ih plain.2, List.cons_append]

theorem keywords_creation (guarded : Bool) (table : String) (ts : List Token) :
    keywords ["create", "table"] (numberParams [] (creationTokens guarded table ++ ts)) =
      some (guardTokens guarded ++ [⟨.word, [' '], table⟩, ⟨.operator, [' '], "("⟩] ++
        numberParams [] ts) := by
  rw [numberParams_plain_append creationTokens_plain, creationTokens, List.cons_append, keywords,
    keyword_cons (by decide), Option.bind_some, List.cons_append, keywords,
    keyword_cons (by decide)]
  rfl

/-- A statement that starts like the creation of a table is one, with this name and guard. -/
theorem parseStatement_creation {guarded : Bool} {table : String} {ts : List Token} {s : Statement}
    (parsed : parseStatement (creationTokens guarded table ++ ts) = some s) :
    ∃ columns rules, s = .createTable ⟨table, guarded, columns, rules⟩ := by
  have read := parseStatement_of_words parseCreate (keywords_creation guarded table ts)
    (by simp [statementForms]) parsed
  rw [List.append_assoc, List.cons_append, List.cons_append, List.nil_append] at read
  simp only [parseCreate, optionalKeywords_guard, Option.bind_eq_bind,
    Option.bind_eq_some_iff] at read
  obtain ⟨⟨name, rest⟩, named, rest', opened, ⟨⟨columns, rules⟩, _⟩, -, heq⟩ := read
  obtain ⟨_, same, is, -⟩ := parseName_eq_some (Option.ite_none_left_eq_some.1 named).2
  cases same
  cases heq
  exact ⟨columns, rules, by rw [name?_word rfl is]⟩

/-- The first statement of a text that creates a table creates it, if it says anything. -/
theorem statementsOf_creation (guarded : Bool) {table : String} (name : isIdentifier table)
    (body : String) :
    ∃ ts more, statementsOf (creation guarded table body) = ts :: more ∧
      ∀ s, parseStatement ts = some s →
        ∃ columns rules, s = .createTable ⟨table, guarded, columns, rules⟩ := by
  obtain ⟨ts, read⟩ := tokens_creation guarded name body
  obtain ⟨more, split, -⟩ := splitStatements_firstPart (t := ⟨.word, [], "CREATE"⟩)
    ((creationTokens guarded table).tail ++ ts) (by simp [Token.isOperator])
  have part : firstPart (creationTokens guarded table ++ ts) =
      creationTokens guarded table ++ firstPart ts :=
    List.takeWhile_append_of_pos fun t ht => by
      cases guarded <;> simp [creationTokens, guardTokens] at ht <;>
        rcases ht with rfl | rfl | rfl | rfl | rfl | rfl | rfl <;> simp [Token.isOperator]
  have second : (⟨.word, [' '], "TABLE"⟩ : Token).isWord "table" := by decide
  have table_ : startsTrigger (creationTokens guarded table ++ firstPart ts) = false := by
    have other {k : String} (ne : "table" ≠ k) := keyword_other second ne
    simp [startsTrigger, creationTokens, keywords, other, keyword_cons (k := "create")
      (t := ⟨.word, [], "CREATE"⟩) (by decide)]
  refine ⟨creationTokens guarded table ++ firstPart ts, joinTriggers none more, ?_,
    fun s => parseStatement_creation⟩
  rw [statementsOf, read]
  refine (congrArg (joinTriggers none) split).trans ?_
  refine (congrArg (fun part => joinTriggers none (part :: more)) part).trans ?_
  rw [joinTriggers, table_, if_neg Bool.false_ne_true]

namespace Database

variable {db db' : Database} {table body : String} {params : List Cell}

theorem createTable_taken (there : db.declares table) (columns : List ColumnSpec)
    (rules : List TableRule) : createTable db ⟨table, false, columns, rules⟩ = none := by
  unfold Database.declares at there
  unfold createTable
  rw [if_pos there, if_neg Bool.false_ne_true, ite_self]

theorem refusesUnbound_taken (there : db.declares table) (columns : List ColumnSpec)
    (rules : List TableRule) : db.refusesUnbound (.createTable ⟨table, false, columns, rules⟩) := by
  have emptied : db.emptied.declares table := by
    simpa [Database.declares, Database.table?, Database.emptied, List.find?_map,
      Function.comp_def] using there
  simp only [refusesUnbound, runStatement, createTable_taken emptied, orRefuse, refuse]

/-- A table that is there is not created. -/
theorem run_create_refused (name : isIdentifier table) (there : db.declares table) :
    db.run ("CREATE TABLE " ++ table ++ " (" ++ body) params = db.refuse := by
  obtain ⟨ts, more, split, creates⟩ := statementsOf_creation false name body
  rw [creation_plain] at split
  rw [run, split, runAll]
  cases parsed : parseStatement ts with
  | none => rfl
  | some s =>
    obtain ⟨columns, rules, rfl⟩ := creates s parsed
    dsimp only
    split
    · rw [refusesUnbound_taken there, if_pos rfl]
    · simp only [runStatement, createTable_taken there, orRefuse, refuse]

/-- A table that is created is there, and stays if the text removes no tables. -/
theorem run_create_declares (name : isIdentifier table)
    (keeps : keepsTables ("CREATE TABLE " ++ table ++ " (" ++ body)) {outcome : Outcome}
    (created : db.run ("CREATE TABLE " ++ table ++ " (" ++ body) params = (db', .ok outcome)) :
    db'.declares table := by
  obtain ⟨ts, more, split, creates⟩ := statementsOf_creation false name body
  rw [creation_plain] at split
  have stay := stays_of_keepsTables keeps
  rw [split, List.forall_mem_cons] at stay
  rw [run, split, runAll] at created
  cases parsed : parseStatement ts with
  | none =>
    rw [parsed] at created
    cases created
  | some s =>
    obtain ⟨columns, rules, rfl⟩ := creates s parsed
    rw [parsed] at created
    dsimp only at created
    split at created
    · split at created <;> cases created
    · rename_i left _
      cases made : createTable db ⟨table, false, columns, rules⟩ with
      | none =>
        simp only [runStatement, made, orRefuse, refuse] at created
        cases created
      | some middle =>
        have there := createTable_declares made
        have rest (last : Nat) : (Database.runAll _ params left last _).1.declares table :=
          runAll_declares stay.2 there left last
        simp only [runStatement, made, orRefuse] at created
        split at created
        · cases created
        · rename_i ran
          cases created
          simpa only [ran] using rest (reportedChanges
            (.createTable ⟨table, false, columns, rules⟩) .nothing 0)

end Database

end ResourceProvider.Engine
