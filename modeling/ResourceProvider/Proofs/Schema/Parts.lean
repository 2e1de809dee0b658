import ResourceProvider.Proofs.Schema.Acceptance
import ResourceProvider.Proofs.Text.Unambiguous
import ResourceProvider.Schema.Statement
/-!
# Parts of statements that create tables

Each part of a statement that creates a table can be told from its text, whatever follows among what
may follow it: names, lists of names, policies and actions, columns with their clauses, and the
constraints. Parts with SQL of their own are left out, because such SQL may spell anything.
-/
namespace ResourceProvider.Schema

open Document (Column Key ForeignKey Reference)
open Text (Unambiguous marked unambiguous_code unambiguous_optional unambiguous_word)

/-! ## Names -/

/-- A name is over: what follows is no character of a name. -/
def EndsName (r : List Char) : Prop :=
  r.head?.all fun c => !isNameChar c

/-- A definition is over: what follows ends it or starts the next one. -/
def EndsDefinition (r : List Char) : Prop :=
  r.head? = some ',' ∨ r.head? = some ')'

theorem EndsDefinition.not_prefix {r : List Char} (h : EndsDefinition r) {c : Char}
    {mark : List Char} (comma : c ≠ ',') (close : c ≠ ')') : ¬ c :: mark <+: r := by
  rintro ⟨rest, rfl⟩
  rcases h with h | h
  · exact comma (Option.some.inj h)
  · exact close (Option.some.inj h)

theorem EndsDefinition.name {r : List Char} (h : EndsDefinition r) : EndsName r := by
  unfold EndsName
  rcases h with h | h
  · rw [h]
    decide
  · rw [h]
    decide

theorem unambiguous_name :
    Unambiguous (fun n : String => isIdentifier n) EndsName String.toList := by
  have chars {n : String} (h : isIdentifier n) : n.toList.all isNameChar := by
    obtain ⟨c, rest, same, start, more⟩ := isIdentifier_iff.1 h
    rw [same, List.all_cons, isNameChar, isNameStart_iff.2 start, Bool.true_or, Bool.true_and,
      List.all_eq_true]
    exact fun d hd => isNameChar_iff.2 (more d hd)
  intro n m r s hn hm hr hs eq
  obtain ⟨same, rest⟩ := unambiguous_word isNameChar (chars hn) (chars hm) hr hs eq
  exact ⟨String.toList_inj.1 same, rest⟩

/-- At least one name, and only identifiers. -/
def IsNameList (names : List String) : Prop :=
  names ≠ [] ∧ ∀ n ∈ names, isIdentifier n

theorem unambiguous_columnList :
    Unambiguous IsNameList (fun _ => True) fun names => (columnList names).toList := by
  have inner : Unambiguous IsNameList (fun r => r.head? = some ')')
      fun names => (Text.join ", " (names.map id)).toList := by
    refine Unambiguous.joined unambiguous_name (fun _ _ _ => rfl) ?_ ?_
    · exact fun r h => EndsDefinition.name (.inr h)
    · rintro r h ⟨rest, rfl⟩
      exact absurd (Option.some.inj h) (by decide)
  intro xs ys r s hx hy _ _ eq
  simp only [columnList, String.toList_append, List.append_assoc] at eq
  rw [← List.map_id xs, ← List.map_id ys] at eq
  obtain ⟨rfl, rest⟩ := inner hx hy rfl rfl (List.append_cancel_left eq)
  exact ⟨rfl, List.append_cancel_left rest⟩

/-! ## Policies and actions -/

/-- A clause is over: what follows says nothing more about it. -/
def EndsClause (r : List Char) : Prop :=
  ¬ " ON ".toList <+: r

theorem EndsDefinition.clause {r : List Char} (h : EndsDefinition r) : EndsClause r :=
  h.not_prefix (by decide) (by decide)

theorem unambiguous_type :
    Unambiguous (fun _ => True) (fun _ => True) fun t : DataType => t.name.toList := by
  refine unambiguous_code fun t u _ _ => ?_
  cases t <;> cases u <;> decide

theorem unambiguous_conflict :
    Unambiguous (fun _ => True) EndsClause fun p => (conflictText p).toList := by
  refine unambiguous_optional (z := .none) rfl (fun p => ?_) (fun p q => ?_)
  · cases p <;> decide
  · cases p <;> cases q <;> decide

/-- The action for deleted rows is over: none follows. -/
def EndsDeletion (r : List Char) : Prop :=
  ¬ " ON D".toList <+: r

theorem unambiguous_onDelete :
    Unambiguous (fun _ => True) EndsDeletion fun a => (actionsText a .none).toList := by
  refine unambiguous_optional (z := .none) rfl (fun p => ?_) (fun p q => ?_)
  · cases p <;> decide
  · cases p <;> cases q <;> decide

theorem unambiguous_onUpdate :
    Unambiguous (fun _ => True) EndsClause fun a => (actionsText .none a).toList := by
  refine unambiguous_optional (z := .none) rfl (fun p => ?_) (fun p q => ?_)
  · cases p <;> decide
  · cases p <;> cases q <;> decide

theorem actionsText_eq (onDelete onUpdate : ForeignKeyAction) :
    actionsText onDelete onUpdate = actionsText onDelete .none ++ actionsText .none onUpdate := by
  simp [actionsText, ForeignKeyAction.keyword?]

theorem endsDeletion_onUpdate {a : ForeignKeyAction} {r : List Char} (h : EndsClause r) :
    EndsDeletion ((actionsText .none a).toList ++ r) := by
  have shorter : " ON ".toList <+: " ON D".toList := by decide
  cases a
  case none => exact fun starts => h (shorter.trans starts)
  all_goals
    rintro ⟨rest, same⟩
    simp [actionsText, ForeignKeyAction.keyword?] at same

theorem unambiguous_actions :
    Unambiguous (fun _ => True) EndsClause
      fun a : ForeignKeyAction × ForeignKeyAction => (actionsText a.1 a.2).toList := by
  rintro ⟨d, u⟩ ⟨d', u'⟩ r s - - hr hs eq
  simp only [actionsText_eq d u, actionsText_eq d' u', String.toList_append, List.append_assoc]
    at eq
  obtain ⟨rfl, tail⟩ := unambiguous_onDelete trivial trivial (endsDeletion_onUpdate hr)
    (endsDeletion_onUpdate hs) eq
  obtain ⟨rfl, rest⟩ := unambiguous_onUpdate trivial trivial hr hs tail
  exact ⟨rfl, rest⟩

/-! ## Columns -/

/-- The clause carries no SQL, and the names in it are identifiers. -/
def Clause.IsPlain : Clause → Prop
  | .default _ | .check _ => False
  | .references r => isIdentifier r.table ∧ isIdentifier r.column
  | .notNull _ | .primaryKey _ | .unique _ | .autoIncrement => True

theorem unambiguous_clause :
    Unambiguous Clause.IsPlain EndsClause fun c => c.text.toList := by
  intro x y r s hx hy hr hs eq
  unfold Clause.text at eq
  cases x <;> cases y <;> simp only [String.toList_append, List.append_assoc] at eq
  case notNull.notNull p q =>
    obtain ⟨rfl, rest⟩ := unambiguous_conflict trivial trivial hr hs (List.append_cancel_left eq)
    exact ⟨rfl, rest⟩
  case primaryKey.primaryKey p q =>
    obtain ⟨rfl, rest⟩ := unambiguous_conflict trivial trivial hr hs (List.append_cancel_left eq)
    exact ⟨rfl, rest⟩
  case unique.unique p q =>
    obtain ⟨rfl, rest⟩ := unambiguous_conflict trivial trivial hr hs (List.append_cancel_left eq)
    exact ⟨rfl, rest⟩
  case autoIncrement.autoIncrement => exact ⟨rfl, List.append_cancel_left eq⟩
  case references.references t u =>
    obtain ⟨table, column, onDelete, onUpdate⟩ := t
    obtain ⟨table', column', onDelete', onUpdate'⟩ := u
    obtain ⟨rfl, columns⟩ := unambiguous_name hx.1 hy.1 (by rfl) (by rfl)
      (List.append_cancel_left eq)
    obtain ⟨rfl, actions⟩ := unambiguous_name hx.2 hy.2 (by rfl) (by rfl)
      (List.append_cancel_left columns)
    obtain ⟨same, rest⟩ := unambiguous_actions (x := (onDelete, onUpdate))
      (y := (onDelete', onUpdate')) trivial trivial hr hs (List.append_cancel_left actions)
    cases same
    exact ⟨rfl, rest⟩
  -- Clauses of two kinds start with two letters.
  all_goals first
    | exact hx.elim
    | exact hy.elim
    | simp at eq

theorem endsClause_clause (c : Clause) (r : List Char) :
    EndsClause (" ".toList ++ (c.text.toList ++ r)) := by
  rintro ⟨rest, same⟩
  unfold Clause.text at same
  cases c <;> simp [checkText] at same

theorem unambiguous_clauses :
    Unambiguous (fun cs => ∀ c ∈ cs, c.IsPlain) EndsDefinition
      (marked " ".toList fun c : Clause => c.text.toList) :=
  unambiguous_clause.list (fun c r _ => endsClause_clause c r) (fun _ h => h.clause)
    fun _ h => h.not_prefix (by decide) (by decide)

/-- The column carries no SQL, and the names in it are identifiers. -/
structure IsPlainColumn (c : Column) : Prop where
  name : isIdentifier c.name
  default : c.default = none
  check : c.check = none
  references : ∀ r, c.references = some r → isIdentifier r.table ∧ isIdentifier r.column

theorem IsPlainColumn.clauses {c : Column} (h : IsPlainColumn c) (isKey : Bool) :
    ∀ clause ∈ columnClauses c isKey, clause.IsPlain := by
  intro clause mem
  cases clause
  case default d => simp [columnClauses, h.default] at mem
  case check e => simp [columnClauses, h.check] at mem
  case references r => exact h.references r (by simpa [columnClauses] using mem)
  all_goals trivial

theorem mem_columnClauses_primaryKey {c : Column} {p : ConflictPolicy} :
    .primaryKey p ∈ columnClauses c c.primaryKey.isSome ↔ c.primaryKey = some p := by
  cases flag : c.primaryKey with
  | none => simp [columnClauses]
  | some q => simp [columnClauses, flag, eq_comm (a := p)]

/-- The clauses of a column say everything about it but its name and its type. -/
theorem IsPlainColumn.eq_of_clauses {c c' : Column} (h : IsPlainColumn c) (h' : IsPlainColumn c')
    (name : c.name = c'.name) (type : c.type = c'.type)
    (clauses : columnClauses c c.primaryKey.isSome = columnClauses c' c'.primaryKey.isSome) :
    c = c' := by
  have mem (clause : Clause) : clause ∈ columnClauses c c.primaryKey.isSome ↔
      clause ∈ columnClauses c' c'.primaryKey.isSome := by rw [clauses]
  have notNull : c.notNull = c'.notNull := by
    ext p
    simpa [columnClauses] using mem (.notNull p)
  have unique : c.unique = c'.unique := by
    ext p
    simpa [columnClauses] using mem (.unique p)
  have references : c.references = c'.references := by
    ext r
    simpa [columnClauses] using mem (.references r)
  have autoIncrement : c.autoIncrement = c'.autoIncrement := by
    simpa [columnClauses] using mem .autoIncrement
  have primaryKey : c.primaryKey = c'.primaryKey := by
    ext p
    rw [← mem_columnClauses_primaryKey, mem, mem_columnClauses_primaryKey]
  have default : c.default = c'.default := h.default.trans h'.default.symm
  have check : c.check = c'.check := h.check.trans h'.check.symm
  cases c
  cases c'
  rw [Column.mk.injEq]
  exact ⟨name, type, notNull, primaryKey, unique, autoIncrement, default, check, references⟩

theorem toList_columnText (c : Column) (isKey : Bool) :
    (columnText c isKey).toList = c.name.toList ++ (" ".toList ++ (c.type.name.toList ++
      marked " ".toList (fun c : Clause => c.text.toList) (columnClauses c isKey))) := by
  have spaced := Text.toList_join_cons " " id c.name
    (c.type.name :: (columnClauses c isKey).map Clause.text)
  rw [List.map_id] at spaced
  rw [columnText, ← id_eq c.name, spaced]
  simp [marked, List.flatMap_map]

theorem unambiguous_column :
    Unambiguous IsPlainColumn EndsDefinition
      fun c => (columnText c c.primaryKey.isSome).toList := by
  intro c c' r s hc hc' hr hs eq
  simp only [toList_columnText, List.append_assoc] at eq
  obtain ⟨name, types⟩ := unambiguous_name hc.name hc'.name (by rfl) (by rfl) eq
  obtain ⟨type, clauses⟩ := unambiguous_type trivial trivial trivial trivial
    (List.append_cancel_left types)
  obtain ⟨same, rest⟩ := unambiguous_clauses (hc.clauses _) (hc'.clauses _) hr hs clauses
  exact ⟨hc.eq_of_clauses hc' name type same, rest⟩

/-! ## Constraints -/

/-- The constraint carries no SQL, and the names in it are identifiers. -/
def Constraint.IsPlain : Constraint → Prop
  | .check _ => False
  | .primaryKey k | .unique k => k.name = none ∧ IsNameList k.columns
  | .foreignKey k => k.name = none ∧ IsNameList k.columns ∧ isIdentifier k.table ∧
      IsNameList k.referenced

theorem eq_of_keyText {k l : Key} (hk : k.name = none ∧ IsNameList k.columns)
    (hl : l.name = none ∧ IsNameList l.columns) {r s : List Char} (hr : EndsClause r)
    (hs : EndsClause s)
    (eq : (columnList k.columns).toList ++ ((conflictText k.onConflict).toList ++ r) =
      (columnList l.columns).toList ++ ((conflictText l.onConflict).toList ++ s)) :
    k = l ∧ r = s := by
  obtain ⟨name, columns, policy⟩ := k
  obtain ⟨name', columns', policy'⟩ := l
  obtain ⟨rfl, policies⟩ := unambiguous_columnList hk.2 hl.2 trivial trivial eq
  obtain ⟨rfl, rest⟩ := unambiguous_conflict trivial trivial hr hs policies
  obtain rfl : name = name' := hk.1.trans hl.1.symm
  exact ⟨rfl, rest⟩

theorem unambiguous_constraint :
    Unambiguous Constraint.IsPlain EndsDefinition fun k => k.text.toList := by
  intro x y r s hx hy hr hs eq
  cases x <;> cases y
  case primaryKey.primaryKey k l =>
    simp only [Constraint.text, hx.1, hy.1, constraintName, String.toList_append, List.append_assoc]
      at eq
    obtain ⟨rfl, rest⟩ := eq_of_keyText hx hy hr.clause hs.clause
      (List.append_cancel_left (List.append_cancel_left eq))
    exact ⟨rfl, rest⟩
  case unique.unique k l =>
    simp only [Constraint.text, hx.1, hy.1, constraintName, String.toList_append, List.append_assoc]
      at eq
    obtain ⟨rfl, rest⟩ := eq_of_keyText hx hy hr.clause hs.clause
      (List.append_cancel_left (List.append_cancel_left eq))
    exact ⟨rfl, rest⟩
  case foreignKey.foreignKey k l =>
    simp only [Constraint.text, hx.1, hy.1, constraintName, String.toList_append, List.append_assoc]
      at eq
    obtain ⟨name, columns, table, referenced, onDelete, onUpdate⟩ := k
    obtain ⟨name', columns', table', referenced', onDelete', onUpdate'⟩ := l
    obtain ⟨rfl, tables⟩ := unambiguous_columnList hx.2.1 hy.2.1 trivial trivial
      (List.append_cancel_left (List.append_cancel_left eq))
    obtain ⟨rfl, lists⟩ := unambiguous_name hx.2.2.1 hy.2.2.1 (by rfl) (by rfl)
      (List.append_cancel_left tables)
    obtain ⟨rfl, actions⟩ := unambiguous_columnList hx.2.2.2 hy.2.2.2 trivial trivial
      (List.append_cancel_left lists)
    obtain ⟨same, rest⟩ := unambiguous_actions (x := (onDelete, onUpdate))
      (y := (onDelete', onUpdate')) trivial trivial hr.clause hs.clause actions
    obtain rfl : name = name' := hx.1.trans hy.1.symm
    cases same
    exact ⟨rfl, rest⟩
  -- Constraints of two kinds start with two letters.
  all_goals first
    | exact hx.elim
    | exact hy.elim
    | simp [Constraint.text, hx.1, hy.1, constraintName] at eq

/-- A constraint starts with a word, and what comes next is not the type of a column. -/
theorem Constraint.opens {k : Constraint} (h : k.IsPlain) :
    ∃ word : String, isIdentifier word ∧ ∃ c rest,
      k.text.toList = word.toList ++ ' ' :: c :: rest ∧ (c = 'K' ∨ c = '(') := by
  cases k with
  | check c => exact h.elim
  | primaryKey k =>
    refine ⟨"PRIMARY", by decide, 'K',
      "EY ".toList ++ (columnList k.columns ++ conflictText k.onConflict).toList, ?_, .inl rfl⟩
    simp [Constraint.text, h.1, constraintName]
  | unique k =>
    refine ⟨"UNIQUE", by decide, '(',
      (Text.join ", " k.columns ++ ")" ++ conflictText k.onConflict).toList, ?_, .inr rfl⟩
    simp [Constraint.text, h.1, constraintName, columnList]
  | foreignKey k =>
    refine ⟨"FOREIGN", by decide, 'K', "EY ".toList ++ (columnList k.columns ++ " REFERENCES " ++
      k.table ++ " " ++ columnList k.referenced ++ actionsText k.onDelete k.onUpdate).toList, ?_,
      .inl rfl⟩
    simp [Constraint.text, h.1, constraintName]

end ResourceProvider.Schema
