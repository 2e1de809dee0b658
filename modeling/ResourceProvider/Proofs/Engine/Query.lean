import Mathlib.Data.List.Forall2
import Mathlib.Data.List.TakeWhile
import ResourceProvider.Proofs.Engine.Restricted
import ResourceProvider.Proofs.Engine.Transaction
/-!
# Queries

Whatever its clauses are, a query gives rows that are read off groups of joined rows
(`runQuery_joined`). A query for all columns of one table gives rows of the table as they are stored
(`run_all`): its clauses choose among them, sort them and cut them, but they do not change what a
row shows.
-/
namespace ResourceProvider.Engine

open Schema (isIdentifier)

/-! ## Groups -/

theorem runs_members {α : Type} (same : α → α → Bool) (xs : List α) :
    ∀ g ∈ runs same xs, g ≠ [] ∧ ∀ x ∈ g, x ∈ xs := by
  induction xs with
  | nil => simp [runs]
  | cons x xs ih =>
    -- A run of the later elements is a run of all of them.
    have later : ∀ g ∈ runs same xs, g ≠ [] ∧ ∀ y ∈ g, y ∈ x :: xs := fun g hg =>
      ⟨(ih g hg).1, fun y hy => List.mem_cons_of_mem x ((ih g hg).2 y hy)⟩
    have alone : [x] ≠ [] ∧ ∀ y ∈ [x], y ∈ x :: xs := by simp
    unfold runs
    split
    · rename_i y ys more first
      rw [first] at later
      split
      · refine List.forall_mem_cons.2 ⟨⟨by simp, ?_⟩, (List.forall_mem_cons.1 later).2⟩
        exact List.forall_mem_cons.2 ⟨List.mem_cons_self, (List.forall_mem_cons.1 later).1.2⟩
      · exact List.forall_mem_cons.2 ⟨alone, later⟩
    · exact List.forall_mem_cons.2 ⟨alone, later⟩

theorem mem_sortByKeys {α : Type} {xs : List (List SortKey × α)} {x : α} :
    x ∈ sortByKeys xs ↔ ∃ keys, (keys, x) ∈ xs := by
  rw [sortByKeys, ((List.mergeSort_perm xs _).map Prod.snd).mem_iff]
  simp

theorem forall₂_of_mapM {α β : Type} {f : α → Option β} {xs : List α} {ys : List β}
    (h : xs.mapM f = some ys) : List.Forall₂ (fun x y => f x = some y) xs ys := by
  induction xs generalizing ys with
  | nil =>
    cases h
    exact .nil
  | cons x xs ih =>
    rw [List.mapM_cons] at h
    obtain ⟨y, hy, h⟩ := Option.bind_eq_some_iff.1 h
    obtain ⟨more, hmore, h⟩ := Option.bind_eq_some_iff.1 h
    cases h
    exact .cons hy (ih hmore)

theorem mem_of_mapM {α β : Type} {f : α → Option β} {xs : List α} {ys : List β}
    (h : xs.mapM f = some ys) {y : β} (hy : y ∈ ys) : ∃ x ∈ xs, f x = some y := by
  have pairs := forall₂_of_mapM h
  obtain ⟨i, bound, rfl⟩ := List.getElem_of_mem hy
  have inside : i < xs.length := pairs.length_eq ▸ bound
  exact ⟨xs[i], List.getElem_mem inside, pairs.get inside bound⟩

theorem groupRows_members {params : List Cell} {by_ : List (Expr Place × Bool)}
    {rows : List (List Cell)} {groups : List (List (List Cell))}
    (h : groupRows params by_ rows = some groups) {g : List (List Cell)} (hg : g ∈ groups) :
    g ≠ [] ∧ ∀ row ∈ g, row ∈ rows := by
  obtain ⟨keyed, read, heq⟩ := Option.bind_eq_some_iff.1 h
  cases heq
  obtain ⟨run, hrun, rfl⟩ := List.mem_map.1 hg
  obtain ⟨nonempty, inside⟩ := runs_members _ _ run hrun
  refine ⟨by simpa using nonempty, fun row hrow => ?_⟩
  obtain ⟨⟨keys, _⟩, mem, rfl⟩ := List.mem_map.1 hrow
  obtain ⟨keys', sorted⟩ := mem_sortByKeys.1 (inside _ mem)
  obtain ⟨row', mem', read'⟩ := mem_of_mapM read sorted
  obtain ⟨_, -, heq⟩ := Option.bind_eq_some_iff.1 read'
  cases heq
  exact mem'

/-! ## All columns of a table -/

/-- A row as a query for all columns of its table gives it. -/
def Table.named (t : Table) (r : Row) : ResultRow :=
  t.columns.mapIdx fun i c => (c.name, (r.places[i]?).getD .null)

theorem outputs_plain (s : Source) : (s.outputs.any fun o => o.value.aggregated) = false := by
  refine List.any_eq_false.2 fun o ho => ?_
  obtain ⟨i, bound, rfl⟩ := List.mem_mapIdx.1 ho
  simp [Expr.aggregated, Expr.parts]

theorem mapM_eq_map {α β : Type} {f : α → Option β} {g : α → β} {xs : List α}
    (h : ∀ x ∈ xs, f x = some (g x)) : xs.mapM f = some (xs.map g) := by
  induction xs with
  | nil => rfl
  | cons x xs ih =>
    rw [List.forall_mem_cons] at h
    rw [List.mapM_cons, h.1, ih h.2]
    rfl

/-- The columns of a table that is read alone, at one of its rows. -/
theorem outputs_eval (name : String) (t : Table) (params : List Cell) (r : Row)
    (g : List (List Cell)) :
    (Source.outputs ⟨name, t, 0⟩).mapM (fun o =>
      (o.value.eval ⟨params, r.places, g⟩).bind fun c => some (o.name, c)) = some (t.named r) := by
  rw [mapM_eq_map (g := fun o => (o.name, (o.value.eval ⟨params, r.places, g⟩).getD .null))]
  · refine congrArg some (List.ext_getElem? fun i => ?_)
    simp only [Source.outputs, Table.named, List.getElem?_map, List.getElem?_mapIdx]
    cases t.columns[i]? <;> simp [Expr.eval]
  · intro o ho
    obtain ⟨i, bound, rfl⟩ := List.mem_mapIdx.1 ho
    rfl

theorem length_joinConditions {before : List Source} {joins : List (Source × Join)}
    {on : List (Option (Expr Place))} (h : joinConditions before joins = some on) :
    on.length = joins.length := by
  induction joins generalizing before on with
  | nil =>
    cases h
    rfl
  | cons j joins ih =>
    obtain ⟨s, j⟩ := j
    unfold joinConditions at h
    split at h <;> obtain ⟨_, -, h⟩ := Option.bind_eq_some_iff.1 h
    all_goals
      obtain ⟨more, rest, heq⟩ := Option.bind_eq_some_iff.1 h
      cases heq
      rw [List.length_cons, List.length_cons, ih rest]

theorem length_sourcesFrom {db : Database} {start : Nat} {joins : List Join}
    {sources : List Source} (h : sourcesFrom db start joins = some sources) :
    sources.length = joins.length := by
  induction joins generalizing start sources with
  | nil =>
    cases h
    rfl
  | cons j joins ih =>
    unfold sourcesFrom at h
    split at h
    · cases h
    · obtain ⟨more, rest, rfl⟩ := Option.map_eq_some_iff.1 h
      rw [List.length_cons, List.length_cons, ih rest]

/-! ## Joined rows -/

/-- A table that is joined gives the places of one of its rows, or as many nulls. -/
def Source.Gives (s : Source) (part : List Cell) : Prop :=
  (∃ r ∈ s.table.rows, part = r.places) ∨ part = List.replicate s.width .null

/-- A joined row: the places of a row of the first table, with what the other tables give. -/
def IsJoined : List Source → List Cell → Prop
  | [], row => row = []
  | s :: rest, row => ∃ r ∈ s.table.rows, ∃ parts, List.Forall₂ Source.Gives rest parts ∧
      row = r.places ++ parts.flatten

theorem joinRows_members {params : List Cell} {s : Source} {rows : List Row} {outer : Bool}
    {on : Option (Expr Place)} {lefts joined : List (List Cell)}
    (own : ∀ r ∈ rows, r ∈ s.table.rows)
    (h : joinRows params s rows outer on lefts = some joined) :
    ∀ x ∈ joined, ∃ left ∈ lefts, ∃ part, s.Gives part ∧ x = left ++ part := by
  induction lefts generalizing joined with
  | nil =>
    cases h
    exact fun x hx => by cases hx
  | cons left lefts ih =>
    unfold joinRows at h
    obtain ⟨fitting, hfitting, h⟩ : ∃ fitting : List (List Cell),
        (∀ x ∈ fitting, x ∈ rows.map fun r => left ++ r.places) ∧
        (joinRows params s rows outer on lefts).bind (fun more =>
          some ((if fitting = [] ∧ outer then [left ++ List.replicate s.width .null]
            else fitting) ++ more)) = some joined := by
      dsimp only at h
      split at h
      · exact ⟨_, fun x hx => hx, h⟩
      · obtain ⟨fitting, filtered, h⟩ := Option.bind_eq_some_iff.1 h
        exact ⟨fitting, fun x hx => mem_of_filterM filtered hx, h⟩
    obtain ⟨more, rest, heq⟩ := Option.bind_eq_some_iff.1 h
    cases heq
    intro x hx
    rcases List.mem_append.1 hx with first | later
    · refine ⟨left, List.mem_cons_self, ?_⟩
      split at first
      · exact ⟨_, .inr rfl, List.mem_singleton.1 first⟩
      · obtain ⟨r, hr, rfl⟩ := List.mem_map.1 (hfitting x first)
        exact ⟨_, .inl ⟨r, own r hr, rfl⟩, rfl⟩
    · obtain ⟨left', hleft', given⟩ := ih rest x later
      exact ⟨left', List.mem_cons_of_mem left hleft', given⟩

/-- Each table that is joined adds what it gives. -/
theorem joinAll_members {params : List Cell} {read : List Nat}
    {tables : List (Source × Join × Option (Expr Place))} {rows joined : List (List Cell)}
    (h : joinAll params read tables rows = some joined) :
    ∀ x ∈ joined, ∃ left ∈ rows, ∃ parts,
      List.Forall₂ Source.Gives (tables.map Prod.fst) parts ∧ x = left ++ parts.flatten := by
  induction tables generalizing rows with
  | nil =>
    cases h
    exact fun x hx => ⟨x, hx, [], .nil, (List.append_nil x).symm⟩
  | cons table tables ih =>
    obtain ⟨s, j, on⟩ := table
    obtain ⟨rows', first, rest⟩ := Option.bind_eq_some_iff.1 h
    intro x hx
    obtain ⟨left', hleft', parts, given, rfl⟩ := ih rest x hx
    obtain ⟨left, hleft, part, own, rfl⟩ :=
      joinRows_members (fun r hr => (s.table.visited_perm _).mem_iff.1 hr) first left' hleft'
    exact ⟨left, hleft, part :: parts, .cons own given, by simp⟩

/-- Rows of an answer are read off environments that are sorted and cut. -/
theorem mem_answer {envs : List Env} {orderBy : List (Expr Place × Bool × Bool)}
    {keyed : List (List SortKey × Env)} {limit : Option Nat} {offset : Nat}
    {read : Env → Option ResultRow} {rows : List ResultRow}
    (hkeyed : envs.mapM (fun env => do return (← keysAt env orderBy, env)) = some keyed)
    (h : (match limit with
      | some n => ((sortByKeys keyed).drop offset).take n
      | none => (sortByKeys keyed).drop offset).mapM read = some rows)
    {row : ResultRow} (hrow : row ∈ rows) : ∃ env ∈ envs, read env = some row := by
  obtain ⟨env, cut, eval⟩ := mem_of_mapM h hrow
  have sorted : env ∈ sortByKeys keyed := by
    split at cut
    · exact List.mem_of_mem_drop (List.mem_of_mem_take cut)
    · exact List.mem_of_mem_drop cut
  obtain ⟨keys, hkeys⟩ := mem_sortByKeys.1 sorted
  obtain ⟨env', henv', heq⟩ := mem_of_mapM hkeyed hkeys
  obtain ⟨_, -, heq⟩ := Option.bind_eq_some_iff.1 heq
  cases heq
  exact ⟨env, henv', eval⟩

/-- Each row of an answer is read off a group of joined rows, and the group is empty only if the
query asks for a value of all rows together. -/
theorem runQuery_joined {db : Database} {params : List Cell} {q : Query} {rows : List ResultRow}
    (h : runQuery db params q = some rows) :
    ∃ sources outputs, sourcesFrom db 0 q.joins = some sources ∧
      q.items.mapM (itemOutputs ⟨sources, [], true⟩) = some outputs ∧
      ∀ row ∈ rows, ∃ g : List (List Cell), (∀ x ∈ g, IsJoined sources x) ∧
        (g = [] → q.groupBy = [] ∧ outputs.flatten.any fun o => o.value.aggregated) ∧
        outputs.flatten.mapM (fun o =>
          (o.value.eval ⟨params, g.headD [], g⟩).bind fun c => some (o.name, c)) = some row := by
  unfold runQuery at h
  obtain ⟨sources, hs, h⟩ := Option.bind_eq_some_iff.1 h
  obtain ⟨outputs, read, h⟩ := Option.bind_eq_some_iff.1 h
  refine ⟨sources, outputs, hs, read, ?_⟩
  -- The conditions on rows and on groups are read; what follows them does not depend on how.
  extract_lets columns aliases isGrouped rowScope groupScope conditioned at h
  clear_value (hc : conditioned = _)
  obtain ⟨condition, h⟩ : ∃ c, conditioned c = some rows := by
    split at h
    · exact ⟨_, h⟩
    · obtain ⟨c, -, h⟩ := Option.bind_eq_some_iff.1 h
      exact ⟨c, h⟩
  subst hc
  obtain ⟨groupBy, hg, h⟩ := Option.bind_eq_some_iff.1 h
  extract_lets grouped checked checked' at h
  clear_value (hc : grouped = _)
  obtain ⟨having, h⟩ : ∃ e, grouped e = some rows := by
    split at h
    · cases h
    · dsimp only [checked'] at h
      split at h
      · cases h
      · dsimp only [checked] at h
        split at h
        · exact ⟨_, h⟩
        · obtain ⟨c, -, h⟩ := Option.bind_eq_some_iff.1 h
          exact ⟨c, h⟩
  subst hc
  obtain ⟨orderBy, -, h⟩ := Option.bind_eq_some_iff.1 h
  obtain ⟨limit, -, h⟩ := Option.bind_eq_some_iff.1 h
  obtain ⟨offset, -, h⟩ := Option.bind_eq_some_iff.1 h
  obtain ⟨on, hon, h⟩ := Option.bind_eq_some_iff.1 h
  have whole : (sources.zip (q.joins.zip on)).map Prod.fst = sources := by
    have tables := length_sourcesFrom hs
    have conditions := length_joinConditions hon
    rw [List.length_zip] at conditions
    exact List.map_fst_zip (by rw [List.length_zip]; omega)
  extract_lets read cut grouped joined at h
  clear_value (hj : joined = _)
  obtain ⟨visited, terms, members, h⟩ : ∃ visited terms,
      (∀ x ∈ visited, IsJoined sources x) ∧ joined (visited, terms) = some rows := by
    split at h
    · rename_i none
      rw [none] at whole
      refine ⟨_, _, fun x hx => ?_, h⟩
      rw [← whole, List.mem_singleton.1 hx]
      exact rfl
    · rename_i s j rest parts
      rw [parts] at whole
      obtain ⟨_, made, h⟩ := Option.bind_eq_some_iff.1 h
      obtain ⟨visited, all, rfl⟩ := Option.map_eq_some_iff.1 made
      refine ⟨_, _, fun x hx => ?_, h⟩
      obtain ⟨left, hleft, more, given, rfl⟩ := joinAll_members all x hx
      obtain ⟨r, hr, rfl⟩ := List.mem_map.1 hleft
      rw [← whole]
      exact ⟨r, (s.table.visited_perm _).mem_iff.1 hr, more, given, rfl⟩
  subst hj
  dsimp -zeta only at h
  extract_lets kept at h
  clear_value (hk : kept = _)
  obtain ⟨found, members, h⟩ : ∃ found, (∀ x ∈ found, IsJoined sources x) ∧
      kept found = some rows := by
    split at h
    · exact ⟨visited, members, h⟩
    · obtain ⟨found, filtered, h⟩ := Option.bind_eq_some_iff.1 h
      exact ⟨found, fun x hx => members x (mem_of_filterM filtered hx), h⟩
  subst hk
  clear_value (hg' : grouped = _)
  obtain ⟨groups, inside, h⟩ : ∃ groups : List (List (List Cell)),
      (∀ g ∈ groups, (∀ x ∈ g, IsJoined sources x) ∧
        (g = [] → q.groupBy = [] ∧ isGrouped)) ∧ grouped groups = some rows := by
    dsimp only at h
    split at h
    · obtain ⟨groups, made, h⟩ := Option.bind_eq_some_iff.1 h
      refine ⟨groups, fun g hg => ?_, h⟩
      obtain ⟨nonempty, inside⟩ := groupRows_members made hg
      exact ⟨fun x hx => members x (inside x hx), fun empty => absurd empty nonempty⟩
    · rename_i keys
      have none : q.groupBy = [] := by
        rw [← List.length_eq_zero_iff, (forall₂_of_mapM hg).length_eq, not_not.1 keys,
          List.length_nil]
      split at h
      · rename_i together
        refine ⟨[found], fun g hg => ?_, h⟩
        cases List.mem_singleton.1 hg
        exact ⟨members, fun _ => ⟨none, together⟩⟩
      · refine ⟨found.map fun r => [r], fun g hg => ?_, h⟩
        obtain ⟨x, hx, rfl⟩ := List.mem_map.1 hg
        exact ⟨fun y hy => List.mem_singleton.1 hy ▸ members x hx, fun empty => by cases empty⟩
  subst hg'
  clear_value (hc : cut = _)
  obtain ⟨envs, made, h⟩ : ∃ envs : List Env,
      (∀ env ∈ envs, ∃ g ∈ groups, env = ⟨params, g.headD [], g⟩) ∧ cut envs = some rows := by
    have each : ∀ env ∈ groups.map fun g => (⟨params, g.headD [], g⟩ : Env),
        ∃ g ∈ groups, env = ⟨params, g.headD [], g⟩ := by
      intro env henv
      obtain ⟨g, hg, rfl⟩ := List.mem_map.1 henv
      exact ⟨g, hg, rfl⟩
    split at h
    · exact ⟨_, each, h⟩
    · obtain ⟨envs, filtered, h⟩ := Option.bind_eq_some_iff.1 h
      exact ⟨envs, fun env henv => each env (mem_of_filterM filtered henv), h⟩
  subst hc
  obtain ⟨keyed, hkeyed, h⟩ := Option.bind_eq_some_iff.1 h
  intro row hrow
  obtain ⟨env, henv, eval⟩ := mem_answer hkeyed h hrow
  obtain ⟨g, hg, rfl⟩ := made env henv
  refine ⟨g, (inside g hg).1, fun empty => ?_, eval⟩
  obtain ⟨none, together⟩ := (inside g hg).2 empty
  simp only [isGrouped, none, ne_eq, not_true_eq_false, decide_false, Bool.false_or] at together
  exact ⟨none, together⟩

/-- Each row that a query on one table gives is read off a group of rows of the table. -/
theorem runQuery_alone {db : Database} {params : List Cell} {q : Query} {j : Join}
    {rows : List ResultRow} (joins : q.joins = [j]) (h : runQuery db params q = some rows) :
    ∃ t outputs, db.table? j.table = some t ∧
      q.items.mapM (itemOutputs ⟨[⟨j.alias?.getD j.table, t, 0⟩], [], true⟩) = some outputs ∧
      ∀ row ∈ rows, ∃ g : List (List Cell), (∀ x ∈ g, ∃ r ∈ t.rows, x = r.places) ∧
        (g = [] → q.groupBy = [] ∧ outputs.flatten.any fun o => o.value.aggregated) ∧
        outputs.flatten.mapM (fun o =>
          (o.value.eval ⟨params, g.headD [], g⟩).bind fun c => some (o.name, c)) = some row := by
  obtain ⟨sources, outputs, hs, read, members⟩ := runQuery_joined h
  rw [joins] at hs
  simp only [sourcesFrom] at hs
  split at hs
  · cases hs
  rename_i t found
  cases hs
  refine ⟨t, outputs, found, read, fun row hrow => ?_⟩
  obtain ⟨g, inside, empty, eval⟩ := members row hrow
  refine ⟨g, fun x hx => ?_, empty, eval⟩
  obtain ⟨r, hr, parts, given, rfl⟩ := inside x hx
  cases given
  exact ⟨r, hr, List.append_nil _⟩

/-- Every row that a query for all columns of a table gives is a row of that table. -/
theorem runQuery_all {db : Database} {params : List Cell} {q : Query} {table : String}
    {rows : List ResultRow} (items : q.items = [.all])
    (joins : q.joins = [⟨table, none, false, none⟩]) (h : runQuery db params q = some rows) :
    ∃ t, db.table? table = some t ∧ ∀ row ∈ rows, ∃ r ∈ t.rows, row = t.named r := by
  obtain ⟨t, outputs, found, read, alone⟩ := runQuery_alone joins h
  refine ⟨t, found, fun row hrow => ?_⟩
  obtain ⟨g, members, empty, eval⟩ := alone row hrow
  have all : outputs.flatten = Source.outputs ⟨table, t, 0⟩ := by
    rw [items] at read
    cases read
    simp
  rw [all] at empty eval
  cases g with
  | nil =>
    rw [outputs_plain] at empty
    cases (empty rfl).2
  | cons x g =>
    obtain ⟨r, hr, rfl⟩ := members x List.mem_cons_self
    rw [List.headD_cons, outputs_eval] at eval
    cases eval
    exact ⟨r, hr, rfl⟩

/-! ## Statements -/

/-- The keywords of the clauses behind the tables of a query. -/
def clauseWords : List String :=
  ["where", "group", "having", "order", "limit"]

/-- The keyword of a clause is no name of the table before it. -/
theorem parseAlias_clause {ts : List Token} (h : Opens clauseWords ts) :
    parseAlias ts = some (none, ts) := by
  unfold parseAlias
  rw [h.keyword (by decide)]
  cases ts with
  | nil => rfl
  | cons w ts =>
    obtain ⟨k, mem, word⟩ := h w rfl
    have words : ∀ k ∈ clauseWords, k ∈ reserved ∧ k ∉ joinWords := by decide
    simp only [Token.isWord, Bool.and_eq_true, decide_eq_true_eq] at word
    have none : w.alias? = none := by
      simp [Token.alias?, Token.name?, word, (words k mem).1]
    simp only [none]

/-- Nor does it join another table. -/
theorem parseJoins_clause {ts : List Token} (h : Opens clauseWords ts) (fuel : Nat) :
    parseJoins (fuel + 1) ts = some ([], ts) := by
  have none : parseJoinWord ts = none := by
    simp [parseJoinWord, keywords, h.keyword, h.operator, clauseWords]
  rw [parseJoins, none]

/-- The first table of a query is the one whose name stands behind `FROM`. -/
theorem parseFrom_first {f n : Token} {ts rest : List Token} {joins : List Join}
    (hf : f.isWord "from") (hn : n.kind = .word)
    (h : parseFrom (f :: n :: ts) = some (joins, rest)) :
    ∃ alias? more others, parseAlias ts = some (alias?, more) ∧
      parseJoins (more.length + 1) more = some (others, rest) ∧
        joins = ⟨n.text, alias?, false, none⟩ :: others := by
  simp only [parseFrom, keyword_cons hf, parseTableName] at h
  cases named : parseName (n :: ts) with
  | none =>
    rw [named] at h
    cases h
  | some p =>
    obtain ⟨table, after⟩ := p
    obtain ⟨_, same, name, -⟩ := parseName_eq_some named
    cases same
    cases aliased : parseAlias ts with
    | none =>
      simp [named, aliased] at h
    | some p =>
      simp only [named, aliased, Option.map_some] at h
      obtain ⟨⟨others, rest⟩, joined, heq⟩ := Option.map_eq_some_iff.1 h
      cases heq
      exact ⟨p.1, p.2, others, rfl, joined, by rw [name?_word hn name]⟩

theorem parseFrom_alone {f n : Token} {ts rest : List Token} {joins : List Join}
    (hf : f.isWord "from") (hn : n.kind = .word) (clause : Opens clauseWords ts)
    (h : parseFrom (f :: n :: ts) = some (joins, rest)) :
    joins = [⟨n.text, none, false, none⟩] := by
  obtain ⟨alias?, more, others, aliased, joined, rfl⟩ := parseFrom_first hf hn h
  rw [parseAlias_clause clause] at aliased
  cases aliased
  rw [parseJoins_clause clause] at joined
  cases joined
  rfl

/-- A query for all columns of the tables that stand behind `FROM`. -/
theorem parseQuery_star {star f : Token} {ts rest : List Token} {q : Query}
    (hs : star.isOperator "*") (hf : f.isWord "from")
    (parsed : parseQuery (star :: f :: ts) = some (q, rest)) :
    q.items = [.all] ∧ ∃ more, parseFrom (f :: ts) = some (q.joins, more) := by
  have item : parseItem (star :: f :: ts) = some (.all, f :: ts) := by
    rw [parseItem, operator_cons hs]
  have word : optionalKeywords ["all"] (star :: f :: ts) = (false, star :: f :: ts) := by
    simp [optionalKeywords, keywords, keyword, Token.isWord, Token.kind_of_isOperator hs]
  have comma : operator "," (f :: ts) = none := by
    simp [operator, Token.not_isOperator_of_isWord hf]
  simp only [parseQuery, word, List.length_cons, parseList, item, comma, Option.bind_eq_bind,
    Option.bind_some] at parsed
  obtain ⟨⟨joins, more⟩, tables, parsed⟩ := Option.bind_eq_some_iff.1 parsed
  -- The clauses that follow make no difference to what is read before them.
  obtain ⟨_, -, parsed⟩ := Option.bind_eq_some_iff.1 parsed
  obtain ⟨_, -, parsed⟩ := Option.bind_eq_some_iff.1 parsed
  obtain ⟨_, -, parsed⟩ := Option.bind_eq_some_iff.1 parsed
  obtain ⟨_, -, parsed⟩ := Option.bind_eq_some_iff.1 parsed
  obtain ⟨_, -, parsed⟩ := Option.bind_eq_some_iff.1 parsed
  cases parsed
  exact ⟨rfl, more, tables⟩

theorem parseStatement_star {k star f n : Token} {ts : List Token} {s : Statement}
    (hk : k.isWord "select") (hs : star.isOperator "*") (hf : f.isWord "from") (hn : n.kind = .word)
    (parsed : parseStatement (k :: star :: f :: n :: ts) = some s) :
    ∃ q, s = .select q ∧ q.items = [.all] ∧
      ∃ more, parseFrom (f :: n :: numberParams [] ts) = some (q.joins, more) := by
  have read := parseStatement_of_word
    (fun ts => (parseQuery ts).map fun p => (.select p.1, p.2)) hk List.mem_cons_self parsed
  rw [Token.numberParams_plain (.inl (Token.kind_of_isOperator hs)),
    Token.numberParams_plain (.inr (Token.kind_of_isWord hf)),
    Token.numberParams_plain (.inr hn)] at read
  obtain ⟨⟨q, _⟩, query, heq⟩ := Option.map_eq_some_iff.1 read
  cases heq
  exact ⟨q, rfl, parseQuery_star hs hf query⟩

/-! ## Texts -/

theorem nextToken_end {c : Char} {w : List Char} (start : isWordStart c) (all : w.all isWordChar) :
    nextToken (c :: w) = (.word, w.length + 1) := by
  have marker : c ∉ markers := by
    intro mem
    simp only [markers, List.mem_cons, List.not_mem_nil, or_false] at mem
    rcases mem with rfl | rfl | rfl | rfl | rfl | rfl | rfl | rfl <;> cases start
  have blob : startsBlob (c :: w) = false := by
    cases w with
    | nil => simp [startsBlob]
    | cons d w =>
      have quote : d ≠ '\'' := by
        rintro rfl
        cases all
      simp [startsBlob, quote]
  have letters : (c :: w).takeWhile isWordChar = c :: w := by
    simp only [isWordStart, Bool.and_eq_true] at start
    exact List.takeWhile_eq_self_iff.2
      (List.forall_mem_cons.2 ⟨start.1.1, List.all_eq_true.1 all⟩)
  rw [nextToken_plain marker blob, if_pos start, letters, List.length_cons]

/-- An identifier at the end of a text. -/
theorem tokensFrom_last {s : String} (hs : isIdentifier s) (fuel : Nat) :
    tokensFrom (fuel + 1) (' ' :: s.toList) = [⟨.word, [' '], s⟩] := by
  unfold isIdentifier at hs
  split at hs
  · cases hs
  rename_i c w text
  rw [Bool.and_eq_true, List.all_eq_true] at hs
  have start := isWordStart_of_isNameStart hs.1
  have all : w.all isWordChar :=
    List.all_eq_true.2 fun c mem => isWordChar_of_isNameChar (hs.2 c mem)
  have gap : gapLength ((' ' :: c :: w).length + 1) (' ' :: c :: w) = [' '].length := by
    rw [gapLength_white (by decide), gapLength_of_isWordStart w start]
    rfl
  have last : tokensFrom fuel [] = [] := by cases fuel <;> simp [tokensFrom]
  have read := tokensFrom_succ (w := [' ']) fuel rfl gap (by simp) (nextToken_end start all)
  rw [List.singleton_append] at read
  rw [text, read, if_neg (by simp), ← List.length_cons, List.take_length, List.drop_length, last,
    ← text, String.ofList_toList]

/-- There are no clauses, or one of some keywords opens them. -/
def IsClauses (ks : List String) (text : String) : Prop :=
  text = "" ∨ ∃ k more, isIdentifier k ∧ (∃ k' ∈ ks, (⟨.word, [' '], k⟩ : Token).isWord k') ∧
    text = " " ++ k ++ " " ++ more

namespace IsClauses

variable {ks : List String} {a b text : String}

theorem append (ha : IsClauses ks a) (hb : IsClauses ks b) : IsClauses ks (a ++ b) := by
  rcases ha with rfl | ⟨k, more, name, word, rfl⟩
  · rwa [String.empty_append]
  · exact .inr ⟨k, more ++ b, name, word, by simp only [String.append_assoc]⟩

theorem chars (h : IsClauses ks text) :
    text.toList = [] ∨ ∃ k more, isIdentifier k ∧
      (∃ k' ∈ ks, (⟨.word, [' '], k⟩ : Token).isWord k') ∧
        text.toList = ' ' :: (k.toList ++ ' ' :: more) := by
  rcases h with rfl | ⟨k, more, name, word, rfl⟩
  · exact .inl rfl
  · exact .inr ⟨k, more.toList, name, word, by simp [String.toList_append]⟩

/-- A blank stands in front of clauses. -/
theorem head (h : IsClauses ks text) : ∀ c ∈ text.toList.head?, c = ' ' := by
  intro c hc
  rcases h.chars with none | ⟨k, more, -, -, chars⟩
  · rw [none] at hc
    cases hc
  · rw [chars] at hc
    exact (Option.some.inj hc).symm

theorem opens (h : IsClauses ks text) (fuel : Nat) :
    Opens ks (tokensFrom (fuel + 1) text.toList) := by
  intro w hw
  rcases h.chars with none | ⟨k, more, name, word, chars⟩
  · rw [none] at hw
    simp [tokensFrom] at hw
  · rw [chars, tokensFrom_blank name] at hw
    cases hw
    exact word

end IsClauses

theorem tokensFrom_star (fuel : Nat) (rest : List Char) :
    tokensFrom (fuel + 1) (' ' :: '*' :: ' ' :: rest) =
      ⟨.operator, [' '], "*"⟩ :: tokensFrom fuel (' ' :: rest) := by
  have pair : String.ofList (('*' :: ' ' :: rest).take 2) ∉ pairs := by
    have two : ('*' :: ' ' :: rest).take 2 = ['*', ' '] := rfl
    rw [two]
    decide
  exact tokensFrom_operator (g := [' ']) (.inr rfl) (by decide) pair fuel

/-- An identifier in front of a blank, or at the end. -/
theorem tokensFrom_before {s : String} (hs : isIdentifier s) {rest : List Char}
    (head : ∀ c ∈ rest.head?, c = ' ') (fuel : Nat) :
    tokensFrom (fuel + 2) (' ' :: (s.toList ++ rest)) =
      ⟨.word, [' '], s⟩ :: tokensFrom (fuel + 1) rest := by
  cases rest with
  | nil =>
    rw [List.append_nil, tokensFrom_last hs]
    simp [tokensFrom]
  | cons c rest =>
    cases head c rfl
    exact tokensFrom_blank hs (fuel + 1) rest

/-- The tokens of a query for all columns, up to the name of the first table. -/
theorem tokens_star {table : String} (name : isIdentifier table) {rest : String}
    (head : ∀ c ∈ rest.toList.head?, c = ' ') :
    ∃ fuel, tokens ("SELECT * FROM " ++ table ++ rest) =
      ⟨.word, [], "SELECT"⟩ :: ⟨.operator, [' '], "*"⟩ :: ⟨.word, [' '], "FROM"⟩ ::
        ⟨.word, [' '], table⟩ :: tokensFrom (fuel + 1) rest.toList := by
  have text : ("SELECT * FROM " ++ table ++ rest).toList =
      "SELECT".toList ++ ' ' :: '*' :: ' ' :: ("FROM".toList ++ ' ' :: (table.toList ++
        rest.toList)) := by
    simp [String.toList_append]
  rw [tokens_eq text (table.toList.length + rest.toList.length + 10 + 2) 3 (by simp),
    tokensFrom_first (by decide), tokensFrom_star, tokensFrom_blank (by decide),
    tokensFrom_before name head]
  exact ⟨_, rfl⟩

/-- A text that is one statement fails without effect, or is run as that statement. -/
theorem Database.run_part (db : Database) (params : List Cell) {text : String} {t : Token}
    {ts : List Token} (read : tokens text = t :: ts) (plain : t.isOperator ";" = false)
    (single : IsSingle text) :
    (∃ e, db.run text params = (db, .error e)) ∨
      ∃ s cells left, splitStatements (tokens text) = [firstPart (t :: ts)] ∧
        parseStatement (firstPart (t :: ts)) = some s ∧
        bind params (slotsAfter [] (firstPart (t :: ts))) params = .ok (cells, left) ∧
        db.run text params = db.runStatement cells s := by
  obtain ⟨more, split, -⟩ := splitStatements_firstPart ts plain
  obtain ⟨part, alone⟩ := single
  have same : part = firstPart (t :: ts) := by
    rw [read, split] at alone
    exact (List.cons.inj alone).1.symm
  rw [same] at alone
  rw [db.run_single params alone]
  split
  · exact .inl ⟨_, rfl⟩
  · rename_i s parsed
    split
    · split <;> exact .inl ⟨_, rfl⟩
    · rename_i bound
      exact .inr ⟨s, _, _, alone, parsed, bound, rfl⟩

/-- A query for all columns fails, or gives the rows of the tables that are read from the rest of its
text. -/
theorem Database.run_star (db : Database) (params : List Cell) {table : String}
    (name : isIdentifier table) {rest : String} (head : ∀ c ∈ rest.toList.head?, c = ' ')
    (single : IsSingle ("SELECT * FROM " ++ table ++ rest)) :
    let text := "SELECT * FROM " ++ table ++ rest
    (∃ e, db.run text params = (db, .error e)) ∨
      ∃ fuel part q more cells rows, splitStatements (tokens text) = [part] ∧
        parseStatement part = some (.select q) ∧ q.items = [.all] ∧
        parseFrom (⟨.word, [' '], "FROM"⟩ :: ⟨.word, [' '], table⟩ ::
          numberParams [] (firstPart (tokensFrom (fuel + 1) rest.toList))) = some (q.joins, more) ∧
        runQuery db cells q = some rows ∧ db.run text params = (db, .ok ⟨0, rows⟩) := by
  intro text
  obtain ⟨fuel, read⟩ := tokens_star name head
  rcases db.run_part params read rfl single with
    failed | ⟨s, cells, -, split, parsed, -, run⟩
  · exact .inl failed
  · have said := parsed
    rw [firstPart_cons rfl, firstPart_cons rfl, firstPart_cons rfl, firstPart_cons rfl] at said
    obtain ⟨q, rfl, items, more, tables⟩ :=
      parseStatement_star (by decide) (by decide) (by decide) rfl said
    rw [runStatement] at run
    cases answer : runQuery db cells q with
    | none =>
      rw [answer] at run
      exact .inl ⟨_, run⟩
    | some rows =>
      rw [answer] at run
      exact .inr ⟨fuel, _, q, more, cells, rows, split, parsed, items, tables, answer, run⟩

/-- A query for all columns of a table leaves the database as it is, and gives rows of the table. -/
theorem Database.run_all (db : Database) (params : List Cell) {table : String}
    (name : isIdentifier table) {clauses : String} (h : IsClauses clauseWords clauses)
    (single : IsSingle ("SELECT * FROM " ++ table ++ clauses)) :
    let text := "SELECT * FROM " ++ table ++ clauses
    (∃ e, db.run text params = (db, .error e)) ∨
      ∃ t rows, db.table? table = some t ∧ db.run text params = (db, .ok ⟨0, rows⟩) ∧
        ∀ row ∈ rows, ∃ r ∈ t.rows, row = t.named r := by
  intro text
  rcases db.run_star params name h.head single with
    failed | ⟨fuel, part, q, more, cells, rows, -, -, items, tables, answer, run⟩
  · exact .inl failed
  · have joins := parseFrom_alone (by decide) rfl ((h.opens fuel).firstPart.numbered []) tables
    obtain ⟨t, found, members⟩ := runQuery_all items joins answer
    exact .inr ⟨t, rows, found, run, members⟩

end ResourceProvider.Engine
