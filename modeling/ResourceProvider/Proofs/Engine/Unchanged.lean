import ResourceProvider.Proofs.Engine.Query
/-!
# Rows that are written as they are

A database keeps rules: tables and columns have names of their own, rows stand in the order of their
numbers, and each row is stored as its table stores rows. Where they are kept, a row that is given
the cells that it has already leaves the database as it is (`run_update_unchanged`): nothing is
converted, no row is in the way, and no row that refers to it is looked at again.
-/
namespace ResourceProvider.Engine

open Schema (isIdentifier)

/-! ## Rules of a database -/

/-- The row is stored as its table stores rows: its columns convert nothing, they are filled where
they must be, and no other row has a key in common with it. -/
structure Table.Stores (t : Table) (r : Row) : Prop where
  width : r.cells.length = t.columns.length
  converted : t.convert r.cells = r.cells
  number : t.rowidOf? r.rowid r.cells = some r.rowid
  filled : ∀ c ∈ t.required, (r.cells[c.1]?).getD .null ≠ .null
  apart : ∀ k ∈ t.keys, t.clash? (some r.rowid) r (some k) = none

/-- No two columns have the same name, and the rows are stored in the order of their numbers. -/
structure Table.Intact (t : Table) : Prop where
  names : t.columns.Pairwise fun a b => sameName a.name b.name = false
  ordered : t.rows.Pairwise fun a b => a.rowid < b.rowid

/-- No two tables have the same name, and each of them keeps its rules. -/
structure Database.Intact (db : Database) : Prop where
  names : db.tables.Pairwise fun a b => sameName a.name b.name = false
  tables : ∀ t ∈ db.tables, t.Intact

/-! ## Names -/

theorem sameName_self (name : String) : sameName name name := by
  simp [sameName]

/-- Of things with names of their own, the one that is found by its name is the one that has it. -/
theorem find?_sameName {α : Type} {name : α → String} {xs : List α}
    (names : xs.Pairwise fun a b => sameName (name a) (name b) = false) {x : α} (hx : x ∈ xs) :
    xs.find? (fun a => sameName (name a) (name x)) = some x := by
  induction xs with
  | nil => cases hx
  | cons y ys ih =>
    rw [List.pairwise_cons] at names
    rw [List.find?_cons]
    rcases List.mem_cons.1 hx with rfl | later
    · rw [sameName_self]
    · rw [names.1 x later]
      exact ih names.2 later

theorem eq_of_sameName {α : Type} {name : α → String} {xs : List α}
    (names : xs.Pairwise fun a b => sameName (name a) (name b) = false) {x y : α} (hx : x ∈ xs)
    (hy : y ∈ xs) (same : sameName (name x) (name y)) : x = y := by
  have alike : (fun a => sameName (name a) (name x)) = fun a => sameName (name a) (name y) := by
    funext a
    simp [sameName, of_decide_eq_true same]
  have found := find?_sameName names hx
  rw [alike, find?_sameName names hy] at found
  exact (Option.some.inj found).symm

namespace Database

variable {db : Database} {t : Table}

theorem mem_of_table? {name : String} (found : db.table? name = some t) : t ∈ db.tables :=
  List.mem_of_find?_eq_some found

theorem Intact.table? (h : db.Intact) (ht : t ∈ db.tables) : db.table? t.name = some t :=
  find?_sameName h.names ht

theorem Intact.setTable (h : db.Intact) (ht : t ∈ db.tables) : db.setTable t = db := by
  have same : db.tables.map (fun u => if sameName u.name t.name then t else u) = db.tables := by
    refine (List.map_congr_left fun u hu => ?_).trans (List.map_id _)
    split
    · rename_i other
      exact (eq_of_sameName h.names hu ht other).symm
    · rfl
  rw [Database.setTable, same]

end Database

/-! ## Rows in order -/

namespace Table

variable {t : Table} {r : Row}

theorem find?_rowid {rows : List Row} (ordered : rows.Pairwise fun a b => a.rowid < b.rowid)
    (hr : r ∈ rows) : rows.find? (fun s => s.rowid = r.rowid) = some r := by
  induction rows with
  | nil => cases hr
  | cons s rows ih =>
    rw [List.pairwise_cons] at ordered
    rw [List.find?_cons]
    rcases List.mem_cons.1 hr with rfl | later
    · simp
    · have before := ordered.1 r later
      rw [decide_eq_false (by omega)]
      exact ih ordered.2 later

theorem Intact.row? (h : t.Intact) (hr : r ∈ t.rows) : t.row? r.rowid = some r :=
  find?_rowid h.ordered hr

theorem insertRow_filter {rows : List Row}
    (ordered : rows.Pairwise fun a b => a.rowid < b.rowid) (hr : r ∈ rows) :
    insertRow r (rows.filter fun s => s.rowid ≠ r.rowid) = rows := by
  induction rows with
  | nil => cases hr
  | cons s rows ih =>
    rw [List.pairwise_cons] at ordered
    rcases List.mem_cons.1 hr with rfl | later
    · have others : rows.filter (fun s => s.rowid ≠ r.rowid) = rows := by
        refine List.filter_eq_self.2 fun s hs => ?_
        have after := ordered.1 s hs
        simp only [ne_eq, decide_not, Bool.not_eq_true', decide_eq_false_iff_not]
        omega
      rw [List.filter_cons_of_neg (by simp), others]
      cases rows with
      | nil => rfl
      | cons s rows => rw [insertRow, if_pos (ordered.1 s List.mem_cons_self)]
    · have before := ordered.1 r later
      rw [List.filter_cons_of_pos (by simp; omega), insertRow, if_neg (by omega), if_neg (by omega),
        ih ordered.2 later]

/-- A row that is taken out of its table and put back is where it was. -/
theorem Intact.put_remove (h : t.Intact) (hr : r ∈ t.rows) : (t.remove r.rowid).put r = t := by
  rw [put, remove]
  simp only [insertRow_filter h.ordered hr]

end Table

/-! ## Cells that are equal to themselves -/

theorem float_lt_irrefl (x : Float) : ¬ x < x := by
  have model : (x < x) = (Float.lt x x = true) := rfl
  rw [model, Float.lt, decide_eq_true_eq]
  have bits : (x.toModel < x.toModel) = (Float.Model.lt x.toModel x.toModel = true) := rfl
  rw [bits, Float.Model.lt, Float.Model.UnpackedFloat.lt]
  cases x.toModel.unpack with
  | notANumber => decide
  | infinity s => cases s <;> decide
  | zero s => cases s <;> decide
  | finite s m e filled =>
    have same : (compare e e).then (compare m m) = .eq := by simp
    cases s with
    | positive =>
      change ¬ (some ((compare e e).then (compare m m)) == some Ordering.lt) = true
      rw [same]
      decide
    | negative =>
      change ¬ (some ((compare e e).then (compare m m)).swap == some Ordering.lt) = true
      rw [same]
      decide

theorem compareBytes_self (bytes : List UInt8) : compareBytes bytes bytes = .eq := by
  induction bytes with
  | nil => rfl
  | cons b bytes ih => simp [compareBytes, ih]

theorem Cell.same_self (c : Cell) : c.same c := by
  unfold Cell.same
  cases c with
  | null => rfl
  | int n => simp [compareBy]
  | real x => simp [compareBy, compareFloats, float_lt_irrefl]
  | text s => simp [compareBy, compareTexts, Collation.key]
  | blob bytes => simp [compareBy, compareBytes_self]
  | garbled bytes => simp [compareBy, compareBytes_self]

/-! ## One row -/

theorem foldlM_unchanged {ε α β : Type} {f : β → α → Except ε β} {b : β} {xs : List α}
    (h : ∀ x ∈ xs, f b x = .ok b) : xs.foldlM f b = .ok b := by
  induction xs with
  | nil => rfl
  | cons x xs ih =>
    rw [List.forall_mem_cons] at h
    rw [List.foldlM_cons, h.1]
    exact ih h.2

section

variable {db : Database} {t : Table} {r : Row}

theorem Table.Stores.fillNulls (h : t.Stores r) (policy : ConflictPolicy) :
    t.fillNulls policy r.cells = .ok r.cells := by
  unfold Table.fillNulls
  dsimp only
  rw [foldlM_unchanged fun q hq => by simp [h.filled q hq]]
  simp only [bind, Except.bind]
  split
  · rename_i found
    have null := List.find?_some found
    exact absurd (of_decide_eq_true null) (h.filled _ (List.mem_of_find?_eq_some found))
  · rfl

theorem mem_uniqueness {policy own : ConflictPolicy} {k : Key}
    (h : (own, some k) ∈ t.uniqueness policy) : k ∈ t.keys := by
  have keyed : (own, some k) ∈ t.keys.map (fun k => (effective policy k.policy, some k)) := by
    unfold Table.uniqueness at h
    dsimp only at h
    split at h
    · exact h
    · split at h <;> simpa using h
  obtain ⟨k', hk', same⟩ := List.mem_map.1 keyed
  cases same
  exact hk'

/-- No row is in the way of one that is stored already. -/
theorem clearWay_stored (found : db.table? t.name = some t) (stores : t.Stores r)
    (erase : Database → String → Row → Attempt Database) (policy : ConflictPolicy) :
    clearWay erase t.name policy (some r.rowid) r db = .ok db := by
  unfold clearWay
  simp only [found]
  refine foldlM_unchanged fun u hu => ?_
  obtain ⟨own, key⟩ := u
  have free : t.clash? (some r.rowid) r key = none := by
    cases key with
    | none => simp [Table.clash?]
    | some k => exact stores.apart k (mem_uniqueness hu)
  simp only [found, free]

/-- Rows that refer to a row do not notice that it is written with the same cells. -/
theorem applyActions_same (act : Database → Effect → Attempt Database) (cells : List Cell) :
    applyActions act t cells (some cells) db = .ok db := by
  have same (cells : List Cell) : (cells.zip cells).all (fun c => c.1.same c.2) := by
    induction cells with
    | nil => rfl
    | cons c cells ih => rw [List.zip_cons_cons, List.all_cons, Cell.same_self, ih]; rfl
  unfold applyActions
  split
  · rfl
  · refine foldlM_unchanged fun u hu => ?_
    dsimp only
    split
    · simp [same]
    · rfl

/-- A row that is given the cells that it has changes nothing, or a check of its table stops it. -/
theorem act_assign_same (intact : db.Intact) (ht : t ∈ db.tables) (hr : r ∈ t.rows)
    (stores : t.Stores r) (fuel : Nat) (policy : ConflictPolicy) :
    act (fuel + 1) db (.assign policy t.name r r.cells) = .ok db ∨
      ∃ stop, act (fuel + 1) db (.assign policy t.name r r.cells) = .error stop := by
  have found := intact.table? ht
  simp only [act, found, stores.number, stores.converted, stores.fillNulls]
  change (t.meetsChecks policy ⟨r.rowid, t.convert r.cells⟩ >>= _) = _ ∨
    ∃ stop, (t.meetsChecks policy ⟨r.rowid, t.convert r.cells⟩ >>= _) = _
  rw [stores.converted]
  cases t.meetsChecks policy r with
  | error stop => exact .inr ⟨stop, rfl⟩
  | ok =>
    left
    change (clearWay _ t.name policy (some r.rowid) r db >>= _) = _
    rw [clearWay_stored found stores]
    simp only [bind, Except.bind, found, (intact.tables t ht).put_remove hr, intact.setTable ht]
    exact applyActions_same _ _

/-- Each value that is assigned is in its cell already. -/
def Table.Repeats (params : List Cell) (r : Row) (assigned : List (Nat × Expr Place)) : Prop :=
  ∀ a ∈ assigned, ∃ c, r.cells[a.1]? = some c ∧ a.2.eval ⟨params, r.places, []⟩ = some c

theorem Table.Repeats.values {params : List Cell} {assigned : List (Nat × Expr Place)}
    (h : Table.Repeats params r assigned) :
    ∃ values, (assigned.mapM fun (i, e) =>
        (e.eval ⟨params, r.places, []⟩).map fun v => (i, v)) = some values ∧
      ∀ v ∈ values, r.cells[v.1]? = some v.2 := by
  induction assigned with
  | nil => exact ⟨[], rfl, by simp⟩
  | cons a assigned ih =>
    obtain ⟨i, e⟩ := a
    obtain ⟨⟨c, stored, eval⟩, rest⟩ := List.forall_mem_cons.1 h
    obtain ⟨values, more, kept⟩ := ih rest
    refine ⟨(i, c) :: values, ?_, List.forall_mem_cons.2 ⟨stored, kept⟩⟩
    rw [List.mapM_cons, more]
    simp only [eval]
    rfl

theorem foldl_set_same {cells : List Cell} {values : List (Nat × Cell)}
    (h : ∀ v ∈ values, cells[v.1]? = some v.2) :
    values.foldl (fun cells v => cells.set v.1 v.2) cells = cells := by
  induction values with
  | nil => rfl
  | cons v values ih =>
    rw [List.forall_mem_cons] at h
    obtain ⟨bound, same⟩ := List.getElem?_eq_some_iff.1 h.1
    rw [List.foldl_cons, ← same, List.set_getElem_self]
    exact ih h.2

theorem changeRow_same {params : List Cell} {assigned : List (Nat × Expr Place)}
    (intact : db.Intact) (ht : t ∈ db.tables) (hr : r ∈ t.rows) (stores : t.Stores r)
    (same : Table.Repeats params r assigned) (policy : ConflictPolicy) :
    Database.changeRow params policy t.name assigned r.rowid db = .ok db ∨
      ∃ stop, Database.changeRow params policy t.name assigned r.rowid db = .error stop := by
  obtain ⟨values, eval, kept⟩ := same.values
  unfold Database.changeRow
  rw [intact.table? ht, Option.bind_some, (intact.tables t ht).row? hr]
  dsimp only
  rw [eval]
  dsimp only
  rw [foldl_set_same kept]
  exact act_assign_same intact ht hr stores _ policy

/-! ## The statement -/

theorem changeEach_same {α : Type} {change : α → Database → Database × Attempt Database}
    {xs : List α} (count : Nat)
    (h : ∀ x ∈ xs, change x db = (db, .ok db) ∨ ∃ stop, change x db = (db, .error stop)) :
    (db.changeEach change xs count).1 = db := by
  induction xs generalizing count with
  | nil => rfl
  | cons x xs ih =>
    rw [List.forall_mem_cons] at h
    unfold Database.changeEach
    rcases h.1 with done | ⟨stop, done⟩
    · rw [done]
      exact ih _ h.2
    · rw [done]
      cases stop with
      | skip => exact ih _ h.2
      | halt e keeps => rfl

theorem Database.Intact.keepSequences (h : db.Intact) : db.keepSequences db = db := by
  have same : db.tables.map (fun t => { t with sequence :=
      ((db.table? t.name).map Table.sequence).getD t.sequence }) = db.tables := by
    refine (List.map_congr_left fun t ht => ?_).trans (List.map_id _)
    rw [h.table? ht]
    rfl
  rw [Database.keepSequences, same]

/-- A statement that left the database as it is leaves it so at its end. -/
theorem settle_same (intact : db.Intact) (ran : Database × Except (Refusal × Bool) Nat)
    (same : ran.1 = db) : (db.settle ran).1 = db := by
  obtain ⟨_, answer⟩ := ran
  subst same
  unfold Database.settle
  cases answer with
  | ok count =>
    dsimp only
    split <;> rfl
  | error e =>
    obtain ⟨e, keeps⟩ := e
    dsimp only
    split
    · rfl
    · split
      · rfl
      · exact intact.keepSequences

/-- A statement that gives a row the cells that it has leaves the database as it is. -/
theorem settle_unchanged {params : List Cell} {assigned : List (Nat × Expr Place)}
    {rows : List Row} (intact : db.Intact) (ht : t ∈ db.tables) (hr : r ∈ t.rows)
    (stores : t.Stores r) (same : Table.Repeats params r assigned) (only : ∀ s ∈ rows, s = r)
    (policy : ConflictPolicy) :
    (db.settle (db.changeEach (fun s db =>
      (db, Database.changeRow params policy t.name assigned s.rowid db)) rows 0)).1 = db := by
  refine settle_same intact _ (changeEach_same 0 fun s hs => ?_)
  rw [only s hs]
  rcases changeRow_same intact ht hr stores same policy with done | ⟨stop, done⟩
  · exact .inl (by rw [done])
  · exact .inr ⟨stop, by rw [done]⟩

/-! ## Texts -/

/-- Each column that is named has the cell beside its name in the row. -/
def Table.Shows (t : Table) (r : Row) (named : ResultRow) : Prop :=
  ∀ c ∈ named, ∃ i, t.columnIndex? c.1 = some i ∧ r.cells[i]? = some c.2

/-- A query for all columns shows the row as it is stored. -/
theorem Table.Intact.shows (intact : t.Intact) (width : r.cells.length = t.columns.length) :
    t.Shows r (t.named r) := by
  intro c hc
  obtain ⟨i, bound, rfl⟩ := List.mem_mapIdx.1 hc
  refine ⟨i, List.findIdx?_eq_some_iff_getElem.2 ⟨bound, sameName_self _, fun j before => ?_⟩, ?_⟩
  · rw [List.pairwise_iff_getElem.1 intact.names j i (by omega) bound before]
    decide
  · have inside : i < r.cells.length := by omega
    rw [Row.places, List.getElem?_append_left inside, List.getElem?_eq_getElem inside]
    rfl

theorem placeholderChanges_cons (k : Nat) (c : String) (cs : List String) :
    placeholderChanges k (c :: cs) = (c, .param k) :: placeholderChanges (k + 1) cs := by
  simp [placeholderChanges, List.zipIdx_cons]

/-- Columns that are set to the cells that they have, each taken from its parameter. -/
theorem Table.Shows.repeats {named : ResultRow} (shown : t.Shows r named) (before after : List Cell)
    {assigned : List (Nat × Expr Place)}
    (h : Database.resolveChanges? t (placeholderChanges before.length (named.map Prod.fst)) =
      some assigned) :
    Table.Repeats (before ++ (named.map Prod.snd ++ after)) r assigned := by
  induction named generalizing before assigned with
  | nil =>
    cases h
    exact fun a ha => by cases ha
  | cons c named ih =>
    obtain ⟨⟨i, place, cell⟩, later⟩ := List.forall_mem_cons.1 shown
    rw [List.map_cons, placeholderChanges_cons, Database.resolveChanges?, List.mapM_cons] at h
    obtain ⟨a, first, h⟩ := Option.bind_eq_some_iff.1 h
    obtain ⟨rest, more, h⟩ := Option.bind_eq_some_iff.1 h
    cases h
    simp only [place, Scope.resolve, Option.bind_eq_bind, Option.bind_some] at first
    cases first
    refine List.forall_mem_cons.2 ⟨⟨c.2, cell, ?_⟩, ?_⟩
    · simp [Expr.eval]
    · have others := ih later (before ++ [c.2]) (by rw [List.length_append]; exact more)
      rw [List.append_assoc] at others
      exact others

/-- The rows that the text selects, read as one update; nothing if it cannot be read as that, or it
cannot be told of every row. -/
def Table.selection? (t : Table) (params : List Cell) (text : String) : Option (List Row) :=
  match splitStatements (tokens text) with
  | [part] =>
    match parseStatement part, Database.bind params (slotsAfter [] part) params with
    | some (.update _ _ _ condition), .ok (cells, _) =>
      (Database.resolveCondition? t condition).bind fun e => Database.selected? cells e t.rows
    | _, _ => none
  | _ => none

theorem Table.isSingle_of_selection? {params : List Cell} {text : String} {rows : List Row}
    (h : t.selection? params text = some rows) : IsSingle text := by
  unfold Table.selection? at h
  split at h
  · rename_i part single
    exact ⟨part, single⟩
  · cases h

theorem Table.eq_filter_of_selected {cells : List Cell} {condition : Option Written}
    {rows : List Row}
    (h : (Database.resolveCondition? t condition).bind
      (fun e => Database.selected? cells e t.rows) = some rows) :
    rows = t.rows.filter (t.isSelected cells condition) := by
  obtain ⟨e, read, selected⟩ := Option.bind_eq_some_iff.1 h
  exact Database.selected_eq read selected

/-- A single update of columns, of all rows or by a condition, fails without effect, or is read as it
is written. -/
theorem Database.run_changes (db : Database) (params : List Cell) {table : String}
    (name : isIdentifier table) {columns : List String} (some_ : columns ≠ [])
    (names : ∀ c ∈ columns, isIdentifier c) {clause : String} (h : IsClauses ["where"] clause)
    {text : String}
    (text_eq : text = "UPDATE " ++ table ++ " SET " ++ assignments columns ++ clause)
    (single : IsSingle text) :
    (∃ e, db.run text params = (db, .error e)) ∨ ∃ condition cells,
      (∀ t : Table, t.selection? params text =
        (resolveCondition? t condition).bind fun e => selected? cells e t.rows) ∧
      ((∀ t ∈ tokens text, t.isUnnamed) → cells = params) ∧
      db.run text params =
        db.update cells .none table (placeholderChanges 0 columns) condition := by
  have stop : ∀ d ∈ clause.toList.head?, Text.isDigit d = false := by
    intro d hd
    rw [h.head d hd]
    rfl
  obtain ⟨as, fuel, enough, read, assigns⟩ := tokens_changes name some_ names clause stop
  obtain ⟨fuel, rfl⟩ := Nat.exists_eq_add_of_le' (show 1 ≤ fuel by omega)
  have opens := h.opens fuel
  rw [← text_eq] at read
  have words : firstPart (⟨.word, [], "UPDATE"⟩ :: ⟨.word, [' '], table⟩ :: ⟨.word, [' '], "SET"⟩ ::
      (as ++ tokensFrom (fuel + 1) clause.toList)) =
      ⟨.word, [], "UPDATE"⟩ :: ⟨.word, [' '], table⟩ :: ⟨.word, [' '], "SET"⟩ ::
        (as ++ firstPart (tokensFrom (fuel + 1) clause.toList)) := by
    rw [firstPart_cons rfl, firstPart_cons rfl, firstPart_cons rfl, firstPart,
      List.takeWhile_append_of_pos assigns.plain]
    rfl
  rcases db.run_part params read rfl single with failed | ⟨s, cells, left, split, parsed, bound, run⟩
  · exact .inl failed
  have unnamed (all : ∀ t ∈ tokens text, t.isUnnamed) : cells = params := by
    obtain ⟨left', bound'⟩ := bind_tokens (fun t mem => all t (by
      rw [read]
      exact mem_of_mem_firstPart mem)) params
    rw [bound] at bound'
    cases bound'
    rfl
  rw [words] at parsed split bound
  obtain ⟨condition, -, rfl⟩ :=
    parseStatement_changes (by decide) rfl (by decide) assigns opens.firstPart parsed
  refine .inr ⟨condition, cells, fun t => ?_, unnamed, run⟩
  rw [Table.selection?, split]
  simp only [parsed, bound]

/-- An update that selects nothing but a row, and gives it the cells that it shows, leaves the
database as it is. -/
theorem Database.run_update_unchanged (intact : db.Intact) {table : String}
    (name : isIdentifier table) (found : db.table? table = some t) (hr : r ∈ t.rows)
    (stores : t.Stores r) {named : ResultRow} (shown : t.Shows r named) (some_ : named ≠ [])
    (names : ∀ c ∈ named.map Prod.fst, isIdentifier c) {clause : String}
    (h : IsClauses ["where"] clause) (args : List Cell) {text : String}
    (text_eq : text = "UPDATE " ++ table ++ " SET " ++ assignments (named.map Prod.fst) ++ clause)
    (unnamed : ∀ t ∈ tokens text, t.isUnnamed) {selected : List Row}
    (selects : t.selection? (named.map Prod.snd ++ args) text = some selected)
    (only : ∀ s ∈ selected, s = r) :
    (db.run text (named.map Prod.snd ++ args)).1 = db := by
  rcases db.run_changes (named.map Prod.snd ++ args) name (by simpa using some_) names h text_eq
    (Table.isSingle_of_selection? selects) with ⟨e, failed⟩ | ⟨condition, cells, selection, bound, run⟩
  · rw [failed]
  cases bound unnamed
  rw [selection] at selects
  rw [run]
  rcases update_rows db (named.map Prod.snd ++ args) .none table
    (placeholderChanges 0 (named.map Prod.fst)) condition with
    refused | ⟨u, assigned, rows, found', changed, same, run⟩
  · rw [refused]
    rfl
  · rw [found] at found'
    cases found'
    rw [run]
    refine settle_unchanged intact (mem_of_table? found) hr stores
      (shown.repeats [] args changed) (fun s hs => ?_) .none
    rw [same.mem_iff, ← Table.eq_filter_of_selected selects] at hs
    exact only s hs

end

end ResourceProvider.Engine
