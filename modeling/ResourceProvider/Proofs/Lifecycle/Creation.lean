import ResourceProvider.Proofs.Engine.Creation
import ResourceProvider.Proofs.Lifecycle.Guarded
import ResourceProvider.Proofs.Provider.Counts
/-!
# Which tables a schema creates

The names in a schema are distinct as they are spelled, but the engine does not tell capital letters
from small ones. On an empty database each table of a schema is created with its own columns exactly
if each one can be created alone, and no two tables have one name to the engine
(`tables_created_iff`). Otherwise the later table is refused or, under its guard, left out.
-/
namespace ResourceProvider

open Engine (Database Apart IsSingle created? creation sameName)
open Schema (createText definitions isIdentifier)

/-! ## Tables that are created -/

/-- The table is there under its own name, with its own columns. -/
def Table.HeldBy (t : Table) (db : Database) : Prop :=
  ∃ u, db.table? t.name = some u ∧ u.name = t.name ∧
    u.columns.map Engine.Column.name = t.columns.map Document.Column.name

/-- On an empty database, the statement of the table alone creates it. -/
def Table.CreatedAlone (t : Table) : Prop :=
  ∃ db outcome, Database.empty.run (createText t) [] = (db, .ok outcome) ∧ t.HeldBy db

/-- The statement of the table is a single one, and names it by an identifier. -/
structure Table.IsStated (t : Table) : Prop where
  named : isIdentifier t.name
  single : IsSingle (createText t)

namespace Table.IsStated

variable {t : Table} {u : Engine.Table} {db : Database}

theorem created (h : t.IsStated) (made : created? (createText t) = some u) :
    u.name = t.name ∧ Apart (u.columns.map Engine.Column.name) := by
  rw [Schema.createText_creation] at made
  exact Engine.created?_creation h.named made

theorem run_free (h : t.IsStated) (free : db.declares t.name = false) :
    match created? (createText t) with
    | some u => db.run (createText t) [] = ({ db with tables := db.tables ++ [u] }, .ok .nothing)
    | none => ∃ e, db.run (createText t) [] = (db, .error e) := by
  have single := h.single
  rw [Schema.createText_creation] at single ⊢
  exact db.run_creation_free h.named single free

theorem run_taken (h : t.IsStated) (there : db.declares t.name)
    (made : created? (createText t) = some u) :
    db.run (createText t) [] = if t.ifNotExists then (db, .ok .nothing) else db.refuse := by
  have single := h.single
  rw [Schema.createText_creation] at single made ⊢
  exact db.run_creation_taken h.named single there made

theorem createdAlone_iff (h : t.IsStated) : t.CreatedAlone ↔
    ∃ u, created? (createText t) = some u ∧
      u.columns.map Engine.Column.name = t.columns.map Document.Column.name := by
  unfold Table.CreatedAlone
  have run := h.run_free (show Database.empty.declares t.name = false from rfl)
  cases made : created? (createText t) with
  | none =>
    rw [made] at run
    obtain ⟨e, refused⟩ := run
    rw [refused]
    refine iff_of_false ?_ (by simp)
    rintro ⟨db, outcome, ran, -⟩
    cases ran
  | some u =>
    have name := (h.created made).1
    rw [made] at run
    rw [run]
    constructor
    · rintro ⟨db, outcome, ran, v, found, -, columns⟩
      cases ran
      have own : v = u := by
        have mem := List.mem_of_find?_eq_some found
        simpa [Database.empty] using mem
      rw [own] at columns
      exact ⟨u, rfl, columns⟩
    · rintro ⟨v, same, columns⟩
      cases same
      refine ⟨_, _, rfl, u, ?_, name, columns⟩
      simp [Database.table?, Database.empty, sameName, name]

end Table.IsStated

/-! ## Tables one after another -/

namespace Lifecycle

variable {s v : Session} {t : Table} {ts : List Table}

/-- The tables that the statements of tables make, each where its name is free. -/
def newTables (ts : List Table) : List Engine.Table :=
  ts.filterMap fun t => created? (createText t)

theorem newTables_cons {u : Engine.Table} (made : created? (createText t) = some u) :
    newTables (t :: ts) = u :: newTables ts := by
  rw [newTables, List.filterMap_cons, made]
  rfl

theorem issue_createText (isOpen : s.isOpen) : (Action.issue ⟨createText t, []⟩).run s =
    match s.database.run (createText t) [] with
    | (db, .ok outcome) => .ok outcome (s.issued ⟨createText t, []⟩ db)
    | (db, .error e) => .error (.storage e.error) (s.issued ⟨createText t, []⟩ db) := by
  have asked : s.database.answer ⟨createText t, []⟩ = s.database.run (createText t) [] := rfl
  cases answered : s.database.run (createText t) [] with
  | mk db answer =>
    cases answer <;>
      simp only [Action.issue_run ⟨createText t, []⟩ isOpen, asked, answered]

/-- Where all names are free and different, the statements of tables succeed exactly if each makes a
table. -/
theorem issueAll_free (isOpen : s.isOpen) (stated : ∀ t ∈ ts, t.IsStated)
    (apart : Apart (ts.map Table.name)) (free : ∀ t ∈ ts, s.database.declares t.name = false) :
    ((∃ v, (issueAll (ts.map createText)).run s = .ok () v) ↔
      ∀ t ∈ ts, (created? (createText t)).isSome) ∧
    ∀ v, (issueAll (ts.map createText)).run s = .ok () v →
      v.database.tables = s.database.tables ++ newTables ts := by
  induction ts generalizing s with
  | nil =>
    refine ⟨iff_of_true ⟨s, rfl⟩ (by simp), ?_⟩
    rintro v ⟨⟩
    exact (List.append_nil _).symm
  | cons t ts ih =>
    rw [List.forall_mem_cons] at stated free
    rw [Apart, List.map_cons, List.map_cons, List.nodup_cons] at apart
    have run := stated.1.run_free free.1
    rw [List.map_cons, issueAll_cons, EStateM.run_bind, issue_createText isOpen,
      List.forall_mem_cons]
    cases made : created? (createText t) with
    | none =>
      rw [made] at run
      obtain ⟨e, refused⟩ := run
      rw [refused]
      refine ⟨iff_of_false ?_ (by simp), ?_⟩
      · rintro ⟨v, h⟩
        cases h
      · rintro v ⟨⟩
    | some u =>
      have name := (stated.1.created made).1
      rw [made] at run
      rw [run]
      -- The new table takes its own name only, and no later table has that.
      have free' : ∀ w ∈ ts, { s.database with
          tables := s.database.tables ++ [u] }.declares w.name = false := by
        intro w hw
        rw [Database.declares_append, free.2 w hw, name, Bool.false_or, sameName,
          decide_eq_false_iff_not]
        intro same
        apply apart.1
        rw [same]
        exact List.mem_map_of_mem (List.mem_map_of_mem hw)
      obtain ⟨succeeds, tables⟩ := ih (s := s.issued ⟨createText t, []⟩
        { s.database with tables := s.database.tables ++ [u] }) isOpen stated.2 apart.2 free'
      simp only [Option.isSome_some, true_and]
      refine ⟨succeeds, fun v h => ?_⟩
      rw [tables v h, newTables_cons made]
      exact List.append_assoc ..

/-- A statement that can make its table fails exactly if the name is taken and there is no guard;
otherwise the name is taken after it. -/
theorem issue_taken (isOpen : s.isOpen) (stated : t.IsStated)
    (made : (created? (createText t)).isSome) :
    (s.database.declares t.name ∧ t.ifNotExists = false ∧
      ∃ e v, (Action.issue ⟨createText t, []⟩).run s = .error e v) ∨
    ((s.database.declares t.name → t.ifNotExists) ∧
      ∃ outcome v, (Action.issue ⟨createText t, []⟩).run s = .ok outcome v ∧ v.isOpen ∧
        ∀ name, v.database.declares name = (s.database.declares name || sameName t.name name)) := by
  obtain ⟨u, made⟩ := Option.isSome_iff_exists.1 made
  rw [issue_createText isOpen]
  cases there : s.database.declares t.name with
  | false =>
    have run := stated.run_free there
    rw [made] at run
    rw [run]
    refine .inr ⟨fun taken => by simp at taken, _, _, rfl, isOpen, fun name => ?_⟩
    rw [← (stated.created made).1]
    exact Database.declares_append s.database u name
  | true =>
    rw [stated.run_taken there made]
    cases guarded : t.ifNotExists with
    | false => exact .inl ⟨rfl, rfl, _, _, rfl⟩
    | true =>
      refine .inr ⟨fun _ => rfl, _, _, rfl, isOpen, fun name => ?_⟩
      change s.database.declares name = _
      cases same : sameName t.name name with
      | false => exact (Bool.or_false _).symm
      | true =>
        rw [Bool.or_true, ← there]
        unfold Database.declares Database.table?
        simp only [sameName, Database.sameName_iff.1 same]

/-- Where each statement can make its table, they fail exactly if one without a guard finds its name
taken, by a table that was there or by one that comes before. -/
theorem issueAll_taken (isOpen : s.isOpen) (stated : ∀ t ∈ ts, t.IsStated)
    (made : ∀ t ∈ ts, (created? (createText t)).isSome) :
    (∃ e v, (issueAll (ts.map createText)).run s = .error e v) ↔
      ∃ (before : List Table) (t : Table) (after : List Table), ts = before ++ t :: after ∧
        t.ifNotExists = false ∧
          (s.database.declares t.name ∨ ∃ u ∈ before, sameName u.name t.name) := by
  induction ts generalizing s with
  | nil =>
    refine iff_of_false ?_ ?_
    · rintro ⟨e, v, h⟩
      cases h
    · rintro ⟨before, t, after, cut, -⟩
      simp at cut
  | cons t ts ih =>
    rw [List.forall_mem_cons] at stated made
    rw [List.map_cons, issueAll_cons, EStateM.run_bind]
    obtain ⟨there, plain, e, v, failed⟩ | ⟨guarded, outcome, v, ran, isOpen', declares⟩ :=
      issue_taken isOpen stated.1 made.1
    · rw [failed]
      exact iff_of_true ⟨e, v, rfl⟩ ⟨[], t, ts, rfl, plain, .inl there⟩
    · rw [ran]
      refine (ih isOpen' stated.2 made.2).trans ?_
      simp only [declares, Bool.or_eq_true]
      constructor
      · rintro ⟨before, w, after, rfl, plain, (there | first) | ⟨u, hu, same⟩⟩
        · exact ⟨t :: before, w, after, rfl, plain, .inl there⟩
        · exact ⟨t :: before, w, after, rfl, plain, .inr ⟨t, .head _, first⟩⟩
        · exact ⟨t :: before, w, after, rfl, plain, .inr ⟨u, .tail _ hu, same⟩⟩
      · rintro ⟨before, w, after, cut, plain, taken⟩
        cases before with
        | nil =>
          cases cut
          rcases taken with there | ⟨u, hu, -⟩
          · exact absurd (guarded there) (by simp [plain])
          · cases hu
        | cons t before =>
          cases cut
          refine ⟨before, w, after, rfl, plain, ?_⟩
          rcases taken with there | ⟨u, hu, same⟩
          · exact .inl (.inl there)
          · rcases List.mem_cons.1 hu with rfl | hu
            · exact .inl (.inr same)
            · exact .inr ⟨u, hu, same⟩

end Lifecycle

/-! ## Schemas -/

theorem Schema.texts_script (s : Schema) :
    (Schema.script s).statements.map Prod.snd = s.tables.map createText := by
  simp [Schema.script]

theorem Schema.stated_of_ofDatabase {d : Document.Database} {s : Schema}
    (accepted : Schema.ofDatabase d = .ok s) (single : ∀ t ∈ s.tables, IsSingle (createText t)) :
    ∀ t ∈ s.tables, t.IsStated :=
  fun t ht => ⟨(Schema.named_of_ofDatabase accepted).tables t ht, single t ht⟩

/-- The names of a schema are distinct as they are spelled. -/
theorem Schema.nodup_of_ofDatabase {d : Document.Database} {s : Schema}
    (accepted : Schema.ofDatabase d = .ok s) : (s.tables.map Table.name).Nodup ∧
      ∀ t ∈ s.tables, (t.columns.map Document.Column.name).Nodup := by
  obtain ⟨fit, resolved⟩ := Schema.exists_resolved accepted
  refine ⟨?_, fun t ht => ?_⟩
  · have names : s.tables.map Table.name = d.tables.map Document.Table.name := by
      obtain ⟨-, rfl⟩ := Schema.ofDatabase_eq_ok_iff.1 accepted
      simp [Schema.resolveTable]
    rw [names]
    exact fit.distinct
  · obtain ⟨t', ht', rfl⟩ := resolved t ht
    exact (fit.tables t' ht').distinct

/-- Tables that a database holds under names that are distinct as they are spelled have names that
are distinct to the engine. -/
theorem apart_of_heldBy {db : Database} {ts : List Table} (distinct : (ts.map Table.name).Nodup)
    (held : ∀ t ∈ ts, t.HeldBy db) : Apart (ts.map Table.name) := by
  refine List.Nodup.map_on ?_ distinct
  simp only [List.mem_map]
  rintro _ ⟨t, ht, rfl⟩ _ ⟨u, hu, rfl⟩ same
  obtain ⟨a, found, name, -⟩ := held t ht
  obtain ⟨b, found', name', -⟩ := held u hu
  have one : db.table? t.name = db.table? u.name := by simp only [Database.table?, sameName, same]
  rw [← name, ← name', Option.some.inj (found.symm.trans (one.trans found'))]

/-- Among new tables whose names are distinct to the engine, each one is found under its name. -/
theorem table?_newTables {db : Database} {ts : List Table} (stated : ∀ t ∈ ts, t.IsStated)
    (apart : Apart (ts.map Table.name)) (tables : db.tables = Lifecycle.newTables ts) {t : Table}
    (mem : t ∈ ts) {u : Engine.Table} (made : created? (createText t) = some u) :
    db.table? t.name = some u := by
  have name := ((stated t mem).created made).1
  rw [← name]
  refine Database.table?_of_only ?_ ?_
  · rw [tables]
    exact List.mem_filterMap.2 ⟨t, mem, made⟩
  · intro v hv same
    rw [tables] at hv
    obtain ⟨w, hw, made'⟩ := List.mem_filterMap.1 hv
    rw [((stated w hw).created made').1, name] at same
    rw [Apart, List.map_map] at apart
    rw [List.inj_on_of_nodup_map apart hw mem same] at made'
    exact Option.some.inj (made'.symm.trans made)

/-- What a schema accepts is distinct as it is spelled. On an empty database its tables are all
created, each with its own columns, exactly if each can be created alone and no two names of tables
are the same but for the case of letters; nor can two names of columns be so in a table that is
created. Two such tables are not both created: where each could be alone, the statements fail
exactly if the later one has no guard, and else it is left out. -/
theorem tables_created_iff {d : Document.Database} {s : Schema}
    (accepted : Schema.ofDatabase d = .ok s) (single : ∀ t ∈ s.tables, IsSingle (createText t))
    {before : Session} (isOpen : before.isOpen) (empty : before.database.tables = []) :
    ((s.tables.map Table.name).Nodup ∧
      ∀ t ∈ s.tables, (t.columns.map Document.Column.name).Nodup) ∧
    ((∃ after, (Lifecycle.issueAll ((Schema.script s).statements.map Prod.snd)).run before =
        .ok () after ∧ ∀ t ∈ s.tables, t.HeldBy after.database) ↔
      (∀ t ∈ s.tables, t.CreatedAlone) ∧ Apart (s.tables.map Table.name)) ∧
    (∀ t ∈ s.tables, t.CreatedAlone → Apart (t.columns.map Document.Column.name)) ∧
    ((∀ t ∈ s.tables, t.CreatedAlone) →
      ((∃ e after, (Lifecycle.issueAll ((Schema.script s).statements.map Prod.snd)).run before =
        .error e after) ↔
      ∃ earlier t later, s.tables = earlier ++ t :: later ∧ t.ifNotExists = false ∧
        ∃ u ∈ earlier, sameName u.name t.name)) := by
  have stated := Schema.stated_of_ofDatabase accepted single
  obtain ⟨distinct, columns⟩ := Schema.nodup_of_ofDatabase accepted
  have free : ∀ t ∈ s.tables, before.database.declares t.name = false := fun t _ => by
    simp [Database.declares, Database.table?, empty]
  have made (alone : ∀ t ∈ s.tables, t.CreatedAlone) :
      ∀ t ∈ s.tables, (created? (createText t)).isSome := fun t ht => by
    obtain ⟨u, made, -⟩ := (stated t ht).createdAlone_iff.1 (alone t ht)
    rw [made]
    rfl
  rw [Schema.texts_script]
  refine ⟨⟨distinct, columns⟩, ⟨?_, ?_⟩, fun t ht alone => ?_, fun alone => ?_⟩
  · rintro ⟨after, ran, held⟩
    have apart := apart_of_heldBy distinct held
    obtain ⟨succeeds, tables⟩ := Lifecycle.issueAll_free isOpen stated apart free
    have tables := tables after ran
    rw [empty, List.nil_append] at tables
    refine ⟨fun t ht => (stated t ht).createdAlone_iff.2 ?_, apart⟩
    obtain ⟨u, made⟩ := Option.isSome_iff_exists.1 (succeeds.1 ⟨after, ran⟩ t ht)
    obtain ⟨v, found, -, own⟩ := held t ht
    rw [table?_newTables stated apart tables ht made] at found
    cases found
    exact ⟨u, made, own⟩
  · rintro ⟨alone, apart⟩
    obtain ⟨succeeds, tables⟩ := Lifecycle.issueAll_free isOpen stated apart free
    obtain ⟨after, ran⟩ := succeeds.2 (made alone)
    have tables := tables after ran
    rw [empty, List.nil_append] at tables
    refine ⟨after, ran, fun t ht => ?_⟩
    obtain ⟨u, made, own⟩ := (stated t ht).createdAlone_iff.1 (alone t ht)
    exact ⟨u, table?_newTables stated apart tables ht made, ((stated t ht).created made).1, own⟩
  · obtain ⟨u, made, own⟩ := (stated t ht).createdAlone_iff.1 alone
    rw [← own]
    exact ((stated t ht).created made).2
  · rw [Lifecycle.issueAll_taken isOpen stated (made alone)]
    refine exists_congr fun earlier => exists_congr fun t => exists_congr fun later =>
      and_congr_right fun cut => and_congr_right fun _ => ?_
    rw [free t (by simp [cut])]
    simp

namespace Tasks

/-- A table of tasks with the given columns, all of them texts. -/
def texts (name : String) (guarded : Bool) (columns : List String) : Document.Table :=
  ⟨name, guarded, columns.map fun c => column c .text none, none, [], [], []⟩

/-- A database with some tables. -/
def database (tables : List Document.Table) : Document.Database :=
  ⟨"todo", 1, tables, []⟩

end Tasks

/-- Two tables, the second under a guard, are both created. -/
theorem tables_created_iff_tasks :
    ∃ s after, Schema.ofDatabase (Tasks.database [Tasks.texts "tasks" false ["title", "list"],
        Tasks.texts "lists" true ["title"]]) = .ok s ∧
      (Lifecycle.issueAll ((Schema.script s).statements.map Prod.snd)).run Session.start =
        .ok () after ∧ ∀ t ∈ s.tables, t.HeldBy after.database := by
  obtain ⟨s, accepted⟩ : ∃ s, Schema.ofDatabase (Tasks.database
      [Tasks.texts "tasks" false ["title", "list"], Tasks.texts "lists" true ["title"]]) = .ok s :=
    ⟨_, Schema.ofDatabase_eq_ok_iff.2 ⟨by decide +kernel, rfl⟩⟩
  have single : ∀ t ∈ s.tables, IsSingle (createText t) := by
    have each : ∀ t ∈ s.tables,
        (Engine.splitStatements (Engine.tokens (createText t))).length = 1 := by
      cases accepted
      decide +kernel
    exact fun t ht => List.length_eq_one_iff.1 (each t ht)
  have alone : ∀ t ∈ s.tables, t.CreatedAlone := by
    have each : ∀ t ∈ s.tables, ((created? (createText t)).map fun u =>
        u.columns.map Engine.Column.name) = some (t.columns.map Document.Column.name) := by
      cases accepted
      decide +kernel
    exact fun t ht => (Schema.stated_of_ofDatabase accepted single t ht).createdAlone_iff.2
      (Option.map_eq_some_iff.1 (each t ht))
  have apart : Apart (s.tables.map Table.name) := by
    cases accepted
    decide +kernel
  have isOpen : Session.start.isOpen := rfl
  obtain ⟨after, created⟩ := (tables_created_iff accepted single isOpen rfl).2.1.2 ⟨alone, apart⟩
  exact ⟨s, after, accepted, created⟩

/-- Names that differ in the case of letters are accepted. Of two tables the second one is left out
under its guard and refused without; a table with two such columns is refused. -/
theorem names_alike_accepted :
    (∃ s after, Schema.ofDatabase (Tasks.database [Tasks.texts "tasks" false ["title"],
        Tasks.texts "Tasks" true ["list"]]) = .ok s ∧ ¬ Apart (s.tables.map Table.name) ∧
      (Lifecycle.issueAll ((Schema.script s).statements.map Prod.snd)).run Session.start =
        .ok () after ∧ ¬ ∀ t ∈ s.tables, t.HeldBy after.database) ∧
    (∃ s e after, Schema.ofDatabase (Tasks.database [Tasks.texts "tasks" false ["title"],
        Tasks.texts "Tasks" false ["list"]]) = .ok s ∧
      (Lifecycle.issueAll ((Schema.script s).statements.map Prod.snd)).run Session.start =
        .error e after) ∧
    ∃ s e after, Schema.ofDatabase (Tasks.database [Tasks.texts "tasks" false ["id", "ID"]]) =
        .ok s ∧
      (Lifecycle.issueAll ((Schema.script s).statements.map Prod.snd)).run Session.start =
        .error e after := by
  have refused {tables : List Document.Table}
      (fit : Schema.databaseFault (Tasks.database tables) = none)
      (fails : Tasks.fails (fun _ => true) ((Lifecycle.issueAll
        ((tables.map Schema.resolveTable).map createText)).run Session.start)) :
      ∃ s e after, Schema.ofDatabase (Tasks.database tables) = .ok s ∧
        (Lifecycle.issueAll ((Schema.script s).statements.map Prod.snd)).run Session.start =
          .error e after := by
    obtain ⟨e, after, failed, -⟩ := Tasks.exists_of_fails fails
    refine ⟨_, e, after, Schema.ofDatabase_eq_ok_iff.2 ⟨fit, rfl⟩, ?_⟩
    rw [Schema.texts_script]
    exact failed
  refine ⟨?_, refused (by decide +kernel) (by decide +kernel),
    refused (by decide +kernel) (by decide +kernel)⟩
  obtain ⟨s, accepted⟩ : ∃ s, Schema.ofDatabase (Tasks.database
      [Tasks.texts "tasks" false ["title"], Tasks.texts "Tasks" true ["list"]]) = .ok s :=
    ⟨_, Schema.ofDatabase_eq_ok_iff.2 ⟨by decide +kernel, rfl⟩⟩
  have alike : ¬ Apart (s.tables.map Table.name) := by
    cases accepted
    decide +kernel
  obtain ⟨after, ran⟩ : ∃ after, (Lifecycle.issueAll ((Schema.script s).statements.map
      Prod.snd)).run Session.start = .ok () after := by
    refine Tasks.exists_of_answered ?_
    cases accepted
    decide +kernel
  exact ⟨s, after, accepted, alike, ran, fun held =>
    alike (apart_of_heldBy (Schema.nodup_of_ofDatabase accepted).1 held)⟩

end ResourceProvider
