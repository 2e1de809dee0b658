import ResourceProvider.Proofs.Engine.Declared
import ResourceProvider.Proofs.Lifecycle.History
import ResourceProvider.Proofs.Schema.Names
/-!
# Tables that guard a creation

A script that creates a table, and does not say that it may be there already, cannot create its
tables twice: the second time the transaction comes to that statement, which is refused, and all of
it is undone (`Script.Guards.refuses`). It takes that no statement removes the table again.
-/
namespace ResourceProvider

open Engine (Database creation creation_plain keepsTables)
open Schema (Script isIdentifier)

/-! ## What an action leaves in place -/

/-- The action leaves what is true of a session, whether it succeeds or not. -/
def Action.Preserves {α : Type} (P : Session → Prop) (x : Action α) : Prop :=
  ∀ s, P s → P (x.after s)

namespace Action.Preserves

variable {α β : Type} {P : Session → Prop}

theorem pure (a : α) : Preserves P (pure a : Action α) :=
  fun _ there => there

theorem ok {x : Action α} (hx : Preserves P x) {s t : Session} {a : α} (there : P s)
    (h : x.run s = .ok a t) : P t := by
  have after := hx s there
  unfold Action.after at after
  rwa [h] at after

theorem error {x : Action α} (hx : Preserves P x) {s t : Session} {e : ProviderError} (there : P s)
    (h : x.run s = .error e t) : P t := by
  have after := hx s there
  unfold Action.after at after
  rwa [h] at after

theorem bind {x : Action α} {f : α → Action β} (hx : Preserves P x) (hf : ∀ a, Preserves P (f a)) :
    Preserves P (x >>= f) := by
  intro s there
  unfold Action.after
  rw [EStateM.run_bind]
  cases first : x.run s with
  | error e t => exact hx.error there first
  | ok a t => exact hf a t (hx.ok there first)

theorem of_keeps {γ : Type} {f : Session → γ} {x : Action α} (hx : x.Keeps f) (Q : γ → Prop) :
    Preserves (fun s => Q (f s)) x := by
  intro s there
  rw [hx s]
  exact there

end Action.Preserves

/-- The database of the session has a table of the name. -/
def Session.Declares (name : String) (s : Session) : Prop :=
  s.database.declares name

theorem Action.issue_preserves {text name : String} (keeps : keepsTables text) :
    (issue ⟨text, []⟩).Preserves (Session.Declares name) := by
  intro s there
  unfold Action.after
  cases isOpen : s.isOpen with
  | false =>
    simp only [Action.issue, EStateM.run_bind, reach_closed isOpen]
    exact there
  | true =>
    have kept := Database.run_declares [] keeps there
    rw [issue_run _ isOpen]
    simp only [Database.answer, List.map_nil]
    cases ran : s.database.run text [] with
    | mk db answer =>
      rw [ran] at kept
      cases answer <;> exact kept

namespace Lifecycle

variable {s t : Session} {name : String}

/-! ## Statements one after another -/

theorem issueAll_cons (text : String) (texts : List String) :
    issueAll (text :: texts) = (do let _ ← Action.issue ⟨text, []⟩; issueAll texts) := by
  simp only [issueAll, List.forM_eq_forM, List.forM_cons, bind_assoc, pure_bind]

theorem issueAll_append (texts texts' : List String) :
    issueAll (texts ++ texts') = (do issueAll texts; issueAll texts') := by
  induction texts with
  | nil => rfl
  | cons text texts ih => rw [List.cons_append, issueAll_cons, ih, issueAll_cons, bind_assoc]

theorem issueAll_preserves {texts : List String} (keep : ∀ text ∈ texts, keepsTables text) :
    (issueAll texts).Preserves (Session.Declares name) := by
  induction texts with
  | nil => exact .pure ()
  | cons text texts ih =>
    rw [List.forall_mem_cons] at keep
    rw [issueAll_cons]
    exact (Action.issue_preserves keep.1).bind fun _ => ih keep.2

/-- Statements that create a table fail where it is. -/
theorem issueAll_refused (named : isIdentifier name) {texts : List String} {body : String}
    (creates : "CREATE TABLE " ++ name ++ " (" ++ body ∈ texts)
    (keep : ∀ text ∈ texts, keepsTables text) (there : s.Declares name) :
    ∃ e t, (issueAll texts).run s = .error e t := by
  induction texts generalizing s with
  | nil => cases creates
  | cons text texts ih =>
    rw [List.forall_mem_cons] at keep
    rw [issueAll_cons, EStateM.run_bind]
    cases issued : (Action.issue ⟨text, []⟩).run s with
    | error e t => exact ⟨e, t, rfl⟩
    | ok outcome t =>
      rcases List.mem_cons.1 creates with rfl | later
      · cases isOpen : s.isOpen with
        | false =>
          simp only [Action.issue, EStateM.run_bind, Action.reach_closed isOpen] at issued
          cases issued
        | true =>
          rw [Action.issue_run _ isOpen, Database.answer,
            Database.run_create_refused named there] at issued
          cases issued
      · exact ih later keep.2 ((Action.issue_preserves keep.1).ok there issued)

/-- Statements that succeed leave a table that they create. -/
theorem issueAll_creates (named : isIdentifier name) {texts : List String} {body : String}
    (creates : "CREATE TABLE " ++ name ++ " (" ++ body ∈ texts)
    (keep : ∀ text ∈ texts, keepsTables text) (made : (issueAll texts).run s = .ok () t) :
    t.Declares name := by
  induction texts generalizing s with
  | nil => cases creates
  | cons text texts ih =>
    rw [List.forall_mem_cons] at keep
    rw [issueAll_cons, EStateM.run_bind] at made
    cases issued : (Action.issue ⟨text, []⟩).run s with
    | error e u =>
      rw [issued] at made
      cases made
    | ok outcome u =>
      rw [issued] at made
      rcases List.mem_cons.1 creates with rfl | later
      · have there : u.Declares name := by
          cases isOpen : s.isOpen with
          | false =>
            simp only [Action.issue, EStateM.run_bind, Action.reach_closed isOpen] at issued
            cases issued
          | true =>
            rw [Action.issue_run _ isOpen] at issued
            split at issued
            · rename_i ran
              cases issued
              exact Database.run_create_declares named keep.1 ran
            · cases issued
        exact (issueAll_preserves keep.2).ok there made
      · exact ih later keep.2 made

/-! ## Scripts -/

end Lifecycle

namespace Schema

/-- The statements of a script, in the order in which they are issued. -/
def Script.texts (s : Script) : List String :=
  s.statements.map Prod.snd ++ s.execOnCreate

theorem createText_creation (t : Table) :
    createText t = creation t.ifNotExists t.name (Text.join ", " (definitions t) ++ ")") := by
  unfold creation
  rw [← String.append_assoc]
  rfl

theorem createText_plain {t : Table} (plain : t.ifNotExists = false) :
    createText t = "CREATE TABLE " ++ t.name ++ " (" ++ (Text.join ", " (definitions t) ++ ")") := by
  rw [createText_creation, plain, creation_plain]

/-- The script creates the table and does not say that it may be there already, and no statement of
the script removes a table. -/
structure Script.Guards (s : Script) (name : String) : Prop where
  named : isIdentifier name
  creates : ∃ body, "CREATE TABLE " ++ name ++ " (" ++ body ∈ s.texts
  keeps : ∀ text ∈ s.texts, keepsTables text

end Schema

namespace Lifecycle

variable {script : Script} {s t : Session} {e : ProviderError} {name : String}

theorem issue_texts (script : Script) : script.issue = issueAll script.texts :=
  (issueAll_append _ _).symm

/-- Where a table is that guards the script, its tables are not created. -/
theorem createTables_refused (guards : script.Guards name) (there : s.Declares name) :
    ∃ e t, (createTables script).run s = .error e t := by
  cases isOpen : s.isOpen with
  | false => exact ⟨_, _, createTables_closed script isOpen⟩
  | true =>
    obtain ⟨body, creates⟩ := guards.creates
    obtain ⟨e, t, refused⟩ :=
      issueAll_refused (s := s.begun) guards.named creates guards.keeps there
    rw [createTables_run script isOpen, issue_texts, refused]
    exact ⟨_, _, rfl⟩

/-- Once the tables are created, a table that guards the script is there. -/
theorem createTables_declares (guards : script.Guards name)
    (made : (createTables script).run s = .ok () t) : t.Declares name := by
  obtain ⟨body, creates⟩ := guards.creates
  obtain ⟨u, issued, rfl⟩ := createTables_ok made
  rw [issue_texts] at issued
  have there := issueAll_creates guards.named creates guards.keeps issued
  exact there

/-- Tables that cannot be created take no table away. -/
theorem createTables_leaves (failed : (createTables script).run s = .error e t)
    (there : s.Declares name) : t.Declares name := by
  rw [createTables_eq] at failed
  have same := Action.transaction_error failed
  unfold Session.Declares Database.declares Database.table? at there ⊢
  rwa [same]

end Lifecycle

/-- A compiled script is guarded by each table of the document of which nothing says that it may be
there already. -/
theorem Document.guards_compiled {doc : Document} {hooks : Hooks} {c : Compiled}
    (compiled : doc.compile hooks = .ok c) {t : Document.Table} (mem : t ∈ doc.database.tables)
    (plain : t.ifNotExists = false) (keeps : ∀ text ∈ c.script.texts, keepsTables text) :
    c.script.Guards t.name := by
  obtain ⟨schema, -, -, hs, script, -⟩ := Document.compile_built compiled
  have resolved : Schema.resolveTable t ∈ schema.tables := by
    obtain ⟨-, rfl⟩ := Schema.ofDatabase_eq_ok_iff.1 hs
    exact List.mem_map_of_mem mem
  refine ⟨(Schema.named_of_ofDatabase hs).tables _ resolved, ?_, keeps⟩
  have text := Schema.createText_plain (t := Schema.resolveTable t) plain
  have issued : (t.name, Schema.createText (Schema.resolveTable t)) ∈ c.script.statements := by
    rw [script]
    exact List.mem_map.2 ⟨_, resolved, rfl⟩
  refine ⟨Text.join ", " (Schema.definitions (Schema.resolveTable t)) ++ ")", ?_⟩
  exact List.mem_append_left _ (List.mem_map.2 ⟨_, issued, text⟩)

end ResourceProvider
