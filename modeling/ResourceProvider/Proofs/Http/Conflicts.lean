import ResourceProvider.Proofs.Http.Answers
import ResourceProvider.Proofs.Provider.Refused
/-!
# Conflicts

A change that is refused for a violated constraint is answered as a conflict. A foreign key that
restricts is the exception: what it refuses is answered like a statement that means nothing
(`conflict_answers`), and nothing else than such a key is taken for one (`Dispatch.Asks.restricts`).
-/
namespace ResourceProvider

open Engine (Refusal)

/-- Only a foreign key of the database restricts what a call asks for in a single statement. -/
theorem Dispatch.Asks.restricts {d : Dispatch} {s : Session} {c : Call} {db : Engine.Database}
    {x : Sql.Statement} (asks : d.Asks s c db x) (single : Engine.IsSingle x.text)
    (refused : (db.answer x).2 = .error .restricted) : db.Restricts :=
  Engine.Database.run_restricted single asks.changesRows refused

namespace Http

open ResourceProvider.Action (EndsWith)

/-! ## Failures in responses -/

/-- The response reports a failure by a status and a short name. -/
def Response.Reports (x : Response) (status : Nat) (code : String) : Prop :=
  x.status = status ∧
    (x.body.bind fun body => (body.field? "error").bind fun error => error.field? "code") =
      some (.str code)

theorem reports_failure {e : ProviderError} {status : Nat} {code : String} :
    (⟨e.status, some e.body⟩ : Response).Reports status code ↔ e.response = (status, code) := by
  unfold Response.Reports
  rw [Option.bind_some, code_body, Prod.ext_iff, Option.some.injEq, Json.Value.str.injEq]
  rfl

/-- The short names of conflicts and of statements that are refused belong to the storage. -/
theorem storage_of_response {e : ProviderError} {status : Nat} {code : String}
    (known : (status, code) = (409, "constraint_violation") ∨
      (status, code) = (400, "invalid_query"))
    (same : e.response = (status, code)) : ∃ f, e = .storage f := by
  rcases known with known | known <;> rw [known] at same <;> cases e <;>
    first
    | exact ⟨_, rfl⟩
    | simp [ProviderError.response] at same

/-- A call that changes rows is not made by asking for the head of a response. -/
theorem not_head {r : Request} {c : Call} (made : r.call? = some c) (changes : c.Changes) :
    r.method ≠ "HEAD" := by
  intro head
  have asked : r.served.method = "GET" := if_pos head
  obtain ⟨place, -, made⟩ := Option.bind_eq_some_iff.1 made
  cases place with
  | health | ready | version => cases made
  | resource tail =>
    rw [Place.call?, resourceCall?, asked] at made
    obtain ⟨l, -, made⟩ := Option.bind_eq_some_iff.1 made
    obtain ⟨p, -, made⟩ := Option.bind_eq_some_iff.1 made
    cases made
    exact changes
  | type tail =>
    rw [Place.call?, if_pos asked] at made
    obtain ⟨l, -, made⟩ := Option.bind_eq_some_iff.1 made
    cases made
    exact changes
  | batch =>
    rw [Place.call?, if_neg (by rw [asked]; decide)] at made
    cases made

/-! ## Refusals in responses -/

variable {d : Dispatch} {r : Request} {c : Call} {s : Session}

/-- A change is answered by a short name of the storage exactly if the database refuses something
that it asks for, in the way that the name stands for. -/
theorem reports_iff (made : r.call? = some c) (changes : c.Changes) (isOpen : s.isOpen)
    {status : Nat} {code : String} (known : (status, code) = (409, "constraint_violation") ∨
      (status, code) = (400, "invalid_query")) :
    ((Site.full d).serve r s).1.Reports status code ↔
      ∃ refusal, d.Refuses s c refusal ∧ refusal.error.response = (status, code) := by
  rcases serve_call (d := d) made s with ⟨⟨answer, t, ok⟩, success⟩ | ⟨e, t, failed, answered⟩
  · refine iff_of_false (fun reports => ?_) ?_
    · have status : status = 409 ∨ status = 400 := known.imp (congrArg Prod.fst) (congrArg Prod.fst)
      have same := reports.1
      omega
    · rintro ⟨refusal, refuses, -⟩
      obtain ⟨t, failed⟩ := (Dispatch.refused_iff changes isOpen).2 ⟨refusal, refuses, rfl⟩
      rw [ok] at failed
      cases failed
  · rw [answered, Request.failed, if_neg (not_head made changes), reports_failure]
    constructor
    · intro same
      obtain ⟨f, rfl⟩ := storage_of_response known same
      obtain ⟨refusal, refuses, rfl⟩ := (Dispatch.refused_iff changes isOpen).1 ⟨t, failed⟩
      exact ⟨refusal, refuses, same⟩
    · rintro ⟨refusal, refuses, same⟩
      obtain ⟨u, failed'⟩ := (Dispatch.refused_iff changes isOpen).2 ⟨refusal, refuses, rfl⟩
      rw [failed] at failed'
      cases failed'
      exact same

/-- A change is answered as a conflict exactly if the database refuses it for a constraint that is
violated, other than by a foreign key that restricts. What such a key refuses is answered like a
statement that is refused for another reason. -/
theorem conflict_answers (made : r.call? = some c) (changes : c.Changes) (isOpen : s.isOpen) :
    let answer := ((Site.full d).serve r s).1
    (answer.Reports 409 "constraint_violation" ↔ ∃ v, d.Refuses s c (.violation v)) ∧
      (answer.Reports 400 "invalid_query" ↔
        d.Refuses s c .restricted ∨ d.Refuses s c .rejected) ∧
      ∀ db x, d.Asks s c db x → Engine.IsSingle x.text →
        (db.answer x).2 = .error .restricted → db.Restricts := by
  refine ⟨?_, ?_, fun db x asks single refused => asks.restricts single refused⟩
  · rw [reports_iff made changes isOpen (.inl rfl)]
    constructor
    · rintro ⟨refusal, refuses, same⟩
      cases refusal with
      | violation v => exact ⟨v, refuses⟩
      | restricted | rejected | unbound => cases same
    · rintro ⟨v, refuses⟩
      exact ⟨_, refuses, rfl⟩
  · rw [reports_iff made changes isOpen (.inr rfl)]
    constructor
    · rintro ⟨refusal, refuses, same⟩
      cases refusal with
      | violation | unbound => cases same
      | restricted => exact .inl refuses
      | rejected => exact .inr refuses
    · rintro (refuses | refuses)
      · exact ⟨_, refuses, rfl⟩
      · exact ⟨_, refuses, rfl⟩

namespace Tasks

/-- Lists, and tasks that refer to them; the foreign key says what happens to the tasks of a list
that is removed. -/
def listed (onDelete : ForeignKeyAction) : Document where
  database := ⟨"todo", 1, [
    ⟨"lists", false, [Tasks.column "id" .integer (some .none)], none, [], [], []⟩,
    ⟨"tasks", false, [Tasks.column "id" .integer (some .none), ⟨"list", .integer, none, none, none,
      false, none, none, some ⟨"lists", "id", onDelete, .none⟩⟩], none, [], [], []⟩], []⟩
  provider := ⟨"todo", [
    ⟨"lists", "lists", [], [⟨"lists", "lists", "list", none, [], none, none, none, none, none,
      Operation.all, []⟩], [], [], .empty⟩,
    ⟨"tasks", "tasks", [], [⟨"tasks", "tasks", "task", none, [], none, none, none, none, none,
      Operation.all, []⟩], [], [], .empty⟩], .empty⟩

/-- Creates the tables, and adds a list with a task. -/
def fillLists (c : Compiled) : Action Unit := do
  c.script.issue
  let _ ← c.dispatch.insert ⟨"lists"⟩ [("id", .num (.int 1))]
  let _ ← c.dispatch.insert ⟨"tasks"⟩ [("list", .num (.int 1))]

/-- Removes every list. -/
def removeLists : Request :=
  ⟨"DELETE", "/resources/lists", none, ""⟩

theorem removeLists_call :
    removeLists.call? = some (.change (.delete ⟨"/lists"⟩ ⟨none, []⟩)) := by
  have place : Place.ofPath? removeLists.path = some (.resource "lists") := by decide +kernel
  have located : locatorPart "lists" = .ok ⟨"/lists"⟩ := by decide +kernel
  have given : Params.ofQuery? removeLists.served.query = some ⟨none, none, none, none⟩ := by
    decide +kernel
  have read : paramsPart removeLists.served = .ok ⟨none, none, none, none⟩ := by
    unfold paramsPart
    rw [given]
    rfl
  rw [Request.call?, place, Option.bind_some, Place.call?, resourceCall?, located, read]
  rfl

/-- A list with a task was added, and the database refuses to remove it. -/
def keepsLists (refusal : Refusal) : EStateM.Result ProviderError Session Unit → Bool
  | .ok () s => s.isOpen && match (s.database.answer ⟨"DELETE FROM lists", []⟩).2 with
    | .ok _ => false
    | .error e => e = refusal
  | .error .. => false

theorem refuses_of_keepsLists {onDelete : ForeignKeyAction} {refusal : Refusal} {c : Compiled}
    (compiled : (listed onDelete).compile Tasks.hooks = .ok c)
    (keeps : keepsLists refusal ((fillLists c).run Session.start)) :
    ∃ s, (fillLists c).run Session.start = .ok () s ∧ s.isOpen ∧
      c.dispatch.Refuses s (.change (.delete ⟨"/lists"⟩ ⟨none, []⟩)) refusal := by
  have composed : c.dispatch.compose (.change (.delete ⟨"/lists"⟩ ⟨none, []⟩)) =
      .ok ⟨"DELETE FROM lists", []⟩ := by
    cases onDelete <;> cases compiled <;> rfl
  cases ran : (fillLists c).run Session.start with
  | error e t =>
    rw [ran] at keeps
    cases keeps
  | ok u s =>
    rw [ran, keepsLists, Bool.and_eq_true] at keeps
    obtain ⟨isOpen, refused⟩ := keeps
    refine ⟨s, rfl, isOpen, .inl ⟨s.database, _, .change composed, ?_⟩⟩
    split at refused
    · cases refused
    · rename_i e answered
      rw [answered, of_decide_eq_true refused]

end Tasks

/-- A list with a task is not removed; where the foreign key says nothing, that is a conflict. -/
theorem conflict_answers_listed :
    ∃ c s, (Tasks.listed .none).compile Tasks.hooks = .ok c ∧
      (Tasks.fillLists c).run Session.start = .ok () s ∧
      ((Site.full c.dispatch).serve Tasks.removeLists s).1.Reports 409 "constraint_violation" := by
  obtain ⟨c, compiled⟩ : ∃ c, (Tasks.listed .none).compile Tasks.hooks = .ok c := ⟨_, rfl⟩
  have keeps : Tasks.keepsLists (.violation .foreignKey)
      ((Tasks.fillLists c).run Session.start) := by
    cases compiled
    decide +kernel
  obtain ⟨s, ran, isOpen, refuses⟩ := Tasks.refuses_of_keepsLists compiled keeps
  refine ⟨c, s, compiled, ran, ?_⟩
  exact (conflict_answers Tasks.removeLists_call trivial isOpen).1.2 ⟨.foreignKey, refuses⟩

/-- A list with a task is not removed; where the foreign key restricts that, the request is answered
as if it meant nothing. -/
theorem restricted_answered_rejected :
    ∃ c s, (Tasks.listed .restrict).compile Tasks.hooks = .ok c ∧
      (Tasks.fillLists c).run Session.start = .ok () s ∧
      c.dispatch.Refuses s (.change (.delete ⟨"/lists"⟩ ⟨none, []⟩)) .restricted ∧
      Tasks.removeLists.call? = some (.change (.delete ⟨"/lists"⟩ ⟨none, []⟩)) ∧
      ((Site.full c.dispatch).serve Tasks.removeLists s).1.Reports 400 "invalid_query" ∧
      ¬ ((Site.full c.dispatch).serve Tasks.removeLists s).1.Reports 409
        "constraint_violation" := by
  obtain ⟨c, compiled⟩ : ∃ c, (Tasks.listed .restrict).compile Tasks.hooks = .ok c := ⟨_, rfl⟩
  have keeps : Tasks.keepsLists .restricted ((Tasks.fillLists c).run Session.start) := by
    cases compiled
    decide +kernel
  obtain ⟨s, ran, isOpen, refuses⟩ := Tasks.refuses_of_keepsLists compiled keeps
  have rejected : ((Site.full c.dispatch).serve Tasks.removeLists s).1.Reports 400
      "invalid_query" :=
    (reports_iff Tasks.removeLists_call trivial isOpen (.inr rfl)).2 ⟨_, refuses, rfl⟩
  refine ⟨c, s, compiled, ran, refuses, Tasks.removeLists_call, rejected, fun conflict => ?_⟩
  have statuses : 400 = 409 := rejected.1.symm.trans conflict.1
  omega

end Http

end ResourceProvider
