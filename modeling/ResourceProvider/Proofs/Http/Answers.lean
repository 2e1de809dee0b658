import ResourceProvider.Http.Site
import ResourceProvider.Proofs.Provider.Batch
import ResourceProvider.Proofs.Provider.Faults
/-!
# How requests are answered

`Place.call?` is the call that a request makes, if all parts of the request can be read. A place
either turns a request away for the client, or answers with what the provider says to its call
(`Handles`). So a request is answered with a composition error exactly if its call strands
arguments, and any other request succeeds or fails for the client, unless the storage does not answer
(`composition_answers`).
-/
namespace ResourceProvider.Http

open Json
open ProviderError (IsClient)

/-! ## The call of a request -/

/-- The call to add what a body holds: a list of records, or a record. -/
def postCall? (l : Route.Locator) : Value → Option Call
  | .arr items => (items.mapM recordOfBody).toOption.bind fun rs => some (.bulkInsert l rs)
  | v => (recordOfBody v).toOption.bind fun record => some (.change (.insert l record))

/-- The call that a request makes on the resource of a tail. -/
def resourceCall? (tail : String) (r : Request) : Option Call :=
  let body := (readBody (readValue maxDepth) r).toOption
  (locatorPart tail).toOption.bind fun l =>
    match r.method with
    | "GET" => (paramsPart r).toOption.bind fun p => some (.query l p.lookup)
    | "POST" => body.bind fun v => postCall? l v
    | "PATCH" => (paramsPart r).toOption.bind fun p => body.bind fun v =>
      (recordOfBody v).toOption.bind fun record => some (.change (.update l record p.filter))
    | "DELETE" => (paramsPart r).toOption.bind fun p => some (.change (.delete l p.filter))
    | _ => none

/-- The call that a request makes at a place. -/
def Place.call? (r : Request) : Place → Option Call
  | .resource tail => resourceCall? tail r
  | .type tail =>
    if r.method = "GET" then (locatorPart tail).toOption.bind fun l => some (.typeOf l) else none
  | .batch =>
    if r.method = "POST" then
      (readBody BatchOperation.scanList r).toOption.bind fun ops => some (.batch ops)
    else none
  | _ => none

/-- The place is one of the provider's. -/
def Place.isProvided : Place → Bool
  | .resource _ => true
  | .type _ => true
  | .batch => true
  | _ => false

/-- The request as it is served: the head of a response is asked for like the response itself. -/
def Request.served (r : Request) : Request :=
  { r with method := if r.method = "HEAD" then "GET" else r.method }

/-- The call that a request makes, if every part of it can be read. -/
def Request.call? (r : Request) : Option Call :=
  (Place.ofPath? r.path).bind fun place => place.call? r.served

/-! ## Handlers -/

/-- An action turns a request away for the client, or it answers with what the provider says to the
call of the request. -/
inductive Handles (d : Dispatch) : Option Call → Action Response → Prop where
  | turned {status : Nat} (client : 400 ≤ status ∧ status < 500) :
    Handles d none (pure (.bare status))
  | refused {e : ProviderError} (client : e.IsClient) : Handles d none (throw e)
  | asked {c : Call} {a : Action Response}
    (fails : ∀ s e t, a.run s = .error e t ↔ (d.call c).run s = .error e t)
    (succeeds : ∀ s r t, a.run s = .ok r t → r.status = 200 ∨ r.status = 201) :
    Handles d (some c) a

namespace Handles

variable {d : Dispatch} {α : Type}

/-- One part of the request comes before the others. -/
theorem part {x : Except Nat α} (client : ∀ n, x = .error n → 400 ≤ n ∧ n < 500)
    {call : α → Option Call} {next : α → Action Response} (h : ∀ a, Handles d (call a) (next a)) :
    Handles d (x.toOption.bind call) (orStatus x next) := by
  cases x with
  | error n => exact .turned (client n rfl)
  | ok a => exact h a

/-- One check of a part comes before the call. -/
theorem check {x : Except ProviderError α} (client : FailsBy IsClient x) {call : α → Option Call}
    {next : α → Action Response} (h : ∀ a, Handles d (call a) (next a)) :
    Handles d (x.toOption.bind call) (Action.ofExcept x >>= next) := by
  cases x with
  | error e => exact .refused (client e rfl)
  | ok a => exact h a

/-- The answer is made from what the provider says. -/
theorem wrap {c : Call} {x : Action α} {f : α → Answer} {g : α → Response}
    (asks : ∀ s, (d.call c).run s = (do return f (← x) : Action Answer).run s)
    (status : ∀ a, (g a).status = 200 ∨ (g a).status = 201) :
    Handles d (some c) (do return g (← x)) := by
  refine .asked (fun s e t => ?_) fun s r t h => ?_
  · rw [asks, Action.run_wrap, Action.run_wrap]
    cases x.run s with
    | ok a u => exact iff_of_false (fun h => by cases h) fun h => by cases h
    | error e' u => exact ⟨fun h => by cases h; rfl, fun h => by cases h; rfl⟩
  · rw [Action.run_wrap] at h
    cases ran : x.run s with
    | ok a u =>
      rw [ran] at h
      cases h
      exact status a
    | error e u =>
      rw [ran] at h
      cases h

end Handles

/-! ## Parts of requests -/

theorem locatorPart_client {tail : String} {n : Nat} (h : locatorPart tail = .error n) :
    400 ≤ n ∧ n < 500 := by
  unfold locatorPart at h
  cases located : locatorOfTail? tail with
  | none =>
    rw [located] at h
    cases h
    decide
  | some l =>
    rw [located] at h
    cases h

theorem paramsPart_client {r : Request} {n : Nat} (h : paramsPart r = .error n) :
    400 ≤ n ∧ n < 500 := by
  unfold paramsPart at h
  cases given : Params.ofQuery? r.query with
  | none =>
    rw [given] at h
    cases h
    decide
  | some p =>
    rw [given] at h
    cases h

theorem faultStatus_client (e : Fault) : 400 ≤ faultStatus e ∧ faultStatus e < 500 := by
  have two : faultStatus e = 422 ∨ faultStatus e = 400 := by
    cases e <;> first | exact .inl rfl | exact .inr rfl
  rcases two with status | status <;> rw [status] <;> decide

theorem readBody_client {α : Type} {scan : Scan α} {r : Request} {n : Nat}
    (h : readBody scan r = .error n) : 400 ≤ n ∧ n < 500 := by
  unfold readBody at h
  split at h
  · cases h
    decide
  · split at h
    · cases h
      decide
    · split at h
      · cases h
      · cases h
        exact faultStatus_client _

theorem recordOfBody_client (v : Value) : FailsBy IsClient (recordOfBody v) := by
  intro e h
  unfold recordOfBody at h
  split at h
  · cases h
  · cases h
    exact ProviderError.isClient_badRequest _

theorem recordsOfBody_client (items : List Value) : FailsBy IsClient (items.mapM recordOfBody) := by
  induction items with
  | nil => exact .ok _
  | cons v items ih =>
    rw [List.mapM_cons]
    exact .bind (recordOfBody_client v) fun _ _ => .bind ih fun _ _ => .ok _

/-! ## Places -/

section
variable (d : Dispatch)

theorem handles_getResource (l : Route.Locator) (p : Params) :
    Handles d (some (.query l p.lookup)) (getResource d l p) :=
  .wrap (f := .found) (fun _ => rfl) fun _ => .inl rfl

theorem handles_postResource (l : Route.Locator) (v : Value) :
    Handles d (postCall? l v) (postResource d l v) := by
  have one : Handles d ((recordOfBody v).toOption.bind fun record =>
      some (.change (.insert l record))) (do
        let record ← Action.ofExcept (recordOfBody v)
        return success 201 [("locator", .str (← d.insert l record))]) :=
    .check (recordOfBody_client v) fun record =>
      .wrap (x := d.insert l record) (f := fun u => .changed ⟨some u, 1⟩)
        (g := fun u => success 201 [("locator", .str u)])
        (fun s => by simp only [Dispatch.call, Dispatch.applyAlone, bind_assoc, pure_bind])
        fun _ => .inr rfl
  cases v with
  | arr items =>
    exact .check (recordsOfBody_client items) fun rs =>
      .wrap (x := d.bulkInsert l rs) (f := .added) (fun _ => rfl) fun _ => .inr rfl
  | _ => exact one

theorem handles_patchResource (l : Route.Locator) (p : Params) (v : Value) :
    Handles d ((recordOfBody v).toOption.bind fun record =>
      some (.change (.update l record p.filter))) (patchResource d l p v) :=
  .check (recordOfBody_client v) fun record =>
    .wrap (x := d.update l record p.filter) (f := fun n => .changed ⟨none, n⟩)
      (g := fun n => success 200 [("count", whole n)])
      (fun s => by simp only [Dispatch.call, Dispatch.applyAlone, bind_assoc, pure_bind])
      fun _ => .inl rfl

theorem handles_deleteResource (l : Route.Locator) (p : Params) :
    Handles d (some (.change (.delete l p.filter))) (deleteResource d l p) :=
  .wrap (x := d.delete l p.filter) (f := fun n => .changed ⟨none, n⟩)
    (g := fun n => success 200 [("count", whole n)])
    (fun s => by simp only [Dispatch.call, Dispatch.applyAlone, bind_assoc, pure_bind])
    fun _ => .inl rfl

/-- A resource is asked for what the call of the request says, or the request is turned away. -/
theorem handles_resource {tail : String} {r : Request} {a : Action Response}
    (h : serveResource d tail r = some a) : Handles d (resourceCall? tail r) a := by
  have located {next : Route.Locator → Action Response} {call : Route.Locator → Option Call}
      (h : ∀ l, Handles d (call l) (next l)) :
      Handles d ((locatorPart tail).toOption.bind call) (orStatus (locatorPart tail) next) :=
    .part (fun _ => locatorPart_client) h
  have given {next : Params → Action Response} {call : Params → Option Call}
      (h : ∀ p, Handles d (call p) (next p)) :
      Handles d ((paramsPart r).toOption.bind call) (orStatus (paramsPart r) next) :=
    .part (fun _ => paramsPart_client) h
  have read {next : Value → Action Response} {call : Value → Option Call}
      (h : ∀ v, Handles d (call v) (next v)) :
      Handles d ((readBody (readValue maxDepth) r).toOption.bind call)
        (orStatus (readBody (readValue maxDepth) r) next) :=
    .part (fun _ => readBody_client) h
  unfold serveResource at h
  unfold resourceCall?
  dsimp only at h ⊢
  generalize r.method = method at h ⊢
  split at h
  · cases h
    exact located fun l => given fun p => handles_getResource d l p
  · cases h
    exact located fun l => read fun v => handles_postResource d l v
  · cases h
    exact located fun l => given fun p => read fun v => handles_patchResource d l p v
  · cases h
    exact located fun l => given fun p => handles_deleteResource d l p
  · cases h

/-- Where a place does not know the method of a request, the request makes no call. -/
theorem call?_of_serveAt {r : Request} {place : Place}
    (h : (Site.full d).serveAt r place = none) : place.call? r = none := by
  cases place with
  | health => rfl
  | ready => rfl
  | version => rfl
  | resource tail =>
    unfold Site.serveAt serveResource at h
    unfold Place.call? resourceCall?
    dsimp only at h ⊢
    split at h
    case h_5 =>
      cases (locatorPart tail).toOption with
      | none => rfl
      | some l => simp only [Option.bind_some]
    all_goals cases h
  | type tail =>
    unfold Site.serveAt at h
    unfold Place.call?
    dsimp only at h ⊢
    split at h
    · cases h
    · rw [if_neg ‹_›]
  | batch =>
    unfold Site.serveAt at h
    unfold Place.call?
    dsimp only at h ⊢
    split at h
    · cases h
    · rw [if_neg ‹_›]

theorem handles_place {r : Request} {place : Place} {a : Action Response}
    (provided : place.isProvided) (h : (Site.full d).serveAt r place = some a) :
    Handles d (place.call? r) a := by
  cases place with
  | health => cases provided
  | ready => cases provided
  | version => cases provided
  | resource tail => exact handles_resource d h
  | type tail =>
    unfold Site.serveAt at h
    dsimp only at h
    unfold Place.call?
    dsimp only
    split at h
    · cases h
      rw [if_pos ‹_›]
      refine .part (fun _ => locatorPart_client) fun l => ?_
      exact .wrap (f := .type) (fun _ => rfl) fun _ => .inl rfl
    · cases h
  | batch =>
    unfold Site.serveAt at h
    dsimp only at h
    unfold Place.call?
    dsimp only
    split at h
    · cases h
      rw [if_pos ‹_›]
      refine .part (fun _ => readBody_client) fun ops => ?_
      exact .wrap (f := .made) (fun _ => rfl) fun _ => .inl rfl
    · cases h

end

/-! ## Responses -/

/-- What a handler answers: a refusal of its own, or what the provider says to the call. -/
theorem respond_cases {d : Dispatch} {call : Option Call} {a : Action Response}
    (h : Handles d call a) (s : Session) :
    (call = none ∧ 400 ≤ (respond a s).1.status ∧ (respond a s).1.status < 500) ∨
    ∃ c, call = some c ∧
      ((∃ answer t, (d.call c).run s = .ok answer t) ∧
        ((respond a s).1.status = 200 ∨ (respond a s).1.status = 201) ∨
      ∃ e t, (d.call c).run s = .error e t ∧ (respond a s).1 = ⟨e.status, some e.body⟩) := by
  cases h with
  | turned client => exact .inl ⟨rfl, client⟩
  | refused client => exact .inl ⟨rfl, client⟩
  | @asked c a fails succeeds =>
    refine .inr ⟨c, rfl, ?_⟩
    unfold respond
    cases ran : a.run s with
    | ok r t =>
      refine .inl ⟨?_, succeeds s r t ran⟩
      cases called : (d.call c).run s with
      | ok answer u => exact ⟨answer, u, rfl⟩
      | error e u =>
        rw [(fails s e u).2 called] at ran
        cases ran
    | error e t => exact .inr ⟨e, t, (fails s e t).1 ran, rfl⟩

/-- What a site answers comes from the handler of the place, if there is one for the method. -/
theorem serve_cases {d : Dispatch} {r : Request}
    (provided : (Place.ofPath? r.path).any Place.isProvided) (s : Session) :
    (r.call? = none ∧ ((Site.full d).serve r s).1 = .bare 405) ∨
    ∃ a, Handles d r.call? a ∧ ((Site.full d).serve r s).1 =
      if r.method = "HEAD" then .bare (respond a s).1.status else (respond a s).1 := by
  cases located : Place.ofPath? r.path with
  | none =>
    rw [located] at provided
    cases provided
  | some place =>
    rw [located] at provided
    have called : r.call? = place.call? r.served := by rw [Request.call?, located]; rfl
    have found : (Site.full d).place? r.path = some place := located
    unfold Site.serve
    rw [called, found]
    dsimp only
    rw [← Request.served]
    cases handler : (Site.full d).serveAt r.served place with
    | none => exact .inl ⟨call?_of_serveAt d handler, rfl⟩
    | some a => exact .inr ⟨a, handles_place d provided handler, rfl⟩

/-- The body of a failure holds its short name. -/
theorem code_body (e : ProviderError) :
    ((e.body.field? "error").bind fun error => error.field? "code") = some (.str e.response.2) := by
  have apart : ("message" : String) ≠ "code" := by decide
  have order : ¬ ("message" : String) < "code" := by decide
  simp [ProviderError.body, object, sortFields, insertField, Value.field?, apart, order]

/-- A storage that does not answer is not reported as a failure to compose a statement. -/
theorem body_storage_ne {e : StorageError} (h : e.response = (500, "database_error"))
    (e' : CompositionError) :
    (ProviderError.storage e).body ≠ (ProviderError.composition e').body := by
  intro same
  have codes := code_body (.composition e')
  have code : (ProviderError.storage e).response.2 = "database_error" := congrArg Prod.snd h
  rw [← same, code_body, code] at codes
  have names : ("database_error" : String) = "composition_error" :=
    Value.str.inj (Option.some.inj codes)
  revert names
  decide

/-! ## Requests that make a call -/

/-- The answer to a request that fails. -/
def Request.failed (r : Request) (e : ProviderError) : Response :=
  if r.method = "HEAD" then .bare e.status else ⟨e.status, some e.body⟩

/-- Calls are made at the places of the provider. -/
theorem provided_of_call {r : Request} {c : Call} (made : r.call? = some c) :
    (Place.ofPath? r.path).any Place.isProvided := by
  obtain ⟨place, located, made⟩ := Option.bind_eq_some_iff.1 made
  rw [located]
  cases place with
  | health | ready | version => cases made
  | resource | type | batch => rfl

/-- A request that makes a call is answered with what the provider says to it. -/
theorem serve_call {d : Dispatch} {r : Request} {c : Call} (made : r.call? = some c) (s : Session) :
    ((∃ answer t, (d.call c).run s = .ok answer t) ∧
      (((Site.full d).serve r s).1.status = 200 ∨ ((Site.full d).serve r s).1.status = 201)) ∨
    ∃ e t, (d.call c).run s = .error e t ∧ ((Site.full d).serve r s).1 = r.failed e := by
  rcases serve_cases (provided_of_call made) s with ⟨none, -⟩ | ⟨a, handles, answered⟩
  · rw [made] at none
    cases none
  · rw [answered]
    rcases respond_cases handles s with ⟨none, -⟩ | ⟨c', same, ⟨ok, status⟩ | fails⟩
    · rw [made] at none
      cases none
    · rw [made] at same
      cases same
      refine .inl ⟨ok, ?_⟩
      split
      · exact status
      · exact status
    · rw [made] at same
      cases same
      obtain ⟨e, t, failed, response⟩ := fails
      refine .inr ⟨e, t, failed, ?_⟩
      rw [response, Request.failed]

/-! ## Requests that strand arguments -/

/-- The request makes a call that strands arguments. -/
def Request.StrandsArgs (d : Dispatch) (s : Session) (r : Request) : Prop :=
  ∃ c, r.call? = some c ∧ d.StrandsArgs s c

theorem serve_strandsArgs {d : Dispatch} (served : d.Serves) {r : Request} {s : Session}
    (h : r.StrandsArgs d s) :
    ((Site.full d).serve r s).1 = r.failed (.composition .argsWithoutSelection) := by
  obtain ⟨c, made, strands⟩ := h
  obtain ⟨t, failed⟩ := Dispatch.call_strandsArgs served strands
  rcases serve_call made s with ⟨⟨answer, u, ok⟩, -⟩ | ⟨e, u, failed', answered⟩
  · rw [failed] at ok
    cases ok
  · rw [failed] at failed'
    cases failed'
    exact answered

/-- The response reports a success, or a failure of the client. -/
def Response.Settles (r : Response) : Prop :=
  r.status = 200 ∨ r.status = 201 ∨ 400 ≤ r.status ∧ r.status < 500

theorem Response.Settles.not_composition {x : Response} (h : x.Settles) (e : CompositionError) :
    x ≠ ⟨500, some (ProviderError.composition e).body⟩ := by
  rintro rfl
  have status : 500 = 200 ∨ 500 = 201 ∨ 400 ≤ 500 ∧ 500 < 500 := h
  omega

/-- A request that makes no call is turned away for the client. -/
theorem serve_callless {d : Dispatch} {r : Request} {s : Session}
    (provided : (Place.ofPath? r.path).any Place.isProvided) (h : r.call? = none) :
    400 ≤ ((Site.full d).serve r s).1.status ∧ ((Site.full d).serve r s).1.status < 500 := by
  rcases serve_cases provided s with ⟨-, answered⟩ | ⟨a, handles, answered⟩
  · rw [answered]
    decide
  · rcases respond_cases handles s with ⟨-, client⟩ | ⟨c, made, -⟩
    · rw [answered]
      split
      · exact client
      · exact client
    · rw [h] at made
      cases made

/-- The response reports that the storage did not answer. -/
def Request.Unanswered (r : Request) (x : Response) : Prop :=
  ∃ e : StorageError, e.response = (500, "database_error") ∧ x = r.failed (.storage e)

theorem Request.Unanswered.not_composition {r : Request} {x : Response} (h : r.Unanswered x)
    (e : CompositionError) : x ≠ ⟨500, some (ProviderError.composition e).body⟩ := by
  obtain ⟨e', code, rfl⟩ := h
  unfold Request.failed
  split
  · exact fun same => by cases congrArg Response.body same
  · exact fun same => body_storage_ne code e (Option.some.inj (congrArg Response.body same))

theorem Request.settles_failed (r : Request) {e : ProviderError} (client : e.IsClient) :
    (r.failed e).Settles := by
  unfold Request.failed
  split
  · exact .inr (.inr client)
  · exact .inr (.inr client)

/-- The answer to a request that strands no arguments settles it, unless the storage does not
answer. -/
theorem serve_unstranded {d : Dispatch} (served : d.Serves) {r : Request} {s : Session}
    (provided : (Place.ofPath? r.path).any Place.isProvided) (h : ¬ r.StrandsArgs d s) :
    ((Site.full d).serve r s).1.Settles ∨ r.Unanswered ((Site.full d).serve r s).1 := by
  cases made : r.call? with
  | none => exact .inl (.inr (.inr (serve_callless provided made)))
  | some c =>
    rcases serve_call made s with ⟨-, status⟩ | ⟨e, t, failed, answered⟩
    · exact .inl (status.imp_right .inl)
    · rw [answered]
      rcases Dispatch.call_fails served failed with
        ((client | ⟨name, rfl⟩) | ⟨-, rfl⟩) | ⟨strands, -⟩
      · exact .inl (r.settles_failed client)
      · exact .inr ⟨_, rfl, rfl⟩
      · exact .inr ⟨_, rfl, rfl⟩
      · exact absurd ⟨c, made, strands⟩ h

/-- A composition error answers exactly the requests whose call strands arguments. Any other request
is settled, unless the storage does not answer, and one that makes no call is always turned away for
the client. -/
theorem composition_answers {doc : Document} {hooks : Hooks} {c : Compiled}
    (compiled : doc.compile hooks = .ok c) {r : Request}
    (provided : (Place.ofPath? r.path).any Place.isProvided) (s : Session) :
    let answer := ((Site.full c.dispatch).serve r s).1
    (r.StrandsArgs c.dispatch s → answer = r.failed (.composition .argsWithoutSelection)) ∧
      (¬ r.StrandsArgs c.dispatch s →
        (∀ e, answer ≠ ⟨500, some (ProviderError.composition e).body⟩) ∧
          (answer.Settles ∨ r.Unanswered answer)) ∧
      (r.call? = none → 400 ≤ answer.status ∧ answer.status < 500) := by
  have served := Document.serves_compiled compiled
  refine ⟨serve_strandsArgs served, fun unstranded => ?_, serve_callless provided⟩
  have settles := serve_unstranded served provided unstranded
  exact ⟨fun e => settles.elim (·.not_composition e) (·.not_composition e), settles⟩

namespace Tasks

/-- Looks up tasks with a query that can be read. -/
def lookup (query : String) : Request :=
  ⟨"GET", "/resources/tasks?" ++ query, none, ""⟩

theorem lookup_call {query : String} {p : Params}
    (place : Place.ofPath? (lookup query).path = some (.resource "tasks"))
    (given : Params.ofQuery? (lookup query).query = some p) :
    (lookup query).call? = some (.query ⟨"/tasks"⟩ p.lookup) := by
  have located : locatorPart "tasks" = .ok ⟨"/tasks"⟩ := by decide +kernel
  have read : paramsPart (lookup query).served = .ok p := by
    unfold paramsPart
    rw [show Params.ofQuery? (lookup query).served.query = some p from given]
    rfl
  rw [Request.call?, place, Option.bind_some, Place.call?, resourceCall?, located, read]
  rfl

end Tasks

/-- Arguments that are all blank are no arguments. -/
theorem composition_answers_tasks :
    ∃ c, Tasks.document.compile Tasks.hooks = .ok c ∧
      (Place.ofPath? (Tasks.lookup "args=%20,").path).any Place.isProvided ∧
      ¬ (Tasks.lookup "args=%20,").StrandsArgs c.dispatch Tasks.session ∧
      ∀ e, ((Site.full c.dispatch).serve (Tasks.lookup "args=%20,") Tasks.session).1 ≠
        ⟨500, some (ProviderError.composition e).body⟩ := by
  have place : Place.ofPath? (Tasks.lookup "args=%20,").path = some (.resource "tasks") := by
    decide +kernel
  have provided : (Place.ofPath? (Tasks.lookup "args=%20,").path).any Place.isProvided := by
    rw [place]
    rfl
  have unstranded : ¬ (Tasks.lookup "args=%20,").StrandsArgs Tasks.compiled.dispatch
      Tasks.session := by
    rintro ⟨call, made, strands⟩
    rw [Tasks.lookup_call (p := ⟨none, none, some " ,", none⟩) place (by decide +kernel)] at made
    cases made
    exact strands.2 (.inl (by decide +kernel))
  obtain ⟨-, settled, -⟩ := composition_answers Tasks.compiles provided Tasks.session
  exact ⟨Tasks.compiled, Tasks.compiles, provided, unstranded, (settled unstranded).1⟩

/-- A selection that is blank leaves the arguments of a request without a condition. -/
theorem stranded_lookup_composition :
    ∃ c, Tasks.document.compile Tasks.hooks = .ok c ∧
      (Place.ofPath? (Tasks.lookup "selection=%20&args=1").path).any Place.isProvided ∧
      ((Site.full c.dispatch).serve (Tasks.lookup "selection=%20&args=1") Tasks.session).1 =
        ⟨500, some (ProviderError.composition .argsWithoutSelection).body⟩ := by
  have place : Place.ofPath? (Tasks.lookup "selection=%20&args=1").path =
      some (.resource "tasks") := by decide +kernel
  have provided : (Place.ofPath? (Tasks.lookup "selection=%20&args=1").path).any
      Place.isProvided := by
    rw [place]
    rfl
  have called := Tasks.lookup_call (p := ⟨none, some " ", some "1", none⟩) place (by decide +kernel)
  have found : Tasks.compiled.dispatch.planFor .query ⟨"/tasks"⟩ = .ok Tasks.whole := rfl
  refine ⟨Tasks.compiled, Tasks.compiles, provided, ?_⟩
  exact serve_strandsArgs (Document.serves_compiled Tasks.compiles)
    ⟨_, called, ⟨_, found⟩, not_supports_iff.2 (by decide +kernel)⟩

end ResourceProvider.Http
