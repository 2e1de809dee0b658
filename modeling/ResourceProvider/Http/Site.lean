import ResourceProvider.Http.Failure
import ResourceProvider.Http.MediaType
import ResourceProvider.Http.Message
import ResourceProvider.Lifecycle.Ensure
import ResourceProvider.Provider.BatchText
/-!
# The site

Every locator is a resource below `/resources`, with its type below `/types`; batches have a place
of their own, and so have the questions whether the service is alive, ready, and which one it is.
A request that does not fit its place is turned away with a bare response.
-/
namespace ResourceProvider.Http

open Json

/-- What is served: the places that need no provider, or everything. -/
inductive Site where
  | common
  | full (d : Dispatch)

/-! ## Places -/

/-- Where a path leads; a tail is as it is written in the path. -/
inductive Place where
  | health
  | ready
  | version
  | resource (tail : String)
  | type (tail : String)
  | batch
deriving DecidableEq, Repr

/-- What follows a fixed beginning of a path, if anything does. -/
def tailAfter? (start path : String) : Option String :=
  let tail := String.ofList (path.toList.drop start.length)
  if start.toList.isPrefixOf path.toList ∧ tail ≠ "" then some tail else none

/-- Where a path leads. -/
def Place.ofPath? (path : String) : Option Place :=
  if path = "/health" then some .health
  else if path = "/ready" then some .ready
  else if path = "/version" then some .version
  else if path = "/batch" then some .batch
  else ((tailAfter? "/resources/" path).map .resource).or
    ((tailAfter? "/types/" path).map .type)

/-- Where a path leads on a site. -/
def Site.place? : Site → String → Option Place
  | .full _, path => Place.ofPath? path
  | .common, path => (Place.ofPath? path).filter fun p => p = .health ∨ p = .version

/-! ## Parts of requests -/

/-- The locator of a tail, if its bytes are characters. -/
def locatorOfTail? (tail : String) : Option Route.Locator :=
  (Text.percentDecode? tail).map locatorOf

/-- How many bytes a body may have. -/
def bodyLimit : Nat := 2 * 1024 * 1024

/-- The status for a text that cannot be read: it is not in the data format, or says something
else than what is asked for. -/
def faultStatus : Fault → Nat
  | .wrongKind .. => 422
  | .wrongValue .. => 422
  | .wrongLength .. => 422
  | .unknownVariant .. => 422
  | .missingField _ => 422
  | .repeatedField _ => 422
  | .flagShape _ => 422
  | .flagKeys _ => 422
  | _ => 400

/-- Reads a body, or gives the status of the refusal; what follows the first value is not read. -/
def readBody {α : Type} (scan : Scan α) (r : Request) : Except Nat α :=
  if !(r.contentType.any isJsonType) then .error 415
  else if bodyLimit < r.body.utf8ByteSize then .error 413
  else
    match scan r.body.toList with
    | .ok (x, _) => .ok x
    | .error e => .error (faultStatus e)

/-- The record that a value is. -/
def recordOfBody : Value → Except ProviderError Record
  | .obj fields => .ok fields
  | _ => .error (.badRequest "body must be a JSON object")

/-! ## Answers -/

/-- A response with data. -/
def success (status : Nat) (data : List (String × Value)) : Response :=
  ⟨status, some (object [("data", object data)])⟩

/-- A response with a list, its length, and what else belongs to it. -/
def listing (items : List Value) (more : List (String × Value)) : Response :=
  let about := object (("count", whole items.length) :: more)
  ⟨200, some (object [("data", .arr items), ("meta", about)])⟩

/-- The result of one operation of a batch. -/
def resultValue (r : BatchResult) : Value :=
  object ((r.locator.map fun l => ("locator", Value.str l)).toList ++ [("count", whole r.count)])

/-- Name and version of the service. -/
def serviceInfo : List (String × Value) :=
  [("name", .str "contract-sdk"), ("version", .str "0.1.0")]

/-- Whether the database answers. -/
def ready : Action Response := fun s =>
  match Lifecycle.storedVersion.run s with
  | .ok v s =>
    .ok ⟨200, some (object [("status", .str "ok"), ("database", .str "ok"),
      ("schema_version", whole v)])⟩ s
  | .error _ s =>
    .ok ⟨503, some (object [("status", .str "degraded"), ("database", .str "unavailable")])⟩ s

/-- Looks up resources. -/
def getResource (d : Dispatch) (l : Route.Locator) (p : Params) : Action Response := do
  let found ← d.query l p.lookup
  return listing (found.records.map .obj) [("notification_uri", .str found.watch)]

/-- Adds one resource, or all of a list. -/
def postResource (d : Dispatch) (l : Route.Locator) : Value → Action Response
  | .arr items => do
    let records ← Action.ofExcept (items.mapM recordOfBody)
    return success 201 [("count", whole (← d.bulkInsert l records))]
  | v => do
    let record ← Action.ofExcept (recordOfBody v)
    return success 201 [("locator", .str (← d.insert l record))]

/-- Changes resources. -/
def patchResource (d : Dispatch) (l : Route.Locator) (p : Params) (v : Value) :
    Action Response := do
  let record ← Action.ofExcept (recordOfBody v)
  return success 200 [("count", whole (← d.update l record p.filter))]

/-- Removes resources. -/
def deleteResource (d : Dispatch) (l : Route.Locator) (p : Params) : Action Response := do
  return success 200 [("count", whole (← d.delete l p.filter))]

/-- Applies a batch. -/
def postBatch (d : Dispatch) (ops : List BatchOperation) : Action Response := do
  return listing ((← d.applyBatch ops).map resultValue) []

/-! ## Serving -/

/-- Goes on with a part of the request, or turns it away. -/
def orStatus {α : Type} (part : Except Nat α) (next : α → Action Response) : Action Response :=
  match part with
  | .error status => pure (.bare status)
  | .ok x => next x

/-- The locator of a tail as a part of a request. -/
def locatorPart (tail : String) : Except Nat Route.Locator :=
  (locatorOfTail? tail).elim (.error 400) .ok

/-- The query as a part of a request. -/
def paramsPart (r : Request) : Except Nat Params :=
  (Params.ofQuery? r.query).elim (.error 400) .ok

/-- Serves a resource. -/
def serveResource (d : Dispatch) (tail : String) (r : Request) : Option (Action Response) :=
  let body := readBody (readValue maxDepth) r
  match r.method with
  | "GET" => some <| orStatus (locatorPart tail) fun l =>
      orStatus (paramsPart r) fun p => getResource d l p
  | "POST" => some <| orStatus (locatorPart tail) fun l => orStatus body fun v => postResource d l v
  | "PATCH" => some <| orStatus (locatorPart tail) fun l =>
      orStatus (paramsPart r) fun p => orStatus body fun v => patchResource d l p v
  | "DELETE" => some <| orStatus (locatorPart tail) fun l =>
      orStatus (paramsPart r) fun p => deleteResource d l p
  | _ => none

/-- Serves a request at a place that needs no provider. -/
def serveCommon (info : List (String × Value)) (method : String) :
    Place → Option (Action Response)
  | .health =>
    if method = "GET" then some (pure ⟨200, some (object [("status", .str "ok")])⟩) else none
  | .version => if method = "GET" then some (pure ⟨200, some (object info)⟩) else none
  | .ready => if method = "GET" then some ready else none
  | _ => none

/-- What is told about a provider. -/
def providerInfo (d : Dispatch) : Value :=
  object [("name", .str d.name), ("endpoints", whole d.plans.length)]

/-- Serves a request at a place; nothing if the place does not know the method. -/
def Site.serveAt (site : Site) (r : Request) (place : Place) : Option (Action Response) :=
  match site, place with
  | .full d, .resource tail => serveResource d tail r
  | .full d, .type tail =>
    if r.method = "GET" then
      some <| orStatus (locatorPart tail) fun l => do
        return success 200 [("type", .str (← Action.ofExcept (d.typeOf l)))]
    else none
  | .full d, .batch =>
    if r.method = "POST" then
      some <| orStatus (readBody BatchOperation.scanList r) fun ops => postBatch d ops
    else none
  | .full d, place => serveCommon (serviceInfo ++ [("provider", providerInfo d)]) r.method place
  | .common, place => serveCommon serviceInfo r.method place

/-- The response to an action: what it answers, or its failure. -/
def respond (a : Action Response) (s : Session) : Response × Session :=
  match a.run s with
  | .ok answer s => (answer, s)
  | .error e s => (⟨e.status, some e.body⟩, s)

/-- Serves a request. The head of a response is asked for like the response itself. -/
def Site.serve (site : Site) (r : Request) (s : Session) : Response × Session :=
  match site.place? r.path with
  | none => (.bare 404, s)
  | some place =>
    let isHead := r.method = "HEAD"
    match site.serveAt { r with method := if isHead then "GET" else r.method } place with
    | none => (.bare 405, s)
    | some a =>
      let (answer, s) := respond a s
      (if isHead then .bare answer.status else answer, s)

end ResourceProvider.Http
