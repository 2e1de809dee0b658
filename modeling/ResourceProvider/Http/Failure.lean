import ResourceProvider.Error
import ResourceProvider.Json.Value
/-!
# Failed requests as responses

A violated constraint is a conflict with what is stored; any other statement the storage refuses
is a request that cannot be answered as it stands. A placeholder that no value can be given to does
not get as far as the storage.
-/
namespace ResourceProvider

open Json

/-- The status of a response for a storage error, and its short name. -/
def StorageError.response : StorageError → Nat × String
  | .noRows => (404, "not_found")
  | .violation _ => (409, "constraint_violation")
  | .rejected => (400, "invalid_query")
  | .unbound _ => (500, "database_error")
  | .closed => (500, "database_error")

/-- The status of a response for a failed request, and its short name. -/
def ProviderError.response : ProviderError → Nat × String
  | .document _ => (500, "config_error")
  | .route _ => (400, "invalid_argument")
  | .composition _ => (500, "composition_error")
  | .storage e => e.response
  | .notAllowed .. => (405, "not_allowed")
  | .badRequest _ => (400, "bad_request")
  | .downgrade .. => (500, "downgrade")

/-- The status of the response. -/
def ProviderError.status (e : ProviderError) : Nat :=
  e.response.1

/-- The body of the response. -/
def ProviderError.body (e : ProviderError) : Value :=
  object [("error", object [("code", .str e.response.2), ("message", .str e.message)])]

end ResourceProvider
