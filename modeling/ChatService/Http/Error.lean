import ChatService.Cache.Error
import ChatService.Search.Error
import ChatService.Store.Error

/-!
# Errors as clients see them

What a request fails with, the status of its answer, and the text sent to the client. Failures of
the store, the cache and the index are told to the client without their details.
-/

namespace ChatService.Http

inductive Error where
  | notFound (text : String)
  | validation (text : String)
  | badRequest (text : String)
  | conflict (text : String)
  | searchUnavailable (detail : String)
  | cacheUnavailable (detail : String)
  | store (cause : StoreError)
deriving DecidableEq, Repr

namespace Error

def ofStoreError (e : StoreError) : Error :=
  match e with
  | .applicationNotFound _ | .chatNotFound _ _ => .notFound e.message
  | .validation problem => .validation problem
  | .constraintViolation problem | .writeConflict problem => .conflict problem
  | _ => .store e

def ofCacheError (e : CacheError) : Error := .cacheUnavailable e.message

def ofSearchError : SearchError → Error
  | .invalidQuery problem => .validation problem
  | e => .searchUnavailable e.message

/-- The wording for whoever runs the service. -/
def message : Error → String
  | notFound text | validation text | conflict text => text
  | badRequest text => "Invalid request: " ++ text
  | searchUnavailable detail => "Search error: " ++ detail
  | cacheUnavailable detail => "Cache error: " ++ detail
  | store cause => "Persistence error: " ++ cause.message

/-- The status code of the answer. -/
def status : Error → Nat
  | notFound _ => 404
  | validation _ => 422
  | badRequest _ => 400
  | conflict _ => 409
  | searchUnavailable _ | cacheUnavailable _ => 503
  | store _ => 500

/-- The text that the client is sent. -/
def publicText : Error → String
  | searchUnavailable _ => "Search unavailable"
  | cacheUnavailable _ => "Cache unavailable"
  | store _ => "Storage error"
  | e => e.message

end Error

end ChatService.Http
