import ChatService.Json.Complaint
import ChatService.Time.Duration

/-!
# Why a cache fails
-/

namespace ChatService

inductive CacheError where
  | unavailable (detail : String)
  /-- A call took longer than it may. -/
  | timeout (limit : Duration)
  /-- A value cannot be written as a text, or a text cannot be read as a value. -/
  | serialization (complaint : Json.Complaint)
deriving DecidableEq, Repr

/-- The wording of a cache failure. -/
def CacheError.message : CacheError → String
  | unavailable detail => "Cache unavailable: " ++ detail
  | timeout limit => "Cache operation timed out after " ++ limit.render
  | serialization complaint => "Cache serialization error: " ++ complaint.message

end ChatService
