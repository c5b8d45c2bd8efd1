/-!
# Why a store refuses

The causes for which a store of applications, chats and messages fails, and their wording.
-/

namespace ChatService

inductive StoreError where
  | database (detail : String)
  | encoding (detail : String)
  | decoding (detail : String)
  | applicationNotFound (token : String)
  | chatNotFound (token : String) (number : Int)
  | validation (problem : String)
  /-- Two writers collided on one parent; the unit of work may be run again. -/
  | writeConflict (detail : String)
  | constraintViolation (problem : String)
  | connection (detail : String)
  | internal (problem : String)
deriving DecidableEq, Repr

namespace StoreError

def message : StoreError → String
  | database detail => "Database error: " ++ detail
  | encoding detail => "BSON serialization error: " ++ detail
  | decoding detail => "BSON deserialization error: " ++ detail
  | applicationNotFound token => "Application not found: " ++ token
  | chatNotFound token number => s!"Chat {number} not found in application " ++ token
  | validation problem => "Validation failed: " ++ problem
  | writeConflict detail => "Write conflict: " ++ detail
  | constraintViolation problem => "Constraint violation: " ++ problem
  | connection detail => "Connection error: " ++ detail
  | internal problem => "Internal error: " ++ problem

/-- The application or chat asked for does not exist. -/
def isNotFound : StoreError → Bool
  | applicationNotFound _ | chatNotFound _ _ => true
  | _ => false

/-- Running the same work again may succeed. -/
def isRetryable : StoreError → Bool
  | writeConflict _ => true
  | _ => false

end StoreError

end ChatService
