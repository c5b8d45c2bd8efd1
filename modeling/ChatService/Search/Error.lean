/-!
# Why a search fails
-/

namespace ChatService

inductive SearchError where
  /-- The index could not be reached. -/
  | transport (detail : String)
  /-- The index refused, with a status and a text. -/
  | status (code : Nat) (body : String)
  | malformed (detail : String)
  | invalidQuery (problem : String)
  | unavailable (detail : String)
deriving DecidableEq, Repr

/-- The wording of a search failure. -/
def SearchError.message : SearchError → String
  | transport detail => "Search request failed: " ++ detail
  | status code body => s!"Search index returned {code}: " ++ body
  | malformed detail => "Malformed search response: " ++ detail
  | invalidQuery problem => "Invalid search query: " ++ problem
  | unavailable detail => "Search unavailable: " ++ detail

end ChatService
