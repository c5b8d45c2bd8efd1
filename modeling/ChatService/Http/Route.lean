import ChatService.Http.Error
import ChatService.Http.Request
import ChatService.Text.Number
import ChatService.Text.Quoted
import ChatService.Word

/-!
# Routes

Which resource a path names. Tokens and numbers are segments of the path; they may be anything, and
are decoded once the route is known. Only where the path ends with one, it may not be empty: such a
path ends with a slash, and no route does.
-/

namespace ChatService.Http

/-- A resource, with the segments that its path holds in the place of tokens and numbers. -/
inductive Route where
  | health
  | applications
  | application (token : String)
  | chats (token : String)
  | messages (token number : String)
  | search (token number : String)
deriving DecidableEq, Repr

namespace Route

/-- The route of a path given as its segments. -/
def ofSegments? : List String → Option Route
  | ["", "health"] => some .health
  | ["", "applications"] => some .applications
  | ["", "applications", token] => if token = "" then none else some (.application token)
  | ["", "applications", token, "chats"] => some (.chats token)
  | ["", "applications", token, "chats", number, "messages"] => some (.messages token number)
  | ["", "applications", token, "chats", number, "messages", "search"] =>
    some (.search token number)
  | _ => none

/-- The route of a path. -/
def ofPath? (path : List Char) : Option Route :=
  ofSegments? ((Text.splitAt '/' path).map String.ofList)

/-- The methods that a route answers. -/
def methods : Route → List String
  | applications | chats _ | messages _ _ => ["GET", "HEAD", "POST"]
  | health | application _ | search _ _ => ["GET", "HEAD"]

end Route

/-! ## Tokens and numbers -/

/-- The text of a segment. -/
def segment (name raw : String) : Except Error String :=
  match Text.percentDecodeText? raw.toList with
  | some s => .ok s
  | none => .error (.badRequest ("Invalid URL: Invalid UTF-8 in `" ++ name ++ "`"))

/-- The token in a path. -/
def tokenOf (token : String) : Except Error String := segment "token" token

/-- The token and the chat number in a path. Both must be texts before the number is read. -/
def chatOf (token number : String) : Except Error (String × Int) := do
  let token ← segment "token" token
  let text ← segment "number" number
  match (Text.integer? text.toList).filter fun n => decide (Word.IsInt64 n) with
  | some n => .ok (token, n)
  | none =>
    .error <| .badRequest <|
      "Invalid URL: Cannot parse value at index 1 with value `" ++ Text.quoted text ++
        "` to a `i64`"

end ChatService.Http
