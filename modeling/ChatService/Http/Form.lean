import ChatService.Http.Error
import ChatService.Http.Request

/-!
# Query parameters

The fields of a query: pairs separated by `&`, names and values by `=`, with a plus sign for a
blank. Bytes that are no text become replacement characters. A field that is asked for may not
come twice.
-/

namespace ChatService.Http

/-- A name or value as it is meant. -/
def formText (cs : List Char) : String :=
  Text.ofUtf8Lossy (Text.percentDecode (Text.utf8 (cs.map fun c => if c = '+' then ' ' else c)))

/-- The fields of a query, in order. -/
def formFields (query : Option (List Char)) : List (String × String) :=
  let parts := (Text.splitAt '&' (query.getD [])).filter fun part => !part.isEmpty
  parts.map fun part =>
    let (name, value) := Text.cut '=' part
    (formText name, formText (value.getD []))

/-- The value of a field. -/
def formValue? (name : String) (fields : List (String × String)) : Option String :=
  (fields.find? (·.1 == name)).map (·.2)

/-- The first field out of some that comes a second time. -/
def repeated? (names : List String) : (seen : List String) → List (String × String) → Option String
  | _, [] => none
  | seen, (name, _) :: rest =>
    if names.contains name then
      if seen.contains name then some name else repeated? names (name :: seen) rest
    else repeated? names seen rest

/-- The fields of a query, none of which comes twice under one of these names. -/
def readForm (names : List String) (query : Option (List Char)) :
    Except Error (List (String × String)) :=
  let fields := formFields query
  match repeated? names [] fields with
  | some name =>
    .error <| .badRequest <|
      "Failed to deserialize query string: duplicate field `" ++ name ++ "`"
  | none => .ok fields

end ChatService.Http
