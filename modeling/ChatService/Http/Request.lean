import ChatService.Json.Value
import ChatService.Text.Cut
import ChatService.Text.Percent

/-!
# Requests and responses

A request as it reaches the service, its path and query still percent-encoded, and the response that
is sent back. A response without a body has none at all, not an empty JSON value.
-/

namespace ChatService.Http

/-- Path and query of an address. -/
structure Target where
  path : List Char
  query : Option (List Char)
deriving DecidableEq, Repr

namespace Target

/-- The part behind the host of an address that names one; other addresses are paths themselves. -/
def withoutHost (cs : List Char) : List Char :=
  match cs with
  | '/' :: _ => cs
  | _ =>
    match Text.cut? '/' cs with
    | some (_, '/' :: rest) => (rest.dropWhile fun c => c ≠ '/' && c ≠ '?' && c ≠ '#')
    | _ => cs

/-- Reads an address; what follows a `#` is no part of it. -/
def ofUri (uri : String) : Target :=
  let (cs, _) := Text.cut '#' (withoutHost uri.toList)
  let (path, query) := Text.cut '?' cs
  ⟨if path.isEmpty then ['/'] else path, query⟩

end Target

structure Request where
  method : String
  target : Target
  /-- Names and values; names are compared without regard to case. -/
  headers : List (String × String)
  body : List UInt8
deriving Repr

/-- The first value of a header, by its name in lower case. -/
def Request.header? (r : Request) (name : String) : Option String :=
  (r.headers.find? fun header => String.ofList (header.1.toList.map Char.toLower) == name).map (·.2)

structure Response where
  status : Nat
  headers : List (String × String)
  body : Option Json

namespace Response

/-- A response that is nothing but a status. -/
def empty (status : Nat) : Response := ⟨status, [], none⟩

def json (status : Nat) (body : Json) : Response :=
  ⟨status, [("content-type", "application/json")], some body⟩

/-- Adds headers behind those that are there. -/
def withHeaders (r : Response) (headers : List (String × String)) : Response :=
  { r with headers := r.headers ++ headers }

/-- The same response without its body. -/
def withoutBody (r : Response) : Response := { r with body := none }

end Response

end ChatService.Http
