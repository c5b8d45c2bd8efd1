import ChatService.Http.ContentType
import ChatService.Http.Error
import ChatService.Http.Request
import ChatService.Json.Bytes
import ChatService.Json.Decode

/-!
# Request bodies

The one text that a body carries: the `name` of an `application`, or the `body` of a `message`.
Both levels may be written as lists of their fields, fields may be left out, and others are
ignored. The body is decoded as it is read, so what comes first in it decides how it fails; what
follows the value is not looked at.
-/

namespace ChatService.Http

open Json (Reading Fault Place Mismatch)

/-- The two levels of a payload: an outer structure with one field, whose value is an inner
    structure with one field, which is a text or nothing. -/
structure PayloadForm where
  outer : String
  outerField : String
  inner : String
  innerField : String
deriving Repr

/-- The body of a request that creates an application. -/
def applicationForm : PayloadForm :=
  ⟨"CreateApplicationRequest", "application", "ApplicationParams", "name"⟩

/-- The body of a request that creates a message. -/
def messageForm : PayloadForm := ⟨"CreateMessageRequest", "message", "MessageParams", "body"⟩

/-- Seen from the value around it. -/
def within {α : Type} (place : Place) (answer : Except Fault α) : Except Fault α :=
  answer.mapError (Fault.within place)

/-- Decodes the value of the one field that is looked for. -/
def onlyField {α : Type} (name : String) (decode : Reading → Except Fault α) :
    (found : Option α) → List (Option String × Reading) → Except Fault (Option α)
  | found, [] => .ok found
  | _, (none, _) :: _ => .error .malformed
  | found, (some key, value) :: rest =>
    if key = name then
      match found with
      | some _ => .error (.shape [] (.repeatedField name))
      | none => do
        let a ← within (.field name) (decode value)
        onlyField name decode (some a) rest
    else if value.isComplete then onlyField name decode found rest
    else .error .malformed

/-- Decodes the only item that a list may have. -/
def onlyItem {α : Type} (decode : Reading → Except Fault α) (item : Reading)
    (rest : List Reading) : Except Fault α := do
  let a ← within (.item 0) (decode item)
  if rest.isEmpty then return a else throw .malformed

namespace PayloadForm

/-- Decodes the inner structure. -/
def decodeInner (form : PayloadForm) : Reading → Except Fault (Option String)
  | .object fields => do return (← onlyField form.innerField Reading.string? none fields).join
  | .list [] => .error (.shape [] (.wrongLength 0 s!"struct {form.inner} with 1 element"))
  | .list (item :: rest) => onlyItem Reading.string? item rest
  | r => r.mismatch ("struct " ++ form.inner)

/-- Decodes the text that a payload carries. -/
def decode (form : PayloadForm) : Reading → Except Fault (Option String)
  | .object fields => do
    return (← onlyField form.outerField form.decodeInner none fields).join
  | .list [] => .ok none
  | .list (item :: rest) => onlyItem form.decodeInner item rest
  | r => r.mismatch ("struct " ++ form.outer)

end PayloadForm

/-- Reads the value at the start of a body. -/
def readBody (body : List UInt8) : Reading := (Json.read (Json.charsOf body)).1

/-- The place of a fault: fields with points between them, and items in brackets. -/
def placeText : List Place → String
  | [] => ""
  | [.field name] => name
  | .field name :: .field next :: rest => name ++ "." ++ placeText (.field next :: rest)
  | .field name :: rest => name ++ placeText rest
  | [.item i] => s!"[{i}]"
  | .item i :: .field next :: rest => s!"[{i}]." ++ placeText (.field next :: rest)
  | .item i :: rest => s!"[{i}]" ++ placeText rest

/-- The wording of a fault. -/
def faultText : Fault → String
  | .malformed => "Failed to parse the request body as JSON"
  | .shape [] mismatch =>
    "Failed to deserialize the JSON body into the target type: " ++ mismatch.message
  | .shape place mismatch =>
    "Failed to deserialize the JSON body into the target type: " ++ placeText place ++ ": " ++
      mismatch.message

/-- The largest body that is read, in bytes. -/
def bodyLimit : Nat := 2 * 1024 * 1024

/-- The text that the body of a request carries. The content type is checked before the length,
    and the length before the content. -/
def readPayload (form : PayloadForm) (r : Request) : Except Error (Option String) :=
  if !((r.header? "content-type").map ContentType.isJson).getD false then
    .error (.validation "Expected request with `Content-Type: application/json`")
  else if bodyLimit < r.body.length then
    .error (.validation "Failed to buffer the request body: length limit exceeded")
  else (form.decode (readBody r.body)).mapError fun fault => .validation (faultText fault)

end ChatService.Http
