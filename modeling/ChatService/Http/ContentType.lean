/-!
# Content types

Whether a content type says that a body is JSON: `application/json`, or a subtype that ends in
`+json`. What follows is only checked for its form: parameters `name=value`, a semicolon before each
and at most one behind the last, values quoted or not.
-/

namespace ChatService.Http.ContentType

/-- Characters of names and of values without quotes. -/
def isTokenChar (c : Char) : Bool := c.isAlphanum || "!#$%&'*+-.^_`|~".toList.contains c

/-- Characters inside quotes. A backslash is one of them like any other. -/
def isQuotedChar (c : Char) : Bool := decide (0x20 ≤ c.toNat) && decide (c.toNat < 0x7F)

/-- Where in a parameter a character stands; the flag says that nothing has come there yet. -/
inductive Place where
  | name (isStart : Bool)
  | value (isStart : Bool)
  | quoted (isStart : Bool)
  | closed
deriving DecidableEq, Repr

/-- Where the next character stands, if this one may stand where it does. -/
def Place.next? (c : Char) : Place → Option Place
  | .name isStart =>
    if isStart && c = ' ' then some (.name true)
    else if !isStart && c = '=' then some (.value true)
    else if isTokenChar c then some (.name false)
    else none
  | .value isStart =>
    if isStart && c = '"' then some (.quoted true)
    else if !isStart && c = ';' then some (.name true)
    else if isTokenChar c then some (.value false)
    else none
  | .quoted isStart =>
    if !isStart && c = '"' then some .closed
    else if isQuotedChar c then some (.quoted false)
    else none
  | .closed =>
    if c = ';' then some (.name true) else if c = ' ' then some .closed else none

/-- Parameters may end here. -/
def Place.isEnd : Place → Bool
  | .name isStart => isStart
  | .value _ | .closed => true
  | .quoted _ => false

/-- The form of parameters. -/
def areParameters (cs : List Char) : Bool :=
  match cs.foldlM (fun place c => Place.next? c place) (.name true) with
  | some place => place.isEnd
  | none => false

/-- The parts of a subtype before and behind its last plus sign; a plus sign at its start does not
    count. -/
def suffixOf (subtype : List Char) : List Char × Option (List Char) :=
  let behind := (subtype.reverse.takeWhile (· ≠ '+')).reverse
  let before := subtype.take (subtype.length - behind.length - 1)
  if before.isEmpty then (subtype, none) else (before, some behind)

/-- Whether a type and what follows the slash name JSON. -/
def namesJson (type rest : List Char) : Bool :=
  let subtype := rest.takeWhile isTokenChar
  let fits :=
    match rest.dropWhile isTokenChar with
    | [] => true
    | ';' :: parameters => !subtype.isEmpty && areParameters parameters
    | _ => false
  let (name, suffix) := suffixOf (subtype.map Char.toLower)
  fits && String.ofList (type.map Char.toLower) == "application" &&
    (String.ofList name == "json" || suffix.map String.ofList == some "json")

/-- Whether a content type says that a body is JSON. -/
def isJson (s : String) : Bool :=
  let cs := s.toList
  match cs.dropWhile isTokenChar with
  | '/' :: rest => namesJson (cs.takeWhile isTokenChar) rest
  | _ => false

example : isJson "application/json" = true := by decide
example : isJson "Application/Vnd.Api+JSON; charset=\"utf-8\" ; q=1" = true := by decide
example : isJson "application/json;charset" = false := by decide
example : isJson "application/json ;charset=utf-8" = false := by decide
example : isJson "text/json" = false := by decide

end ChatService.Http.ContentType
