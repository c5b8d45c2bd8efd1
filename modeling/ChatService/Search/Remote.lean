import ChatService.Json.Bytes
import ChatService.Json.Decode
import ChatService.Json.Printer
import ChatService.Search.Address
import ChatService.Search.Index

/-!
# A search engine on another machine

An index kept by a search engine that is spoken to over HTTP. A request that is not answered is a
failure of transport; an answer outside the success range is passed on with its text.

The requests are sent by a client that follows answers to other addresses, as it is not told
otherwise. So an answer that names an address may lead to more requests, and the last answer is the
one that counts.
-/

namespace ChatService.Search.Remote

inductive Method where
  | head
  | get
  | post
  | put
deriving DecidableEq, Repr

def Method.name : Method → String
  | head => "HEAD"
  | get => "GET"
  | post => "POST"
  | put => "PUT"

structure Request where
  method : Method
  /-- Path and query. -/
  target : String
  body : Option Json

/-- An answer, with the bytes that came or with what is known of why not all of them did. -/
structure Reply where
  status : Nat
  sent : Except String (List UInt8)

/-- What is read of an answer: with these statuses it has no body, whatever is sent. -/
def Reply.body (reply : Reply) : Except String (List UInt8) :=
  if reply.status = 204 ∨ reply.status = 304 then .ok [] else reply.sent

/-- Sends a request; none: no answer came in time, the connection broke before, or the client gave
    up. -/
abbrev Link (m : Type → Type) : Type := Request → m (Option Reply)

/-- Where the engine is and which of its indexes is used. -/
structure Site where
  /-- What stands in the address between the host and the paths of the engine. -/
  base : String
  index : String := "messages"
deriving Repr

/-- The address of a path, seen from behind the host; slashes at the end of the base are dropped. -/
def Site.address (site : Site) (path : String) : List Char :=
  (site.base.toList.reverse.dropWhile (· = '/')).reverse ++ '/' :: path.toList

/-- The target of a path. -/
def Site.target (site : Site) (path : String) : String := Address.target (site.address path)

/-! ## Following answers -/

/-- What comes back for one request: an answer, and the address that it names, if it names one. -/
structure Response extends Reply where
  location : Option String

/-- Sends one request as it is; none: no answer came in time, or the connection broke before. -/
abbrev Wire (m : Type → Type) : Type := Request → m (Option Response)

/-- How a client follows answers. -/
structure Redirects where
  /-- How many answers are followed before the client gives up. -/
  hops : Nat := 10
  /-- The request that an answer leads to, by its status and the address that it names; none where
      the address cannot be read. -/
  onward : Request → (status : Nat) → (address : String) → Option Request

namespace Redirects

variable {m : Type → Type} [Monad m]

/-- The statuses of answers that are followed. -/
def statuses : List Nat := [301, 302, 303, 307, 308]

/-- The request that an answer leads to, if it is one to be followed. -/
def next? (redirects : Redirects) (request : Request) (response : Response) : Option Request :=
  if response.status ∈ statuses then
    response.location.bind (redirects.onward request response.status)
  else none

/-- Sends a request and those that the answers lead to, so many in all at most. -/
def follow (redirects : Redirects) (wire : Wire m) : Nat → Link m
  | 0, _ => return none
  | count + 1, request => do
    let response ← wire request
    match response.bind (redirects.next? request) with
    | none => return response.map (·.toReply)
    | some next => redirects.follow wire count next

/-- The client: a request, and as many more as answers may be followed. -/
def link (redirects : Redirects) (wire : Wire m) : Link m :=
  redirects.follow wire (redirects.hops + 1)

end Redirects

/-! ## Reading answers -/

/-- How deeply a number of hits may be nested: it stands two levels deep, and 127 are read. -/
def totalDepth : Nat := 125

/-- The number of hits: a number, or an object that has it as its value. The object is read whole
    before it is known which of the two it is. -/
def totalOf? : Json.Reading → Option Nat
  | .object fields => do
    let r := Json.Reading.object fields
    guard (r.depth ≤ totalDepth)
    let _ ← r.toJson?
    let values ← r.record? ["value"]
    (← values[0]?).uint64.toOption
  | r => r.uint64.toOption

/-- The number of hits where it may be missing. -/
def totalOrZero? : Option Json.Reading → Option Nat
  | none => some 0
  | some .null => some 0
  | some r => totalOf? r

/-- The document of one hit. -/
def hitOf? (r : Json.Reading) : Option Document := do
  let values ← r.record? ["_source"]
  Document.ofReading? (← values[0]?)

/-- The documents of the hits. -/
def documentsOf? : Option Json.Reading → Option (List Document)
  | none => some []
  | some (.list items) => items.mapM hitOf?
  | some _ => none

/-- The hits in an answer. -/
def hitsOf? (r : Json.Reading) : Option Hits := do
  let values ← r.record? ["hits"]
  let parts ← (← values[0]?).fields? ["total", "hits"]
  let total ← totalOrZero? (← parts[0]?)
  let documents ← documentsOf? (← parts[1]?)
  return ⟨total, documents⟩

/-! ## Requests -/

/-- The mapping of a new index: the text of a message is searched whole and by the beginnings of its
    words, everything else is compared exactly. -/
def definition : Json :=
  let type (name : String) (more : List (String × Json)) : Json :=
    .object (("type", .text name) :: more)
  .object
    [("settings",
        .object
          [("analysis",
            .object
              [("analyzer",
                  .object
                    [("partial_analyzer",
                      type "custom"
                        [("tokenizer", .text "standard"),
                          ("filter", .list [.text "lowercase", .text "edge_ngram_filter"])])]),
                ("filter",
                  .object
                    [("edge_ngram_filter",
                      type "edge_ngram" [("min_gram", .nat 2), ("max_gram", .nat 20)])])])]),
      ("mappings",
        .object
          [("properties",
            .object
              [("application_token", type "keyword" []), ("chat_number", type "integer" []),
                ("message_number", type "integer" []),
                ("body",
                  type "text"
                    [("fields",
                      .object
                        [("ngram",
                          type "text"
                            [("analyzer", .text "partial_analyzer"),
                              ("search_analyzer", .text "standard")])])]),
                ("created_at", type "date" [])])])]

variable {m : Type → Type} [Monad m]

/-- What is known of a connection that broke. -/
def broken : SearchError := .transport "error sending request"

/-- The text of an answer that is no success. -/
def Reply.text (reply : Reply) : String :=
  match reply.body with
  | .ok bytes => Text.ofUtf8Lossy bytes
  | .error _ => "Failed to read response body"

/-- An answer in the success range. -/
def accepted (reply : Reply) : Except SearchError Reply :=
  if 200 ≤ reply.status ∧ reply.status < 300 then .ok reply
  else .error (.status reply.status reply.text)

/-- Sends a request and wants success. -/
def ask (link : Link m) (request : Request) : m (Except SearchError Reply) := do
  match ← link request with
  | none => return .error broken
  | some reply => return accepted reply

/-- The hits of a successful answer. -/
def readHits (reply : Reply) : Except SearchError Hits :=
  match reply.body with
  | .error detail => .error (.malformed detail)
  | .ok bytes =>
    match (Json.readBytes? bytes).bind hitsOf? with
    | some hits => .ok hits
    | none => .error (.malformed "error decoding response body")

def search (link : Link m) (site : Site) (q : Query) : m (Except SearchError Hits) := do
  let answer ← ask link ⟨.post, site.target (site.index ++ "/_search"), some q.toJson⟩
  return answer >>= readHits

def add (link : Link m) (site : Site) (d : Document) : m (Except SearchError Unit) := do
  let answer ← ask link ⟨.put, site.target (site.index ++ "/_doc/" ++ d.id), some d.toJson⟩
  return answer.map fun _ => ()

/-- Makes the index unless the engine says that it is there. -/
def ensure (link : Link m) (site : Site) : m (Except SearchError Unit) := do
  match ← link ⟨.head, site.target site.index, none⟩ with
  | none => return .error broken
  | some reply =>
    if reply.status = 200 then return .ok ()
    else
      let answer ← ask link ⟨.put, site.target site.index, some definition⟩
      return answer.map fun _ => ()

def health (link : Link m) (site : Site) : m (Except SearchError Unit) := do
  let answer ← ask link ⟨.get, site.target "_cluster/health", none⟩
  return answer.map fun _ => ()

/-- The index that a search engine keeps. -/
def index (link : Link m) (site : Site) : Index m :=
  { search := search link site
    add := add link site
    ensure := ensure link site
    health := health link site
    name := "elasticsearch" }

end ChatService.Search.Remote
