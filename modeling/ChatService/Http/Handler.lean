import ChatService.Cache.Entity
import ChatService.Http.Cors
import ChatService.Http.Form
import ChatService.Http.Payload
import ChatService.Http.Route
import ChatService.Page.Codec
import ChatService.Search.Gateway
import ChatService.Store.Operation

/-!
# Handlers

What the service does for each route. A handler reads the path first, then the query or the body,
and only then asks the store, the cache or the index; the first thing that goes wrong is the
answer.

A stored message stays stored when the index cannot take it.
-/

namespace ChatService.Http

open Store (Operation Answer)

/-- What the service works with. -/
structure Backends (σ : Type) where
  store : {α : Type} → Operation α → Work σ (Answer α)
  cache : Cache.Store σ
  index : Search.Index (Work σ)

structure Config where
  /-- How long a request may take. -/
  requestTimeout : Duration := .ofSecs 30
  cors : CorsPolicy := .permissive
  pagination : Page.Policy := {}
  cache : Cache.Config := {}
  /-- How long an application is served from the cache. -/
  applicationLifetime : Duration := Cache.applicationLifetime
deriving Repr

structure Service (σ : Type) where
  backends : Backends σ
  config : Config := {}

/-- The version that the service reports. -/
def version : String := "0.1.0"

/-- Work for a request, which may fail. -/
abbrev Handling (σ α : Type) : Type := ExceptT Error (Work σ) α

/-! ## Responses -/

/-- An application as clients see it. -/
def applicationJson (a : Store.Application) : Json :=
  .object
    [("token", .text a.token), ("name", .text a.name), ("chats_count", .int a.chatsCount),
      ("created_at", Store.timeJson a.createdAt), ("updated_at", Store.timeJson a.updatedAt)]

/-- A chat as clients see it. -/
def chatJson (c : Store.Chat) : Json :=
  .object
    [("number", .int c.number), ("messages_count", .int c.messagesCount),
      ("created_at", Store.timeJson c.createdAt), ("updated_at", Store.timeJson c.updatedAt)]

/-- A message as clients see it. -/
def messageJson (m : Store.Message) : Json :=
  .object
    [("number", .int m.number), ("body", .text m.body), ("created_at", Store.timeJson m.createdAt),
      ("updated_at", Store.timeJson m.updatedAt)]

/-- The response to the creation of a chat or a message. -/
def createdResponse (number : Int) : Response := .json 201 (.object [("number", .int number)])

/-- A page of a listing as clients see it. -/
def listingResponse {α : Type} (item : α → Json) (items : List α) (page : Page.Request)
    (total : Nat) : Response :=
  .json 200 ((Page.Paginated.ofRequest items page total).map item).toJson

/-- The response to a request that failed. -/
def errorResponse (e : Error) : Response := .json e.status (.object [("error", .text e.publicText)])

/-- The form in which applications are cached. -/
def applicationCodec : Cache.Codec Store.Application :=
  { encode := fun a => a.toJson.render
    decode? := fun s => (Json.readWhole? s).bind Store.Application.ofReading? }

namespace Service

variable {σ α : Type} (service : Service σ)

/-! ## Steps of a handler -/

/-- What a request must hold to be handled any further. -/
def require (part : Except Error α) : Handling σ α := ExceptT.mk (pure part)

/-- Asks the store. -/
def ask (operation : Operation α) : Handling σ α :=
  ExceptT.mk do return (← service.backends.store operation).mapError .ofStoreError

/-- The cache of applications. -/
def applications : Cache.EntityCache σ := ⟨service.backends.cache, service.config.cache⟩

/-- The page that a query asks for. -/
def page (fields : List (String × String)) : Page.Request :=
  service.config.pagination.normalize (formValue? "page" fields) (formValue? "per_page" fields)

/-- The page that the query of a listing asks for. -/
def listingPage (r : Request) : Except Error Page.Request :=
  (readForm ["page", "per_page"] r.target.query).map service.page

/-! ## Handlers -/

def createApplication (r : Request) : Handling σ Response := do
  let name ← require (readPayload applicationForm r)
  let application ← service.ask (.createApplication name)
  return .json 201 <|
    .object [("token", .text application.token), ("name", .text application.name)]

def listApplications (r : Request) : Handling σ Response := do
  let page ← require (service.listingPage r)
  let total ← service.ask .countApplications
  let applications ← service.ask (.listApplications page.offset page.limit)
  return listingResponse applicationJson applications page total

/-- Served from the cache; changes are not seen until the cached application expires. -/
def findApplication (token : String) : Handling σ Response := do
  let token ← require (tokenOf token)
  let application ←
    service.applications.getOrLoad Error.ofCacheError applicationCodec (Cache.applicationKey token)
      service.config.applicationLifetime (service.ask (.findApplication token)).run
  return .json 200 (applicationJson application)

def createChat (token : String) : Handling σ Response := do
  let token ← require (tokenOf token)
  let chat ← service.ask (.createChat token)
  return createdResponse chat.number

def listChats (token : String) (r : Request) : Handling σ Response := do
  let token ← require (tokenOf token)
  let page ← require (service.listingPage r)
  let total ← service.ask (.countChats token)
  let chats ← service.ask (.listChats token page.offset page.limit)
  return listingResponse chatJson chats page total

/-- Adds a stored message to the index, if the index takes it. -/
def indexMessage (token : String) (number : Int) (message : Store.Message) : Handling σ Unit :=
  ExceptT.lift do
    let _ ← Search.addDocument service.backends.index (.ofMessage token number message)

def createMessage (token number : String) (r : Request) : Handling σ Response := do
  let (token, number) ← require (chatOf token number)
  let body ← require (readPayload messageForm r)
  let message ← service.ask (.createMessage token number body)
  service.indexMessage token number message
  return createdResponse message.number

def listMessages (token number : String) (r : Request) : Handling σ Response := do
  let (token, number) ← require (chatOf token number)
  let page ← require (service.listingPage r)
  let total ← service.ask (.countMessages token number)
  let messages ← service.ask (.listMessages token number page.offset page.limit)
  return listingResponse messageJson messages page total

/-- A chat must exist before its messages are searched. -/
def searchMessages (token number : String) (r : Request) : Handling σ Response := do
  let (token, number) ← require (chatOf token number)
  let fields ← require (readForm ["query", "page", "per_page"] r.target.query)
  let _ ← service.ask (.findChat token number)
  let answer ← ExceptT.lift <|
    Search.searchPage service.backends.index token number ((formValue? "query" fields).getD "")
      (service.page fields)
  let hits ← require (answer.mapError .ofSearchError)
  return .json 200 <|
    Page.Hits.toJson
      ⟨hits.total, hits.results.map Search.Document.toJson, hits.page, hits.perPage⟩

/-! ## Health -/

/-- Whether a part of the service can be used. -/
def stateText {ε : Type} (answer : Except ε Unit) : String :=
  match answer with
  | .ok _ => "connected"
  | .error _ => "disconnected"

/-- Asks the store, the cache and the index in turn. The response is a success also when some of
    them fail. -/
def health : Work σ Response := do
  let store ← service.backends.store .ping
  let cache ← service.applications.health
  let index ← Search.checkHealth service.backends.index
  let healthy := store.isOk && cache.isOk && index.isOk
  return .json 200 <|
    .object
      [("status", .text (if healthy then "healthy" else "degraded")), ("version", .text version),
        ("services",
          .object
            [("store", .text (stateText store)),
              ("cache:" ++ service.backends.cache.name, .text (stateText cache)),
              ("search:" ++ service.backends.index.name, .text (stateText index))])]

end Service

end ChatService.Http
