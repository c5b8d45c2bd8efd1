import ChatService.Page.Envelope
import ChatService.Search.Index

/-!
# Searching pages

A search as clients see it: a blank text is refused before the index is asked, and whatever goes
wrong in the index, the search is unavailable. Nothing is tried twice.
-/

namespace ChatService.Search

variable {m : Type → Type} [Monad m]

/-- The failure of an index as the failure of the search. -/
def hideFailure {α : Type} (answer : Except SearchError α) : Except SearchError α :=
  answer.mapError fun e => .unavailable e.message

/-- The page of hits that a request asks for. -/
def searchPage (index : Index m) (token : String) (chatNumber : Int) (text : String)
    (page : Page.Request) : m (Except SearchError (Page.Hits Document)) :=
  match Query.ofPage token chatNumber text page with
  | .error e => pure (.error e)
  | .ok query => do
    let answer ← index.search query
    return (hideFailure answer).map fun hits =>
      ⟨hits.total, hits.documents, page.page, page.perPage⟩

/-- Adds a document to the index. -/
def addDocument (index : Index m) (d : Document) : m (Except SearchError Unit) := do
  return hideFailure (← index.add d)

/-- Makes the index; a failure is passed on as it is. -/
def ensureIndex (index : Index m) : m (Except SearchError Unit) := index.ensure

/-- Whether the index works. -/
def checkHealth (index : Index m) : m (Except SearchError Unit) := do
  return hideFailure (← index.health)

end ChatService.Search
