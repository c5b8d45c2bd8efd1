import ChatService.Search.Document
import ChatService.Search.Query

/-!
# Search indexes

What a search asks of the place where documents are indexed.
-/

namespace ChatService.Search

/-- The number of all matching documents, and those in the window asked for. -/
structure Hits where
  total : Nat
  documents : List Document
deriving DecidableEq, Repr

/-- An index of documents, used by work in `m`. -/
structure Index (m : Type → Type) where
  search : Query → m (Except SearchError Hits)
  /-- Adds a document in the place of the one with the same id. -/
  add : Document → m (Except SearchError Unit)
  /-- Makes the index if there is none. -/
  ensure : m (Except SearchError Unit)
  health : m (Except SearchError Unit)
  name : String

/-- The same index, used by other work. -/
def Index.lift {m n : Type → Type} (up : {α : Type} → m α → n α) (index : Index m) : Index n :=
  { search := fun q => up (index.search q)
    add := fun d => up (index.add d)
    ensure := up index.ensure
    health := up index.health
    name := index.name }

/-- An index that fails every call in the same way. -/
def Index.failing (m : Type → Type) [Monad m] (name : String) (e : SearchError) : Index m :=
  { search := fun _ => pure (.error e)
    add := fun _ => pure (.error e)
    ensure := pure (.error e)
    health := pure (.error e)
    name }

end ChatService.Search
