import ChatService.Keyed
import ChatService.Search.Index
import ChatService.Text.LowerCase

/-!
# The in-memory search index

A document matches a query when it belongs to the query's chat and the query's text stands in its
body, both in lower case. Hits come by ascending message number.
-/

namespace ChatService.Search.Memory

/-- The documents by id. -/
abbrev State : Type := Keyed String Document

/-- Whether a document is a hit. -/
def isHit (q : Query) (d : Document) : Bool :=
  decide (d.applicationToken = q.applicationToken) && decide (d.chatNumber = q.chatNumber) &&
    Text.contains (Text.lower q.text) (Text.lower d.body)

/-- By message number. -/
def inOrder (a b : Document) : Bool := decide (a.messageNumber ≤ b.messageNumber)

/-- All hits of a query, in order. -/
def hits (q : Query) (s : State) : List Document :=
  ((s.map (·.2)).filter (isHit q)).mergeSort inOrder

def search (q : Query) (s : State) : Hits :=
  let found := hits q s
  ⟨found.length, Page.slice q.offset q.limit found⟩

def add (d : Document) (s : State) : State := Keyed.put d.id d s

def index : Index (StateM State) :=
  { search := fun q => do return .ok (search q (← get))
    add := fun d => do modify (add d); return .ok ()
    ensure := pure (.ok ())
    health := pure (.ok ())
    name := "memory" }

end ChatService.Search.Memory
