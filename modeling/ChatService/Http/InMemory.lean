import ChatService.Cache.Memory
import ChatService.Http.Service
import ChatService.Memory.Store
import ChatService.Search.Memory

/-!
# The service in memory

The service over a store, a cache and an index that are all kept in memory.
-/

namespace ChatService.Http.InMemory

/-- Everything that is kept, and what the store reads when it is used next. -/
structure State where
  moment : ChatService.Memory.Moment
  store : ChatService.Memory.State := .empty
  cache : Cache.Memory.State := []
  index : Search.Memory.State := []

namespace State

/-- An operation of the store, at the current moment. -/
def perform {α : Type} (operation : Store.Operation α) (s : State) : State × Store.Answer α :=
  let (store, answer) := ChatService.Memory.perform s.moment operation s.store
  ({ s with store }, answer)

def setCache (cache : Cache.Memory.State) (s : State) : State := { s with cache }

def setIndex (index : Search.Memory.State) (s : State) : State := { s with index }

/-- The same things at another moment. -/
def atMoment (moment : ChatService.Memory.Moment) (s : State) : State := { s with moment }

end State

def backends : Backends State :=
  { store := fun operation => .now fun _ s => s.perform operation
    cache := Cache.Memory.store.onPart State.cache State.setCache
    index :=
      Search.Memory.index.lift fun work => (Work.ofState work).onPart State.index State.setIndex }

def service (config : Config := {}) : Service State := ⟨backends, config⟩

end ChatService.Http.InMemory
