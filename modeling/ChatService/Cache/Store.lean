import ChatService.Cache.Error
import ChatService.Work

/-!
# Cache stores

What a cache asks of the place where it keeps its texts. Every entry has a lifetime and is never
returned after it. A store may be slow, fail, or not answer at all.
-/

namespace ChatService.Cache

/-- The answer of a store, in its own time. -/
abbrev Reply (σ α : Type) : Type := Work σ (Except CacheError α)

/-- A store of texts by key, on a state `σ`. -/
structure Store (σ : Type) where
  get : (key : String) → Reply σ (Option String)
  set : (key value : String) → (lifetime : Duration) → Reply σ Unit
  ping : Reply σ Unit
  close : Reply σ Unit
  name : String

/-- What happens before a store gets to work. -/
inductive Obstacle where
  | none
  | failure (e : CacheError)
  | silence
  | delay (length : Duration)
deriving DecidableEq, Repr

/-- A reply behind an obstacle. -/
def Obstacle.before {σ α : Type} (reply : Reply σ α) : Obstacle → Reply σ α
  | .none => reply
  | .failure e => .done (.error e)
  | .silence => .never
  | .delay length => .wait length reply

/-- An obstacle for every kind of call. -/
structure Obstacles where
  get : Obstacle := .none
  set : Obstacle := .none
  ping : Obstacle := .none
  close : Obstacle := .none
deriving Repr

/-- A store behind obstacles. -/
def Store.behind {σ : Type} (o : Obstacles) (store : Store σ) : Store σ :=
  { get := fun key => o.get.before (store.get key)
    set := fun key value lifetime => o.set.before (store.set key value lifetime)
    ping := o.ping.before store.ping
    close := o.close.before store.close
    name := store.name }

/-- A store kept in a part of a larger state. -/
def Store.onPart {σ τ : Type} (part : σ → τ) (replace : τ → σ → σ) (store : Store τ) : Store σ :=
  { get := fun key => (store.get key).onPart part replace
    set := fun key value lifetime => (store.set key value lifetime).onPart part replace
    ping := store.ping.onPart part replace
    close := store.close.onPart part replace
    name := store.name }

end ChatService.Cache
