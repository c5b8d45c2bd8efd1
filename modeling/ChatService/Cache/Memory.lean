import ChatService.Cache.Store
import ChatService.Keyed

/-!
# The in-memory cache store

Entries with the moment at which they expire. An entry is live before that moment only. A read that
finds no live entry removes what has expired under its key; entries that nobody reads stay.

Reading the clock, looking a key up and removing it are sections of their own, so another call may
replace an entry in between.
-/

namespace ChatService.Cache.Memory

/-- A text with the moment from which on it is gone. -/
structure Entry where
  value : String
  expires : Instant
deriving DecidableEq, Repr

/-- The entries by key. -/
abbrev State : Type := Keyed String Entry

/-- A call on the store: every section is under the lock of its key. -/
abbrev StoreCall (α : Type) : Type := Call State Instant String α

/-- The text of a live entry. -/
def live? (now : Instant) (key : String) (s : State) : Option String :=
  match Keyed.get? key s with
  | some entry => if now < entry.expires then some entry.value else none
  | none => none

/-- Removes an entry that has expired. -/
def removeExpired (now : Instant) (key : String) (s : State) : State :=
  match Keyed.get? key s with
  | some entry => if entry.expires ≤ now then Keyed.erase key s else s
  | none => s

/-- Reads the clock, then the entry, and removes the entry if it has expired. -/
def get (key : String) : StoreCall (Option String) :=
  .step none (fun _ s => s) fun now _ =>
    .step (some key) (fun _ s => s) fun _ s =>
      match live? now key s with
      | some value => .done (some value)
      | none => .step (some key) (fun _ s => removeExpired now key s) fun _ _ => .done none

/-- Reads the clock, then puts the entry; none if the clock cannot show when the entry expires. -/
def set (key value : String) (lifetime : Duration) : StoreCall (Option Unit) :=
  .step none (fun _ s => s) fun now _ =>
    match now.after? lifetime with
    | none => .done none
    | some expires =>
      .step (some key) (fun _ s => Keyed.put key ⟨value, expires⟩ s) fun _ _ => .done (some ())

/-- Removes all entries. -/
def clear : Work State Unit := .now fun _ _ => ([], ())

/-- An entry whose expiry cannot be shown stops the program. -/
def store : Store State :=
  { get := fun key => (Work.ofCall (get key)).bind fun value => .done (.ok value)
    set := fun key value lifetime =>
      (Work.ofCall (set key value lifetime)).bind fun
        | some () => .done (.ok ())
        | none => .stop
    ping := .done (.ok ())
    close := clear.bind fun _ => .done (.ok ())
    name := "memory" }

/-- What is reported when an entry's expiry cannot be shown. -/
def overflowMessage : String := "overflow when adding duration to instant"

end ChatService.Cache.Memory
