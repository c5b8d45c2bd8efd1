import ChatService.Cache.Store
import ChatService.Database.Program

/-!
# The cache store in a database

Entries in one collection, by key, with the time at which they expire. The server removes expired
entries when it gets round to it, so reads ask only for entries that expire later than now.
-/

namespace ChatService.Cache.Database

open ChatService.Database (Command Program Record Filter Value Ask Failure field?)

/-- A failure of the database is one of the cache. -/
def ofFailure (f : Failure) : CacheError := .unavailable f.detail

def answered {α : Type} (answer : Except Failure α) : Except CacheError α :=
  answer.mapError ofFailure

/-- The entry with a key. -/
def keyIs (key : String) : Filter := [("_id", .equals (.text key))]

/-- Opens the store: entries are to be removed as soon as they have expired. -/
def connect (collection : String) : Program (Except CacheError Unit) := do
  let made ← Program.asking <|
    .send none (.createIndex collection [⟨"expires_at", true⟩] false (some .zero))
  return answered made

/-- The value of an entry. -/
def valueOf : Option Record → Except CacheError (Option String)
  | none => .ok none
  | some record =>
    match field? record "_id" Value.text?, field? record "value" Value.text?,
        field? record "expires_at" Value.time? with
    | some _, some value, some _ => .ok (some value)
    | _, _, _ => .error (.unavailable "unreadable record")

def get (collection key : String) : Program (Except CacheError (Option String)) := do
  let now ← Program.asking .clock
  let answer ← Program.asking <|
    .send none (.findOne collection (keyIs key ++ [("expires_at", .after now)]))
  return answered answer >>= valueOf

/-- The latest time, in milliseconds, that a lifetime may lead to: the clock counts seconds in
    signed 64-bit numbers. -/
def clockLimit : Int := 9223372036854775808 * 1000

/-- The time at which an entry expires, but no later than 64 bits of milliseconds can say. -/
def expiry (now : Int) (lifetime : Duration) : Except CacheError Int :=
  if clockLimit ≤ now + lifetime.millis then
    .error (.unavailable ("ttl out of range: " ++ lifetime.render))
  else .ok (min (now + lifetime.millis) Word.maxInt64)

def set (collection key value : String) (lifetime : Duration) :
    Program (Except CacheError Unit) := do
  let now ← Program.asking .clock
  match expiry now lifetime with
  | .error e => return .error e
  | .ok expires =>
    let record : Record :=
      [("_id", .text key), ("value", .text value), ("expires_at", .time expires)]
    return answered (← Program.asking (.send none (.replaceOrInsert collection (keyIs key) record)))

def ping : Program (Except CacheError Unit) := do
  return answered (← Program.asking (.send none .ping))

/-- The store, run against something that answers its programs. -/
def store {σ : Type} (collection : String) (run : {α : Type} → Program α → Work σ α)
    (close : Reply σ Unit) : Store σ :=
  { get := fun key => run (get collection key)
    set := fun key value lifetime => run (set collection key value lifetime)
    ping := run ping
    close
    name := "mongodb" }

end ChatService.Cache.Database
