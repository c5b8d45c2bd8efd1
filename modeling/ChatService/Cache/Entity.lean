import ChatService.Cache.Store

/-!
# Cached entities

Values that are loaded once and then served from a cache store until they expire. Every call of the
store has a time limit. A cache that fails open answers from the loader when its store fails; one
that does not passes the failure on.
-/

namespace ChatService.Cache

/-- How long a cached application is served. -/
def applicationLifetime : Duration := .ofSecs (30 * 60)

/-- The key of an application. -/
def applicationKey (token : String) : String := "application:token:" ++ token

structure Config where
  /-- The limit for every call of the store. -/
  timeout : Duration := .ofMillis 250
  /-- Answer from the loader when the store fails. -/
  failOpen : Bool := true
deriving DecidableEq, Repr

/-- How values are written as texts and read back. -/
structure Codec (α : Type) where
  encode : α → String
  decode? : String → Option α

/-- How values are written as texts, where they can be, and read back. -/
structure Format (α : Type) where
  encode? : α → Option String
  decode? : String → Option α

/-- Every value can be written. -/
def Codec.format {α : Type} (codec : Codec α) : Format α :=
  ⟨fun value => some (codec.encode value), codec.decode?⟩

/-- A cache over a store. -/
structure EntityCache (σ : Type) where
  store : Store σ
  config : Config := {}

namespace EntityCache

variable {σ α ε : Type} (cache : EntityCache σ)

/-- A reply within the time limit. -/
def bounded (reply : Reply σ α) : Reply σ α :=
  (reply.bounded cache.config.timeout).bind fun
    | some answer => .done answer
    | none => .done (.error (.timeout cache.config.timeout))

/-- Passes a failure of the store on, unless the cache fails open. -/
def degrade (e : CacheError) : Except CacheError Unit :=
  if cache.config.failOpen then .ok () else .error e

/-- The value that the store has under a key: none also where its text cannot be decoded, and where
    the store failed and the cache fails open. -/
def lookup (decode? : String → Option α) (key : String) : Reply σ (Option α) :=
  (cache.bounded (cache.store.get key)).bind fun
    | .ok (some text) => .done (.ok (decode? text))
    | .ok none => .done (.ok none)
    | .error e => .done ((cache.degrade e).map fun _ => none)

/-- Puts the text of a value into the store. -/
def keep (key text : String) (lifetime : Duration) : Reply σ Unit :=
  (cache.bounded (cache.store.set key text lifetime)).bind fun
    | .ok () => .done (.ok ())
    | .error e => .done (cache.degrade e)

/-- The cached value of a key, or else the loaded one, which is then cached if it has a text. A
    failure to load is returned as it is and never cached. -/
def getOrLoadAs (ofCacheError : CacheError → ε) (format : Format α) (key : String)
    (lifetime : Duration) (load : Work σ (Except ε α)) : Work σ (Except ε α) :=
  (cache.lookup format.decode? key).bind fun
    | .error e => .done (.error (ofCacheError e))
    | .ok (some value) => .done (.ok value)
    | .ok none =>
      load.bind fun
        | .error e => .done (.error e)
        | .ok value =>
          match format.encode? value with
          | none => .done (.ok value)
          | some text =>
            (cache.keep key text lifetime).bind fun
              | .error e => .done (.error (ofCacheError e))
              | .ok () => .done (.ok value)

/-- The cached value of a key, or else the loaded one, for values that all have texts. -/
def getOrLoad (ofCacheError : CacheError → ε) (codec : Codec α) (key : String)
    (lifetime : Duration) (load : Work σ (Except ε α)) : Work σ (Except ε α) :=
  cache.getOrLoadAs ofCacheError codec.format key lifetime load

/-- Whether the store answers in time. -/
def health : Reply σ Unit := cache.bounded cache.store.ping

def close : Reply σ Unit := cache.store.close

end EntityCache

end ChatService.Cache
