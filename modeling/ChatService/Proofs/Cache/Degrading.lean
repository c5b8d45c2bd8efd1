import ChatService.Cache.Entity
import ChatService.Proofs.InStep

/-!
# Failing open and failing closed

A lookup through an entity cache over any store, with any loader.  The calls that it makes are
watched: each is written down with the moment and the state in which it was made, so that what the
store and the loader came to can be told from what they do there.  A cache that fails open answers
with a value that the store had in time, or else with what the loader came to; one that does not
passes on how the store failed.  Neither waits for the store any longer than the limit, twice.
-/

namespace ChatService.Cache

open Work (Ending Limited)

variable {σ α β ε : Type} {i j : Instant} {s t : σ}

/-! ## watching -/

/-- A call that a lookup makes. -/
inductive Event where
  | get (key : String)
  | load
  | set (key text : String) (lifetime : Duration)
deriving DecidableEq

/-- A call, the moment at which it was made, and the state that it found. -/
structure Made (σ : Type) where
  event : Event
  moment : Instant
  state : σ

def Made.isLoad (call : Made σ) : Bool := call.event = .load

def Made.isSet (call : Made σ) : Bool :=
  match call.event with
  | .set _ _ _ => true
  | _ => false

/-- A state, and the calls that were made so far. -/
structure Watched (σ : Type) where
  state : σ
  calls : List (Made σ)

def Watched.setState (state : σ) (w : Watched σ) : Watched σ := { w with state }

theorem Watched.isPart_state : Work.IsPart (σ := Watched σ) Watched.state Watched.setState :=
  ⟨fun _ _ => rfl, fun _ => rfl, fun _ _ _ => rfl⟩

/-- One more call. -/
def Watched.note (event : Event) (i : Instant) (w : Watched σ) : Watched σ :=
  { w with calls := w.calls ++ [⟨event, i, w.state⟩] }

/-- A call that is written down when it is made. -/
def watch (event : Event) (work : Work σ α) : Work (Watched σ) α :=
  .act (Watched.note event) fun _ _ => work.onPart Watched.state Watched.setState

/-- A cache whose calls of its store are watched. -/
def EntityCache.watched (cache : EntityCache σ) : EntityCache (Watched σ) where
  store :=
    { cache.store.onPart Watched.state Watched.setState with
      get := fun key => watch (.get key) (cache.store.get key)
      set := fun key text lifetime =>
        watch (.set key text lifetime) (cache.store.set key text lifetime) }
  config := cache.config

theorem run_watch (event : Event) (work : Work σ α) (w : Watched σ) :
    (watch event work).run i w =
      (work.run i w.state).bind fun j t a =>
        .answered j ⟨t, w.calls ++ [⟨event, i, w.state⟩]⟩ a :=
  Work.run_onPart work Watched.isPart_state

theorem bounded_watch (limit : Duration) (event : Event) (work : Work σ α) :
    (watch event work).bounded limit = watch event (work.bounded limit) := by
  simp only [watch, Work.bounded, Work.bounded_onPart]

/-! ### watching changes nothing -/

/-- A state that is watched, and the same state. -/
def SameState (w : Watched σ) (s : σ) : Prop := w.state = s

theorem alike_watch (event : Event) (work : Work σ α) :
    Work.Alike SameState Eq (watch event work) work :=
  fun i w s hstate =>
    .actLeft (Work.alike_onPart Watched.isPart_state work i (w.note event i) s hstate)

namespace EntityCache

variable (cache : EntityCache σ)

theorem alike_bounded_watch (event : Event) (reply : Reply σ α) :
    Work.Alike SameState Eq (cache.watched.bounded (watch event reply)) (cache.bounded reply) := by
  refine ((alike_watch event reply).bounded cache.config.timeout).bind ?_
  rintro _ _ (_ | ⟨rfl⟩)
  · exact Work.alike_done rfl
  · exact Work.alike_done rfl

theorem alike_lookup_watched (decode? : String → Option α) (key : String) :
    Work.Alike SameState Eq (cache.watched.lookup decode? key) (cache.lookup decode? key) := by
  refine (cache.alike_bounded_watch _ _).bind ?_
  rintro (e | _ | text) _ rfl <;> exact Work.alike_done rfl

theorem alike_keep_watched (key text : String) (lifetime : Duration) :
    Work.Alike SameState Eq (cache.watched.keep key text lifetime)
      (cache.keep key text lifetime) := by
  refine (cache.alike_bounded_watch _ _).bind ?_
  rintro (e | _) _ rfl <;> exact Work.alike_done rfl

theorem alike_getOrLoadAs_watched (ofCacheError : CacheError → ε) (format : Format α)
    (key : String) (lifetime : Duration) (load : Work σ (Except ε α)) :
    Work.Alike SameState Eq
      (cache.watched.getOrLoadAs ofCacheError format key lifetime (watch .load load))
      (cache.getOrLoadAs ofCacheError format key lifetime load) := by
  refine (cache.alike_lookup_watched _ _).bind ?_
  rintro (e | _ | value) _ rfl
  · exact Work.alike_done rfl
  · refine (alike_watch .load load).bind ?_
    rintro (e | value) _ rfl
    · exact Work.alike_done rfl
    · dsimp only
      cases format.encode? value with
      | none => exact Work.alike_done rfl
      | some text =>
          refine (cache.alike_keep_watched key text lifetime).bind ?_
          rintro (e | _) _ rfl <;> exact Work.alike_done rfl
  · exact Work.alike_done rfl

end EntityCache

/-! ## what the store comes to -/

/-- What a reply that is asked for at a moment comes to within a limit. -/
def inTime (limit : Duration) (reply : Reply σ α) (i : Instant) (s : σ) : Except CacheError α :=
  ((reply.run i s).answerBy (i.after limit)).getD (.error (.timeout limit))

namespace EntityCache

/-- A call of the store under the limit of the cache: unless it stops the program, it comes to
something within the limit, and what is next goes on from there. -/
theorem run_bounded_watch (cache : EntityCache σ) (event : Event) (reply : Reply σ α)
    (f : Except CacheError α → Work (Watched σ) β) (i : Instant) (w : Watched σ) :
    (reply.run i w.state = .stopped ∧
        ((cache.watched.bounded (watch event reply)).bind f).run i w = .stopped) ∨
      ∃ d ≤ cache.config.timeout, ∃ t,
        ((cache.watched.bounded (watch event reply)).bind f).run i w =
          (f (inTime cache.config.timeout reply i w.state)).run (i.after d)
            ⟨t, w.calls ++ [⟨event, i, w.state⟩]⟩ := by
  have hrun : ((cache.watched.bounded (watch event reply)).bind f).run i w =
      ((reply.bounded cache.config.timeout).run i w.state).bind fun j t a =>
        (f (a.getD (.error (.timeout cache.config.timeout)))).run j
          ⟨t, w.calls ++ [⟨event, i, w.state⟩]⟩ := by
    unfold bounded
    rw [Work.run_bind_eq, Work.run_bind_eq, show cache.watched.config = cache.config from rfl,
      bounded_watch, run_watch]
    cases (reply.bounded cache.config.timeout).run i w.state with
    | answered j t a => cases a <;> rfl
    | never => rfl
    | stopped => rfl
  have hlimited := Work.limited_run cache.config.timeout reply i w.state
  rw [hrun]
  unfold inTime
  generalize reply.run i w.state = ending at hlimited ⊢
  generalize (reply.bounded cache.config.timeout).run i w.state = ending' at hlimited ⊢
  cases hlimited with
  | @answered d t a hd =>
      have hby : i.after d ≤ i.after cache.config.timeout := Nat.add_le_add_left hd i.nanos
      refine .inr ⟨d, hd, t, ?_⟩
      simp [Ending.answerBy, hby]
  | @late _ t hlate =>
      refine .inr ⟨cache.config.timeout, Nat.le_refl _, t, ?_⟩
      simp [hlate]
  | stopped => exact .inl ⟨rfl, rfl⟩

theorem degrade_of_open (cache : EntityCache σ) (e : CacheError)
    (hopen : cache.config.failOpen = true) : cache.degrade e = .ok () := if_pos hopen

theorem degrade_of_closed (cache : EntityCache σ) (e : CacheError)
    (hclosed : cache.config.failOpen = false) : cache.degrade e = .error e :=
  if_neg (by simp [hclosed])

/-- What does not matter to the store holds all along a call under the limit. -/
theorem throughout_bounded_watch (cache : EntityCache σ) {P : Watched σ → Prop}
    (hstate : ∀ t w, P w → P (w.setState t)) (event : Event) (reply : Reply σ α) {i : Instant}
    {w : Watched σ} (h : P w) (hnote : P (w.note event i)) :
    (cache.watched.bounded (watch event reply)).Throughout P i w := by
  unfold bounded
  rw [bounded_watch]
  refine Work.throughout_bind_done ⟨h, Work.throughout_onPart hstate _ hnote⟩ ?_
  rintro (_ | answer) <;> exact ⟨_, rfl⟩

end EntityCache

namespace Degrading

/-! ## lookups -/

/-- A lookup through a cache, and what it is given. -/
structure Lookup (σ α ε : Type) where
  cache : EntityCache σ
  ofCacheError : CacheError → ε
  format : Format α
  key : String
  lifetime : Duration
  load : Work σ (Except ε α)

namespace Lookup

/-- What the lookup does. -/
def work (query : Lookup σ α ε) : Work σ (Except ε α) :=
  query.cache.getOrLoadAs query.ofCacheError query.format query.key query.lifetime query.load

/-- The same lookup, with its calls watched. -/
def watched (query : Lookup σ α ε) : Lookup (Watched σ) α ε where
  cache := query.cache.watched
  ofCacheError := query.ofCacheError
  format := query.format
  key := query.key
  lifetime := query.lifetime
  load := watch .load query.load

variable (query : Lookup σ α ε)

def limit : Duration := query.cache.config.timeout

def failsOpen : Bool := query.cache.config.failOpen

/-- What the store comes to in time when it is asked for the key. -/
def got (i : Instant) (s : σ) : Except CacheError (Option String) :=
  inTime query.limit (query.cache.store.get query.key) i s

/-- What the store comes to in time when it is given a text for the key. -/
def put (text : String) (i : Instant) (s : σ) : Except CacheError Unit :=
  inTime query.limit (query.cache.store.set query.key text query.lifetime) i s

/-- The value that the store has in time. -/
def served? (i : Instant) (s : σ) : Option α :=
  match query.got i s with
  | .ok (some text) => query.format.decode? text
  | _ => none

/-- The store has no value in time, and a failure of it, if there is one, does not matter. -/
structure Missed (i : Instant) (s : σ) : Prop where
  unserved : query.served? i s = none
  unrefused : ∀ e, query.got i s = .error e → query.failsOpen = true

/-! ### what must hold -/

/-- The loader is called once at most, and so is the store for a text: for that of a value that was
loaded before, as soon as it was loaded, and for the lifetime that is asked for. -/
structure Orderly (calls : List (Made σ)) : Prop where
  loads : calls.countP Made.isLoad ≤ 1
  sets : calls.countP Made.isSet ≤ 1
  loadedBefore : ∀ call ∈ calls, ∀ key text lifetime, call.event = .set key text lifetime →
    key = query.key ∧ lifetime = query.lifetime ∧
      ∃ earlier ∈ calls, earlier.event = .load ∧ ∃ value,
        query.load.run earlier.moment earlier.state =
            .answered call.moment call.state (.ok value) ∧
          query.format.encode? value = some text

/-- What a lookup that was begun in a state at a moment has done, and what it has answered. -/
structure Degrades (i : Instant) (s : σ) (i' : Instant) (w : Watched σ) (answer : Except ε α) :
    Prop where
  /-- A value that the store has in time is the answer, and nothing is loaded. -/
  served : ∀ value, query.served? i s = some value →
    answer = .ok value ∧ w.calls.countP Made.isLoad = 0
  /-- Without one the value is loaded, whatever the store came to if the cache fails open. -/
  missed : query.Missed i s → w.calls.countP Made.isLoad = 1
  /-- A cache that fails open answers a value that the store has, or what the loader comes to. -/
  opened : query.failsOpen = true →
    (∃ value, query.served? i s = some value ∧ answer = .ok value ∧
        w.calls.countP Made.isLoad = 0) ∨
      ∃ call ∈ w.calls, call.event = .load ∧ ∃ j t,
        query.load.run call.moment call.state = .answered j t answer
  /-- One that does not passes on that the store failed or was late, and loads nothing then, -/
  refused : query.failsOpen = false → ∀ e, query.got i s = .error e →
    answer = .error (query.ofCacheError e) ∧ w.calls.countP Made.isLoad = 0
  /-- also if the store fails or is late only when it is given a text. -/
  unkept : query.failsOpen = false → ∀ call ∈ w.calls, ∀ key text lifetime,
    call.event = .set key text lifetime → ∀ e, query.put text call.moment call.state = .error e →
      answer = .error (query.ofCacheError e)
  /-- A failure to load is the answer, and the store is given nothing. -/
  unloaded : ∀ call ∈ w.calls, call.event = .load → ∀ j t e,
    query.load.run call.moment call.state = .answered j t (.error e) →
      answer = .error e ∧ w.calls.countP Made.isSet = 0
  /-- A loaded value is put into the store if it has a text, and it is the answer unless that goes
  wrong and the cache does not fail open. -/
  loaded : ∀ call ∈ w.calls, call.event = .load → ∀ j t value,
    query.load.run call.moment call.state = .answered j t (.ok value) →
      (∀ text, query.format.encode? value = some text →
        ⟨.set query.key text query.lifetime, j, t⟩ ∈ w.calls) ∧
      (answer = .ok value ∨ query.failsOpen = false ∧ ∃ text e,
        query.format.encode? value = some text ∧ query.put text j t = .error e ∧
          answer = .error (query.ofCacheError e))
  /-- The store is waited for no longer than the limit, before the loader and after it. -/
  waits : ∃ before ≤ query.limit, ∃ after ≤ query.limit,
    (w.calls.countP Made.isLoad = 0 → i' = i.after before) ∧
      ∀ call ∈ w.calls, call.event = .load → ∀ j t loaded,
        query.load.run call.moment call.state = .answered j t loaded →
          call.moment = i.after before ∧ i' = j.after after

/-! ### where a lookup leads -/

/-- The call by which a lookup begins. -/
def reading (i : Instant) (s : σ) : Made σ := ⟨.get query.key, i, s⟩

/-- The ways that a lookup may take. -/
inductive Path (i : Instant) (s : σ) : Instant → Watched σ → Except ε α → Prop where
  | served {d : Duration} {t : σ} {value : α} (hd : d ≤ query.limit)
      (hserved : query.served? i s = some value) :
      Path i s (i.after d) ⟨t, [query.reading i s]⟩ (.ok value)
  | refused {d : Duration} {t : σ} {e : CacheError} (hd : d ≤ query.limit)
      (hgot : query.got i s = .error e) (hclosed : query.failsOpen = false) :
      Path i s (i.after d) ⟨t, [query.reading i s]⟩ (.error (query.ofCacheError e))
  /-- What was loaded is not put into the store: it is a failure, or has no text. -/
  | loaded {d : Duration} {j : Instant} {t t' : σ} {answer : Except ε α} (hd : d ≤ query.limit)
      (hmissed : query.Missed i s) (hload : query.load.run (i.after d) t = .answered j t' answer)
      (hunkept : ∀ value, answer = .ok value → query.format.encode? value = none) :
      Path i s j ⟨t', [query.reading i s, ⟨.load, i.after d, t⟩]⟩ answer
  | kept {d d' : Duration} {j : Instant} {t t' t'' : σ} {value : α} {text : String}
      {answer : Except ε α} (hd : d ≤ query.limit) (hmissed : query.Missed i s)
      (hload : query.load.run (i.after d) t = .answered j t' (.ok value))
      (htext : query.format.encode? value = some text) (hd' : d' ≤ query.limit)
      (hanswer : answer =
        match query.put text j t' with
        | .ok () => .ok value
        | .error e => if query.failsOpen then .ok value else .error (query.ofCacheError e)) :
      Path i s (j.after d')
        ⟨t'', [query.reading i s, ⟨.load, i.after d, t⟩,
          ⟨.set query.key text query.lifetime, j, t'⟩]⟩ answer

/-- How a lookup ends; it does not if the loader does not, or if a call stops the program. -/
inductive Outcome (i : Instant) (s : σ) : Ending (Watched σ) (Except ε α) → Prop where
  | answered {i' : Instant} {w : Watched σ} {answer : Except ε α} (h : query.Path i s i' w answer) :
      Outcome i s (.answered i' w answer)
  | stoppedReading (h : (query.cache.store.get query.key).run i s = .stopped) :
      Outcome i s .stopped
  | neverLoading {j : Instant} {t : σ} (h : query.load.run j t = .never) : Outcome i s .never
  | stoppedLoading {j : Instant} {t : σ} (h : query.load.run j t = .stopped) : Outcome i s .stopped
  | stoppedKeeping {j : Instant} {t : σ} {text : String}
      (h : (query.cache.store.set query.key text query.lifetime).run j t = .stopped) :
      Outcome i s .stopped

variable {query}

/-- What the store comes to, as the cache takes it. -/
def looked (query : Lookup σ α ε) (i : Instant) (s : σ) : Except CacheError (Option α) :=
  match query.got i s with
  | .ok (some text) => .ok (query.format.decode? text)
  | .ok none => .ok none
  | .error e => (query.cache.degrade e).map fun _ => none

/-- The lookup asks the store first. -/
theorem run_reading (query : Lookup σ α ε) (i : Instant) (s : σ) :
    ((query.cache.store.get query.key).run i s = .stopped ∧
        (query.cache.watched.lookup query.format.decode? query.key).run i ⟨s, []⟩ = .stopped) ∨
      ∃ d ≤ query.limit, ∃ t,
        (query.cache.watched.lookup query.format.decode? query.key).run i ⟨s, []⟩ =
          .answered (i.after d) ⟨t, [query.reading i s]⟩ (query.looked i s) := by
  rcases query.cache.run_bounded_watch (.get query.key) (query.cache.store.get query.key) _ i
    ⟨s, []⟩ with hstopped | ⟨d, hd, t, hrun⟩
  · exact .inl hstopped
  · refine .inr ⟨d, hd, t, hrun.trans ?_⟩
    change (match query.got i s with | .ok (some text) => _ | .ok none => _ | .error e => _ :
      Work (Watched σ) _).run _ _ = _
    unfold looked
    cases query.got i s with
    | ok found => cases found <;> rfl
    | error e => rfl

/-- What the store comes to when it is given a text, as the cache takes it. -/
def kept (query : Lookup σ α ε) (text : String) (i : Instant) (s : σ) : Except CacheError Unit :=
  match query.put text i s with
  | .ok () => .ok ()
  | .error e => query.cache.degrade e

theorem run_keeping (query : Lookup σ α ε) (text : String) (i : Instant) (w : Watched σ) :
    ((query.cache.store.set query.key text query.lifetime).run i w.state = .stopped ∧
        (query.cache.watched.keep query.key text query.lifetime).run i w = .stopped) ∨
      ∃ d ≤ query.limit, ∃ t,
        (query.cache.watched.keep query.key text query.lifetime).run i w =
          .answered (i.after d)
            ⟨t, w.calls ++ [⟨.set query.key text query.lifetime, i, w.state⟩]⟩
            (query.kept text i w.state) := by
  rcases query.cache.run_bounded_watch (.set query.key text query.lifetime)
    (query.cache.store.set query.key text query.lifetime) _ i w with
    hstopped | ⟨d, hd, t, hrun⟩
  · exact .inl hstopped
  · refine .inr ⟨d, hd, t, hrun.trans ?_⟩
    change (match query.put text i w.state with | .ok () => _ | .error e => _ :
      Work (Watched σ) _).run _ _ = _
    unfold kept
    cases query.put text i w.state <;> rfl

/-- What a lookup takes from the store, told by what the store comes to. -/
theorem looked_spec (query : Lookup σ α ε) (i : Instant) (s : σ) :
    match query.looked i s with
    | .error e => query.got i s = .error e ∧ query.failsOpen = false
    | .ok (some value) => query.served? i s = some value
    | .ok none => query.Missed i s := by
  unfold looked
  cases hgot : query.got i s with
  | ok found =>
      cases found with
      | none => exact ⟨by simp [served?, hgot], by simp [hgot]⟩
      | some text =>
          dsimp only
          cases hdecode : query.format.decode? text with
          | none => exact ⟨by simp [served?, hgot, hdecode], by simp [hgot]⟩
          | some value => simp [served?, hgot, hdecode]
  | error e =>
      cases hopen : query.failsOpen with
      | true =>
          dsimp only
          rw [query.cache.degrade_of_open e hopen]
          exact ⟨by simp [served?, hgot], fun _ _ => hopen⟩
      | false =>
          dsimp only
          rw [query.cache.degrade_of_closed e hopen]
          exact ⟨rfl, rfl⟩

/-- What a lookup does once the store has no value for it. -/
def loading (query : Lookup σ α ε) : Work (Watched σ) (Except ε α) :=
  (watch .load query.load).bind fun
    | .error e => .done (.error e)
    | .ok value =>
      match query.format.encode? value with
      | none => .done (.ok value)
      | some text =>
        (query.cache.watched.keep query.key text query.lifetime).bind fun
          | .error e => .done (.error (query.ofCacheError e))
          | .ok () => .done (.ok value)

/-- The loader is asked, and what it comes to is put into the store if it can be. -/
theorem outcome_of_missed {i : Instant} {s t : σ} {d : Duration} (hd : d ≤ query.limit)
    (hmissed : query.Missed i s) :
    query.Outcome i s (query.loading.run (i.after d) ⟨t, [query.reading i s]⟩) := by
  unfold loading
  rw [Work.run_bind_eq, run_watch]
  cases hload : query.load.run (i.after d) t with
  | never => exact .neverLoading hload
  | stopped => exact .stoppedLoading hload
  | answered j t' loaded =>
      simp only [Ending.bind_answered, List.singleton_append]
      cases loaded with
      | error e => exact .answered (.loaded hd hmissed hload (by simp))
      | ok value =>
          dsimp only
          cases htext : query.format.encode? value with
          | none =>
              refine .answered (.loaded hd hmissed hload ?_)
              rintro _ ⟨⟩
              exact htext
          | some text =>
              dsimp only
              rw [Work.run_bind_eq]
              rcases run_keeping query text j
                ⟨t', [query.reading i s, ⟨.load, i.after d, t⟩]⟩ with
                ⟨hstopped, hrun⟩ | ⟨d', hd', t'', hrun⟩
              · rw [hrun]
                exact .stoppedKeeping hstopped
              · rw [hrun, Ending.bind_answered]
                unfold kept
                cases hput : query.put text j t' with
                | ok _ =>
                    exact .answered (.kept hd hmissed hload htext hd' (by rw [hput]))
                | error e =>
                    cases hopen : query.failsOpen with
                    | true =>
                        dsimp only
                        rw [query.cache.degrade_of_open e hopen]
                        exact .answered (.kept hd hmissed hload htext hd' (by simp [hput, hopen]))
                    | false =>
                        dsimp only
                        rw [query.cache.degrade_of_closed e hopen]
                        exact .answered (.kept hd hmissed hload htext hd' (by simp [hput, hopen]))

/-- **A lookup takes one of its ways**, whatever the store and the loader do. -/
theorem run_watched (query : Lookup σ α ε) (i : Instant) (s : σ) :
    query.Outcome i s (query.watched.work.run i ⟨s, []⟩) := by
  unfold work EntityCache.getOrLoadAs
  rw [Work.run_bind_eq]
  rcases run_reading query i s with ⟨hstopped, hrun⟩ | ⟨d, hd, t, hrun⟩
  · refine (congrArg (query.Outcome i s) (congrArg (Ending.bind · _) hrun)).mpr ?_
    exact .stoppedReading hstopped
  · refine (congrArg (query.Outcome i s) (congrArg (Ending.bind · _) hrun)).mpr ?_
    rw [Ending.bind_answered]
    have hlooked := query.looked_spec i s
    generalize query.looked i s = looked at hlooked ⊢
    cases looked with
    | error e => exact .answered (.refused hd hlooked.1 hlooked.2)
    | ok found =>
        cases found with
        | some value => exact .answered (.served hd hlooked)
        | none => exact outcome_of_missed hd hlooked

/-! ### what it has done there -/

section Paths

variable {i j i' : Instant} {s t t' t'' : σ} {d d' : Duration} {value : α} {w : Watched σ}
  {answer : Except ε α}

theorem unserved_of_got_error {e : CacheError} (h : query.got i s = .error e) :
    query.served? i s = none := by
  unfold served?
  rw [h]

theorem degrades_of_served (hd : d ≤ query.limit) (hserved : query.served? i s = some value) :
    query.Degrades i s (i.after d) ⟨t, [query.reading i s]⟩ (.ok value) where
  served value' hserved' := by
    obtain rfl := Option.some.inj (hserved.symm.trans hserved')
    exact ⟨rfl, rfl⟩
  missed hmissed := by simp [hmissed.unserved] at hserved
  opened _ := .inl ⟨value, hserved, rfl, rfl⟩
  refused _ e hgot := by simp [unserved_of_got_error hgot] at hserved
  unkept := by simp [reading]
  unloaded := by simp [reading]
  loaded := by simp [reading]
  waits := ⟨d, hd, .zero, Nat.zero_le _, fun _ => rfl, by simp [reading]⟩

theorem degrades_of_refused {e : CacheError} (hd : d ≤ query.limit)
    (hgot : query.got i s = .error e) (hclosed : query.failsOpen = false) :
    query.Degrades i s (i.after d) ⟨t, [query.reading i s]⟩ (.error (query.ofCacheError e)) where
  served value hserved := by simp [unserved_of_got_error hgot] at hserved
  missed hmissed := by simp [hmissed.unrefused e hgot] at hclosed
  opened hopen := by simp [hclosed] at hopen
  refused _ e' hgot' := by
    obtain rfl := Except.error.inj (hgot.symm.trans hgot')
    exact ⟨rfl, rfl⟩
  unkept := by simp [reading]
  unloaded := by simp [reading]
  loaded := by simp [reading]
  waits := ⟨d, hd, .zero, Nat.zero_le _, fun _ => rfl, by simp [reading]⟩

/-- A text is given to the store in the last call only. -/
theorem only_set {text key text' : String} {lifetime : Duration} {call : Made σ}
    (hcall : call ∈ [query.reading i s, ⟨.load, i', t⟩,
      ⟨.set query.key text query.lifetime, j, t'⟩])
    (hevent : call.event = .set key text' lifetime) :
    call = ⟨.set query.key text query.lifetime, j, t'⟩ ∧ key = query.key ∧ text' = text ∧
      lifetime = query.lifetime := by
  simp only [List.mem_cons, List.not_mem_nil, or_false] at hcall
  obtain rfl | rfl | rfl := hcall
  · contradiction
  · contradiction
  · obtain ⟨rfl, rfl, rfl⟩ := Event.set.inj hevent
    exact ⟨rfl, rfl, rfl, rfl⟩

/-- What the loader came to is all that is known of it. -/
theorem eq_of_loads {call : Made σ} (hcall : call = ⟨.load, i, t⟩)
    (hload : query.load.run i t = .answered j t' answer) {j' : Instant} {u : σ}
    {loaded : Except ε α} (hrun : query.load.run call.moment call.state = .answered j' u loaded) :
    j' = j ∧ u = t' ∧ loaded = answer := by
  subst hcall
  obtain ⟨rfl, rfl, rfl⟩ := Ending.answered.inj (hload.symm.trans hrun)
  exact ⟨rfl, rfl, rfl⟩

theorem degrades_of_loaded (hd : d ≤ query.limit) (hmissed : query.Missed i s)
    (hload : query.load.run (i.after d) t = .answered j t' answer)
    (hunkept : ∀ value, answer = .ok value → query.format.encode? value = none) :
    query.Degrades i s j ⟨t', [query.reading i s, ⟨.load, i.after d, t⟩]⟩ answer := by
  have honly : ∀ call ∈ [query.reading i s, ⟨.load, i.after d, t⟩], call.event = .load →
      call = ⟨.load, i.after d, t⟩ := by
    simp [reading]
  exact
    { served := fun value hserved => by simp [hmissed.unserved] at hserved
      missed := fun _ => rfl
      opened := fun _ => .inr ⟨_, .tail _ (.head _), rfl, j, t', hload⟩
      refused := fun hclosed e hgot => by simp [hmissed.unrefused e hgot] at hclosed
      unkept := by simp [reading]
      unloaded := by
        intro call hcall hevent j' u e hrun
        obtain ⟨-, -, rfl⟩ := eq_of_loads (honly call hcall hevent) hload hrun
        exact ⟨rfl, rfl⟩
      loaded := by
        intro call hcall hevent j' u value hrun
        obtain ⟨-, -, rfl⟩ := eq_of_loads (honly call hcall hevent) hload hrun
        exact ⟨by simp [hunkept value rfl], .inl rfl⟩
      waits := by
        refine ⟨d, hd, .zero, Nat.zero_le _, by simp [reading, Made.isLoad], ?_⟩
        intro call hcall hevent j' u loaded hrun
        obtain ⟨rfl, -, -⟩ := eq_of_loads (honly call hcall hevent) hload hrun
        exact ⟨congrArg Made.moment (honly call hcall hevent), rfl⟩ }

theorem degrades_of_kept {text : String} (hd : d ≤ query.limit) (hmissed : query.Missed i s)
    (hload : query.load.run (i.after d) t = .answered j t' (.ok value))
    (htext : query.format.encode? value = some text) (hd' : d' ≤ query.limit)
    (hanswer : answer =
      match query.put text j t' with
      | .ok () => .ok value
      | .error e => if query.failsOpen then .ok value else .error (query.ofCacheError e)) :
    query.Degrades i s (j.after d')
      ⟨t'', [query.reading i s, ⟨.load, i.after d, t⟩,
        ⟨.set query.key text query.lifetime, j, t'⟩]⟩ answer := by
  have honly : ∀ call ∈ [query.reading i s, ⟨.load, i.after d, t⟩,
      ⟨.set query.key text query.lifetime, j, t'⟩], call.event = .load →
      call = ⟨.load, i.after d, t⟩ := by
    simp [reading]
  have hopened : query.failsOpen = true → answer = .ok value := by
    intro hopen
    rw [hanswer, hopen]
    cases query.put text j t' <;> rfl
  have hclosed : query.failsOpen = false → ∀ e, query.put text j t' = .error e →
      answer = .error (query.ofCacheError e) := by
    intro hclosed e hput
    simp [hanswer, hclosed, hput]
  exact
    { served := fun value hserved => by simp [hmissed.unserved] at hserved
      missed := fun _ => rfl
      opened := fun hopen => .inr ⟨_, .tail _ (.head _), rfl, j, t', hopened hopen ▸ hload⟩
      refused := fun hclosed e hgot => by simp [hmissed.unrefused e hgot] at hclosed
      unkept := by
        intro hfailsClosed call hcall key text' lifetime hevent e hput
        obtain ⟨rfl, -, rfl, -⟩ := only_set hcall hevent
        exact hclosed hfailsClosed e hput
      unloaded := by
        intro call hcall hevent j' u e hrun
        obtain ⟨-, -, hloaded⟩ := eq_of_loads (honly call hcall hevent) hload hrun
        contradiction
      loaded := by
        intro call hcall hevent j' u value' hrun
        obtain ⟨rfl, rfl, hloaded⟩ := eq_of_loads (honly call hcall hevent) hload hrun
        obtain rfl := Except.ok.inj hloaded
        refine ⟨fun text' htext' => ?_, ?_⟩
        · obtain rfl := Option.some.inj (htext.symm.trans htext')
          exact .tail _ (.tail _ (.head _))
        · cases hput : query.put text j' u with
          | ok _ => exact .inl (by simp [hanswer, hput])
          | error e =>
              cases hopen : query.failsOpen with
              | true => exact .inl (hopened hopen)
              | false => exact .inr ⟨rfl, text, e, htext, hput, hclosed hopen e hput⟩
      waits := by
        refine ⟨d, hd, d', hd', by simp [reading, Made.isLoad], ?_⟩
        intro call hcall hevent j' u loaded hrun
        obtain ⟨rfl, -, -⟩ := eq_of_loads (honly call hcall hevent) hload hrun
        exact ⟨congrArg Made.moment (honly call hcall hevent), rfl⟩ }

theorem Path.degrades (h : query.Path i s i' w answer) : query.Degrades i s i' w answer := by
  cases h with
  | served hd hserved => exact degrades_of_served hd hserved
  | refused hd hgot hclosed => exact degrades_of_refused hd hgot hclosed
  | loaded hd hmissed hload hunkept => exact degrades_of_loaded hd hmissed hload hunkept
  | kept hd hmissed hload htext hd' hanswer =>
      exact degrades_of_kept hd hmissed hload htext hd' hanswer

end Paths

/-! ### at every moment -/

section Orderly

variable {i j : Instant} {s t t' : σ} {d : Duration} {value : α} {text : String}

theorem orderly_nil : query.Orderly [] where
  loads := Nat.zero_le _
  sets := Nat.zero_le _
  loadedBefore := by simp

theorem orderly_reading : query.Orderly [query.reading i s] where
  loads := Nat.zero_le _
  sets := Nat.zero_le _
  loadedBefore := by simp [reading]

theorem orderly_loading : query.Orderly [query.reading i s, ⟨.load, j, t⟩] where
  loads := Nat.le_refl _
  sets := Nat.zero_le _
  loadedBefore := by simp [reading]

theorem orderly_keeping {i' : Instant} (hload : query.load.run j t = .answered i' t' (.ok value))
    (htext : query.format.encode? value = some text) :
    query.Orderly [query.reading i s, ⟨.load, j, t⟩,
      ⟨.set query.key text query.lifetime, i', t'⟩] where
  loads := Nat.le_refl _
  sets := Nat.le_refl _
  loadedBefore := by
    intro call hcall key text' lifetime hevent
    obtain ⟨rfl, rfl, rfl, rfl⟩ := only_set hcall hevent
    exact ⟨rfl, rfl, _, .tail _ (.head _), rfl, value, hload, htext⟩

theorem throughout_loading :
    query.loading.Throughout (fun w => query.Orderly w.calls) j ⟨t, [query.reading i s]⟩ := by
  have hstate : ∀ (t : σ) (w : Watched σ), query.Orderly w.calls →
      query.Orderly (w.setState t).calls := fun _ _ => id
  unfold loading
  refine Work.throughout_bind
    ⟨orderly_reading, Work.throughout_onPart hstate _ orderly_loading⟩ ?_
  rw [run_watch]
  cases hload : query.load.run j t with
  | never => trivial
  | stopped => trivial
  | answered j t' loaded =>
      cases loaded with
      | error e => exact orderly_loading (t := t)
      | ok value =>
          dsimp only [Ending.bind, Ending.Meets]
          cases htext : query.format.encode? value with
          | none => exact orderly_loading (t := t)
          | some text =>
              refine Work.throughout_bind_done (Work.throughout_bind_done
                (query.cache.throughout_bounded_watch hstate _ _ (orderly_loading (t := t))
                  (orderly_keeping hload htext)) ?_) ?_
              · rintro (e | _) <;> exact ⟨_, rfl⟩
              · rintro (e | _) <;> exact ⟨_, rfl⟩

/-- **A lookup is orderly all the time**, also if it never ends. -/
theorem throughout_watched (query : Lookup σ α ε) (i : Instant) (s : σ) :
    query.watched.work.Throughout (fun w => query.Orderly w.calls) i ⟨s, []⟩ := by
  refine Work.throughout_bind (Work.throughout_bind_done
    (query.cache.throughout_bounded_watch (fun _ _ => id) _ _ orderly_nil orderly_reading) ?_) ?_
  · rintro (e | _ | text) <;> exact ⟨_, rfl⟩
  rcases run_reading query i s with ⟨-, hrun⟩ | ⟨d, hd, t, hrun⟩
  · exact hrun ▸ trivial
  refine hrun ▸ ?_
  cases query.looked i s with
  | error e => exact orderly_reading
  | ok found =>
      cases found with
      | some value => exact orderly_reading
      | none => exact throughout_loading

end Orderly

/-- A lookup ends if the loader does, and no call of the store stops the program. -/
theorem answered_of_outcome {i : Instant} {s : σ} {ending : Ending (Watched σ) (Except ε α)}
    (h : query.Outcome i s ending)
    (hget : ∀ j t, (query.cache.store.get query.key).run j t ≠ .stopped)
    (hset : ∀ text j t, (query.cache.store.set query.key text query.lifetime).run j t ≠ .stopped)
    (hload : ∀ j t, ∃ j' t' loaded, query.load.run j t = .answered j' t' loaded) :
    ∃ i' w answer, ending = .answered i' w answer := by
  cases h with
  | answered h => exact ⟨_, _, _, rfl⟩
  | stoppedReading h => exact absurd h (hget _ _)
  | neverLoading h =>
      obtain ⟨j', t', loaded, hrun⟩ := hload _ _
      exact absurd (h.symm.trans hrun) (by simp)
  | stoppedLoading h =>
      obtain ⟨j', t', loaded, hrun⟩ := hload _ _
      exact absurd (h.symm.trans hrun) (by simp)
  | stoppedKeeping h => exact absurd h (hset _ _ _)

/-- **A cache degrades as it is told to**, whatever its store and the loader do.  A lookup that is
watched ends like the lookup itself; its calls are in order at every moment, also if it never ends;
what it answers and how long it waits is told by what the store and the loader come to; and it ends
unless the loader does not, or a call of the store stops the program. -/
theorem lookup_degrades (query : Lookup σ α ε) (i : Instant) (s : σ) :
    Ending.Alike SameState Eq (query.watched.work.run i ⟨s, []⟩) (query.work.run i s) ∧
      query.watched.work.Throughout (fun w => query.Orderly w.calls) i ⟨s, []⟩ ∧
      ((query.watched.work.run i ⟨s, []⟩).Meets fun i' w answer =>
        query.Degrades i s i' w answer) ∧
      ((∀ j t, (query.cache.store.get query.key).run j t ≠ .stopped) →
        (∀ text j t,
          (query.cache.store.set query.key text query.lifetime).run j t ≠ .stopped) →
        (∀ j t, ∃ j' t' loaded, query.load.run j t = .answered j' t' loaded) →
        ∃ i' w answer, query.watched.work.run i ⟨s, []⟩ = .answered i' w answer) := by
  have houtcome := query.run_watched i s
  refine ⟨?_, query.throughout_watched i s, ?_, answered_of_outcome houtcome⟩
  · exact (query.cache.alike_getOrLoadAs_watched _ _ _ _ _ i ⟨s, []⟩ s rfl).run
  · generalize query.watched.work.run i ⟨s, []⟩ = ending at houtcome
    cases houtcome with
    | answered hpath => exact hpath.degrades
    | _ => trivial

/-- A lookup in a store that answers no reads and refuses writes. -/
def unlucky (failOpen : Bool) : Lookup Unit Nat CacheError where
  cache :=
    { store :=
        { get := fun _ => .never
          set := fun _ _ _ => .wait (.ofMillis 1) (.done (.error (.unavailable "full")))
          ping := .never
          close := .never
          name := "unlucky" }
      config := { timeout := .ofMillis 5, failOpen } }
  ofCacheError := id
  format := ⟨fun n => some (toString n), String.toNat?⟩
  key := "k"
  lifetime := .ofSecs 60
  load := .wait (.ofMillis 10) (.done (.ok 7))

/-- Failing open takes the value from the loader, after the limit, the load and the refused write;
failing closed is over with the limit. -/
theorem unlucky_degrades :
    (∃ i' w answer, (unlucky true).watched.work.run ⟨0⟩ ⟨(), []⟩ = .answered i' w answer) ∧
      (unlucky true).work.run ⟨0⟩ () = .answered ⟨16000000⟩ () (.ok 7) ∧
      (∃ i' w answer, (unlucky false).watched.work.run ⟨0⟩ ⟨(), []⟩ = .answered i' w answer) ∧
      (unlucky false).work.run ⟨0⟩ () =
        .answered ⟨5000000⟩ () (.error (.timeout (.ofMillis 5))) := by
  have hends : ∀ failOpen, ∃ i' w answer,
      (unlucky failOpen).watched.work.run ⟨0⟩ ⟨(), []⟩ = .answered i' w answer := fun failOpen =>
    (lookup_degrades (unlucky failOpen) ⟨0⟩ ()).2.2.2 (fun _ _ => nofun) (fun _ _ _ => nofun)
      fun _ _ => ⟨_, _, _, rfl⟩
  exact ⟨hends true, rfl, hends false, rfl⟩

end Lookup

end Degrading

end ChatService.Cache
