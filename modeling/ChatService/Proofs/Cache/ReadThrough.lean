import ChatService.Proofs.Cache.Memory

/-!
# Reading through the cache

Lookups through an entity cache over the store in memory, direct writes to the store, and time that
passes, in any order.  A run remembers its writes: those of loaders that were called and succeeded,
and the direct ones.  The entries show the latest write to each key until its lifetime is over and
nothing else (`Mirrors`), whatever has been removed or overwritten meanwhile, so every lookup is
told by the writes alone (`Run.readsThrough`).
-/

namespace ChatService.Cache.ReadThrough

open ChatService.Cache.Memory (live? removeExpired)

variable {α ε : Type} {config : Config}

/-! ## lookups -/

/-- The entries of the store, and how often a loader was called. -/
structure Watched where
  entries : Memory.State := []
  loads : Nat := 0

def Watched.setEntries (entries : Memory.State) (w : Watched) : Watched := { w with entries }

theorem isPart_entries : Work.IsPart Watched.entries Watched.setEntries :=
  ⟨fun _ _ => rfl, fun _ => rfl, fun _ _ _ => rfl⟩

/-- The entity cache over the store in memory. -/
def cache (config : Config) : EntityCache Watched :=
  Memory.entityCache Watched.entries Watched.setEntries config

/-- A lookup, and what its loader comes to after how long. -/
structure Lookup (α ε : Type) where
  codec : Codec α
  key : String
  lifetime : Duration
  delay : Duration
  loaded : Except ε α
  ofCacheError : CacheError → ε

/-- The loader of a lookup; calling it is counted. -/
def Lookup.load (query : Lookup α ε) : Work Watched (Except ε α) :=
  .act (fun _ w => { w with loads := w.loads + 1 }) fun _ _ =>
    .wait query.delay (.done query.loaded)

def Lookup.work (config : Config) (query : Lookup α ε) : Work Watched (Except ε α) :=
  (cache config).getOrLoad query.ofCacheError query.codec query.key query.lifetime query.load

/-! ## runs -/

/-- A text that was written under a key at a moment, to be read for a lifetime. -/
structure Write where
  key : String
  text : String
  moment : Instant
  lifetime : Duration

/-- The moment from which on a write is not read any more. -/
def Write.expires (write : Write) : Instant := write.moment.after write.lifetime

/-- The latest write to a key; writes are listed latest first. -/
def latest? (key : String) (writes : List Write) : Option Write :=
  writes.find? fun write => write.key = key

/-- The writes after a lookup that led from one state to another: one more if its loader was called
    and succeeded. -/
def Lookup.writes (query : Lookup α ε) (w : Watched) (i' : Instant) (w' : Watched)
    (writes : List Write) : List Write :=
  match query.loaded with
  | .ok value =>
    if w.loads < w'.loads then ⟨query.key, query.codec.encode value, i', query.lifetime⟩ :: writes
    else writes
  | .error _ => writes

/-- Runs from an empty store on: their writes, the moment they have reached, and what is kept. -/
inductive Run (config : Config) : List Write → Instant → Watched → Prop where
  | start (i : Instant) : Run config [] i {}
  | pass {writes : List Write} {i : Instant} {w : Watched} (h : Run config writes i w)
      (length : Duration) : Run config writes (i.after length) w
  | set {writes : List Write} {i i' : Instant} {w w' : Watched} (h : Run config writes i w)
      {key text : String} {lifetime : Duration}
      (hset : ((cache config).store.set key text lifetime).run i w = .answered i' w' (.ok ())) :
      Run config (⟨key, text, i', lifetime⟩ :: writes) i' w'
  | lookup {α ε : Type} {writes : List Write} {i i' : Instant} {w w' : Watched}
      (h : Run config writes i w) {query : Lookup α ε} {answer : Except ε α}
      (hlookup : (query.work config).run i w = .answered i' w' answer) :
      Run config (query.writes w i' w' writes) i' w'

/-! ## the law -/

/-- No write serves a lookup at a moment: there was none to its key, the lifetime of the latest one
    is over, or its text cannot be decoded. -/
def Lookup.Misses (query : Lookup α ε) (writes : List Write) (i : Instant) : Prop :=
  latest? query.key writes = none ∨
    ∃ write, latest? query.key writes = some write ∧
      (write.expires ≤ i ∨ query.codec.decode? write.text = none)

/-- What the writes of a run say of a lookup at a moment, and of the state and the answer it led
    to. -/
structure Lookup.ReadsThrough (query : Lookup α ε) (writes : List Write) (i : Instant)
    (w : Watched) (i' : Instant) (w' : Watched) (answer : Except ε α) : Prop where
  /-- The loader is called exactly when no write serves the lookup, -/
  called : w'.loads = w.loads + 1 ↔ query.Misses writes i
  /-- and then the answer is what the loader comes to. -/
  missed : query.Misses writes i → i' = i.after query.delay ∧ answer = query.loaded
  /-- Otherwise the answer is the value of the latest write, and nothing changes. -/
  hit : ¬ query.Misses writes i → i' = i ∧ w' = w ∧
    ∃ write value, latest? query.key writes = some write ∧
      query.codec.decode? write.text = some value ∧ answer = .ok value ∧
      ∀ written, query.codec.decode? (query.codec.encode written) = some written →
        write.text = query.codec.encode written → value = written
  /-- A failure to load changes no entry that can be read later. -/
  failed : ∀ e, query.loaded = .error e → ∀ key j, i ≤ j →
    live? j key w'.entries = live? j key w.entries
  /-- A loaded value replaces what there was under its key, decodable or not, for its lifetime. -/
  stored : query.Misses writes i → ∀ value, query.loaded = .ok value → ∀ key j, i ≤ j →
    live? j key w'.entries =
      if key = query.key then
        if j < i'.after query.lifetime then some (query.codec.encode value) else none
      else live? j key w.entries
  /-- A write without lifetime serves no query. -/
  momentary : ∀ write, latest? query.key writes = some write → write.lifetime = .zero →
    query.Misses writes i

section Steps

variable {writes : List Write} {i i' j : Instant} {w w' : Watched} {query : Lookup α ε}
  {answer : Except ε α}

/-! ## one lookup -/

theorem after?_eq_some {length : Duration} {expires : Instant} :
    i.after? length = some expires ↔ i.after length < Instant.limit ∧ i.after length = expires := by
  simp [Instant.after?]

theorem le_after (i : Instant) (length : Duration) : i ≤ i.after length := Nat.le_add_right ..

/-- The value that the entries have for a lookup at a moment. -/
def Lookup.found? (query : Lookup α ε) (i : Instant) (w : Watched) : Option α :=
  (live? i query.key w.entries).bind query.codec.decode?

/-- Where a lookup may lead. -/
inductive Lookup.LeadsTo (query : Lookup α ε) (i : Instant) (w : Watched) :
    Instant → Watched → Except ε α → Prop where
  | hit {value : α} (hfound : query.found? i w = some value) : LeadsTo query i w i w (.ok value)
  | failed {e : ε} (hfound : query.found? i w = none) (hloaded : query.loaded = .error e) :
      LeadsTo query i w (i.after query.delay)
        ⟨removeExpired i query.key w.entries, w.loads + 1⟩ (.error e)
  | stored {value : α} (hfound : query.found? i w = none) (hloaded : query.loaded = .ok value) :
      LeadsTo query i w (i.after query.delay)
        ⟨Keyed.put query.key
          ⟨query.codec.encode value, (i.after query.delay).after query.lifetime⟩
          (removeExpired i query.key w.entries), w.loads + 1⟩ (.ok value)

theorem run_load : query.load.run i w =
    .answered (i.after query.delay) { w with loads := w.loads + 1 } query.loaded := rfl

/-- What a lookup comes to, told by the entries. -/
theorem run_work : (query.work config).run i w =
    match query.found? i w with
    | some value => .answered i w (.ok value)
    | none =>
      match query.loaded with
      | .error e =>
        .answered (i.after query.delay)
          ⟨removeExpired i query.key w.entries, w.loads + 1⟩ (.error e)
      | .ok value =>
        match (i.after query.delay).after? query.lifetime with
        | none => .stopped
        | some expires =>
          .answered (i.after query.delay)
            ⟨Keyed.put query.key ⟨query.codec.encode value, expires⟩
              (removeExpired i query.key w.entries), w.loads + 1⟩ (.ok value) := by
  rw [Lookup.work, cache, Memory.run_getOrLoad isPart_entries, run_load, ← Lookup.found?]
  cases hfound : query.found? i w with
  | some value =>
      obtain ⟨text, hlive, -⟩ := Option.bind_eq_some_iff.mp hfound
      simp only [Memory.removeExpired_of_live hlive]
      rfl
  | none => cases query.loaded <;> rfl

theorem leadsTo_of_run (h : (query.work config).run i w = .answered i' w' answer) :
    query.LeadsTo i w i' w' answer := by
  rw [run_work] at h
  cases hfound : query.found? i w with
  | some value =>
      simp only [hfound, Work.Ending.answered.injEq] at h
      obtain ⟨rfl, rfl, rfl⟩ := h
      exact .hit hfound
  | none =>
      cases hloaded : query.loaded with
      | error e =>
          simp only [hfound, hloaded, Work.Ending.answered.injEq] at h
          obtain ⟨rfl, rfl, rfl⟩ := h
          exact .failed hfound hloaded
      | ok value =>
          simp only [hfound, hloaded] at h
          cases hexpires : (i.after query.delay).after? query.lifetime with
          | none => simp [hexpires] at h
          | some expires =>
              simp only [hexpires, Work.Ending.answered.injEq] at h
              obtain ⟨rfl, rfl, rfl⟩ := h
              obtain ⟨-, rfl⟩ := after?_eq_some.mp hexpires
              exact .stored hfound hloaded

/-- A lookup is answered if the clock can show when what it loads expires. -/
theorem exists_run (h : ((i.after query.delay).after? query.lifetime).isSome) :
    ∃ i' w' answer, (query.work config).run i w = .answered i' w' answer := by
  obtain ⟨expires, hexpires⟩ := Option.isSome_iff_exists.mp h
  rw [run_work, hexpires]
  cases query.found? i w with
  | some value => exact ⟨_, _, _, rfl⟩
  | none => cases query.loaded <;> exact ⟨_, _, _, rfl⟩

/-! ## the entries as a mirror of the writes -/

/-- The text that the writes show under a key at a moment. -/
def shown? (writes : List Write) (key : String) (j : Instant) : Option String :=
  (latest? key writes).bind fun write => if j < write.expires then some write.text else none

/-- From a moment on, the entries show the latest writes, none of which is from a later moment. -/
structure Mirrors (writes : List Write) (i : Instant) (entries : Memory.State) : Prop where
  past : ∀ write ∈ writes, write.moment ≤ i
  live : ∀ key j, i ≤ j → live? j key entries = shown? writes key j

theorem latest?_cons (write : Write) (writes : List Write) (key : String) :
    latest? key (write :: writes) = if write.key = key then some write else latest? key writes := by
  by_cases hkey : write.key = key <;> simp [latest?, hkey]

theorem shown?_cons (write : Write) (writes : List Write) (key : String) (j : Instant) :
    shown? (write :: writes) key j =
      if write.key = key then (if j < write.expires then some write.text else none)
      else shown? writes key j := by
  by_cases hkey : write.key = key <;> simp [shown?, latest?_cons, hkey]

theorem Mirrors.later {entries : Memory.State} (h : Mirrors writes i entries) (hle : i ≤ j) :
    Mirrors writes j entries where
  past write hwrite := Nat.le_trans (h.past write hwrite) hle
  live key k hk := h.live key k (Nat.le_trans hle hk)

theorem Mirrors.removeExpired {entries : Memory.State} (h : Mirrors writes i entries)
    (key : String) : Mirrors writes i (removeExpired i key entries) where
  past := h.past
  live other j hj := by rw [Memory.live?_removeExpired hj, h.live other j hj]

theorem Mirrors.put {entries : Memory.State} (h : Mirrors writes i entries)
    (key text : String) (lifetime : Duration) :
    Mirrors (⟨key, text, i, lifetime⟩ :: writes) i
      (Keyed.put key ⟨text, i.after lifetime⟩ entries) where
  past write hwrite := by
    rcases List.mem_cons.mp hwrite with rfl | hold
    · exact Nat.le_refl _
    · exact h.past write hold
  live other j hj := by
    rw [Memory.live?_put, shown?_cons, h.live other j hj]
    rfl

/-- A lookup misses exactly when the entries have nothing for it. -/
theorem Mirrors.misses_iff (h : Mirrors writes i w.entries) :
    query.Misses writes i ↔ query.found? i w = none := by
  rw [Lookup.found?, h.live query.key i (Nat.le_refl _), shown?, Lookup.Misses]
  cases latest? query.key writes with
  | none => simp
  | some write =>
      by_cases hlt : i < write.expires
      · have hle : ¬ write.expires ≤ i := Nat.not_le.mpr hlt
        simp [hlt, hle]
      · have hle : write.expires ≤ i := Nat.not_lt.mp hlt
        simp [hlt, hle]

/-- What the entries have for a lookup is the value of the latest write. -/
theorem Mirrors.latest_of_found (h : Mirrors writes i w.entries) {value : α}
    (hfound : query.found? i w = some value) :
    ∃ write, latest? query.key writes = some write ∧
      query.codec.decode? write.text = some value := by
  rw [Lookup.found?, h.live query.key i (Nat.le_refl _), shown?] at hfound
  obtain ⟨text, hshown, hdecode⟩ := Option.bind_eq_some_iff.mp hfound
  obtain ⟨write, hlatest, hlive⟩ := Option.bind_eq_some_iff.mp hshown
  split at hlive
  · cases hlive
    exact ⟨write, hlatest, hdecode⟩
  · contradiction

/-- A lookup keeps the entries a mirror of the writes. -/
theorem Mirrors.leadsTo (h : Mirrors writes i w.entries) (hleads : query.LeadsTo i w i' w' answer) :
    Mirrors (query.writes w i' w' writes) i' w'.entries := by
  have hlater := (h.removeExpired query.key).later (le_after i query.delay)
  unfold Lookup.writes
  cases hleads with
  | hit hfound => cases query.loaded <;> simpa using h
  | failed hfound hloaded => simpa [hloaded] using hlater
  | @stored value hfound hloaded =>
      simpa [hloaded] using hlater.put query.key (query.codec.encode value) query.lifetime

/-- A write without lifetime has expired at once. -/
theorem Mirrors.misses_of_momentary (h : Mirrors writes i w.entries) {write : Write}
    (hlatest : latest? query.key writes = some write) (hzero : write.lifetime = .zero) :
    query.Misses writes i := by
  have hmoment : write.moment ≤ i := h.past write (List.mem_of_find?_eq_some hlatest)
  have hexpires : write.expires = write.moment := by
    simp [Write.expires, hzero, Instant.after, Duration.zero]
  exact .inr ⟨write, hlatest, .inl (hexpires ▸ hmoment)⟩

/-- What a lookup leads to is what a mirror of the entries says of it. -/
theorem Mirrors.tells (h : Mirrors writes i w.entries)
    (hleads : query.LeadsTo i w i' w' answer) :
    query.ReadsThrough writes i w i' w' answer := by
  have hmisses : query.Misses writes i ↔ query.found? i w = none := h.misses_iff
  have hmomentary : ∀ write, latest? query.key writes = some write → write.lifetime = .zero →
      query.Misses writes i := fun write => h.misses_of_momentary
  cases hleads with
  | @hit value hfound =>
      have hhit : ¬ query.Misses writes i := by simp [hmisses, hfound]
      obtain ⟨write, hlatest, hdecode⟩ := h.latest_of_found hfound
      have hwritten : ∀ written, query.codec.decode? (query.codec.encode written) = some written →
          write.text = query.codec.encode written → value = written := by
        intro written hround htext
        rw [htext, hround] at hdecode
        exact (Option.some.inj hdecode).symm
      exact {
        called := by simp [hhit]
        missed := fun hmiss => absurd hmiss hhit
        hit := fun _ => ⟨rfl, rfl, write, value, hlatest, hdecode, rfl, hwritten⟩
        failed := fun _ _ _ _ _ => rfl
        stored := fun hmiss => absurd hmiss hhit
        momentary := hmomentary }
  | @failed e hfound hloaded =>
      have hmiss : query.Misses writes i := hmisses.mpr hfound
      exact {
        called := by simp [hmiss]
        missed := fun _ => ⟨rfl, hloaded.symm⟩
        hit := fun hhit => absurd hmiss hhit
        failed := fun _ _ key j hj => Memory.live?_removeExpired hj
        stored := fun _ value hvalue => by simp [hloaded] at hvalue
        momentary := hmomentary }
  | @stored value hfound hloaded =>
      have hmiss : query.Misses writes i := hmisses.mpr hfound
      exact {
        called := by simp [hmiss]
        missed := fun _ => ⟨rfl, hloaded.symm⟩
        hit := fun hhit => absurd hmiss hhit
        failed := fun e he => by simp [hloaded] at he
        stored := fun _ written hwritten key j hj => by
          obtain rfl : value = written := by simpa [hloaded] using hwritten
          rw [Memory.live?_put, Memory.live?_removeExpired hj]
          by_cases hkey : query.key = key
          · simp [hkey]
          · simp [hkey, Ne.symm hkey]
        momentary := hmomentary }

end Steps

variable {writes : List Write} {i : Instant} {w : Watched}

/-- **The entries show the latest writes**, after any run. -/
theorem Run.mirrors (h : Run config writes i w) : Mirrors writes i w.entries := by
  induction h with
  | start i => exact ⟨by simp, fun key j _ => rfl⟩
  | pass h length ih => exact ih.later (le_after _ length)
  | @set writes i i' w w' h key text lifetime hset ih =>
      rw [cache, Memory.entityCache, Memory.run_onPart_set isPart_entries] at hset
      cases hexpires : i.after? lifetime with
      | none => simp [hexpires] at hset
      | some expires =>
          simp only [hexpires, Work.Ending.answered.injEq] at hset
          obtain ⟨rfl, rfl, -⟩ := hset
          obtain ⟨-, rfl⟩ := after?_eq_some.mp hexpires
          exact ih.put key text lifetime
  | lookup h hlookup ih => exact ih.leadsTo (leadsTo_of_run hlookup)

/-- **The read-through law.**  After any run, a lookup whose lifetime can be added to the clock is
answered, and does what the writes of the run say. -/
theorem Run.readsThrough (h : Run config writes i w) (query : Lookup α ε)
    (hlifetime : ((i.after query.delay).after? query.lifetime).isSome) :
    ∃ i' w' answer, (query.work config).run i w = .answered i' w' answer ∧
      query.ReadsThrough writes i w i' w' answer := by
  obtain ⟨i', w', answer, hrun⟩ : ∃ i' w' answer,
      (query.work config).run i w = .answered i' w' answer := exists_run hlifetime
  exact ⟨i', w', answer, hrun, h.mirrors.tells (leadsTo_of_run hrun)⟩

/-! ## an undecodable entry, overwritten and read until it expires -/

/-- Truth values as they stand in JSON. -/
def truths : Codec Bool where
  encode b := if b then "true" else "false"
  decode? text := if text = "true" then some true else if text = "false" then some false else none

/-- A lookup that loads in one nanosecond what it may serve for four. -/
def askTruth : Lookup Bool CacheError := ⟨truths, "k", ⟨4⟩, ⟨1⟩, .ok true, id⟩

/-- A text that is no truth value, and the value loaded over it at 3 ns. -/
def overwritten : List Write := [⟨"k", "true", ⟨3⟩, ⟨4⟩⟩, ⟨"k", "junk", ⟨0⟩, ⟨5⟩⟩]

/-- What is kept from then on. -/
def loadedOnce : Watched := ⟨[("k", ⟨"true", ⟨7⟩⟩)], 1⟩

theorem run_overwritten (length : Duration) :
    Run {} overwritten (Instant.after ⟨3⟩ length) loadedOnce := by
  have hset : Run {} [⟨"k", "junk", ⟨0⟩, ⟨5⟩⟩] ⟨2⟩ ⟨[("k", ⟨"junk", ⟨5⟩⟩)], 0⟩ :=
    .pass (.set (.start ⟨0⟩) rfl) ⟨2⟩
  have hlookup : (askTruth.work {}).run ⟨2⟩ ⟨[("k", ⟨"junk", ⟨5⟩⟩)], 0⟩ =
      .answered ⟨3⟩ loadedOnce (.ok true) := rfl
  exact .pass (.lookup hset hlookup) length

/-- What was loaded is served until its lifetime is over: at 6 ns still, at 7 ns no longer. -/
theorem readsThrough_overwritten :
    (¬ askTruth.Misses overwritten ⟨6⟩ ∧
      ∃ i w answer, (askTruth.work {}).run ⟨6⟩ loadedOnce = .answered i w answer ∧
        askTruth.ReadsThrough overwritten ⟨6⟩ loadedOnce i w answer) ∧
    (askTruth.Misses overwritten ⟨7⟩ ∧
      ∃ i w answer, (askTruth.work {}).run ⟨7⟩ loadedOnce = .answered i w answer ∧
        askTruth.ReadsThrough overwritten ⟨7⟩ loadedOnce i w answer) := by
  have hsix : Run {} overwritten ⟨6⟩ loadedOnce := run_overwritten ⟨3⟩
  have hseven : Run {} overwritten ⟨7⟩ loadedOnce := run_overwritten ⟨4⟩
  have hhit : askTruth.found? ⟨6⟩ loadedOnce = some true := rfl
  have hmiss : askTruth.found? ⟨7⟩ loadedOnce = none := rfl
  refine ⟨⟨?_, hsix.readsThrough askTruth (by decide)⟩,
    ⟨hseven.mirrors.misses_iff.mpr hmiss, hseven.readsThrough askTruth (by decide)⟩⟩
  simp [hsix.mirrors.misses_iff, hhit]

end ChatService.Cache.ReadThrough
