import ChatService.Cache.Database
import ChatService.Proofs.Cache.Degrading
import ChatService.Proofs.Cache.Memory

/-!
# Lifetimes of any length

Both stores add the lifetime of an entry to a clock, and every clock has a last moment.  The store
in a database refuses a lifetime that leads past the end of its clock, and counts no further than 64
bits of milliseconds: a refused write is a failure like any other, so a cache that fails open
answers whatever the lifetime is.  The store in memory refuses nothing.  It stops the program, and
failing open is no help against that.
-/

namespace ChatService.Cache

open Work (Ending IsPart)
open ChatService.Database (Ask Program Record)
open Degrading (Lookup)

variable {σ α β ε : Type} {i j : Instant} {s t : σ}

/-! ## stores that never stop the program -/

/-- A store that never stops the program when it is read or written. -/
structure Store.Steady (store : Store σ) : Prop where
  get : ∀ key i s, (store.get key).run i s ≠ .stopped
  set : ∀ key text lifetime i s, (store.set key text lifetime).run i s ≠ .stopped

namespace Degrading.Lookup

/-- The loader always ends, with a value. -/
def Succeeds (query : Lookup σ α ε) : Prop :=
  ∀ i s, ∃ j t value, query.load.run i s = .answered j t (.ok value)

/-- A lookup that ends with a value: one that the store had in time, or else what the loader came
to when it was called. -/
def EndsWell (query : Lookup σ α ε) (i : Instant) (s : σ) : Prop :=
  ∃ j w value, query.watched.work.run i ⟨s, []⟩ = .answered j w (.ok value) ∧
    query.work.run i s = .answered j w.state (.ok value) ∧
    (query.served? i s = some value ∨
      ∃ call ∈ w.calls, call.event = .load ∧ ∃ j' t',
        query.load.run call.moment call.state = .answered j' t' (.ok value))

/-- **Failing open over a steady store**: a lookup whose loader succeeds ends with a value. -/
theorem endsWell_of_steady {query : Lookup σ α ε} (hopen : query.failsOpen = true)
    (hstore : query.cache.store.Steady) (hload : query.Succeeds) (i : Instant) (s : σ) :
    query.EndsWell i s := by
  have houtcome := query.run_watched i s
  have hends : ∃ j w answer, query.watched.work.run i ⟨s, []⟩ = .answered j w answer :=
    answered_of_outcome houtcome (hstore.get query.key)
      (fun text => hstore.set query.key text query.lifetime) fun j t => by
        obtain ⟨j', t', value, hrun⟩ := hload j t
        exact ⟨j', t', .ok value, hrun⟩
  obtain ⟨j, w, answer, hwatched⟩ := hends
  rw [hwatched] at houtcome
  cases houtcome with
  | answered hpath =>
      -- Watching changes nothing, so the lookup itself ends in the same way.
      have hrun : query.work.run i s = .answered j w.state answer := by
        have halike := (query.cache.alike_getOrLoadAs_watched query.ofCacheError query.format
          query.key query.lifetime query.load i ⟨s, []⟩ s rfl).run
        change Ending.Alike SameState Eq (query.watched.work.run i ⟨s, []⟩)
          (query.work.run i s) at halike
        rw [hwatched] at halike
        generalize query.work.run i s = ending at halike
        cases halike with
        | answered hstates hanswers =>
            have hstates : w.state = _ := hstates
            rw [hstates, hanswers]
      rcases hpath.degrades.opened hopen with
        ⟨value, hserved, rfl, -⟩ | ⟨call, hcall, hevent, j', t', hloaded⟩
      · exact ⟨j, w, value, hwatched, hrun, .inl hserved⟩
      · obtain ⟨j'', t'', value, hvalue⟩ := hload call.moment call.state
        obtain ⟨rfl, rfl, rfl⟩ := Ending.answered.inj (hvalue.symm.trans hloaded)
        exact ⟨j, w, value, hwatched, hrun, .inr ⟨call, hcall, hevent, j'', t'', hvalue⟩⟩

end Degrading.Lookup

/-! ## the store in a database -/

namespace Database

variable {answer : {β : Type} → Ask β → Work σ β} {collection key text : String}
  {lifetime : Duration} {close : Reply σ Unit}

/-- The entry that a write leaves. -/
def entry (key text : String) (expires : Int) : Record :=
  [("_id", .text key), ("value", .text text), ("expires_at", .time expires)]

/-- A program does not stop if none of its requests does. -/
theorem run_ne_stopped
    (hsteady : ∀ {β : Type} (request : Ask β) i s, (answer request).run i s ≠ .stopped)
    (program : Program α) (i : Instant) (s : σ) :
    (program.run answer : Work σ α).run i s ≠ .stopped := by
  induction program generalizing i s with
  | done a => simp [Program.run]
  | ask request next ih =>
      rw [Program.run, Work.run_monadBind]
      cases hrun : (answer request).run i s with
      | answered j t b => simpa using ih b j t
      | never => simp [Ending.bind]
      | stopped => exact absurd hrun (hsteady request i s)

/-- A program is answered if all of its requests are. -/
theorem run_answered
    (hanswers : ∀ {β : Type} (request : Ask β) i s, ∃ j t b,
      (answer request).run i s = .answered j t b)
    (program : Program α) (i : Instant) (s : σ) :
    ∃ j t a, (program.run answer : Work σ α).run i s = .answered j t a := by
  induction program generalizing i s with
  | done a => simp [Program.run]
  | ask request next ih =>
      obtain ⟨j, t, b, hrun⟩ := hanswers request i s
      rw [Program.run, Work.run_monadBind, hrun]
      exact ih b j t

theorem steady_store
    (hsteady : ∀ {β : Type} (request : Ask β) i s, (answer request).run i s ≠ .stopped) :
    (store collection (Program.run answer) close).Steady where
  get key := run_ne_stopped hsteady (Database.get collection key)
  set key text lifetime := run_ne_stopped hsteady (Database.set collection key text lifetime)

theorem expiry_eq (now : Int) (lifetime : Duration) :
    expiry now lifetime =
      if now + lifetime.millis < clockLimit then .ok (min (now + lifetime.millis) Word.maxInt64)
      else .error (.unavailable ("ttl out of range: " ++ lifetime.render)) := by
  unfold expiry
  by_cases hfits : now + lifetime.millis < clockLimit
  · rw [if_neg (by omega), if_pos hfits]
  · rw [if_pos (by omega), if_neg hfits]

/-- How a lifetime is taken over a database, whatever answers the requests. -/
structure TakesLifetime (answer : {β : Type} → Ask β → Work σ β) (collection : String)
    (close : Reply σ Unit) (lifetime : Duration) : Prop where
  /-- A write reads the clock first.  It sends the entry if the clock can show when it expires, and
  else it refuses and sends nothing. -/
  write : ∀ key text i s,
    ((store collection (Program.run answer) close).set key text lifetime).run i s =
      ((answer .clock).run i s).bind fun i s now =>
        if now + lifetime.millis < clockLimit then
          ((answer (.send none (.replaceOrInsert collection (keyIs key)
            (entry key text (min (now + lifetime.millis) Word.maxInt64))))).run i s).bind
              fun i s a => .answered i s (answered a)
        else .answered i s (.error (.unavailable ("ttl out of range: " ++ lifetime.render)))
  /-- It is answered if all requests are, by a success or by a failure of the cache. -/
  answered : (∀ {β : Type} (request : Ask β) i s, ∃ j t b,
      (answer request).run i s = .answered j t b) →
    ∀ key text i s, ∃ j t a,
      ((store collection (Program.run answer) close).set key text lifetime).run i s =
        .answered j t a
  /-- It never stops the program unless a request does, -/
  steady : (∀ {β : Type} (request : Ask β) i s, (answer request).run i s ≠ .stopped) →
    ∀ key text i s,
      ((store collection (Program.run answer) close).set key text lifetime).run i s ≠ .stopped
  /-- and then a lookup that fails open ends with a value if its loader does, whether the requests
  are ever answered or not. -/
  lookup : (∀ {β : Type} (request : Ask β) i s, (answer request).run i s ≠ .stopped) →
    ∀ {α ε : Type} (query : Lookup σ α ε),
      query.cache.store = store collection (Program.run answer) close →
        query.lifetime = lifetime → query.failsOpen = true → query.Succeeds →
          ∀ i s, query.EndsWell i s

theorem takesLifetime (answer : {β : Type} → Ask β → Work σ β) (collection : String)
    (close : Reply σ Unit) (lifetime : Duration) :
    TakesLifetime answer collection close lifetime where
  write key text i s := by
    have hclock : (Program.run answer (Database.set collection key text lifetime)).run i s =
        ((answer .clock).run i s).bind _ := Work.run_monadBind _ _
    refine hclock.trans (congrArg _ ?_)
    funext i s now
    dsimp only [Program.bind]
    rw [expiry_eq]
    by_cases hfits : now + lifetime.millis < clockLimit
    · rw [if_pos hfits, if_pos hfits]
      exact Work.run_monadBind _ _
    · rw [if_neg hfits, if_neg hfits]
      rfl
  answered hanswers key text := run_answered hanswers (Database.set collection key text lifetime)
  steady hsteady key text := (steady_store hsteady).set key text lifetime
  lookup hsteady α ε query hstore hlifetime hopen hsucceeds := by
    have hquery : query.cache.store.Steady := by
      rw [hstore]
      exact steady_store hsteady
    exact Lookup.endsWell_of_steady hopen hquery hsucceeds

end Database

/-! ## the store in memory -/

namespace Memory

/-- How a lifetime is taken in memory. -/
structure TakesLifetime (lifetime : Duration) : Prop where
  /-- A write puts the entry, and stops the program if the clock cannot show when it expires. -/
  write : ∀ key text i s, (store.set key text lifetime).run i s =
    if i.after lifetime < .limit then
      .answered i (Keyed.put key ⟨text, i.after lifetime⟩ s) (.ok ())
    else .stopped
  /-- So whole seconds are safe as long as they and those of the clock fit into signed 64 bits. -/
  seconds : ∀ (i : Instant) n, lifetime = .ofSecs n →
    (i.after lifetime < .limit ↔ ((i.nanos / 1000000000 + n : Nat) : Int) ≤ Word.maxInt64)
  /-- A lookup, failing open or not, ends with the value that is live, -/
  live : ∀ {σ α ε : Type} {part : σ → State} {replace : State → σ → σ}, IsPart part replace →
    ∀ config (query : Lookup σ α ε), query.cache = entityCache part replace config →
      query.lifetime = lifetime → ∀ i s value,
        (live? i query.key (part s)).bind query.format.decode? = some value →
          query.work.run i s =
            .answered i (replace (removeExpired i query.key (part s)) s) (.ok value)
  /-- or else with what is loaded, but not if that has a text whose expiry, seen from the moment
  after loading, cannot be shown. -/
  loaded : ∀ {σ α ε : Type} {part : σ → State} {replace : State → σ → σ}, IsPart part replace →
    ∀ config (query : Lookup σ α ε), query.cache = entityCache part replace config →
      query.lifetime = lifetime → ∀ i s,
        (live? i query.key (part s)).bind query.format.decode? = none → ∀ j t value,
          query.load.run i (replace (removeExpired i query.key (part s)) s) =
              .answered j t (.ok value) →
            query.work.run i s =
              match query.format.encode? value with
              | none => .answered j t (.ok value)
              | some text =>
                if j.after lifetime < .limit then
                  .answered j (replace (Keyed.put query.key ⟨text, j.after lifetime⟩ (part t)) t)
                    (.ok value)
                else .stopped

theorem takesLifetime (lifetime : Duration) : TakesLifetime lifetime where
  write key text i s := by
    rw [run_set, Instant.after?]
    by_cases hfits : i.after lifetime < .limit
    · rw [if_pos hfits, if_pos hfits]
    · rw [if_neg hfits, if_neg hfits]
  seconds i n hlifetime := by
    subst hlifetime
    change i.nanos + n * 1000000000 < 9223372036854775808 * 1000000000 ↔
      ((i.nanos / 1000000000 + n : Nat) : Int) ≤ 9223372036854775807
    omega
  live := by
    intro σ α ε part replace hpart config query hcache hlifetime i s value hlive
    rw [Lookup.work, hcache, run_getOrLoadAs hpart, hlive]
  loaded := by
    intro σ α ε part replace hpart config query hcache hlifetime i s hmissed j t value hload
    rw [Lookup.work, hcache, run_getOrLoadAs hpart, hmissed, hlifetime]
    dsimp only
    rw [hload, Ending.bind_answered]
    dsimp only
    cases query.format.encode? value with
    | none => rfl
    | some text =>
        dsimp only
        rw [Instant.after?]
        by_cases hfits : j.after lifetime < .limit
        · rw [if_pos hfits, if_pos hfits]
        · rw [if_neg hfits, if_neg hfits]

end Memory

/-- **A lifetime of any length** is taken by the store in a database: a write ends with a success or
a failure, and a lookup that fails open with a value.  The store in memory takes a lifetime whose
end its clock can show; any other stops the program, in a write and in a lookup that has loaded. -/
theorem lifetime_taken (answer : {β : Type} → Ask β → Work σ β) (collection : String)
    (close : Reply σ Unit) (lifetime : Duration) :
    Database.TakesLifetime answer collection close lifetime ∧ Memory.TakesLifetime lifetime :=
  ⟨Database.takesLifetime answer collection close lifetime, Memory.takesLifetime lifetime⟩

/-! ### the longest lifetime -/

/-- The most seconds that a configured lifetime can have. -/
def longest : Duration := .ofSecs 18446744073709551615

/-- A lookup that fails open, for the longest lifetime, of a value that is loaded at once. -/
def longLookup (store : Store σ) : Lookup σ Nat CacheError where
  cache := ⟨store, { failOpen := true }⟩
  ofCacheError := id
  format := ⟨fun n => some (toString n), String.toNat?⟩
  key := "k"
  lifetime := longest
  load := .done (.ok 7)

/-- A database whose clock can be read, and that answers nothing else. -/
def silent {β : Type} : Ask β → Work Unit β
  | .clock => .done 0
  | _ => .never

def silentLookup : Lookup Unit Nat CacheError :=
  longLookup (Database.store "entries" (Program.run silent) .never)

/-- Over such a database it ends with what is loaded, after the limit for the read: the write is
refused at once. -/
theorem longest_taken :
    (∀ {β : Type} (request : Ask β) i s, (silent request).run i s ≠ .stopped) ∧
      silentLookup.Succeeds ∧ silentLookup.EndsWell ⟨0⟩ () ∧
        silentLookup.work.run ⟨0⟩ () = .answered ⟨250000000⟩ () (.ok 7) := by
  have hsteady : ∀ {β : Type} (request : Ask β) i s, (silent request).run i s ≠ .stopped := by
    intro β request i s
    cases request <;> simp [silent, Work.run]
  have hsucceeds : silentLookup.Succeeds := fun i s => ⟨i, s, 7, rfl⟩
  have htaken := (lifetime_taken silent "entries" .never longest).1
  exact ⟨hsteady, hsucceeds, htaken.lookup hsteady silentLookup rfl rfl rfl hsucceeds ⟨0⟩ (), rfl⟩

/-- Over the store in memory it stops the program, though nothing fails. -/
theorem longest_stops :
    (Memory.store.set "k" "v" longest).run ⟨0⟩ [] = .stopped ∧
      (longLookup Memory.store).work.run ⟨0⟩ [] = .stopped :=
  ⟨rfl, rfl⟩

end ChatService.Cache
