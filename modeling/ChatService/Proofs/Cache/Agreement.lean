import ChatService.Cache.Database
import ChatService.Proofs.Cache.ReadThrough
import ChatService.Proofs.Database.Execution

/-!
# The two cache stores agree

The same writes and reads on the store in memory and on the store in a database, with time that
passes in whole milliseconds.  The server may remove, at any moment, entries that have expired
(`Swept`), so it may hold fewer entries than were written, and the store in memory may hold more.
What reads find is the same for both: each is told by the latest write to the key and by its expiry
(`Mirrors` for the store in memory, `Stores` for the server), and no sweep can be seen.

The two stores read different clocks.  Both show the moments of a run in step, because writes,
lifetimes and reads are whole milliseconds apart (`InStep`).
-/

namespace ChatService.Cache.Agreement

open ChatService.Database (Ask Program Reading Record Rule)
open ChatService.Database.Server (State recordsOf isMatch meets sameKey execute serve recordsOf_put
  insert_of_fresh)
open ReadThrough (Write latest? shown? Mirrors)

/-! ## clocks -/

/-- The clock of the server and its clients in milliseconds, seen from the clock that measures
lifetimes: over whole milliseconds both advance by as much. -/
structure WallClock where
  reading : Instant → Int
  reading_after : ∀ (i : Instant) (ms : Nat), reading (i.after (.ofMillis ms)) = reading i + ms

/-- A wall clock that shows some time when the other clock starts. -/
def WallClock.from (base : Int) : WallClock where
  reading i := base + (i.nanos / 1000000 : Nat)
  reading_after i ms := by
    simp only [Instant.after, Duration.ofMillis]
    omega

theorem ofSecs_eq_ofMillis (seconds : Nat) :
    Duration.ofSecs seconds = .ofMillis (seconds * 1000) := by
  simp only [Duration.ofSecs, Duration.ofMillis, Duration.mk.injEq]
  omega

theorem millis_ofMillis (n : Nat) : (Duration.ofMillis n).millis = n :=
  Nat.mul_div_cancel n (by decide)

variable {wall : WallClock} {collection key text : String} {seconds : Nat} {now now' : Int}
  {i j : Instant} {write : Write} {writes : List Write} {s s' : State}

/-- A write that was some whole milliseconds ago, for a lifetime of whole seconds. -/
structure InStep (i : Instant) (write : Write) : Prop where
  moment : ∃ ms, i = write.moment.after (.ofMillis ms)
  lifetime : ∃ seconds, write.lifetime = .ofSecs seconds

theorem InStep.pass (h : InStep i write) (ms : Nat) : InStep (i.after (.ofMillis ms)) write where
  moment := by
    obtain ⟨ago, rfl⟩ := h.moment
    refine ⟨ago + ms, ?_⟩
    simp only [Instant.after, Duration.ofMillis, Instant.mk.injEq]
    omega
  lifetime := h.lifetime

theorem inStep_self : InStep i ⟨key, text, i, .ofSecs seconds⟩ := ⟨⟨0, rfl⟩, ⟨seconds, rfl⟩⟩

/-- Both clocks say the same of a lifetime: that it is over, or that it is not. -/
theorem InStep.lt_expires_iff (h : InStep i write) (wall : WallClock) :
    i < write.expires ↔ wall.reading i < wall.reading write.expires := by
  obtain ⟨ago, rfl⟩ := h.moment
  obtain ⟨seconds, hlifetime⟩ := h.lifetime
  rw [Write.expires, hlifetime, ofSecs_eq_ofMillis, wall.reading_after, wall.reading_after]
  change write.moment.nanos + ago * 1000000 < write.moment.nanos + seconds * 1000 * 1000000 ↔ _
  omega

/-! ## what the server holds -/

/-- The time until which the server holds a write: 64 bits of milliseconds say no later one. -/
def held (wall : WallClock) (write : Write) : Int := min (wall.reading write.expires) Word.maxInt64

/-- The record of a write. -/
def record (wall : WallClock) (write : Write) : Record :=
  [("_id", .text write.key), ("value", .text write.text), ("expires_at", .time (held wall write))]

theorem isMatch_keyIs :
    isMatch (Database.keyIs key) (record wall write) = true ↔ write.key = key := by
  simp [isMatch, Database.keyIs, record, Keyed.get?, meets]

theorem isMatch_live :
    isMatch (Database.keyIs key ++ [("expires_at", .after now)]) (record wall write) = true ↔
      write.key = key ∧ now < held wall write := by
  simp [isMatch, Database.keyIs, record, Keyed.get?, meets]

theorem valueOf_record : Database.valueOf (some (record wall write)) = .ok (some write.text) := rfl

/-- The text that the server shows under a key at a time. -/
def held? (wall : WallClock) (writes : List Write) (key : String) (now : Int) : Option String :=
  (latest? key writes).bind fun write => if now < held wall write then some write.text else none

theorem key_of_latest? (h : latest? key writes = some write) : write.key = key := by
  simpa using List.find?_some h

/-- The server holds the latest writes and nothing else, apart from what has expired. -/
structure Stores (wall : WallClock) (collection : String) (writes : List Write) (now : Int)
    (s : State) : Prop where
  sound : ∀ r ∈ recordsOf collection s.records,
    ∃ key write, latest? key writes = some write ∧ r = record wall write
  complete : ∀ key write, latest? key writes = some write →
    record wall write ∈ recordsOf collection s.records ∨ held wall write ≤ now
  unique : Keyed.get? collection s.unique = none

/-- The server has removed some entries that have expired, and changed nothing else. -/
structure Swept (collection : String) (now : Int) (s s' : State) : Prop where
  kept : (recordsOf collection s'.records).Sublist (recordsOf collection s.records)
  expired : ∀ r ∈ recordsOf collection s.records, r ∉ recordsOf collection s'.records →
    ∃ time, Keyed.get? "expires_at" r = some (.time time) ∧ time ≤ now
  others : ∀ other, other ≠ collection →
    recordsOf other s'.records = recordsOf other s.records
  unique : s'.unique = s.unique
  transaction : s'.transaction = s.transaction

theorem Swept.refl : Swept collection now s s :=
  ⟨.refl _, fun _ hr hgone => absurd hr hgone, fun _ _ => rfl, rfl, rfl⟩

/-- A server without faults that may sweep before every request.  Fresh ids and the like are no
matter of the server. -/
def Sweeping (collection : String) (now : Int) : Rule State := fun s exchange s' =>
  ∃ swept, Swept collection now s swept ∧
    match exchange with
    | ⟨.clock, reading⟩ => reading = now ∧ s' = swept
    | ⟨.send session command, answer⟩ => (s', answer) = serve session swept command
    | _ => s' = swept

theorem Stores.later (h : Stores wall collection writes now s) (hle : now ≤ now') :
    Stores wall collection writes now' s where
  sound := h.sound
  complete key write hlatest := (h.complete key write hlatest).imp_right fun hgone =>
    Int.le_trans hgone hle
  unique := h.unique

/-- A sweep takes nothing away that could be read. -/
theorem Stores.swept (h : Stores wall collection writes now s)
    (hswept : Swept collection now s s') : Stores wall collection writes now s' where
  sound r hr := h.sound r (hswept.kept.subset hr)
  complete key write hlatest := by
    by_cases hmem : record wall write ∈ recordsOf collection s'.records
    · exact .inl hmem
    · rcases h.complete key write hlatest with hheld | hgone
      · obtain ⟨time, htime, hle⟩ := hswept.expired _ hheld hmem
        cases htime
        exact .inr hle
      · exact .inr hgone
  unique := hswept.unique ▸ h.unique

/-- When all writes have expired, a sweep may empty the collection. -/
theorem Stores.swept_all (h : Stores wall collection writes now s)
    (hexpired : ∀ write ∈ writes, held wall write ≤ now) :
    Swept collection now s { s with records := Keyed.put collection [] s.records } where
  kept := by simp [recordsOf_put]
  expired r hr _ := by
    obtain ⟨key, write, hlatest, rfl⟩ := h.sound r hr
    exact ⟨held wall write, rfl, hexpired write (List.mem_of_find?_eq_some hlatest)⟩
  others other hother := by rw [recordsOf_put, if_neg hother.symm]
  unique := rfl
  transaction := rfl

/-- **A read on the server finds the latest write** until it expires. -/
theorem Stores.valueOf_find? (h : Stores wall collection writes now s) (key : String) :
    Database.valueOf ((recordsOf collection s.records).find?
      (isMatch (Database.keyIs key ++ [("expires_at", .after now)]))) =
        .ok (held? wall writes key now) := by
  cases hfind : (recordsOf collection s.records).find?
      (isMatch (Database.keyIs key ++ [("expires_at", .after now)])) with
  | some r =>
      obtain ⟨other, write, hlatest, rfl⟩ := h.sound r (List.mem_of_find?_eq_some hfind)
      obtain ⟨rfl, hlive⟩ := isMatch_live.mp (List.find?_some hfind)
      obtain rfl := key_of_latest? hlatest
      simp [valueOf_record, held?, hlatest, hlive]
  | none =>
      have hnone : held? wall writes key now = none := by
        refine Option.bind_eq_none_iff.mpr fun write hlatest => if_neg fun hlive => ?_
        rcases h.complete key write hlatest with hmem | hgone
        · exact List.find?_eq_none.mp hfind _ hmem
            (isMatch_live.mpr ⟨key_of_latest? hlatest, hlive⟩)
        · omega
      rw [hnone]
      rfl

/-- What the server carries out for a write: the record takes the place of those with its key, or
comes to the end. -/
theorem Stores.execute_replaceOrInsert (h : Stores wall collection writes now s) (write : Write) :
    ∃ records, execute s (.replaceOrInsert collection (Database.keyIs write.key)
          (record wall write)) =
        ({ s with records := Keyed.put collection records s.records }, .ok ()) ∧
      ∀ r, r ∈ records ↔ r = record wall write ∨
        r ∈ recordsOf collection s.records ∧ ¬ isMatch (Database.keyIs write.key) r = true := by
  by_cases hany : (recordsOf collection s.records).any (isMatch (Database.keyIs write.key)) = true
  · refine ⟨_, if_pos hany, fun r => ?_⟩
    obtain ⟨old, hold, hmatch⟩ := List.any_eq_true.mp hany
    rw [List.mem_map]
    constructor
    · rintro ⟨other, hother, rfl⟩
      by_cases hkey : isMatch (Database.keyIs write.key) other = true
      · exact .inl (if_pos hkey)
      · rw [if_neg hkey]
        exact .inr ⟨hother, hkey⟩
    · rintro (rfl | ⟨hr, hkey⟩)
      · exact ⟨old, hold, if_pos hmatch⟩
      · exact ⟨r, hr, if_neg hkey⟩
  · have hnone : ∀ r ∈ recordsOf collection s.records,
        ¬ isMatch (Database.keyIs write.key) r = true := by
      simpa using hany
    have hfresh : ∀ r ∈ recordsOf collection s.records,
        ∀ fields ∈ ["_id"] :: (Keyed.get? collection s.unique).getD [],
          sameKey fields r (record wall write) = false := by
      intro r hr fields hfields
      obtain ⟨key, other, -, rfl⟩ := h.sound r hr
      have hkey : other.key ≠ write.key := mt isMatch_keyIs.mpr (hnone _ hr)
      obtain rfl : fields = ["_id"] := by simpa [h.unique] using hfields
      simpa [sameKey, record, Keyed.get?] using hkey
    refine ⟨_, (if_neg hany).trans (insert_of_fresh hfresh), fun r => ?_⟩
    rw [List.mem_append, List.mem_singleton, or_comm]
    exact or_congr_right ⟨fun hr => ⟨hr, hnone r hr⟩, And.left⟩

/-- **A write on the server** is the latest from then on, and takes nothing else away. -/
theorem Stores.replaced (h : Stores wall collection writes now s) (write : Write) :
    ∃ s', execute s (.replaceOrInsert collection (Database.keyIs write.key) (record wall write)) =
        (s', .ok ()) ∧ Stores wall collection (write :: writes) now s' := by
  obtain ⟨records, hexecute, hmem⟩ := h.execute_replaceOrInsert write
  refine ⟨_, hexecute, ?_, ?_, h.unique⟩
  · intro r hr
    rw [recordsOf_put, if_pos rfl] at hr
    rcases (hmem r).mp hr with rfl | ⟨hold, hother⟩
    · exact ⟨write.key, write, by simp [ReadThrough.latest?_cons], rfl⟩
    · obtain ⟨key, old, hlatest, rfl⟩ := h.sound r hold
      obtain rfl := key_of_latest? hlatest
      have hkey : write.key ≠ old.key := fun hkey => hother (isMatch_keyIs.mpr hkey.symm)
      exact ⟨old.key, old, by rwa [ReadThrough.latest?_cons, if_neg hkey], rfl⟩
  · intro key latest hlatest
    rw [recordsOf_put, if_pos rfl]
    rw [ReadThrough.latest?_cons] at hlatest
    by_cases hkey : write.key = key
    · obtain rfl : write = latest := by simpa [hkey] using hlatest
      exact .inl ((hmem _).mpr (.inl rfl))
    · rw [if_neg hkey] at hlatest
      refine (h.complete key latest hlatest).imp_left fun hold => (hmem _).mpr (.inr ⟨hold, ?_⟩)
      exact fun hmatch => hkey ((isMatch_keyIs.mp hmatch).symm.trans (key_of_latest? hlatest))

/-! ## the programs of the store -/

/-- **A read of the store in the database**: whatever is swept meanwhile, it answers what the
server shows at the time. -/
theorem Stores.ensures_get (h : Stores wall collection writes now s) (key : String) :
    (Database.get collection key).Ensures (Sweeping collection now)
      (fun s' found => Stores wall collection writes now s' ∧
        found = .ok (held? wall writes key now)) s := by
  refine Program.ensures_bind (Program.ensures_asking ?_)
  rintro reading s₁ ⟨swept₁, hswept₁, rfl, rfl⟩
  refine Program.ensures_bind (Program.ensures_asking ?_)
  rintro answer s₂ ⟨swept₂, hswept₂, hserve⟩
  obtain ⟨rfl, rfl⟩ := Prod.mk.inj hserve
  have hstores := (h.swept hswept₁).swept hswept₂
  exact ⟨hstores, hstores.valueOf_find? key⟩

/-- **A write of the store in the database** is carried out, if the clock can show its expiry. -/
theorem Stores.ensures_set (h : Stores wall collection writes (wall.reading i) s)
    (key text : String)
    (hfits : wall.reading i + (Duration.ofSecs seconds).millis < Database.clockLimit) :
    (Database.set collection key text (.ofSecs seconds)).Ensures
      (Sweeping collection (wall.reading i))
      (fun s' stored => Stores wall collection (⟨key, text, i, .ofSecs seconds⟩ :: writes)
          (wall.reading i) s' ∧ stored = .ok ()) s := by
  refine Program.ensures_bind (Program.ensures_asking ?_)
  rintro reading s₁ ⟨swept₁, hswept₁, rfl, rfl⟩
  have hexpiry : Database.expiry (wall.reading i) (.ofSecs seconds) =
      .ok (held wall ⟨key, text, i, .ofSecs seconds⟩) := by
    rw [Database.expiry, if_neg (Int.not_le.mpr hfits), held, Write.expires, ofSecs_eq_ofMillis,
      wall.reading_after, millis_ofMillis]
  rw [hexpiry]
  refine Program.ensures_bind (Program.ensures_asking ?_)
  rintro answer s₂ ⟨swept₂, hswept₂, hserve⟩
  obtain ⟨s', hexecute, hstores⟩ := ((h.swept hswept₁).swept hswept₂).replaced
    ⟨key, text, i, .ofSecs seconds⟩
  obtain ⟨rfl, rfl⟩ := Prod.mk.inj (hserve.trans hexecute)
  exact ⟨hstores, rfl⟩

/-- The server answers every program, be it without a sweep. -/
theorem exists_runs {α : Type} (collection : String) (now : Int) (p : Program α) (s : State) :
    ∃ s' answer, p.Runs (Sweeping collection now) s s' answer := by
  let r : Reading := ⟨now, "", fun _ => ⟨0, by decide⟩⟩
  have hrule : ∀ {β : Type} (t : State × Nat) (request : Ask β),
      Sweeping collection now t.1 ⟨request, (r.answer request t).1⟩ (r.answer request t).2.1 := by
    intro β t request
    cases request <;> exact ⟨t.1, .refl, by trivial⟩
  exact ⟨_, _, Program.runs_run Prod.fst hrule p (s, 0)⟩

/-! ## runs of both stores -/

/-- Runs of both stores from no entries on: the writes, latest first, the moment that is reached,
and what either store keeps.  The server may sweep between the calls and within them. -/
inductive Run (wall : WallClock) (collection : String) :
    List Write → Instant → Memory.State → State → Prop where
  | start (i : Instant) {server : State} (hempty : recordsOf collection server.records = [])
      (hunique : Keyed.get? collection server.unique = none) : Run wall collection [] i [] server
  | pass {writes : List Write} {i : Instant} {memory : Memory.State} {server : State}
      (run : Run wall collection writes i memory server) (ms : Nat) :
      Run wall collection writes (i.after (.ofMillis ms)) memory server
  | sweep {writes : List Write} {i : Instant} {memory : Memory.State} {server server' : State}
      (run : Run wall collection writes i memory server)
      (hswept : Swept collection (wall.reading i) server server') :
      Run wall collection writes i memory server'
  | set {writes : List Write} {i i' : Instant} {memory memory' : Memory.State}
      {server server' : State} (run : Run wall collection writes i memory server)
      {key text : String} {seconds : Nat} {remembered stored : Except CacheError Unit}
      (hfits : wall.reading i + (Duration.ofSecs seconds).millis < Database.clockLimit)
      (hmemory : (Memory.store.set key text (.ofSecs seconds)).run i memory =
        .answered i' memory' remembered)
      (hserver : (Database.set collection key text (.ofSecs seconds)).Runs
        (Sweeping collection (wall.reading i)) server server' stored) :
      Run wall collection (⟨key, text, i, .ofSecs seconds⟩ :: writes) i' memory' server'
  | get {writes : List Write} {i i' : Instant} {memory memory' : Memory.State}
      {server server' : State} (run : Run wall collection writes i memory server) {key : String}
      {remembered stored : Except CacheError (Option String)}
      (hmemory : (Memory.store.get key).run i memory = .answered i' memory' remembered)
      (hserver : (Database.get collection key).Runs
        (Sweeping collection (wall.reading i)) server server' stored) :
      Run wall collection writes i' memory' server'

variable {memory : Memory.State} {server : State}

/-- What holds in a run: either store holds the latest writes in its own way. -/
structure Invariant (wall : WallClock) (collection : String) (writes : List Write) (i : Instant)
    (memory : Memory.State) (server : State) : Prop where
  mirrors : Mirrors writes i memory
  stores : Stores wall collection writes (wall.reading i) server
  inStep : ∀ write ∈ writes, InStep i write

theorem Run.invariant (run : Run wall collection writes i memory server) :
    Invariant wall collection writes i memory server := by
  induction run with
  | start i hempty hunique =>
      refine ⟨⟨by simp, fun _ _ _ => rfl⟩, ⟨by simp [hempty], by simp [latest?], hunique⟩, by simp⟩
  | @pass _ i _ _ run ms ih =>
      have hle : wall.reading i ≤ wall.reading (i.after (.ofMillis ms)) := by
        rw [wall.reading_after]
        omega
      exact ⟨ih.mirrors.later (ReadThrough.le_after _ _), ih.stores.later hle,
        fun write hwrite => (ih.inStep write hwrite).pass ms⟩
  | sweep run hswept ih => exact ⟨ih.mirrors, ih.stores.swept hswept, ih.inStep⟩
  | @set writes i _ memory _ _ _ run key text seconds _ _ hfits hmemory hserver ih =>
      rw [Memory.run_set] at hmemory
      cases hexpires : i.after? (.ofSecs seconds) with
      | none => simp [hexpires] at hmemory
      | some expires =>
          simp only [hexpires, Work.Ending.answered.injEq] at hmemory
          obtain ⟨rfl, rfl, -⟩ := hmemory
          obtain ⟨-, rfl⟩ := ReadThrough.after?_eq_some.mp hexpires
          refine ⟨ih.mirrors.put key text (.ofSecs seconds),
            ((ih.stores.ensures_set key text hfits).of_runs hserver).1, ?_⟩
          exact List.forall_mem_cons.mpr ⟨inStep_self, ih.inStep⟩
  | @get writes i _ memory _ _ _ run key _ _ hmemory hserver ih =>
      rw [Memory.run_get, Work.Ending.answered.injEq] at hmemory
      obtain ⟨rfl, rfl, -⟩ := hmemory
      exact ⟨ih.mirrors.removeExpired key, ((ih.stores.ensures_get key).of_runs hserver).1,
        ih.inStep⟩

/-! ## the law -/

/-- The text is the latest of its key, and its lifetime is not over. -/
def IsCurrent (writes : List Write) (key : String) (i : Instant) (text : String) : Prop :=
  ∃ write, latest? key writes = some write ∧ write.text = text ∧ i < write.expires

theorem shown?_eq_some : shown? writes key i = some text ↔ IsCurrent writes key i text := by
  simp [shown?, IsCurrent, Option.bind_eq_some_iff, and_comm]

/-- The server shows what the writes say, until the last millisecond that 64 bits can say: from then
on even what is to be held until then has expired. -/
theorem held?_eq (hstep : ∀ write ∈ writes, InStep i write) (key : String) :
    held? wall writes key (wall.reading i) =
      if wall.reading i < Word.maxInt64 then shown? writes key i else none := by
  cases hlatest : latest? key writes with
  | none => simp [held?, shown?, hlatest]
  | some write =>
      have hclocks := (hstep write (List.mem_of_find?_eq_some hlatest)).lt_expires_iff wall
      have hheld : wall.reading i < held wall write ↔
          i < write.expires ∧ wall.reading i < Word.maxInt64 := by
        rw [held, hclocks]
        omega
      by_cases hlast : wall.reading i < Word.maxInt64 <;>
        simp [held?, shown?, hlatest, hheld, hlast]

/-- The last millisecond plays no part if nothing was written to last longer. -/
theorem shown?_eq_none_of_last (hstep : ∀ write ∈ writes, InStep i write)
    (hlast : ¬ wall.reading i < Word.maxInt64)
    (hexpires : ∀ write ∈ writes, wall.reading write.expires ≤ Word.maxInt64) (key : String) :
    shown? writes key i = none := by
  refine Option.bind_eq_none_iff.mpr fun write hlatest => if_neg fun hlive => ?_
  have hwrite := List.mem_of_find?_eq_some hlatest
  have hreading := ((hstep write hwrite).lt_expires_iff wall).mp hlive
  have hle := hexpires write hwrite
  omega

/-- Both stores accept a write whose expiry their clocks can show. -/
theorem Run.stores_accept (run : Run wall collection writes i memory server)
    (key text : String) (seconds : Nat) (hinstant : (i.after? (.ofSecs seconds)).isSome)
    (hfits : wall.reading i + (Duration.ofSecs seconds).millis < Database.clockLimit) :
    (∃ memory', (Memory.store.set key text (.ofSecs seconds)).run i memory =
      .answered i memory' (.ok ())) ∧
    (∃ server', (Database.set collection key text (.ofSecs seconds)).Runs
      (Sweeping collection (wall.reading i)) server server' (.ok ())) ∧
    ∀ server' answer, (Database.set collection key text (.ofSecs seconds)).Runs
      (Sweeping collection (wall.reading i)) server server' answer → answer = .ok () := by
  have hset := run.invariant.stores.ensures_set key text hfits
  obtain ⟨server', answer, hruns⟩ := exists_runs collection (wall.reading i)
    (Database.set collection key text (.ofSecs seconds)) server
  refine ⟨?_, ⟨server', ?_⟩, fun _ _ hruns => (hset.of_runs hruns).2⟩
  · obtain ⟨expires, hexpires⟩ := Option.isSome_iff_exists.mp hinstant
    rw [Memory.run_set, hexpires]
    exact ⟨_, rfl⟩
  · rwa [(hset.of_runs hruns).2] at hruns

/-- **Both stores give the same answers.**  After any writes, reads, whole milliseconds and sweeps,
the store in memory answers the latest text of a key until it expires, and the store in the database
answers nothing else, whatever is swept meanwhile.  The answers differ only if something was written
to last longer than 64 bits of milliseconds can say and the clock has come to their end; so the
condition of the last part fails only for a clock that shows a time past the range of a moment of 64
bits of milliseconds, which comes some 292 million years after 1970. -/
theorem Run.stores_agree (run : Run wall collection writes i memory server) (key : String) :
    ∃ remembered stored : Option String,
      (∃ memory', (Memory.store.get key).run i memory = .answered i memory' (.ok remembered)) ∧
      (∃ server', (Database.get collection key).Runs (Sweeping collection (wall.reading i)) server
        server' (.ok stored)) ∧
      (∀ server' answer, (Database.get collection key).Runs (Sweeping collection (wall.reading i))
        server server' answer → answer = .ok stored) ∧
      (∀ text, remembered = some text ↔ IsCurrent writes key i text) ∧
      (∀ text, stored = some text → IsCurrent writes key i text) ∧
      (wall.reading i < Word.maxInt64 ∨
        (∀ write ∈ writes, wall.reading write.expires ≤ Word.maxInt64) → stored = remembered) := by
  obtain ⟨hmirrors, hstores, hstep⟩ := run.invariant
  have hget := hstores.ensures_get key
  have hheld : held? wall writes key (wall.reading i) = _ := held?_eq hstep key
  have hmemory : (Memory.store.get key).run i memory =
      .answered i (Memory.removeExpired i key memory) (.ok (shown? writes key i)) := by
    rw [Memory.run_get, hmirrors.live key i (Nat.le_refl _)]
  obtain ⟨server', answer, hruns⟩ :=
    exists_runs collection (wall.reading i) (Database.get collection key) server
  refine ⟨shown? writes key i, held? wall writes key (wall.reading i), ⟨_, hmemory⟩, ⟨server', ?_⟩,
    fun _ _ hruns => (hget.of_runs hruns).2, fun _ => shown?_eq_some, fun text hstored => ?_,
    fun hlast => ?_⟩
  · rwa [(hget.of_runs hruns).2] at hruns
  · rw [hheld] at hstored
    split at hstored
    · exact shown?_eq_some.mp hstored
    · contradiction
  · rw [hheld]
    split
    · rfl
    · rename_i hlate
      exact (shown?_eq_none_of_last hstep hlate (hlast.resolve_left hlate) key).symm

/-- An entry that has expired is swept, its key is written again, and both stores answer the new
text in the last millisecond of its lifetime. -/
theorem stores_agree_afterSweep :
    ∃ writes memory server, Run (.from 1714557600000) "cache" writes ⟨1999000000⟩ memory server ∧
      (∃ memory', (Memory.store.get "k").run ⟨1999000000⟩ memory =
        .answered ⟨1999000000⟩ memory' (.ok (some "new"))) ∧
      ∀ server' answer, (Database.get "cache" "k").Runs (Sweeping "cache" 1714557601999) server
        server' answer → answer = .ok (some "new") := by
  let wall : WallClock := .from 1714557600000
  let old : Write := ⟨"k", "old", ⟨0⟩, .ofSecs 1⟩
  let new : Write := ⟨"k", "new", ⟨1000000000⟩, .ofSecs 1⟩
  have hstart : Run wall "cache" [] ⟨0⟩ [] .empty := .start ⟨0⟩ rfl rfl
  obtain ⟨server₁, hset₁⟩ := (hstart.stores_accept "k" "old" 1 rfl (by decide)).2.1
  have hold : Run wall "cache" [old] ⟨1000000000⟩ [("k", ⟨"old", ⟨1000000000⟩⟩)] server₁ :=
    (hstart.set (by decide) rfl hset₁).pass 1000
  have hexpired : ∀ write ∈ [old], held wall write ≤ wall.reading ⟨1000000000⟩ := by decide
  have hswept := hold.sweep (hold.invariant.stores.swept_all hexpired)
  obtain ⟨server₂, hset₂⟩ := (hswept.stores_accept "k" "new" 1 rfl (by decide)).2.1
  have hnew : Run wall "cache" [new, old] ⟨1999000000⟩ [("k", ⟨"new", ⟨2000000000⟩⟩)] server₂ :=
    (hswept.set (by decide) rfl hset₂).pass 999
  obtain ⟨remembered, stored, hmemory, -, hserver, hcurrent, -, hsame⟩ := hnew.stores_agree "k"
  obtain rfl : remembered = some "new" := (hcurrent "new").mpr ⟨new, rfl, rfl, by decide⟩
  obtain rfl : stored = some "new" := hsame (.inl (by decide))
  have hreading : wall.reading ⟨1999000000⟩ = 1714557601999 := by decide
  rw [hreading] at hserver
  exact ⟨_, _, _, hnew, hmemory, hserver⟩

end ChatService.Cache.Agreement
