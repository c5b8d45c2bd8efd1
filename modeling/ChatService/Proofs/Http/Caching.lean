import ChatService.Proofs.Http.Codecs
import ChatService.Proofs.Http.Runs

/-!
# How old a cached application is

Applications are never taken away, and their names and the moments of their creation never change.
An entry of the cache is the text of an application as the store held it when the entry was made,
under the key of its own token, and it is dead from the moment on that is one lifetime later.  So
an application is found exactly if the store has it, and what the answer says about it was true
less than a lifetime ago.
-/

namespace ChatService.Http.InMemory

open ChatService.Memory (Linkage Moment Plants)
open Store (Application Operation)

attribute [local irreducible] ChatService.Memory.idText

variable {config : Config} {i : Instant} {s s' : State} {past points : List Point}
  {token : String} {a b : Application}

/-! ## applications of the store -/

/-- The store has an application under a token. -/
def Held (store : ChatService.Memory.State) (token : String) (a : Application) : Prop :=
  ∃ found, Keyed.get? token store.applications = some found ∧ found.application = a

/-- What never changes about an application. -/
def SameOrigin (a b : Application) : Prop :=
  a.token = b.token ∧ a.name = b.name ∧ a.createdAt = b.createdAt

theorem SameOrigin.refl (a : Application) : SameOrigin a a := ⟨rfl, rfl, rfl⟩

theorem SameOrigin.symm (h : SameOrigin a b) : SameOrigin b a :=
  ⟨h.1.symm, h.2.1.symm, h.2.2.symm⟩

theorem SameOrigin.trans {c : Application} (h : SameOrigin a b) (h' : SameOrigin b c) :
    SameOrigin a c := ⟨h.1.trans h'.1, h.2.1.trans h'.2.1, h.2.2.trans h'.2.2⟩

/-- An application has been created by an operation of a run. -/
def Created (points : List Point) (token : String) (created : Application) : Prop :=
  ∃ later p q earlier moment name, points = later ++ q :: p :: earlier ∧ created.token = token ∧
    ChatService.Memory.perform moment (.createApplication (some name)) p.state.store =
      (q.state.store, .ok created)

theorem Created.token_eq (h : Created points token a) : a.token = token := by
  obtain ⟨-, -, -, -, -, -, -, htoken, -⟩ := h
  exact htoken

theorem Created.cons (h : Created points token a) (p : Point) : Created (p :: points) token a := by
  obtain ⟨later, q, q', earlier, moment, name, rfl, hcreated⟩ := h
  exact ⟨p :: later, q, q', earlier, moment, name, rfl, hcreated⟩

section Plants

variable {m : Moment} {store store' : ChatService.Memory.State}

/-- A creation keeps the applications that are there, or counts one more chat. -/
theorem held_of_plants (h : Plants m store store') (hheld : Held store token a) :
    ∃ b, Held store' token b ∧ SameOrigin b a := by
  obtain ⟨found, hfound, rfl⟩ := hheld
  cases h with
  | nothing => exact ⟨_, ⟨found, hfound, rfl⟩, .refl _⟩
  | waste => exact ⟨_, ⟨found, hfound, rfl⟩, .refl _⟩
  | @application name hname hfree =>
      have hkept : Keyed.get? token (store.takeId.store
          (ChatService.Memory.newApplication m (store.ids + 1) name)).applications = some found :=
        ChatService.Memory.get?_applications_store_of_stored hfree hfound
      exact ⟨_, ⟨found, hkept, rfl⟩, .refl _⟩
  | @chat parent other number count hparent hnumber hcount =>
      have hlinked : Keyed.get? token (store.link m parent other.application number
          count).applications = _ := ChatService.Memory.get?_applications_link
      rw [hfound, Option.map_some] at hlinked
      split at hlinked
      · exact ⟨_, ⟨_, hlinked, rfl⟩, rfl, rfl, rfl⟩
      · exact ⟨_, ⟨_, hlinked, rfl⟩, .refl _⟩

/-- An application that a creation leaves was there before, or is what is created. -/
theorem held_cases_of_plants (h : Plants m store store') (hheld : Held store' token a) :
    (∃ b, Held store token b ∧ SameOrigin a b) ∨
      ∃ name, a.token = token ∧
        ChatService.Memory.perform m (.createApplication (some name)) store =
          (store', .ok a) := by
  obtain ⟨found, hfound, rfl⟩ := hheld
  cases h with
  | nothing => exact .inl ⟨_, ⟨found, hfound, rfl⟩, .refl _⟩
  | waste => exact .inl ⟨_, ⟨found, hfound, rfl⟩, .refl _⟩
  | @application name hname hfree =>
      obtain ⟨htoken, rfl⟩ | hold := ChatService.Memory.stored_cases hfound
      · have hvalid : Store.validateName (some name) = .ok name := by
          simp [Store.validateName, Store.requireText, hname]
        refine .inr ⟨name, htoken.symm, ?_⟩
        rw [ChatService.Memory.perform_createApplication hfree, hvalid]
      · exact .inl ⟨_, ⟨found, hold, rfl⟩, .refl _⟩
  | @chat parent other number count hparent hnumber hcount =>
      rw [ChatService.Memory.get?_applications_link] at hfound
      split at hfound
      · obtain ⟨old, hold, rfl⟩ := Option.map_eq_some_iff.mp hfound
        exact .inl ⟨_, ⟨old, hold, rfl⟩, rfl, rfl, rfl⟩
      · exact .inl ⟨_, ⟨found, hfound, rfl⟩, .refl _⟩

/-- What a creation leaves can be written, if what was there can. -/
theorem isWritable_of_plants (hnow : m.now.IsValid) (h : Plants m store store')
    (hold : ∀ token a, Held store token a → a.IsWritable) (hheld : Held store' token a) :
    a.IsWritable := by
  obtain ⟨found, hfound, rfl⟩ := hheld
  cases h with
  | nothing => exact hold token _ ⟨found, hfound, rfl⟩
  | waste => exact hold token _ ⟨found, hfound, rfl⟩
  | application hname hfree =>
      obtain ⟨-, rfl⟩ | hfound := ChatService.Memory.stored_cases hfound
      · have hzero : Word.IsInt64 0 := by decide
        exact ⟨hzero, hzero, hnow, hnow⟩
      · exact hold token _ ⟨found, hfound, rfl⟩
  | chat hparent hnumber hcount =>
      rw [ChatService.Memory.get?_applications_link] at hfound
      split at hfound
      · obtain ⟨old, holdFound, rfl⟩ := Option.map_eq_some_iff.mp hfound
        exact
          { chatsCount := Store.CounterUpdate.isInt64_of_apply hcount
            lastChatNumber := Store.isInt64_of_nextAfter hnumber
            createdAt := (hold token _ ⟨old, holdFound, rfl⟩).createdAt
            updatedAt := hnow }
      · exact hold token _ ⟨found, hfound, rfl⟩

end Plants

/-- Whatever a request does, an application stays. -/
theorem Served.held (h : Served config i s s') (hheld : Held s.store token a) :
    ∃ b, Held s'.store token b ∧ SameOrigin b a := by
  cases h with
  | kept => exact ⟨a, hheld, .refl a⟩
  | dropped key => exact ⟨a, hheld, .refl a⟩
  | cached hfound hexpires => exact ⟨a, hheld, .refl a⟩
  | planted hplants => exact held_of_plants hplants hheld
  | wasted => exact ⟨a, hheld, .refl a⟩
  | posted hlink hchat hnumber => exact ⟨a, hheld, .refl a⟩

theorem Served.held_cases (h : Served config i s s') (hheld : Held s'.store token a) :
    (∃ b, Held s.store token b ∧ SameOrigin a b) ∨
      ∃ name, a.token = token ∧
        ChatService.Memory.perform s.moment (.createApplication (some name)) s.store =
          (s'.store, .ok a) := by
  cases h with
  | kept => exact .inl ⟨a, hheld, .refl a⟩
  | dropped key => exact .inl ⟨a, hheld, .refl a⟩
  | cached hfound hexpires => exact .inl ⟨a, hheld, .refl a⟩
  | planted hplants => exact held_cases_of_plants hplants hheld
  | wasted => exact .inl ⟨a, hheld, .refl a⟩
  | posted hlink hchat hnumber => exact .inl ⟨a, hheld, .refl a⟩

/-! ## applications throughout a run -/

/-- What was stored once is stored now. -/
theorem Run.held (h : Run config (⟨i, s⟩ :: past)) {p : Point}
    (hp : p ∈ (⟨i, s⟩ :: past : List Point)) (hheld : Held p.state.store token a) :
    ∃ b, Held s.store token b ∧ SameOrigin b a := by
  refine Run.induct (motive := fun points => ∀ q ∈ points.head?, ∀ p ∈ points, ∀ a,
    Held p.state.store token a → ∃ b, Held q.state.store token b ∧ SameOrigin b a)
    ?_ ?_ ?_ h _ rfl p hp a hheld
  · rintro i moment _ ⟨⟩ p hp a hheld
    obtain rfl := List.mem_singleton.mp hp
    exact ⟨a, hheld, .refl a⟩
  · rintro i s past length - ih _ ⟨⟩ p hp a hheld
    obtain rfl | hp := List.mem_cons.mp hp
    · exact ⟨a, hheld, .refl a⟩
    · exact ih ⟨i, s⟩ rfl p hp a hheld
  · rintro i s s' past moment - ih - hserved _ ⟨⟩ p hp a hheld
    obtain rfl | hp := List.mem_cons.mp hp
    · exact ⟨a, hheld, .refl a⟩
    · obtain ⟨b, hb, horigin⟩ := ih ⟨i, s⟩ rfl p hp a hheld
      obtain ⟨c, hc, horigin'⟩ := hserved.held (s := s.atMoment moment) hb
      exact ⟨c, hc, horigin'.trans horigin⟩

/-- What is stored now was created in the run. -/
theorem Run.created (h : Run config (⟨i, s⟩ :: past)) (hheld : Held s.store token a) :
    ∃ created, Created (⟨i, s⟩ :: past) token created ∧ SameOrigin a created := by
  refine Run.induct (motive := fun points => ∀ q ∈ points.head?, ∀ a,
    Held q.state.store token a → ∃ created, Created points token created ∧ SameOrigin a created)
    ?_ ?_ ?_ h _ rfl a hheld
  · rintro i moment _ ⟨⟩ a ⟨found, hfound, -⟩
    simp [ChatService.Memory.State.empty, Keyed.get?] at hfound
  · rintro i s past length - ih _ ⟨⟩ a hheld
    obtain ⟨created, hcreated, horigin⟩ := ih ⟨i, s⟩ rfl a hheld
    exact ⟨created, hcreated.cons _, horigin⟩
  · rintro i s s' past moment - ih - hserved _ ⟨⟩ a hheld
    obtain ⟨b, hb, horigin⟩ | ⟨name, htoken, hcreated⟩ :=
      hserved.held_cases (s := s.atMoment moment) hheld
    · obtain ⟨created, hcreated, horigin'⟩ := ih ⟨i, s⟩ rfl b hb
      exact ⟨created, hcreated.cons _, horigin.trans horigin'⟩
    · exact ⟨a, ⟨[], ⟨i, s⟩, _, past, moment, name, rfl, htoken, hcreated⟩, .refl a⟩

/-- Applications that are stored can be written. -/
def Writable (s : State) : Prop := ∀ token a, Held s.store token a → a.IsWritable

theorem Served.writable {moment : Moment} (hnow : moment.now.IsValid)
    (h : Served config i (s.atMoment moment) s') (hwritable : Writable s) : Writable s' := by
  cases h with
  | kept => exact hwritable
  | dropped key => exact hwritable
  | cached hfound hexpires => exact hwritable
  | planted hplants => exact fun token a hheld => isWritable_of_plants hnow hplants hwritable hheld
  | wasted => exact hwritable
  | posted hlink hchat hnumber => exact hwritable

theorem Run.writable (h : Run config points) : ∀ p ∈ points, Writable p.state :=
  h.invariant Writable
    (fun _ _ _ ⟨_, hfound, _⟩ => by simp [ChatService.Memory.State.empty, Keyed.get?] at hfound)
    fun hnow _ hwritable hserved => hserved.writable hnow hwritable

/-- No point of a run lies in the future. -/
theorem Run.instant_le (h : Run config (⟨i, s⟩ :: past)) :
    ∀ p ∈ (⟨i, s⟩ :: past : List Point), p.instant ≤ i := by
  refine Run.induct (motive := fun points => ∀ q ∈ points.head?, ∀ p ∈ points,
    p.instant ≤ q.instant) ?_ ?_ ?_ h _ rfl
  · rintro i moment _ ⟨⟩ p hp
    obtain rfl := List.mem_singleton.mp hp
    exact Nat.le_refl _
  · rintro i s past length - ih _ ⟨⟩ p hp
    obtain rfl | hp := List.mem_cons.mp hp
    · exact Nat.le_refl _
    · exact Nat.le_trans (ih ⟨i, s⟩ rfl p hp) (Nat.le_add_right _ _)
  · rintro i s s' past moment - ih - - _ ⟨⟩ p hp
    obtain rfl | hp := List.mem_cons.mp hp
    · exact Nat.le_refl _
    · exact ih ⟨i, s⟩ rfl p hp

/-! ## entries of the cache -/

/-- An entry of the cache is an application that was stored, and dies a lifetime after that. -/
def FromStore (config : Config) (points : List Point) (key : String)
    (entry : Cache.Memory.Entry) : Prop :=
  ∃ token a p, p ∈ points ∧ Held p.state.store token a ∧ key = Cache.applicationKey token ∧
    entry.value = applicationCodec.encode a ∧
      p.instant.after? config.applicationLifetime = some entry.expires

theorem FromStore.cons {key : String} {entry : Cache.Memory.Entry}
    (h : FromStore config points key entry) (p : Point) :
    FromStore config (p :: points) key entry := by
  obtain ⟨token, a, q, hq, hrest⟩ := h
  exact ⟨token, a, q, List.mem_cons_of_mem p hq, hrest⟩

theorem get?_of_get?_removeExpired {key key' : String} {entry : Cache.Memory.Entry}
    {cache : Cache.Memory.State}
    (h : Keyed.get? key' (Cache.Memory.removeExpired i key cache) = some entry) :
    Keyed.get? key' cache = some entry := by
  unfold Cache.Memory.removeExpired at h
  split at h
  · split at h
    · rw [Keyed.get?_erase] at h
      split at h
      · contradiction
      · exact h
    · exact h
  · exact h

/-- A new entry of the cache is an application that the store has. -/
theorem Served.entry_cases (h : Served config i s s') {key : String} {entry : Cache.Memory.Entry}
    (hentry : Keyed.get? key s'.cache = some entry) :
    Keyed.get? key s.cache = some entry ∨
      ∃ token a, Held s.store token a ∧ key = Cache.applicationKey token ∧
        entry.value = applicationCodec.encode a ∧
          i.after? config.applicationLifetime = some entry.expires := by
  cases h with
  | kept => exact .inl hentry
  | dropped other => exact .inl (get?_of_get?_removeExpired hentry)
  | @cached token found expires hfound hexpires =>
      rw [setCache_cache, Keyed.get?_put] at hentry
      split at hentry
      · next hkey =>
          obtain rfl := Option.some.inj hentry
          exact .inr ⟨token, _, ⟨found, hfound, rfl⟩, hkey.symm, rfl, hexpires⟩
      · exact .inl (get?_of_get?_removeExpired hentry)
  | planted hplants => exact .inl hentry
  | wasted => exact .inl hentry
  | posted hlink hchat hnumber => exact .inl hentry

theorem Run.fromStore (h : Run config (⟨i, s⟩ :: past)) {key : String} {entry : Cache.Memory.Entry}
    (hentry : Keyed.get? key s.cache = some entry) :
    FromStore config (⟨i, s⟩ :: past) key entry := by
  refine Run.induct (motive := fun points => ∀ q ∈ points.head?, ∀ key entry,
    Keyed.get? key q.state.cache = some entry → FromStore config points key entry)
    ?_ ?_ ?_ h _ rfl key entry hentry
  · rintro i moment _ ⟨⟩ key entry hentry
    simp [Keyed.get?] at hentry
  · rintro i s past length - ih _ ⟨⟩ key entry hentry
    exact (ih ⟨i, s⟩ rfl key entry hentry).cons _
  · rintro i s s' past moment - ih - hserved _ ⟨⟩ key entry hentry
    obtain hold | ⟨token, a, hheld, hkey, hvalue, hexpires⟩ :=
      hserved.entry_cases (s := s.atMoment moment) hentry
    · exact (ih ⟨i, s⟩ rfl key entry hold).cons _
    · exact ⟨token, a, ⟨i, s⟩, List.mem_cons_of_mem _ List.mem_cons_self, hheld, hkey, hvalue,
        hexpires⟩

theorem applicationKey_inj {token token' : String}
    (h : Cache.applicationKey token = Cache.applicationKey token') : token = token' := by
  have hlist := congrArg String.toList h
  unfold Cache.applicationKey at hlist
  rw [String.toList_append, String.toList_append] at hlist
  exact String.toList_inj.mp (List.append_cancel_left hlist)

theorem after?_eq_some {length : Duration} {later : Instant} (h : i.after? length = some later) :
    i.after length = later := by
  unfold Instant.after? at h
  split at h
  · exact Option.some.inj h
  · contradiction

/-- **What is still cached was stored under that token less than a lifetime ago.** -/
theorem Run.stillCached (h : Run config (⟨i, s⟩ :: past))
    (hcached : stillCached i token s.cache = some a) :
    ∃ p ∈ (⟨i, s⟩ :: past : List Point), Held p.state.store token a ∧
      (i.since p.instant).nanos < config.applicationLifetime.nanos := by
  obtain ⟨text, hlive, hdecode⟩ := Option.bind_eq_some_iff.mp hcached
  unfold Cache.Memory.live? at hlive
  cases hentry : Keyed.get? (Cache.applicationKey token) s.cache with
  | none => rw [hentry] at hlive; contradiction
  | some entry =>
      rw [hentry] at hlive
      obtain ⟨token', b, p, hp, hheld, hkey, hvalue, hexpires⟩ := h.fromStore hentry
      obtain rfl : token = token' := applicationKey_inj hkey
      have hlt : i < entry.expires := by
        dsimp only at hlive
        split at hlive
        · assumption
        · contradiction
      simp only [if_pos hlt, Option.some.injEq] at hlive
      have hread := decode?_encode (h.writable p hp token b hheld)
      rw [← hlive, hvalue, hread] at hdecode
      obtain rfl := Option.some.inj hdecode
      refine ⟨p, hp, hheld, ?_⟩
      have hle : p.instant.nanos ≤ i.nanos := h.instant_le p hp
      have hafter : i.nanos < p.instant.nanos + config.applicationLifetime.nanos := by
        rw [← after?_eq_some hexpires] at hlt
        exact hlt
      show i.nanos - p.instant.nanos < _
      omega

/-! ## lookups -/

/-- What may be told about an application: what it was created with, and what the store had about
it now or less than a lifetime ago. -/
structure Told (config : Config) (i : Instant) (s : State) (past : List Point) (token : String)
    (a : Application) : Prop where
  answers : a.token = token
  origin : ∃ created, Created (⟨i, s⟩ :: past) token created ∧ SameOrigin a created
  recent : Held s.store token a ∨ ∃ p ∈ past, Held p.state.store token a ∧
    (i.since p.instant).nanos < config.applicationLifetime.nanos

theorem Run.told (h : Run config (⟨i, s⟩ :: past)) {p : Point}
    (hp : p ∈ (⟨i, s⟩ :: past : List Point)) (hheld : Held p.state.store token a)
    (hrecent : p = ⟨i, s⟩ ∨ (i.since p.instant).nanos < config.applicationLifetime.nanos) :
    Told config i s past token a := by
  obtain ⟨b, hb, horigin⟩ := h.held hp hheld
  obtain ⟨created, hcreated, horigin'⟩ := h.created hb
  have hsame : SameOrigin a created := horigin.symm.trans horigin'
  refine ⟨hsame.1.trans hcreated.token_eq, ⟨created, hcreated, hsame⟩, ?_⟩
  obtain rfl | hpast := List.mem_cons.mp hp
  · exact .inl hheld
  · obtain rfl | hrecent := hrecent
    · exact .inl hheld
    · exact .inr ⟨p, hpast, hheld, hrecent⟩

/-- A lookup of an application ends with it, exactly if there is one. -/
theorem Run.getApplication (h : Run config (⟨i, s⟩ :: past)) (token : String) (moment : Moment)
    (hlifetime : i.after? config.applicationLifetime ≠ none) :
    ∃ s', s'.store = s.store ∧
      ((∀ a, ¬ Held s.store token a) ∧
          (InMemory.getApplication config token).run i (s.atMoment moment) =
            .answered i s' (.error (.ofStoreError (.applicationNotFound token))) ∨
        ∃ a, (∃ b, Held s.store token b) ∧ Told config i s past token a ∧
          (InMemory.getApplication config token).run i (s.atMoment moment) =
            .answered i s' (.ok a)) := by
  have hrun : (InMemory.getApplication config token).run i (s.atMoment moment) = _ :=
    run_getApplication token
  cases hcached : InMemory.stillCached i token s.cache with
  | some a =>
      have hcached' : InMemory.stillCached i token (s.atMoment moment).cache = some a := hcached
      rw [hcached'] at hrun
      obtain ⟨p, hp, hheld, hrecent⟩ := h.stillCached hcached
      refine ⟨(s.atMoment moment).afterLookup i token, rfl, .inr ⟨a, ?_, ?_, hrun⟩⟩
      · exact (h.held hp hheld).imp fun _ => And.left
      · exact h.told hp hheld (.inr hrecent)
  | none =>
      have hcached' : InMemory.stillCached i token (s.atMoment moment).cache = none := hcached
      rw [hcached'] at hrun
      cases hlookup : s.store.lookupApplication token with
      | error e =>
          have hlookup' : (s.atMoment moment).store.lookupApplication token = .error e := hlookup
          obtain ⟨hnone, rfl⟩ := ChatService.Memory.lookupApplication_eq_error.mp hlookup
          rw [hlookup'] at hrun
          refine ⟨(s.atMoment moment).afterLookup i token, rfl, .inl ⟨?_, hrun⟩⟩
          rintro a ⟨found, hfound, -⟩
          rw [hnone] at hfound
          contradiction
      | ok found =>
          have hlookup' : (s.atMoment moment).store.lookupApplication token = .ok found := hlookup
          have hheld : Held s.store token found.application :=
            ⟨found, ChatService.Memory.lookupApplication_eq_ok.mp hlookup, rfl⟩
          obtain ⟨expires, hexpires⟩ := Option.ne_none_iff_exists'.mp hlifetime
          rw [hlookup'] at hrun
          simp only [hexpires] at hrun
          have htold := h.told List.mem_cons_self hheld (.inl rfl)
          refine ⟨_, ?_, .inr ⟨_, ⟨_, hheld⟩, htold, hrun⟩⟩
          rfl

/-- What is told about an application can be written, the moments included. -/
theorem Told.writable (h : Told config i s past token a) (hrun : Run config (⟨i, s⟩ :: past)) :
    a.IsWritable := by
  obtain hheld | ⟨p, hp, hheld, -⟩ := h.recent
  · exact hrun.writable _ List.mem_cons_self token a hheld
  · exact hrun.writable p (List.mem_cons_of_mem _ hp) token a hheld

/-- **A lookup is exact about what exists, and what it tells is younger than a lifetime.**  After
any run, `GET` of an application is answered with 404 exactly if the store has no application under
the token; otherwise with what the application was created with, and with what the store had about
it now or less than a lifetime ago.  The moments are told by texts that are read back as them. -/
theorem Run.lookup_exact (h : Run config (⟨i, s⟩ :: past))
    (htime : config.requestTimeout ≠ .zero)
    (hlifetime : i.after? config.applicationLifetime ≠ none) (moment : Moment) {r : Request}
    {raw : String} (hmethod : r.method = "GET")
    (hroute : Route.ofPath? r.target.path = some (.application raw))
    (htoken : tokenOf raw = .ok token) :
    ∃ s' response,
      ((service config).respond r).run i (s.atMoment moment) = .answered i s' response ∧
        s'.store = s.store ∧
        (response.status = 404 ↔ ∀ a, ¬ Held s.store token a) ∧
        ((∃ b, Held s.store token b) → ∃ a, Told config i s past token a ∧
          response.status = 200 ∧
          response.headers = ("content-type", "application/json") :: config.cors.headers r ∧
          response.body = some (.object
            [("token", .text a.token), ("name", .text a.name), ("chats_count", .int a.chatsCount),
              ("created_at", .text a.createdAt.render),
              ("updated_at", .text a.updatedAt.render)]) ∧
          Timestamp.parse? a.createdAt.render = some a.createdAt ∧
          Timestamp.parse? a.updatedAt.render = some a.updatedAt) := by
  obtain ⟨s', hstore, hanswer⟩ := h.getApplication token moment hlifetime
  rw [run_respond_get htime hmethod hroute]
  have hget : ((service config).get r (.application raw)).run i (s.atMoment moment) =
      (ending ((service config).findApplication raw) i (s.atMoment moment)).bind
        fun i s answer => .answered i s (responseOf answer) := run_finish _
  rw [hget, ending_findApplication, htoken]
  dsimp only
  obtain ⟨hnone, hrun⟩ | ⟨a, hsome, htold, hrun⟩ := hanswer
  · rw [hrun]
    refine ⟨s', _, rfl, hstore, ⟨fun _ => hnone, fun _ => rfl⟩, ?_⟩
    rintro ⟨b, hb⟩
    exact absurd hb (hnone b)
  · rw [hrun]
    refine ⟨s', _, rfl, hstore, ⟨fun h404 => ?_, fun hnone => ?_⟩, fun _ => ?_⟩
    · exact absurd h404 (show ¬ 200 = 404 by decide)
    · obtain ⟨b, hb⟩ := hsome
      exact absurd hb (hnone b)
    · have hwritable := htold.writable h
      exact ⟨a, htold, rfl, rfl, rfl, Timestamp.parse?_render hwritable.createdAt,
        Timestamp.parse?_render hwritable.updatedAt⟩

/-- An application is created and looked up, and then a chat is added to it. -/
def growth : List Request :=
  [post "/applications" "[[\"a\"]]", ⟨"GET", .ofUri "/applications/t", [], []⟩,
    post "/applications/t/chats" ""]

/-- The store counts the new chat, and the application without it is still cached. -/
def Grown (p : Point) : Prop :=
  p.instant = ⟨0⟩ ∧
    (p.state.store.lookupApplication "t").toOption.map (·.application.chatsCount) = some 1 ∧
    (stillCached ⟨0⟩ "t" p.state.cache).map (·.chatsCount) = some 0

instance (p : Point) : Decidable (Grown p) := by unfold Grown; infer_instance

theorem grown_through_growth :
    ∃ p, beginning.through {} ⟨.epoch, "t"⟩ growth = some p ∧ Grown p := by
  have hgrowth : (beginning.through {} ⟨.epoch, "t"⟩ growth).any (fun p => decide (Grown p)) =
      true := by decide +kernel
  cases hp : beginning.through {} ⟨.epoch, "t"⟩ growth with
  | none => rw [hp] at hgrowth; exact absurd hgrowth Bool.false_ne_true
  | some p => exact ⟨p, rfl, by simpa [hp] using hgrowth⟩

/-- The application is found although its cached form is out of date. -/
theorem lookup_grown :
    ∃ p past a s' response, beginning.through {} ⟨.epoch, "t"⟩ growth = some p ∧ Grown p ∧
      Told {} p.instant p.state past "t" a ∧
      ((service {}).respond ⟨"GET", .ofUri "/applications/t", [], []⟩).run p.instant
          (p.state.atMoment ⟨.epoch, "t"⟩) = .answered p.instant s' response ∧
      response.status = 200 ∧
      response.body = some (.object
        [("token", .text "t"), ("name", .text a.name), ("chats_count", .int a.chatsCount),
          ("created_at", .text a.createdAt.render), ("updated_at", .text a.updatedAt.render)]) := by
  obtain ⟨p, hp, hgrown⟩ := grown_through_growth
  have hstart : Run {} [beginning] := .start ⟨0⟩ ⟨.epoch, "t"⟩
  have hnow : Timestamp.epoch.IsValid := by decide +kernel
  obtain ⟨past, hrun⟩ : ∃ past, Run {} (p :: past) := hstart.through hnow hp
  have htime : ({} : Config).requestTimeout ≠ .zero := by decide
  have hlifetime : p.instant.after? ({} : Config).applicationLifetime ≠ none := by
    rw [hgrown.1]
    decide
  have hroute : Route.ofPath? (Target.ofUri "/applications/t").path = some (.application "t") := by
    decide +kernel
  have htoken : tokenOf "t" = .ok "t" := rfl
  obtain ⟨s', response, hanswer, -, -, hfound⟩ := hrun.lookup_exact htime hlifetime ⟨.epoch, "t"⟩
    (r := ⟨"GET", .ofUri "/applications/t", [], []⟩) rfl hroute htoken
  have hheld : ∃ b, Held p.state.store "t" b := by
    have hcount := hgrown.2.1
    cases hlookup : p.state.store.lookupApplication "t" with
    | error e => rw [hlookup] at hcount; exact absurd hcount (by simp [Except.toOption])
    | ok found =>
        exact ⟨_, found, ChatService.Memory.lookupApplication_eq_ok.mp hlookup, rfl⟩
  obtain ⟨a, htold, hstatus, -, hbody, -⟩ := hfound hheld
  rw [htold.answers] at hbody
  exact ⟨p, past, a, s', response, hp, hgrown, htold, hanswer, hstatus, hbody⟩

end ChatService.Http.InMemory
