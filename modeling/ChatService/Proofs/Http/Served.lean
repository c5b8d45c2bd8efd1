import ChatService.Proofs.Cache.Memory
import ChatService.Proofs.Http.Handling
import ChatService.Proofs.Memory.Growth

/-!
# What a request does

Whatever its path, its method and its body, a request does one of a few things to the service in
memory: it leaves everything as it is, drops an expired entry of the cache, puts an application into
the cache, adds an application or a chat to the store, or adds a message to the store and its
document to the index.  `Served` lists them, and `run_respond_served` shows that no request ever
does anything else, so a property of every run is proved from this list alone.
-/

namespace ChatService.Http.InMemory

open Work (Ending)
open ChatService.Memory (Plants Posts LinkedAt)

variable {config : Config} {i : Instant} {s s' : State}

/-- Everything that a request does at a moment. -/
inductive Served (config : Config) (i : Instant) (s : State) : State → Prop where
  | kept : Served config i s s
  | dropped (key : String) :
      Served config i s (s.setCache (Cache.Memory.removeExpired i key s.cache))
  | cached {token : String} {found : ChatService.Memory.ApplicationRecord} {expires : Instant}
      (hfound : Keyed.get? token s.store.applications = some found)
      (hexpires : i.after? config.applicationLifetime = some expires) :
      Served config i s <| s.setCache <|
        Keyed.put (Cache.applicationKey token)
          ⟨applicationCodec.encode found.application, expires⟩
          (Cache.Memory.removeExpired i (Cache.applicationKey token) s.cache)
  | planted {store : ChatService.Memory.State} (h : Plants s.moment s.store store) :
      Served config i s { s with store }
  | wasted : Served config i s { s with store := s.store.takeId }
  | posted {token : String} {number next count : Int} {record : Nat}
      {chat : ChatService.Memory.ChatRecord} {body : String}
      (hlink : LinkedAt s.store token number record)
      (hchat : Keyed.get? record s.store.chats = some chat)
      (hnumber : Store.nextAfter chat.chat.lastMessageNumber = .ok next)
      (hcount : (Store.CounterUpdate.increment .messages).apply chat.chat.messagesCount =
        .ok count) :
      Served config i s
        { s with
          store := s.store.post s.moment record chat.chat next count body
          index :=
            Search.Memory.add
              (.ofMessage token number
                (ChatService.Memory.newMessage s.moment (s.store.ids + 1) chat.chat next body))
              s.index }

/-- An ending that a request may have. -/
abbrev Serves {α : Type} (config : Config) (i : Instant) (s : State) (e : Ending State α) : Prop :=
  e.Meets fun i' s' _ => i' = i ∧ Served config i s s'

/-! ## an application through the cache -/

theorem isPart_cache : Work.IsPart State.cache State.setCache :=
  ⟨fun _ _ => rfl, fun _ => rfl, fun _ _ _ => rfl⟩

/-- The application that the cache has under a token and that has not expired. -/
def stillCached (i : Instant) (token : String) (cache : Cache.Memory.State) :
    Option Store.Application :=
  (Cache.Memory.live? i (Cache.applicationKey token) cache).bind applicationCodec.decode?

/-- The state that a look at the cache leaves. -/
def State.afterLookup (i : Instant) (token : String) (s : State) : State :=
  s.setCache (Cache.Memory.removeExpired i (Cache.applicationKey token) s.cache)

/-- The application with a token, out of the cache or the store. -/
def getApplication (config : Config) (token : String) :
    Work State (Except Error Store.Application) :=
  (service config).applications.getOrLoad Error.ofCacheError applicationCodec
    (Cache.applicationKey token) config.applicationLifetime
    ((service config).ask (.findApplication token)).run

/-- Looks into the cache, then into the store, and then puts into the cache what the store has. -/
theorem run_getApplication (token : String) :
    (getApplication config token).run i s =
      match stillCached i token s.cache with
      | some a => .answered i (s.afterLookup i token) (.ok a)
      | none =>
        match s.store.lookupApplication token with
        | .error e => .answered i (s.afterLookup i token) (.error (.ofStoreError e))
        | .ok found =>
          match i.after? config.applicationLifetime with
          | none => .stopped
          | some expires =>
            .answered i
              ((s.afterLookup i token).setCache <|
                Keyed.put (Cache.applicationKey token)
                  ⟨applicationCodec.encode found.application, expires⟩
                  (s.afterLookup i token).cache)
              (.ok found.application) := by
  have hload : ((service config).ask (.findApplication token)).run.run i (s.afterLookup i token) =
      .answered i (s.afterLookup i token)
        (((s.store.lookupApplication token).map (·.application)).mapError .ofStoreError) := by
    refine (ending_ask config (.findApplication token)).trans ?_
    rw [perform_of_isRead (by trivial), ChatService.Memory.perform_findApplication]
    rfl
  refine (Cache.Memory.run_getOrLoad isPart_cache Error.ofCacheError applicationCodec _).trans ?_
  rw [← stillCached, ← State.afterLookup, hload]
  cases stillCached i token s.cache with
  | some a => rfl
  | none =>
      cases s.store.lookupApplication token with
      | error e => rfl
      | ok found => rfl

theorem isImmediate_getApplication (token : String) :
    (getApplication config token).IsImmediate :=
  Cache.Memory.isImmediate_getOrLoad State.cache State.setCache (isImmediate_ask config _)

theorem ending_findApplication (raw : String) :
    ending ((service config).findApplication raw) i s =
      match tokenOf raw with
      | .error e => .answered i s (.error e)
      | .ok token =>
        ((getApplication config token).run i s).bind <|
          onward fun i s a => .answered i s (.ok (.json 200 (applicationJson a))) := by
  refine (ending_bind _ _).trans ?_
  rw [ending_require, Ending.bind_answered]
  cases tokenOf raw with
  | error e => rfl
  | ok token => exact ending_bind (getApplication config token) _

/-! ## the index -/

theorem ending_indexMessage (token : String) (number : Int) (message : Store.Message) :
    ending ((service config).indexMessage token number message) i s =
      .answered i (s.setIndex (Search.Memory.add (.ofMessage token number message) s.index))
        (.ok ()) := rfl

/-- The answer of a search for a page of hits. -/
def pageOfHits (token : String) (number : Int) (text : String) (page : Page.Request)
    (index : Search.Memory.State) : Except SearchError (Page.Hits Search.Document) :=
  (Search.Query.ofPage token number text page).map fun query =>
    let found := Search.Memory.search query index
    ⟨found.total, found.documents, page.page, page.perPage⟩

theorem run_searchPage (token : String) (number : Int) (text : String) (page : Page.Request) :
    (Search.searchPage (service config).backends.index token number text page).run i s =
      .answered i s (pageOfHits token number text page s.index) := by
  unfold Search.searchPage pageOfHits
  cases Search.Query.ofPage token number text page with
  | error e => rfl
  | ok query => rfl

theorem isImmediate_searchPage (token : String) (number : Int) (text : String)
    (page : Page.Request) :
    (Search.searchPage (service config).backends.index token number text page).IsImmediate := by
  unfold Search.searchPage
  cases Search.Query.ofPage token number text page with
  | error e => trivial
  | ok query => exact fun _ _ => trivial

/-! ## handlers -/

/-- Work that never waits and does what a request may do. -/
def Serving {α : Type} (config : Config) (work : Work State α) : Prop :=
  work.IsImmediate ∧
    ∀ i s, ChatService.Memory.Linkage s.store → Serves config i s (work.run i s)

section Handlers

variable {α β : Type} {f : α → Handling State β}

theorem serving_pure (a : α) : Serving config (pure a : Handling State α).run :=
  ⟨trivial, fun _ _ _ => ⟨rfl, .kept⟩⟩

theorem serving_require {part : Except Error α} (h : ∀ a, Serving config (f a).run) :
    Serving config (Service.require part >>= f).run := by
  refine ⟨isImmediate_handling_bind trivial fun a => (h a).1, fun i s hlinkage => ?_⟩
  show Serves config i s (ending (Service.require part >>= f) i s)
  rw [ending_bind, ending_require, Ending.bind_answered]
  cases part with
  | error e => exact ⟨rfl, .kept⟩
  | ok a => exact (h a).2 i s hlinkage

/-- An operation that reads, and what follows it. -/
theorem serving_read {operation : Store.Operation α} (hread : ChatService.Memory.IsRead operation)
    (h : ∀ a, Serving config (f a).run) :
    Serving config ((service config).ask operation >>= f).run := by
  refine ⟨isImmediate_handling_bind (isImmediate_ask config operation) fun a => (h a).1,
    fun i s hlinkage => ?_⟩
  show Serves config i s (ending ((service config).ask operation >>= f) i s)
  rw [ending_bind, ending_ask, Ending.bind_answered, perform_of_isRead hread]
  cases (ChatService.Memory.perform s.moment operation s.store).2 with
  | error e => exact ⟨rfl, .kept⟩
  | ok a => exact (h a).2 i s hlinkage

/-- Work that changes nothing, and what follows it. -/
theorem serving_look {work : Work State α} (himmediate : work.IsImmediate)
    (hlook : ∀ i s, ∃ a, work.run i s = .answered i s a) (h : ∀ a, Serving config (f a).run) :
    Serving config (ExceptT.lift work >>= f).run := by
  refine ⟨isImmediate_handling_bind (isImmediate_lift himmediate) fun a => (h a).1,
    fun i s hlinkage => ?_⟩
  obtain ⟨a, ha⟩ := hlook i s
  show Serves config i s (ending (ExceptT.lift work >>= f) i s)
  rw [ending_bind, ending_lift, ha, Ending.bind_answered, Ending.bind_answered]
  exact (h a).2 i s hlinkage

/-- The creation of an application or a chat is all that its request does. -/
theorem serving_create {operation : Store.Operation α} {g : α → β}
    (hplants : ∀ m s, Plants m s (ChatService.Memory.perform m operation s).1) :
    Serving config ((service config).ask operation >>= fun a => pure (g a)).run := by
  refine ⟨isImmediate_handling_bind (isImmediate_ask config operation) fun _ => trivial,
    fun i s _ => ?_⟩
  show Serves config i s (ending ((service config).ask operation >>= fun a => pure (g a)) i s)
  rw [ending_bind, ending_ask, Ending.bind_answered]
  cases (s.perform operation).2 with
  | error e => exact ⟨rfl, .planted (hplants s.moment s.store)⟩
  | ok a => exact ⟨rfl, .planted (hplants s.moment s.store)⟩

theorem serving_createApplication (r : Request) :
    Serving config ((service config).createApplication r).run :=
  serving_require fun name => serving_create fun _ _ =>
    ChatService.Memory.plants_createApplication name

theorem serving_createChat (raw : String) : Serving config ((service config).createChat raw).run :=
  serving_require fun token => serving_create fun _ _ =>
    ChatService.Memory.plants_createChat token

theorem serving_listApplications (r : Request) :
    Serving config ((service config).listApplications r).run :=
  serving_require fun _ => serving_read trivial fun _ => serving_read trivial fun _ =>
    serving_pure _

theorem serving_listChats (raw : String) (r : Request) :
    Serving config ((service config).listChats raw r).run :=
  serving_require fun _ => serving_require fun _ => serving_read trivial fun _ =>
    serving_read trivial fun _ => serving_pure _

theorem serving_listMessages (raw rawNumber : String) (r : Request) :
    Serving config ((service config).listMessages raw rawNumber r).run :=
  serving_require fun (_, _) => serving_require fun _ => serving_read trivial fun _ =>
    serving_read trivial fun _ => serving_pure _

theorem serving_findApplication (raw : String) :
    Serving config ((service config).findApplication raw).run := by
  refine ⟨isImmediate_handling_bind trivial fun token =>
    isImmediate_handling_bind (isImmediate_getApplication token) fun _ => trivial, fun i s _ => ?_⟩
  show Serves config i s (ending ((service config).findApplication raw) i s)
  rw [ending_findApplication]
  cases tokenOf raw with
  | error e => exact ⟨rfl, .kept⟩
  | ok token =>
      simp only [run_getApplication]
      cases stillCached i token s.cache with
      | some a => exact ⟨rfl, .dropped _⟩
      | none =>
          cases hfound : s.store.lookupApplication token with
          | error e => exact ⟨rfl, .dropped _⟩
          | ok found =>
              cases hexpires : i.after? config.applicationLifetime with
              | none => trivial
              | some expires =>
                  exact ⟨rfl,
                    .cached (ChatService.Memory.lookupApplication_eq_ok.mp hfound) hexpires⟩

/-- A stored message is added to the index in the same request. -/
theorem serving_createMessage (raw rawNumber : String) (r : Request) :
    Serving config ((service config).createMessage raw rawNumber r).run := by
  refine serving_require fun (token, number) => serving_require fun body => ?_
  refine ⟨isImmediate_handling_bind (isImmediate_ask config _) fun _ =>
    isImmediate_handling_bind (fun _ _ => trivial) fun _ => trivial, fun i s hlinkage => ?_⟩
  have hposts := hlinkage.connected.posts_createMessage (m := s.moment) token number body
  refine (congrArg (Serves config i s) (ending_bind _ _)).mpr ?_
  rw [ending_ask, Ending.bind_answered, perform_eq]
  generalize ChatService.Memory.perform s.moment (.createMessage token number body) s.store =
    outcome at hposts ⊢
  cases hposts with
  | nothing e => exact ⟨rfl, .kept⟩
  | waste e => exact ⟨rfl, .wasted⟩
  | message hlink hchat hnumber hcount => exact ⟨rfl, .posted hlink hchat hnumber hcount⟩

theorem serving_searchMessages (raw rawNumber : String) (r : Request) :
    Serving config ((service config).searchMessages raw rawNumber r).run :=
  serving_require fun (_, _) => serving_require fun _ => serving_read trivial fun _ =>
    serving_look (isImmediate_searchPage _ _ _ _) (fun _ _ => ⟨_, run_searchPage _ _ _ _⟩) fun _ =>
      serving_require fun _ => serving_pure _

theorem serving_health : Serving config (service config).health :=
  ⟨fun _ _ _ _ => trivial, fun _ _ _ => ⟨rfl, .kept⟩⟩

end Handlers

/-! ## every request -/

theorem Serving.bind_done {α β : Type} {work : Work State α} {f : α → Work State β} {g : α → β}
    (h : Serving config work) (hf : ∀ a, f a = .done (g a)) : Serving config (work.bind f) := by
  refine ⟨Work.isImmediate_bind h.1 fun a => hf a ▸ trivial, fun i s hlinkage => ?_⟩
  rw [Work.run_bind_eq]
  refine Ending.meets_bind.mpr ((h.2 i s hlinkage).mono fun i' s' a hserved => ?_)
  rw [hf a]
  exact hserved

theorem serving_done {α : Type} (a : α) : Serving config (.done a : Work State α) :=
  ⟨trivial, fun _ _ _ => ⟨rfl, .kept⟩⟩

theorem serving_finish {handling : Handling State Response} (h : Serving config handling.run) :
    Serving config (Service.finish handling) :=
  h.bind_done (g := responseOf) fun
    | .ok _ => rfl
    | .error _ => rfl

theorem serving_get (r : Request) (route : Route) :
    Serving config ((service config).get r route) := by
  cases route with
  | health => exact serving_health
  | applications => exact serving_finish (serving_listApplications r)
  | application token => exact serving_finish (serving_findApplication token)
  | chats token => exact serving_finish (serving_listChats token r)
  | messages token number => exact serving_finish (serving_listMessages token number r)
  | search token number => exact serving_finish (serving_searchMessages token number r)

theorem serving_post (r : Request) (route : Route) :
    Serving config (((service config).post? r route).getD (pure (.empty 405))) := by
  cases route with
  | health => exact serving_done _
  | applications => exact serving_finish (serving_createApplication r)
  | application token => exact serving_done _
  | chats token => exact serving_finish (serving_createChat token)
  | messages token number => exact serving_finish (serving_createMessage token number r)
  | search token number => exact serving_done _

theorem serving_answer (r : Request) (route : Route) :
    Serving config ((service config).answer r route) := by
  unfold Service.answer
  split
  · exact serving_get r route
  · exact serving_get r route
  · exact serving_post r route
  · exact serving_done _

/-- A request that is given no time does nothing. -/
theorem Serving.timed {work : Work State Response} (h : Serving config work) :
    Serving config ((service config).timed work) := by
  refine ⟨Work.isImmediate_bind (Work.isImmediate_before h.1) fun _ => trivial,
    fun i s hlinkage => ?_⟩
  rw [run_timed (service config) h.1]
  split
  · exact ⟨rfl, .kept⟩
  · exact h.2 i s hlinkage

theorem Serving.layered {work : Work State Response} (h : Serving config work) (r : Request) :
    Serving config ((service config).layered r work) := by
  unfold Service.layered
  split
  · exact serving_done _
  · exact h.timed.bind_done fun _ => rfl

theorem serving_respond (r : Request) : Serving config ((service config).respond r) := by
  unfold Service.respond
  split
  · next route _ => exact ((serving_answer r route).layered r).bind_done fun _ => rfl
  · exact (serving_done _).layered r

/-- The response to a request that is given time, where the route knows its method. -/
theorem run_respond (htime : config.requestTimeout ≠ .zero) {r : Request} {route : Route}
    (hmethod : r.method ∈ route.methods) (hhead : r.method ≠ "HEAD")
    (hroute : Route.ofPath? r.target.path = some route) :
    ((service config).respond r).run i s =
      (((service config).answer r route).run i s).bind fun i s response =>
        .answered i s (response.withHeaders (config.cors.headers r)) := by
  have hoptions : r.method ≠ "OPTIONS" := fun heq => by
    cases route <;> simp [Route.methods, heq] at hmethod
  have hdress : ∀ response, Service.dress r route response = response := fun response => by
    simp [Service.dress, hhead, hmethod]
  unfold Service.respond
  rw [hroute]
  refine (Work.run_bind_eq _ _).trans ?_
  rw [run_layered _ hoptions htime (serving_answer r route).1]
  simp only [hdress]
  cases ((service config).answer r route).run i s <;> rfl

/-- The response to a `GET` request that is given time. -/
theorem run_respond_get (htime : config.requestTimeout ≠ .zero) {r : Request} {route : Route}
    (hmethod : r.method = "GET") (hroute : Route.ofPath? r.target.path = some route) :
    ((service config).respond r).run i s =
      (((service config).get r route).run i s).bind fun i s response =>
        .answered i s (response.withHeaders (config.cors.headers r)) := by
  have hknown : r.method ∈ route.methods := by
    cases route <;> simp [Route.methods, hmethod]
  have hanswer : (service config).answer r route = (service config).get r route := by
    simp only [Service.answer, hmethod]
  rw [run_respond htime hknown (by rw [hmethod]; decide) hroute, hanswer]

/-- **No request does anything else**, whether it is answered in time or not. -/
theorem run_respond_served (hlinkage : ChatService.Memory.Linkage s.store) {r : Request}
    {i' : Instant} {response : Response}
    (h : ((service config).respond r).run i s = .answered i' s' response) :
    i' = i ∧ Served config i s s' := by
  have hserves : Serves config i s (((service config).respond r).run i s) :=
    (serving_respond r).2 i s hlinkage
  rwa [h] at hserves

end ChatService.Http.InMemory
