import ChatService.Http.InMemory
import ChatService.Proofs.InStep

/-!
# What clients are not told

The texts of failures inside the store, of failures of the cache and of failures of the index never
reach a client.  Two services whose backends answer alike, up to these texts, are in step in all
that they do, so they give the same responses to the same requests.  Every function between the
backends and the response is followed once: an error that it passes on is either known to be the
same on both sides, or is about to be told as one fixed text.
-/

namespace ChatService

open Work (Ending alike_done)

variable {σ τ α β ε : Type} {R : σ → τ → Prop}

/-! ## answers and backends that are alike -/

/-- The same value, or errors of which all that matters is the same. -/
inductive AnswersAlike (E : ε → ε → Prop) : Except ε α → Except ε α → Prop where
  | ok (a : α) : AnswersAlike E (.ok a) (.ok a)
  | error {e e' : ε} (h : E e e') : AnswersAlike E (.error e) (.error e')

/-- The same value, or any two errors. -/
abbrev SameValue : Except ε α → Except ε α → Prop := AnswersAlike fun _ _ => True

/-- Failures inside the store, of which clients are told nothing. -/
def StoreError.IsInside : StoreError → Prop
  | database _ | encoding _ | decoding _ | connection _ | internal _ => True
  | applicationNotFound _ | chatNotFound _ _ | validation _ | writeConflict _
  | constraintViolation _ => False

/-- The same failure of a store, or two failures inside it. -/
inductive StoreError.Alike : StoreError → StoreError → Prop where
  | same (e : StoreError) : Alike e e
  | inside {e e' : StoreError} (h : e.IsInside) (h' : e'.IsInside) : Alike e e'

/-- Caches that answer every call alike, up to what their errors say. -/
structure Cache.Store.Alike (R : σ → τ → Prop) (store : Cache.Store σ) (store' : Cache.Store τ) :
    Prop where
  get : ∀ key, Work.Alike R SameValue (store.get key) (store'.get key)
  set : ∀ key value lifetime,
    Work.Alike R SameValue (store.set key value lifetime) (store'.set key value lifetime)
  ping : Work.Alike R SameValue store.ping store'.ping
  name : store.name = store'.name

/-- Indexes that answer every call alike, up to what their errors say. -/
structure Search.Index.Alike (R : σ → τ → Prop) (index : Search.Index (Work σ))
    (index' : Search.Index (Work τ)) : Prop where
  search : ∀ query, Work.Alike R SameValue (index.search query) (index'.search query)
  add : ∀ document, Work.Alike R SameValue (index.add document) (index'.add document)
  health : Work.Alike R SameValue index.health index'.health
  name : index.name = index'.name

/-- Backends that answer every call alike, at the same pace and with related states in between, up
to what failures inside the store, failures of the cache and failures of the index say. -/
structure Http.Backends.Alike (R : σ → τ → Prop) (backends : Http.Backends σ)
    (backends' : Http.Backends τ) : Prop where
  store : ∀ {α : Type} (operation : Store.Operation α),
    Work.Alike R (AnswersAlike StoreError.Alike) (backends.store operation)
      (backends'.store operation)
  cache : backends.cache.Alike R backends'.cache
  index : backends.index.Alike R backends'.index

theorem AnswersAlike.map {E : ε → ε → Prop} {answer answer' : Except ε α}
    (h : AnswersAlike E answer answer') (f : α → β) :
    AnswersAlike E (answer.map f) (answer'.map f) := by
  cases h with
  | ok a => exact .ok (f a)
  | error h => exact .error h

theorem AnswersAlike.mapError {ε' : Type} {E : ε → ε → Prop} {E' : ε' → ε' → Prop} {f : ε → ε'}
    {answer answer' : Except ε α} (h : AnswersAlike E answer answer')
    (hf : ∀ e e', E e e' → E' (f e) (f e')) :
    AnswersAlike E' (answer.mapError f) (answer'.mapError f) := by
  cases h with
  | ok a => exact .ok a
  | error h => exact .error (hf _ _ h)

/-! ## through the cache -/

namespace Cache.EntityCache

variable {store : Cache.Store σ} {store' : Cache.Store τ} (h : store.Alike R store')
  (config : Cache.Config)

theorem alike_bounded {reply : Reply σ α} {reply' : Reply τ α}
    (h : Work.Alike R SameValue reply reply') :
    Work.Alike R SameValue (bounded ⟨store, config⟩ reply) (bounded ⟨store', config⟩ reply') := by
  refine (h.bounded config.timeout).bind fun answer answer' hanswers => ?_
  cases hanswers with
  | late => exact alike_done (.error trivial)
  | answered hanswers => exact alike_done hanswers

/-- Where the cache fails open, no failure is passed on, and else any failure is. -/
theorem degrade_alike (e e' : CacheError) :
    SameValue (degrade ⟨store, config⟩ e) (degrade ⟨store', config⟩ e') := by
  unfold degrade
  split
  · exact .ok ()
  · exact .error trivial

include h

theorem alike_lookup (decode? : String → Option α) (key : String) :
    Work.Alike R SameValue (lookup ⟨store, config⟩ decode? key)
      (lookup ⟨store', config⟩ decode? key) := by
  refine (alike_bounded config (h.get key)).bind fun answer answer' hanswers => ?_
  cases hanswers with
  | ok found => cases found <;> exact alike_done (.ok _)
  | @error e e' => exact alike_done ((degrade_alike config e e').map _)

theorem alike_keep (key text : String) (lifetime : Duration) :
    Work.Alike R SameValue (keep ⟨store, config⟩ key text lifetime)
      (keep ⟨store', config⟩ key text lifetime) := by
  refine (alike_bounded config (h.set _ _ _)).bind fun answer answer' hanswers => ?_
  cases hanswers with
  | ok => exact alike_done (.ok ())
  | @error e e' => exact alike_done (degrade_alike config e e')

/-- **A value through the cache**: a failure of the cache is passed on or not on both sides. -/
theorem alike_getOrLoad {E : ε → ε → Prop} {ofCacheError : CacheError → ε}
    (herror : ∀ e e', E (ofCacheError e) (ofCacheError e')) (codec : Codec α) (key : String)
    (lifetime : Duration) {load : Work σ (Except ε α)} {load' : Work τ (Except ε α)}
    (hload : Work.Alike R (AnswersAlike E) load load') :
    Work.Alike R (AnswersAlike E)
      (getOrLoad ⟨store, config⟩ ofCacheError codec key lifetime load)
      (getOrLoad ⟨store', config⟩ ofCacheError codec key lifetime load') := by
  refine (alike_lookup h config codec.decode? key).bind fun found found' hfound => ?_
  cases hfound with
  | error => exact alike_done (.error (herror _ _))
  | ok found =>
      cases found with
      | some value => exact alike_done (.ok value)
      | none =>
          refine hload.bind fun loaded loaded' hloaded => ?_
          cases hloaded with
          | error hfailed => exact alike_done (.error hfailed)
          | ok value =>
              refine (alike_keep h config key (codec.encode value) lifetime).bind
                fun kept kept' hkept => ?_
              cases hkept with
              | ok => exact alike_done (.ok value)
              | error => exact alike_done (.error (herror _ _))

theorem alike_health :
    Work.Alike R SameValue (health ⟨store, config⟩) (health ⟨store', config⟩) :=
  alike_bounded config h.ping

end Cache.EntityCache

/-! ## through the search -/

namespace Http

/-- Errors of which clients are told the same. -/
def Error.Alike (e e' : Error) : Prop := errorResponse e = errorResponse e'

theorem alike_ofStoreError {e e' : StoreError} (h : e.Alike e') :
    Error.Alike (.ofStoreError e) (.ofStoreError e') := by
  cases h with
  | same => rfl
  | inside h h' => cases e <;> cases e' <;> first | exact h.elim | exact h'.elim | rfl

theorem alike_ofCacheError (e e' : CacheError) :
    Error.Alike (.ofCacheError e) (.ofCacheError e') := rfl

/-- Errors of a search of which clients are told the same. -/
abbrev SearchAlike (e e' : SearchError) : Prop :=
  Error.Alike (.ofSearchError e) (.ofSearchError e')

/-- A failure of an index, whatever it is, is told as one text. -/
theorem hideFailure_alike {answer answer' : Except SearchError α} (h : SameValue answer answer') :
    AnswersAlike SearchAlike (Search.hideFailure answer) (Search.hideFailure answer') :=
  h.mapError fun _ _ _ => rfl

section Index

variable {index : Search.Index (Work σ)} {index' : Search.Index (Work τ)} (h : index.Alike R index')
include h

theorem alike_searchPage (token : String) (number : Int) (text : String) (page : Page.Request) :
    Work.Alike R (AnswersAlike SearchAlike) (Search.searchPage index token number text page)
      (Search.searchPage index' token number text page) := by
  unfold Search.searchPage
  cases Search.Query.ofPage token number text page with
  | error e => exact alike_done (.error rfl)
  | ok query =>
      exact (h.search query).bind fun _ _ hanswers =>
        alike_done ((hideFailure_alike hanswers).map _)

theorem alike_addDocument (document : Search.Document) :
    Work.Alike R (AnswersAlike SearchAlike) (Search.addDocument index document)
      (Search.addDocument index' document) :=
  (h.add document).bind fun _ _ hanswers => alike_done (hideFailure_alike hanswers)

theorem alike_checkHealth :
    Work.Alike R (AnswersAlike SearchAlike) (Search.checkHealth index)
      (Search.checkHealth index') :=
  h.health.bind fun _ _ hanswers => alike_done (hideFailure_alike hanswers)

end Index

/-! ## steps of a handler -/

/-- Handlings in step that end with the same value, or with errors that are told alike. -/
def Handling.Alike (R : σ → τ → Prop) (handling : Handling σ α) (handling' : Handling τ α) : Prop :=
  Work.Alike R (AnswersAlike Error.Alike) handling.run handling'.run

theorem alike_pure (a : α) : Handling.Alike R (pure a) (pure a) := alike_done (.ok a)

theorem alike_require (part : Except Error α) :
    Handling.Alike R (Service.require part) (Service.require part) := by
  cases part with
  | error e => exact alike_done (.error rfl)
  | ok a => exact alike_done (.ok a)

theorem alike_require_of {part part' : Except Error α} (h : AnswersAlike Error.Alike part part') :
    Handling.Alike R (Service.require part) (Service.require part') :=
  alike_done h

theorem Handling.Alike.bind {handling : Handling σ α} {handling' : Handling τ α}
    {f : α → Handling σ β} {f' : α → Handling τ β} (h : Handling.Alike R handling handling')
    (hnext : ∀ a, Handling.Alike R (f a) (f' a)) :
    Handling.Alike R (handling >>= f) (handling' >>= f') := by
  refine Work.Alike.bind h fun answer answer' hanswers => ?_
  cases hanswers with
  | ok a => exact hnext a
  | error h => exact alike_done (.error h)

/-- A step whose answer is looked at by what follows. -/
theorem alike_lift_bind {Q : α → α → Prop} {work : Work σ α} {work' : Work τ α}
    {f : α → Handling σ β} {f' : α → Handling τ β} (h : Work.Alike R Q work work')
    (hnext : ∀ a a', Q a a' → Handling.Alike R (f a) (f' a')) :
    Handling.Alike R (ExceptT.lift work >>= f) (ExceptT.lift work' >>= f') := by
  have hlift : Work.Alike R (fun a a' => ∃ b b', a = .ok b ∧ a' = .ok b' ∧ Q b b')
      (ExceptT.lift work : Handling σ α).run (ExceptT.lift work' : Handling τ α).run :=
    h.bind fun a a' ha => alike_done ⟨a, a', rfl, rfl, ha⟩
  refine Work.Alike.bind hlift ?_
  rintro _ _ ⟨a, a', rfl, rfl, ha⟩
  exact hnext a a' ha

/-! ## handlers -/

section Service

variable {backends : Backends σ} {backends' : Backends τ} (h : backends.Alike R backends')
  (config : Config)
include h

theorem alike_ask (operation : Store.Operation α) :
    Handling.Alike R (Service.ask ⟨backends, config⟩ operation)
      (Service.ask ⟨backends', config⟩ operation) :=
  (h.store operation).bind fun _ _ hanswers =>
    alike_done (hanswers.mapError fun _ _ => alike_ofStoreError)

theorem alike_createApplication (r : Request) :
    Handling.Alike R (Service.createApplication ⟨backends, config⟩ r)
      (Service.createApplication ⟨backends', config⟩ r) :=
  (alike_require _).bind fun _ => (alike_ask h config _).bind fun _ => alike_pure _

theorem alike_listApplications (r : Request) :
    Handling.Alike R (Service.listApplications ⟨backends, config⟩ r)
      (Service.listApplications ⟨backends', config⟩ r) :=
  (alike_require _).bind fun _ => (alike_ask h config _).bind fun _ =>
    (alike_ask h config _).bind fun _ => alike_pure _

theorem alike_findApplication (token : String) :
    Handling.Alike R (Service.findApplication ⟨backends, config⟩ token)
      (Service.findApplication ⟨backends', config⟩ token) := by
  refine (alike_require _).bind fun token => ?_
  have hfound := Cache.EntityCache.alike_getOrLoad h.cache config.cache alike_ofCacheError
    applicationCodec (Cache.applicationKey token) config.applicationLifetime
    (alike_ask h config (.findApplication token))
  exact Handling.Alike.bind hfound fun _ => alike_pure _

theorem alike_createChat (token : String) :
    Handling.Alike R (Service.createChat ⟨backends, config⟩ token)
      (Service.createChat ⟨backends', config⟩ token) :=
  (alike_require _).bind fun _ => (alike_ask h config _).bind fun _ => alike_pure _

theorem alike_listChats (token : String) (r : Request) :
    Handling.Alike R (Service.listChats ⟨backends, config⟩ token r)
      (Service.listChats ⟨backends', config⟩ token r) :=
  (alike_require _).bind fun _ => (alike_require _).bind fun _ =>
    (alike_ask h config _).bind fun _ => (alike_ask h config _).bind fun _ => alike_pure _

theorem alike_indexMessage (token : String) (number : Int) (message : Store.Message) :
    Handling.Alike R (Service.indexMessage ⟨backends, config⟩ token number message)
      (Service.indexMessage ⟨backends', config⟩ token number message) := by
  have hadded := alike_addDocument h.index (.ofMessage token number message)
  exact (hadded.bind fun _ _ _ => alike_done (Q := Eq) rfl).bind fun _ _ _ => alike_done (.ok ())

theorem alike_createMessage (token number : String) (r : Request) :
    Handling.Alike R (Service.createMessage ⟨backends, config⟩ token number r)
      (Service.createMessage ⟨backends', config⟩ token number r) :=
  (alike_require _).bind fun _ => (alike_require _).bind fun _ =>
    (alike_ask h config _).bind fun _ => (alike_indexMessage h config _ _ _).bind fun _ =>
      alike_pure _

theorem alike_listMessages (token number : String) (r : Request) :
    Handling.Alike R (Service.listMessages ⟨backends, config⟩ token number r)
      (Service.listMessages ⟨backends', config⟩ token number r) :=
  (alike_require _).bind fun _ => (alike_require _).bind fun _ =>
    (alike_ask h config _).bind fun _ => (alike_ask h config _).bind fun _ => alike_pure _

theorem alike_searchMessages (token number : String) (r : Request) :
    Handling.Alike R (Service.searchMessages ⟨backends, config⟩ token number r)
      (Service.searchMessages ⟨backends', config⟩ token number r) := by
  refine (alike_require _).bind fun _ => (alike_require _).bind fun _ =>
    (alike_ask h config _).bind fun _ => ?_
  refine alike_lift_bind (alike_searchPage h.index _ _ _ _) fun answer answer' hanswers => ?_
  exact (alike_require_of (hanswers.mapError fun _ _ hsearch => hsearch)).bind fun _ => alike_pure _

/-- The health of a service says of each backend whether it works, and not what it said. -/
theorem alike_health :
    Work.Alike R Eq (Service.health ⟨backends, config⟩) (Service.health ⟨backends', config⟩) := by
  refine (h.store .ping).bind fun store store' hstore => ?_
  refine (Cache.EntityCache.alike_health h.cache config.cache).bind fun cache cache' hcache => ?_
  refine (alike_checkHealth h.index).bind fun index index' hindex => alike_done ?_
  rw [h.cache.name, h.index.name]
  cases hstore <;> cases hcache <;> cases hindex <;> rfl

/-! ## responses -/

omit h in
theorem Handling.Alike.finish {handling : Handling σ Response} {handling' : Handling τ Response}
    (h : Handling.Alike R handling handling') :
    Work.Alike R Eq (Service.finish handling) (Service.finish handling') := by
  refine Work.Alike.bind h fun answer answer' hanswers => ?_
  cases hanswers with
  | ok response => exact alike_done rfl
  | error htold => exact alike_done htold

theorem alike_get (r : Request) (route : Route) :
    Work.Alike R Eq (Service.get ⟨backends, config⟩ r route)
      (Service.get ⟨backends', config⟩ r route) := by
  cases route with
  | health => exact alike_health h config
  | applications => exact (alike_listApplications h config r).finish
  | application token => exact (alike_findApplication h config token).finish
  | chats token => exact (alike_listChats h config token r).finish
  | messages token number => exact (alike_listMessages h config token number r).finish
  | search token number => exact (alike_searchMessages h config token number r).finish

theorem alike_post (r : Request) (route : Route) :
    Work.Alike R Eq ((Service.post? ⟨backends, config⟩ r route).getD (pure (.empty 405)))
      ((Service.post? ⟨backends', config⟩ r route).getD (pure (.empty 405))) := by
  cases route with
  | applications => exact (alike_createApplication h config r).finish
  | chats token => exact (alike_createChat h config token).finish
  | messages token number => exact (alike_createMessage h config token number r).finish
  | health | application token | search token number => exact alike_done rfl

theorem alike_answer (r : Request) (route : Route) :
    Work.Alike R Eq (Service.answer ⟨backends, config⟩ r route)
      (Service.answer ⟨backends', config⟩ r route) := by
  unfold Service.answer
  split
  · exact alike_get h config r route
  · exact alike_get h config r route
  · exact alike_post h config r route
  · exact alike_done rfl

omit h

variable {i : Instant} {s : σ} {t : τ} {work : Work σ Response} {work' : Work τ Response}

/-- A response that comes too late is too late on both sides. -/
theorem run_timed_alike (h : Work.Alike R Eq work work') (hstates : R s t) :
    Ending.Alike R Eq ((Service.timed ⟨backends, config⟩ work).run i s)
      ((Service.timed ⟨backends', config⟩ work').run i t) := by
  unfold Service.timed
  rw [Work.run_monadBind, Work.run_monadBind]
  refine ((h i s t hstates).run_before fun _ => hstates).bind ?_
  intro i s t response response' hstates hintime
  cases hintime with
  | late => exact .answered hstates rfl
  | answered heq => exact .answered hstates heq

theorem run_layered_alike (r : Request) (h : Work.Alike R Eq work work') (hstates : R s t) :
    Ending.Alike R Eq ((Service.layered ⟨backends, config⟩ r work).run i s)
      ((Service.layered ⟨backends', config⟩ r work').run i t) := by
  unfold Service.layered
  split
  · exact .answered hstates rfl
  · rw [Work.run_monadBind, Work.run_monadBind]
    refine (run_timed_alike config h hstates).bind ?_
    rintro i s t response _ hstates rfl
    exact .answered hstates rfl

include h

/-- **The same request** ends with the same response, and with related states. -/
theorem run_respond_alike (r : Request) (hstates : R s t) :
    Ending.Alike R Eq ((Service.respond ⟨backends, config⟩ r).run i s)
      ((Service.respond ⟨backends', config⟩ r).run i t) := by
  unfold Service.respond
  cases Route.ofPath? r.target.path with
  | none => exact run_layered_alike config r (alike_done rfl) hstates
  | some route =>
      dsimp only
      rw [Work.run_monadBind, Work.run_monadBind]
      refine (run_layered_alike config r (alike_answer h config r route) hstates).bind ?_
      rintro i s t response _ hstates rfl
      exact .answered hstates rfl

end Service

/-! ## one request after the other -/

/-- The responses to requests, each sent some time after the last response; nothing comes after a
request that gets none. -/
def Service.responses (service : Service σ) :
    List (Duration × Request) → Instant → σ → List Response
  | [], _, _ => []
  | (pause, r) :: requests, i, s =>
    match (service.respond r).run (i.after pause) s with
    | .answered i s response => response :: service.responses requests i s
    | .never | .stopped => []

/-- **No client learns what the backends' failures say.**  Services whose backends answer every call
alike, up to the texts of failures inside the store, of failures of the cache and of failures of the
index, give the same responses to all requests, in every configuration. -/
theorem responses_eq_of_alike {backends : Backends σ} {backends' : Backends τ} {s : σ} {t : τ}
    (h : backends.Alike R backends') (hstates : R s t) (config : Config)
    (requests : List (Duration × Request)) (i : Instant) :
    (Service.mk backends config).responses requests i s =
      (Service.mk backends' config).responses requests i t := by
  induction requests generalizing i s t with
  | nil => rfl
  | cons next requests ih =>
      obtain ⟨pause, r⟩ := next
      have hended := run_respond_alike (i := i.after pause) h config r hstates
      unfold Service.responses
      generalize (Service.respond ⟨backends, config⟩ r).run (i.after pause) s = ended at hended ⊢
      generalize (Service.respond ⟨backends', config⟩ r).run (i.after pause) t = ended' at hended ⊢
      cases hended with
      | answered hstates hresponse =>
          subst hresponse
          exact congrArg _ (ih hstates _)
      | never => rfl
      | stopped => rfl

/-! ## trouble of two kinds -/

namespace InMemory

/-- The service in memory, but the store has lost its connection when it is pinged or counts
applications, and neither the cache nor the index can be reached; a text says why. -/
def troubled (text : String) : Backends State where
  store := fun {_} operation =>
    match operation with
    | .ping => .done (.error (.connection text))
    | .countApplications => .done (.error (.database text))
    | operation => backends.store operation
  cache := backends.cache.behind
    { get := .failure (.unavailable text), set := .failure (.unavailable text)
      ping := .failure (.unavailable text) }
  index := .failing (Work State) "memory" (.transport text)

theorem troubled_alike (text text' : String) : (troubled text).Alike Eq (troubled text') where
  store operation := by
    have hself : ∀ {α : Type} (work : Work State (Except StoreError α)),
        Work.Alike Eq (AnswersAlike StoreError.Alike) work work := fun work =>
      (Work.alike_self work).mono fun answer _ heq => heq ▸ by
        cases answer with
        | ok a => exact .ok a
        | error e => exact .error (.same e)
    cases operation with
    | ping | countApplications => exact alike_done (.error (.inside trivial trivial))
    | _ => exact hself _
  cache :=
    { get := fun _ => alike_done (.error trivial)
      set := fun _ _ _ => alike_done (.error trivial)
      ping := alike_done (.error trivial)
      name := rfl }
  index :=
    { search := fun _ => alike_done (.error trivial)
      add := fun _ => alike_done (.error trivial)
      health := alike_done (.error trivial)
      name := rfl }

/-- Requests that run into all of this. -/
def unlucky : List Request :=
  [⟨"POST", .ofUri "/applications", [("content-type", "application/json")],
      Text.utf8 "[[\"a\"]]".toList⟩,
    ⟨"GET", .ofUri "/applications/t", [], []⟩, ⟨"POST", .ofUri "/applications/t/chats", [], []⟩,
    ⟨"POST", .ofUri "/applications/t/chats/1/messages", [("content-type", "application/json")],
      Text.utf8 "[[\"Hello\"]]".toList⟩,
    ⟨"GET", .ofUri "/applications/t/chats/1/messages/search?query=hELL", [], []⟩,
    ⟨"GET", .ofUri "/applications", [], []⟩, ⟨"GET", .ofUri "/health", [], []⟩]

/-- The application is read past the cache and the message is stored without being indexed; only
the search and the listing fail, and nothing says why. -/
theorem responses_of_troubled :
    let requests := unlucky.map fun r => (Duration.ofSecs 1, r)
    let s : State := { moment := ⟨.epoch, "t"⟩ }
    let responses := (Service.mk (troubled "connection refused") {}).responses requests ⟨0⟩ s
    responses.map (·.status) = [201, 200, 201, 201, 503, 500, 200] ∧
      responses = (Service.mk (troubled "no such host") {}).responses requests ⟨0⟩ s :=
  ⟨by decide +kernel, responses_eq_of_alike (troubled_alike _ _) rfl {} _ _⟩

end InMemory

end Http

end ChatService
