import ChatService.Proofs.Http.Searching
import ChatService.Proofs.Memory.Effects

/-!
# One answer, one change

Everything that can go wrong with a request goes wrong before anything is written.  So the store and
the index change only with an answer of status 201, and then by exactly the one thing that the
answer names; with any other answer they are what they were, and the request can be made again.  A
request that may create something is never left without an answer.

Only the count of internal ids is not spoken of: a refused creation may use one up.
-/

namespace ChatService.Http.InMemory

open Work (Ending)
open ChatService.Memory (Linkage LinkedAt Moment)
open Search (Document Indexes)
open Store (Application Message Operation)

variable {config : Config} {r : Request} {i : Instant} {s s' : State}

/-! ## what an answer says about the change -/

/-- Applications, chats, messages and documents are what they were. -/
structure Unchanged (s s' : State) : Prop where
  applications : s'.store.applications = s.store.applications
  chats : s'.store.chats = s.store.chats
  index : s'.index = s.index

/-- The one thing that a request created at some time, and the body of the answer that says so. -/
inductive Creation (now : Timestamp) (r : Request) (s s' : State) : Option Json → Prop where
  /-- One more application, without chats. -/
  | application {application : Application}
      (hroute : Route.ofPath? r.target.path = some .applications)
      (hname : readPayload applicationForm r = .ok (some application.name))
      (hnew : Keyed.get? application.token s.store.applications = none)
      (hempty : application.chatsCount = 0 ∧ application.lastChatNumber = 0)
      (happlications : s'.store.applications =
        s.store.applications ++ [(application.token, ⟨application, []⟩)])
      (hchats : s'.store.chats = s.store.chats) (hindex : s'.index = s.index) :
      Creation now r s s'
        (some (.object [("token", .text application.token), ("name", .text application.name)]))
  /-- One more chat without messages, and its link in its application. -/
  | chat {raw token : String} {found : ChatService.Memory.ApplicationRecord} {record : Nat}
      {chat : Store.Chat}
      (hroute : Route.ofPath? r.target.path = some (.chats raw)) (htoken : tokenOf raw = .ok token)
      (hfound : Keyed.get? token s.store.applications = some found)
      (hnew : Keyed.get? chat.number found.chats = none)
      (hrecord : Keyed.get? record s.store.chats = none)
      (hempty : chat.messagesCount = 0 ∧ chat.lastMessageNumber = 0)
      (happlications : s'.store.applications =
        Keyed.update token (fun _ =>
          { application :=
              { found.application with
                chatsCount := found.application.chatsCount + 1, lastChatNumber := chat.number
                updatedAt := now }
            chats := found.chats ++ [(chat.number, record)] }) s.store.applications)
      (hchats : s'.store.chats = s.store.chats ++ [(record, ⟨chat, [], false⟩)])
      (hindex : s'.index = s.index) :
      Creation now r s s' (some (.object [("number", .int chat.number)]))
  /-- One more message at the end of its chat, and its document. -/
  | message {rawToken rawNumber token : String} {number : Int} {record : Nat}
      {found : ChatService.Memory.ChatRecord} {message : Message}
      (hroute : Route.ofPath? r.target.path = some (.messages rawToken rawNumber))
      (hplace : chatOf rawToken rawNumber = .ok (token, number))
      (hbody : readPayload messageForm r = .ok (some message.body))
      (hlink : LinkedAt s.store token number record)
      (hfound : Keyed.get? record s.store.chats = some found)
      (hnew : Keyed.get? message.number found.messages = none)
      (happlications : s'.store.applications = s.store.applications)
      (hchats : s'.store.chats =
        Keyed.update record (fun _ =>
          { found with
            chat :=
              { found.chat with
                messagesCount := found.chat.messagesCount + 1, lastMessageNumber := message.number
                updatedAt := now }
            messages := found.messages ++ [(message.number, message)] }) s.store.chats)
      (hdocument : Keyed.get? (Document.ofMessage token number message).id s.index = none)
      (hindex : s'.index = s.index ++
        [((Document.ofMessage token number message).id, .ofMessage token number message)]) :
      Creation now r s s' (some (.object [("number", .int message.number)]))

/-- An answer of status 201 stands for one creation, any other for no change. -/
def Atomic (r : Request) (s s' : State) (response : Response) : Prop :=
  response.status ≠ 201 ∧ Unchanged s s' ∨
    response.status = 201 ∧ r.method = "POST" ∧ Creation s.moment.now r s s' response.body

/-- An ending whose answer stands for its change.  Only requests that cannot create anything may end
without an answer. -/
def EndsAtomically (r : Request) (s : State) : Ending State Response → Prop
  | .answered _ s' response => Atomic r s s' response
  | .never | .stopped => r.method ≠ "POST"

theorem EndsAtomically.of_meets {e : Ending State Response} (hmethod : r.method ≠ "POST")
    (h : e.Meets fun _ s' response => Atomic r s s' response) : EndsAtomically r s e := by
  cases e with
  | answered i s' response => exact h
  | never => exact hmethod
  | stopped => exact hmethod

/-- What is done to every response keeps what it stands for. -/
theorem EndsAtomically.map {e : Ending State Response} (h : EndsAtomically r s e)
    {g : Response → Response}
    (hg : ∀ s' response, Atomic r s s' response → Atomic r s s' (g response)) :
    EndsAtomically r s (e.bind fun i s response => .answered i s (g response)) := by
  cases e with
  | answered i s' response => exact hg s' response h
  | never => exact h
  | stopped => exact h

theorem unchanged_refl : Unchanged s s := ⟨rfl, rfl, rfl⟩

theorem Unchanged.trans {s'' : State} (h : Unchanged s s') (h' : Unchanged s' s'') :
    Unchanged s s'' where
  applications := h'.applications.trans h.applications
  chats := h'.chats.trans h.chats
  index := h'.index.trans h.index

theorem Error.status_ne_created (e : Error) : e.status ≠ 201 := by
  cases e <;> simp [Error.status]

theorem status_json_ne_created (body : Json) : (Response.json 200 body).status ≠ 201 := by
  simp [Response.json]

theorem atomic_of_unchanged {response : Response} (h : response.status ≠ 201)
    (hunchanged : Unchanged s s') : Atomic r s s' response := .inl ⟨h, hunchanged⟩

theorem atomic_error {e : Error} (hunchanged : Unchanged s s') :
    Atomic r s s' (responseOf (.error e)) :=
  atomic_of_unchanged (Error.status_ne_created e) hunchanged

/-! ## handlers that read -/

/-- A part of a handler that changes nothing. -/
def Looks {α : Type} (handling : Handling State α) : Prop :=
  ∀ i s, (ending handling i s).Meets fun _ s' _ => Unchanged s s'

/-- A handler that changes nothing and never answers that something was created. -/
def Reads (handling : Handling State Response) : Prop :=
  ∀ i s, (ending handling i s).Meets fun _ s' answer =>
    Unchanged s s' ∧ (responseOf answer).status ≠ 201

section Readers

variable {α : Type}

theorem looks_require (part : Except Error α) :
    Looks (Service.require part : Handling State α) := by
  intro i s
  rw [ending_require]
  exact unchanged_refl

theorem looks_ask {operation : Operation α} (hread : ChatService.Memory.IsRead operation) :
    Looks ((service config).ask operation) := by
  intro i s
  rw [ending_ask, perform_of_isRead hread]
  exact unchanged_refl

theorem looks_lift {work : Work State α} (hlook : ∀ i s, ∃ a, work.run i s = .answered i s a) :
    Looks (ExceptT.lift work) := by
  intro i s
  obtain ⟨a, ha⟩ := hlook i s
  rw [ending_lift, ha]
  exact unchanged_refl

/-- Only the cache changes where an application is looked up, if there is an answer at all. -/
theorem looks_getApplication (token : String) :
    Looks (getApplication config token : Handling State Application) := by
  intro i s
  show ((getApplication config token).run i s).Meets _
  rw [run_getApplication]
  cases stillCached i token s.cache with
  | some a => exact ⟨rfl, rfl, rfl⟩
  | none =>
      cases s.store.lookupApplication token with
      | error e => exact ⟨rfl, rfl, rfl⟩
      | ok found =>
          dsimp only
          cases i.after? config.applicationLifetime with
          | none => trivial
          | some expires => exact ⟨rfl, rfl, rfl⟩

/-- What follows a look decides; an error answers with a status of its own. -/
theorem reads_bind {handling : Handling State α} {f : α → Handling State Response}
    (h : Looks handling) (hf : ∀ a, Reads (f a)) : Reads (handling >>= f) := by
  intro i s
  rw [ending_bind]
  refine Ending.meets_bind.mpr ((h i s).mono fun i' s' answer hunchanged => ?_)
  cases answer with
  | error e => exact ⟨hunchanged, Error.status_ne_created e⟩
  | ok a =>
      exact (hf a i' s').mono fun _ _ _ hreads => ⟨hunchanged.trans hreads.1, hreads.2⟩

theorem reads_pure {response : Response} (h : response.status ≠ 201) :
    Reads (pure response : Handling State Response) := fun _ _ => ⟨unchanged_refl, h⟩

theorem reads_listing {item : α → Json} {items : List α} {page : Page.Request} {total : Nat} :
    Reads (pure (listingResponse item items page total)) := reads_pure (status_json_ne_created _)

theorem reads_findApplication (raw : String) : Reads ((service config).findApplication raw) :=
  reads_bind (looks_require _) fun token => reads_bind (looks_getApplication token) fun _ =>
    reads_pure (status_json_ne_created _)

theorem reads_listApplications (r : Request) : Reads ((service config).listApplications r) :=
  reads_bind (looks_require _) fun _ => reads_bind (looks_ask trivial) fun _ =>
    reads_bind (looks_ask trivial) fun _ => reads_listing

theorem reads_listChats (raw : String) (r : Request) : Reads ((service config).listChats raw r) :=
  reads_bind (looks_require _) fun _ => reads_bind (looks_require _) fun _ =>
    reads_bind (looks_ask trivial) fun _ => reads_bind (looks_ask trivial) fun _ => reads_listing

theorem reads_listMessages (raw rawNumber : String) (r : Request) :
    Reads ((service config).listMessages raw rawNumber r) :=
  reads_bind (looks_require _) fun (_, _) => reads_bind (looks_require _) fun _ =>
    reads_bind (looks_ask trivial) fun _ => reads_bind (looks_ask trivial) fun _ => reads_listing

theorem reads_searchMessages (raw rawNumber : String) (r : Request) :
    Reads ((service config).searchMessages raw rawNumber r) :=
  reads_bind (looks_require _) fun (_, _) => reads_bind (looks_require _) fun _ =>
    reads_bind (looks_ask trivial) fun _ =>
      reads_bind (looks_lift fun _ _ => ⟨_, run_searchPage _ _ _ _⟩) fun _ =>
        reads_bind (looks_require _) fun _ => reads_pure (status_json_ne_created _)

theorem Reads.finish {handling : Handling State Response} (h : Reads handling)
    (hmethod : r.method ≠ "POST") : EndsAtomically r s ((Service.finish handling).run i s) := by
  rw [run_finish]
  refine .of_meets hmethod (Ending.meets_bind.mpr ?_)
  exact (h i s).mono fun _ _ _ hreads => atomic_of_unchanged hreads.2 hreads.1

theorem atomic_get (route : Route) (hmethod : r.method ≠ "POST") :
    EndsAtomically r s (((service config).get r route).run i s) := by
  cases route with
  | health => exact atomic_of_unchanged (status_json_ne_created _) unchanged_refl
  | applications => exact (reads_listApplications r).finish hmethod
  | application token => exact (reads_findApplication token).finish hmethod
  | chats token => exact (reads_listChats token r).finish hmethod
  | messages token number => exact (reads_listMessages token number r).finish hmethod
  | search token number => exact (reads_searchMessages token number r).finish hmethod

end Readers

/-! ## handlers that create -/

section Writers

section Steps

variable {α : Type} {operation : Operation α}

/-- A part of a request that is refused ends the handler before anything is written. -/
theorem ends_require {part : Except Error α} {f : α → Handling State Response}
    (h : ∀ a, part = .ok a → EndsAtomically r s ((Service.finish (f a)).run i s)) :
    EndsAtomically r s ((Service.finish (Service.require part >>= f)).run i s) := by
  rw [run_finish, ending_bind, ending_require, Ending.bind_answered]
  cases part with
  | error e => exact atomic_error unchanged_refl
  | ok a =>
      have hnext := h a rfl
      rwa [run_finish] at hnext

/-- A creation that is refused changes nothing but the count of ids. -/
theorem unchanged_of_refused (h : ChatService.Memory.Refused s.store
    (ChatService.Memory.perform s.moment operation s.store)) :
    ∃ e s', s.perform operation = (s', .error e) ∧ Unchanged s s' := by
  obtain ⟨e, hresult | hresult⟩ := h
  · exact ⟨e, s, by rw [perform_eq, hresult], unchanged_refl⟩
  · exact ⟨e, { s with store := s.store.takeId }, by rw [perform_eq, hresult], rfl, rfl, rfl⟩

theorem ends_refused {f : α → Handling State Response} (h : ChatService.Memory.Refused s.store
    (ChatService.Memory.perform s.moment operation s.store)) :
    EndsAtomically r s ((Service.finish ((service config).ask operation >>= f)).run i s) := by
  obtain ⟨e, s', hperform, hunchanged⟩ := unchanged_of_refused h
  rw [run_finish, ending_bind, ending_ask, hperform, Ending.bind_answered]
  exact atomic_error hunchanged

theorem run_finish_asked {value : α} {f : α → Handling State Response}
    (h : s.perform operation = (s', .ok value)) :
    (Service.finish ((service config).ask operation >>= f)).run i s =
      (Service.finish (f value)).run i s' := by
  rw [run_finish, ending_bind, ending_ask, h, Ending.bind_answered, run_finish]
  rfl

end Steps

/-- A text that was required is the one that was given. -/
theorem given_of_requireText {name text : String} {given : Option String}
    (h : Store.requireText name given = .ok text) : given = some text := by
  cases given with
  | none => cases h
  | some given =>
      by_cases hblank : Text.isBlank given = true
      · simp [Store.requireText, hblank] at h
      · simpa [Store.requireText, hblank] using h

theorem atomic_createApplication (hmethod : r.method = "POST")
    (hroute : Route.ofPath? r.target.path = some .applications) :
    EndsAtomically r s ((Service.finish ((service config).createApplication r)).run i s) := by
  refine ends_require fun given hname => ?_
  obtain hrefused | ⟨name, hvalid, hfree, hresult⟩ :=
    (ChatService.Memory.effect_createApplication (m := s.moment) (s := s.store) given).creates
  · exact ends_refused hrefused
  · rw [run_finish_asked (by rw [perform_eq, hresult])]
    obtain rfl := given_of_requireText hvalid
    refine .inr ⟨rfl, hmethod, ?_⟩
    exact .application hroute hname hfree ⟨rfl, rfl⟩ (Keyed.put_eq_append hfree) rfl rfl

theorem atomic_createChat {raw : String} (hlinkage : Linkage s.store) (hmethod : r.method = "POST")
    (hroute : Route.ofPath? r.target.path = some (.chats raw)) :
    EndsAtomically r s ((Service.finish ((service config).createChat raw)).run i s) := by
  refine ends_require fun token htoken => ?_
  obtain hrefused | ⟨found, number, count, hfound, hnumber, hcount, hresult⟩ :=
    (ChatService.Memory.effect_createChat (m := s.moment) (s := s.store) token).creates
  · exact ends_refused hrefused
  · rw [run_finish_asked (by rw [perform_eq, hresult])]
    refine .inr ⟨rfl, hmethod, ?_⟩
    obtain ⟨-, rfl⟩ := Store.nextAfter_eq_ok hnumber
    obtain ⟨rfl, -⟩ := Store.CounterUpdate.apply_eq_ok hcount
    have hnumbered := hlinkage.chats token found hfound
    refine .chat hroute htoken hfound hnumbered.get?_next hlinkage.get?_chats_next ⟨rfl, rfl⟩ ?_
      (Keyed.put_eq_append hlinkage.get?_chats_next) rfl
    refine Keyed.update_congr hlinkage.tokens hfound ?_
    rw [ChatService.Memory.ApplicationRecord.addLink, hnumbered.putAscending_eq]
    rfl

theorem atomic_createMessage {rawToken rawNumber : String} (hlinkage : Linkage s.store)
    (hindexes : Indexes s.store s.index) (hmethod : r.method = "POST")
    (hroute : Route.ofPath? r.target.path = some (.messages rawToken rawNumber)) :
    EndsAtomically r s
      ((Service.finish ((service config).createMessage rawToken rawNumber r)).run i s) := by
  refine ends_require fun (token, number) hplace => ends_require fun given hbody => ?_
  obtain hrefused | ⟨body, record, chat, next, count, hvalid, hlink, hchat, hnumber, hcount,
      hresult⟩ :=
    (hlinkage.connected.effect_createMessage (m := s.moment) token number given).creates
  · exact ends_refused hrefused
  · rw [run_finish_asked (by rw [perform_eq, hresult]), run_finish, ending_bind,
      ending_indexMessage, Ending.bind_answered]
    obtain rfl := given_of_requireText hvalid
    refine .inr ⟨rfl, hmethod, ?_⟩
    obtain ⟨-, hnext⟩ := Store.nextAfter_eq_ok hnumber
    obtain ⟨rfl, -⟩ := Store.CounterUpdate.apply_eq_ok hcount
    have hnumbered := hlinkage.messages record chat hchat
    have hdocument : Keyed.get? (Document.ofMessage token number
        (ChatService.Memory.newMessage s.moment (s.store.ids + 1) chat.chat next body)).id
        s.index = none := hindexes.get?_new hlinkage hlink hchat hnext
    refine .message hroute hplace hbody hlink hchat (hnext ▸ hnumbered.get?_next) rfl ?_
      hdocument (Keyed.put_eq_append hdocument)
    refine Keyed.update_congr hlinkage.records hchat ?_
    subst hnext
    rw [ChatService.Memory.ChatRecord.addMessage, hnumbered.putAscending_eq]
    rfl

theorem atomic_post {route : Route} (hlinkage : Linkage s.store)
    (hindexes : Indexes s.store s.index) (hmethod : r.method = "POST")
    (hroute : Route.ofPath? r.target.path = some route) :
    EndsAtomically r s
      ((((service config).post? r route).getD (pure (.empty 405))).run i s) := by
  cases route with
  | applications => exact atomic_createApplication hmethod hroute
  | chats raw => exact atomic_createChat hlinkage hmethod hroute
  | messages rawToken rawNumber => exact atomic_createMessage hlinkage hindexes hmethod hroute
  | health | application _ | search _ _ =>
      exact atomic_of_unchanged (by decide : (405 : Nat) ≠ 201) unchanged_refl

end Writers

/-! ## every request -/

section Requests

variable {work : Work State Response}

/-- Work for a request, which never waits, and whose answer stands for its change. -/
def Atomically (r : Request) (work : Work State Response) : Prop :=
  work.IsImmediate ∧ ∀ i s, Linkage s.store → Indexes s.store s.index →
    EndsAtomically r s (work.run i s)

theorem atomically_pure {response : Response} (h : response.status ≠ 201) :
    Atomically r (pure response) :=
  ⟨trivial, fun _ _ _ _ => atomic_of_unchanged h unchanged_refl⟩

theorem atomically_answer {route : Route} (hroute : Route.ofPath? r.target.path = some route) :
    Atomically r ((service config).answer r route) := by
  refine ⟨(serving_answer r route).1, fun i s hlinkage hindexes => ?_⟩
  unfold Service.answer
  split
  · next hmethod => exact atomic_get route (by rw [hmethod]; decide)
  · next hmethod => exact atomic_get route (by rw [hmethod]; decide)
  · next hmethod => exact atomic_post hlinkage hindexes hmethod hroute
  · exact atomic_of_unchanged (by decide : (405 : Nat) ≠ 201) unchanged_refl

theorem Atomically.bind_pure (h : Atomically r work) {g : Response → Response}
    (hg : ∀ s s' response, Atomic r s s' response → Atomic r s s' (g response)) :
    Atomically r (work >>= fun response => pure (g response)) := by
  refine ⟨Work.isImmediate_bind h.1 fun _ => trivial, fun i s hlinkage hindexes => ?_⟩
  rw [Work.run_monadBind]
  exact (h.2 i s hlinkage hindexes).map (hg s)

theorem Atomic.withHeaders {response : Response} (h : Atomic r s s' response)
    (headers : List (String × String)) : Atomic r s s' (response.withHeaders headers) := h

theorem Atomic.dress {response : Response} (h : Atomic r s s' response) (route : Route) :
    Atomic r s s' (Service.dress r route response) := by
  unfold Service.dress
  split
  case isTrue hhead =>
    -- no creation is left without its body
    obtain hunchanged | ⟨-, hmethod, -⟩ := h
    · exact .inl hunchanged
    · rw [hmethod] at hhead
      exact absurd hhead (by decide)
  case isFalse =>
    split
    · exact h
    · exact h.withHeaders _

theorem Atomically.timed (h : Atomically r work) : Atomically r ((service config).timed work) := by
  refine ⟨Work.isImmediate_bind (Work.isImmediate_before h.1) fun _ => trivial,
    fun i s hlinkage hindexes => ?_⟩
  rw [run_timed (service config) h.1]
  split
  · exact atomic_of_unchanged (by decide : (408 : Nat) ≠ 201) unchanged_refl
  · exact h.2 i s hlinkage hindexes

theorem Atomically.layered (h : Atomically r work) :
    Atomically r ((service config).layered r work) := by
  unfold Service.layered
  split
  · exact atomically_pure (by decide : (200 : Nat) ≠ 201)
  · exact h.timed.bind_pure fun _ _ _ hatomic => hatomic.withHeaders _

theorem atomically_respond (r : Request) : Atomically r ((service config).respond r) := by
  unfold Service.respond
  split
  · next route hroute =>
      exact (atomically_answer hroute).layered.bind_pure fun _ _ _ hatomic => hatomic.dress route
  · exact (atomically_pure (by decide : (404 : Nat) ≠ 201)).layered

end Requests

/-- What was there before a request does not depend on the moment of the request. -/
theorem Creation.of_atMoment {now : Timestamp} {moment : Moment} {body : Option Json}
    (h : Creation now r (s.atMoment moment) s' body) : Creation now r s s' body := by
  cases h with
  | application hroute hname hnew hempty happlications hchats hindex =>
      exact .application hroute hname hnew hempty happlications hchats hindex
  | chat hroute htoken hfound hnew hrecord hempty happlications hchats hindex =>
      exact .chat hroute htoken hfound hnew hrecord hempty happlications hchats hindex
  | message hroute hplace hbody hlink hfound hnew happlications hchats hdocument hindex =>
      exact .message hroute hplace hbody hlink hfound hnew happlications hchats hdocument hindex

/-- **One answer, one change.**  After any run, an answer of a status other than 201 leaves
applications, chats, messages and documents as they were, and an answer of status 201 is the answer
to a `POST` request that created the one thing the answer names.  No `POST` request is left without
an answer. -/
theorem Run.answers_atomically {origin : Config} {past : List Point}
    (h : Run origin (⟨i, s⟩ :: past)) (moment : Moment) (r : Request) :
    (∀ i' s' response,
      ((service config).respond r).run i (s.atMoment moment) = .answered i' s' response →
        (response.status ≠ 201 → Unchanged s s') ∧
          (response.status = 201 →
            r.method = "POST" ∧ Creation moment.now r s s' response.body)) ∧
      (r.method = "POST" → ∃ i' s' response,
        ((service config).respond r).run i (s.atMoment moment) = .answered i' s' response) := by
  have hatomic : EndsAtomically r (s.atMoment moment)
      (((service config).respond r).run i (s.atMoment moment)) :=
    (atomically_respond r).2 i (s.atMoment moment) h.linkage h.indexes
  constructor
  · intro i' s' response hanswer
    rw [hanswer] at hatomic
    obtain ⟨hstatus, hunchanged⟩ | ⟨hstatus, hmethod, hcreated⟩ := hatomic
    · exact ⟨fun _ => ⟨hunchanged.applications, hunchanged.chats, hunchanged.index⟩,
        fun hcreated => absurd hcreated hstatus⟩
    · exact ⟨fun hother => absurd hstatus hother, fun _ => ⟨hmethod, hcreated.of_atMoment⟩⟩
  · intro hmethod
    cases hending : ((service config).respond r).run i (s.atMoment moment) with
    | answered i' s' response => exact ⟨i', s', response, rfl⟩
    | never =>
        rw [hending] at hatomic
        exact absurd hmethod hatomic
    | stopped =>
        rw [hending] at hatomic
        exact absurd hmethod hatomic

/-- The status that a request is answered with. -/
def Point.status? (config : Config) (p : Point) (moment : Moment) (r : Request) : Option Nat :=
  match ((service config).respond r).run p.instant (p.state.atMoment moment) with
  | .answered _ _ response => some response.status
  | .never | .stopped => none

theorem Point.answered_of_status? {p : Point} {moment : Moment} {status : Nat}
    (h : p.status? config moment r = some status) :
    ∃ i s response, ((service config).respond r).run p.instant (p.state.atMoment moment) =
      .answered i s response ∧ response.status = status := by
  unfold Point.status? at h
  split at h
  · next i s response hanswer => exact ⟨i, s, response, hanswer, Option.some.inj h⟩
  · contradiction
  · contradiction

/-- A message for a chat that is there. -/
def hello : Request := post "/applications/t/chats/1/messages" "[[\"Hello\"]]"

/-- The same message for a chat that is not there. -/
def astray : Request := post "/applications/t/chats/2/messages" "[[\"Hello\"]]"

/-- How the two messages are answered where there is one chat. -/
theorem statuses_of_hello :
    ∃ p, beginning.through {} ⟨.epoch, "t"⟩ (talk.take 2) = some p ∧
      p.status? {} ⟨.epoch, "t"⟩ hello = some 201 ∧
      p.status? {} ⟨.epoch, "t"⟩ astray = some 404 := by
  have hstatuses : (beginning.through {} ⟨.epoch, "t"⟩ (talk.take 2)).any (fun p =>
      decide (p.status? {} ⟨.epoch, "t"⟩ hello = some 201 ∧
        p.status? {} ⟨.epoch, "t"⟩ astray = some 404)) = true := by decide +kernel
  cases hp : beginning.through {} ⟨.epoch, "t"⟩ (talk.take 2) with
  | none => rw [hp] at hstatuses; exact absurd hstatuses Bool.false_ne_true
  | some p => exact ⟨p, rfl, by simpa [hp] using hstatuses⟩

/-- Where there is one chat, its message is created, and the other one changes nothing. -/
theorem hello_created :
    ∃ p i₁ s₁ created i₂ s₂ refused,
      beginning.through {} ⟨.epoch, "t"⟩ (talk.take 2) = some p ∧
      ((service {}).respond hello).run p.instant (p.state.atMoment ⟨.epoch, "t"⟩) =
        .answered i₁ s₁ created ∧
      created.status = 201 ∧ Creation .epoch hello p.state s₁ created.body ∧
      ((service {}).respond astray).run p.instant (p.state.atMoment ⟨.epoch, "t"⟩) =
        .answered i₂ s₂ refused ∧
      refused.status = 404 ∧ Unchanged p.state s₂ := by
  obtain ⟨p, hp, hhello, hastray⟩ := statuses_of_hello
  have hstart : Run {} [beginning] := .start ⟨0⟩ ⟨.epoch, "t"⟩
  have hthrough : ∃ past, Run {} (p :: past) := hstart.through (by decide +kernel) hp
  obtain ⟨past, hrun⟩ := hthrough
  obtain ⟨i₁, s₁, created, hcreated, hstatus⟩ := Point.answered_of_status? hhello
  obtain ⟨i₂, s₂, refused, hrefused, hstatus'⟩ := Point.answered_of_status? hastray
  refine ⟨p, i₁, s₁, created, i₂, s₂, refused, hp, hcreated, hstatus, ?_, hrefused, hstatus', ?_⟩
  · exact (((hrun.answers_atomically ⟨.epoch, "t"⟩ hello).1 _ _ _ hcreated).2 hstatus).2
  · exact ((hrun.answers_atomically ⟨.epoch, "t"⟩ astray).1 _ _ _ hrefused).1
      (by rw [hstatus']; decide)

end ChatService.Http.InMemory
