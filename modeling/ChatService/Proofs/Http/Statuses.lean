import ChatService.Proofs.Http.Runs
import ChatService.Proofs.Memory.Tallies

/-!
# Which check decides

The routes of messages check a request in an order of their own: a message without a body is refused
before its chat is looked up, and a search without a text after it.  A request that several checks
would refuse gets the status of the first of them (`DecidedBy`), whatever calls on the store are
under way (`Reached`) and whatever the cache and the index hold.
-/

namespace ChatService.Http

open Work (Ending)

variable {σ α : Type} {i : Instant} {s s' : σ} {success code status : Nat} {failing failing' : Prop}
  {checks : List (Prop × Nat)}

/-! ## checks one after the other -/

/-- The status of a request that some checks fail or do not, where each check has a status for the
requests that fail it: the first failing check decides, and `success` stands for none. -/
def DecidedBy (success : Nat) : List (Prop × Nat) → Nat → Prop
  | [], status => status = success
  | (failing, code) :: checks, status =>
    failing ∧ status = code ∨ ¬failing ∧ DecidedBy success checks status

/-- Two checks in a row with one status are one check. -/
theorem decidedBy_merge :
    DecidedBy success ((failing ∨ failing', code) :: checks) status ↔
      DecidedBy success ((failing, code) :: (failing', code) :: checks) status := by
  simp only [DecidedBy]
  tauto

/-- A last check that no request fails. -/
theorem DecidedBy.of_not_last (h : DecidedBy success (checks ++ [(failing, code)]) status)
    (hpass : ¬failing) : DecidedBy success checks status := by
  induction checks with
  | nil => simpa [DecidedBy, hpass] using h
  | cons check checks ih => exact h.imp id fun h => ⟨h.1, ih h.2⟩

/-- A handler that ends at once, with a response of success, or with the error of the first check
that fails. -/
def Decides (success : Nat) (checks : List (Prop × Nat)) (handling : Handling σ Response)
    (i : Instant) (s : σ) : Prop :=
  ∃ s' answer, ending handling i s = .answered i s' answer ∧
    DecidedBy success checks (responseOf answer).status ∧
    ((responseOf answer).status ≠ success → ∃ e, answer = .error e)

theorem decides_pure {response : Response} (h : response.status = success) :
    Decides success [] (pure response) i s :=
  ⟨s, .ok response, rfl, h, fun hne => absurd h hne⟩

theorem decides_of_error {handling : Handling σ Response} {e : Error}
    (hending : ending handling i s = .answered i s' (.error e))
    (h : DecidedBy success checks e.status) : Decides success checks handling i s :=
  ⟨s', .error e, hending, h, fun _ => ⟨e, rfl⟩⟩

/-- A step of a handler that is refused exactly where a check fails. -/
theorem decides_bind {handling : Handling σ α} {f : α → Handling σ Response}
    {answer : Except Error α} (hending : ending handling i s = .answered i s' answer)
    (hfail : ∀ e, answer = .error e → failing ∧ e.status = code)
    (hpass : ∀ a, answer = .ok a → ¬failing ∧ Decides success checks (f a) i s') :
    Decides success ((failing, code) :: checks) (handling >>= f) i s := by
  have hbind : ending (handling >>= f) i s =
      onward (fun i s a => ending (f a) i s) i s' answer := by
    rw [ending_bind, hending, Ending.bind_answered]
  cases answer with
  | error e => exact decides_of_error hbind (.inl (hfail e rfl))
  | ok a =>
      obtain ⟨hpassing, s'', answer, hrest, hdecided, herror⟩ := hpass a rfl
      exact ⟨s'', answer, hbind.trans hrest, .inr ⟨hpassing, hdecided⟩, herror⟩

/-- A step of a handler that is never refused. -/
theorem decides_step {handling : Handling σ α} {f : α → Handling σ Response} {a : α}
    (hending : ending handling i s = .answered i s' (.ok a))
    (h : Decides success checks (f a) i s') : Decides success checks (handling >>= f) i s := by
  unfold Decides
  rw [ending_bind, hending, Ending.bind_answered]
  exact h

/-- A handler that no check keeps from a success. -/
theorem Decides.of_pass {handling : Handling σ Response} (h : Decides success [] handling i s)
    (hpass : ∀ check ∈ checks, ¬check.1) : Decides success checks handling i s := by
  obtain ⟨s', answer, hending, hstatus, herror⟩ := h
  refine ⟨s', answer, hending, ?_, herror⟩
  induction checks with
  | nil => exact hstatus
  | cons check checks ih =>
      exact .inr ⟨hpass check (by simp), ih fun other hother => hpass other (by simp [hother])⟩

theorem Decides.merge
    {handling : Handling σ Response}
    (h : Decides success ((failing, code) :: (failing', code) :: checks) handling i s) :
    Decides success ((failing ∨ failing', code) :: checks) handling i s := by
  obtain ⟨s', answer, hending, hdecided, herror⟩ := h
  exact ⟨s', answer, hending, decidedBy_merge.mpr hdecided, herror⟩

/-! ## what is checked -/

/-- The token and the chat number that two segments of a path stand for: both must be texts, and the
second one a signed 64-bit number. -/
def place? (token number : String) : Option (String × Int) := do
  let token ← Text.percentDecodeText? token.toList
  let text ← Text.percentDecodeText? number.toList
  let n ← (Text.integer? text.toList).filter fun n => decide (Word.IsInt64 n)
  return (token, n)

theorem chatOf_eq_ok {token number : String} {place : String × Int} :
    chatOf token number = .ok place ↔ place? token number = some place := by
  unfold chatOf place? segment
  cases Text.percentDecodeText? token.toList with
  | none => simp [bind, Except.bind]
  | some token =>
      cases Text.percentDecodeText? number.toList with
      | none => simp [bind, Except.bind]
      | some text =>
          cases h : (Text.integer? text.toList).filter fun n => decide (Word.IsInt64 n) <;>
            simp [bind, Except.bind, h]

theorem place?_of_chatOf_error {token number : String} {e : Error}
    (h : chatOf token number = .error e) : place? token number = none := by
  cases hplace : place? token number with
  | none => rfl
  | some place => simp [chatOf_eq_ok.mpr hplace] at h

theorem status_of_segment {name raw : String} {e : Error} (h : segment name raw = .error e) :
    e.status = 400 := by
  unfold segment at h
  split at h
  · contradiction
  · obtain rfl := Except.error.inj h
    rfl

theorem status_of_chatOf {token number : String} {e : Error}
    (h : chatOf token number = .error e) : e.status = 400 := by
  unfold chatOf at h
  cases htoken : segment "token" token with
  | error e' =>
      obtain rfl : e' = e := by simpa [htoken, bind, Except.bind] using h
      exact status_of_segment htoken
  | ok token =>
      cases hnumber : segment "number" number with
      | error e' =>
          obtain rfl : e' = e := by simpa [htoken, hnumber, bind, Except.bind] using h
          exact status_of_segment hnumber
      | ok text =>
          simp only [htoken, hnumber, bind, Except.bind] at h
          split at h
          · contradiction
          · obtain rfl := Except.error.inj h
            rfl

theorem status_of_readForm {names : List String} {query : Option (List Char)} {e : Error}
    (h : readForm names query = .error e) : e.status = 400 := by
  unfold readForm at h
  dsimp only at h
  split at h
  · obtain rfl := Except.error.inj h
    rfl
  · contradiction

theorem eq_formFields_of_readForm {names : List String} {query : Option (List Char)}
    {fields : List (String × String)} (h : readForm names query = .ok fields) :
    fields = formFields query := by
  unfold readForm at h
  dsimp only at h
  split at h
  · contradiction
  · exact (Except.ok.inj h).symm

theorem status_of_readPayload {form : PayloadForm} {r : Request} {e : Error}
    (h : readPayload form r = .error e) : e.status = 422 := by
  unfold readPayload at h
  split at h
  · obtain rfl := Except.error.inj h
    rfl
  · split at h
    · obtain rfl := Except.error.inj h
      rfl
    · cases hdecode : form.decode (readBody r.body) with
      | error fault =>
          obtain rfl := Except.error.inj ((hdecode ▸ h :) : Except.error _ = Except.error e)
          rfl
      | ok text => rw [hdecode] at h; contradiction

/-- The query names a field twice that is asked for. -/
def BadQuery (names : List String) (r : Request) : Prop :=
  ∃ e, readForm names r.target.query = .error e

/-- The body is refused as it is read, or it carries no text, or a blank one. -/
def BadMessage (r : Request) : Prop :=
  (∃ e, readPayload messageForm r = .error e) ∨
    ∃ given, readPayload messageForm r = .ok given ∧ ∀ body ∈ given, Text.isBlank body = true

/-- The text that is searched for is missing or blank. -/
def BlankSearch (r : Request) : Prop :=
  ∀ text ∈ formValue? "query" (formFields r.target.query), Text.isBlank text = true

theorem of_validateBody_error {given : Option String} {e : StoreError}
    (h : Store.validateBody given = .error e) :
    (∀ body ∈ given, Text.isBlank body = true) ∧ (Error.ofStoreError e).status = 422 := by
  cases given with
  | none =>
      obtain rfl := Except.error.inj h
      exact ⟨by simp, rfl⟩
  | some body =>
      by_cases hblank : Text.isBlank body = true
      · have he : Store.validateBody (some body) = .error (.validation "body can't be blank") := by
          simp [Store.validateBody, Store.requireText, Store.requireText.blank, hblank]
        obtain rfl := Except.error.inj (he.symm.trans h)
        exact ⟨by simp [hblank], rfl⟩
      · simp [Store.validateBody, Store.requireText, hblank] at h

theorem of_validateBody_ok {given : Option String} {body : String}
    (h : Store.validateBody given = .ok body) : ¬ ∀ body ∈ given, Text.isBlank body = true := by
  cases given with
  | none => simp [Store.validateBody, Store.requireText] at h
  | some given =>
      intro hblank
      simp [Store.validateBody, Store.requireText, hblank given rfl] at h

namespace InMemory

open ChatService.Memory (Moment LinkedAt UsedUp Serviceable Delivery)

variable {s : State} {config : Config} {r : Request} {rawToken rawNumber token : String}
  {number : Int}

/-- The application or the chat that a place names does not exist. -/
def Missing (s : ChatService.Memory.State) (place : Option (String × Int)) : Prop :=
  ∀ p ∈ place, ¬∃ record, LinkedAt s p.1 p.2 record

/-- The chat that a place names has used up all message numbers. -/
def Exhausted (s : ChatService.Memory.State) (place : Option (String × Int)) : Prop :=
  ∃ p ∈ place, UsedUp s p.1 p.2

theorem missing_some {s : ChatService.Memory.State} :
    Missing s (some (token, number)) ↔ ¬∃ record, LinkedAt s token number record := by
  simp [Missing]

theorem exhausted_some {s : ChatService.Memory.State} :
    Exhausted s (some (token, number)) ↔ UsedUp s token number := by
  simp [Exhausted]

theorem of_lookupChat_error {s : ChatService.Memory.State} {e : StoreError}
    (h : s.lookupChat token number = .error e) :
    Missing s (some (token, number)) ∧ (Error.ofStoreError e).status = 404 := by
  have hmissing : Missing s (some (token, number)) := by
    rw [missing_some]
    rintro ⟨record, hlink⟩
    rw [ChatService.Memory.lookupChat_eq_ok.mpr hlink] at h
    contradiction
  refine ⟨hmissing, ?_⟩
  unfold ChatService.Memory.State.lookupChat ChatService.Memory.State.lookupApplication at h
  split at h
  · next heq =>
      split at heq
      · obtain rfl := Except.error.inj heq
        obtain rfl := Except.error.inj h
        rfl
      · contradiction
  · split at h
    · obtain rfl := Except.error.inj h
      rfl
    · contradiction

/-! ## the handlers -/

/-- Every handler reads the place first. -/
theorem decides_place {f : String × Int → Handling State Response} {success : Nat}
    {checks : List (Prop × Nat)}
    (h : ∀ token number, place? rawToken rawNumber = some (token, number) →
      Decides success checks (f (token, number)) i s) :
    Decides success ((place? rawToken rawNumber = none, 400) :: checks)
      (Service.require (chatOf rawToken rawNumber) >>= f) i s := by
  refine decides_bind (ending_require _) ?_ ?_
  · intro e he
    exact ⟨place?_of_chatOf_error he, status_of_chatOf he⟩
  · rintro ⟨token, number⟩ hplace
    have hsome := chatOf_eq_ok.mp hplace
    exact ⟨by simp [hsome], h token number hsome⟩

/-- A message whose body was read is refused for its body, for its chat, or for want of numbers. -/
theorem decides_deliver (h : Serviceable s.store) {given : Option String}
    (hgiven : readPayload messageForm r = .ok given) {f : Store.Message → Handling State Response}
    (hf : ∀ message s, Decides 201 [] (f message) i s) :
    Decides 201
      [(BadMessage r, 422), (Missing s.store (some (token, number)), 404),
        (Exhausted s.store (some (token, number)), 409)]
      ((service config).ask (.createMessage token number given) >>= f) i s := by
  have hdelivery : Delivery s.store token number given
      (ChatService.Memory.perform s.moment (.createMessage token number given) s.store).2 :=
    h.delivery given
  have hask := ending_ask config (i := i) (s := s) (.createMessage token number given)
  rw [perform_eq] at hask
  dsimp only at hask
  generalize (ChatService.Memory.perform s.moment (.createMessage token number given) s.store).2 =
    answer at hdelivery hask
  have hbad : BadMessage r ↔ ∀ body ∈ given, Text.isBlank body = true := by
    simp [BadMessage, hgiven]
  have herror {e : StoreError} {checks : List (Prop × Nat)} (he : answer = .error e)
      (hdecided : DecidedBy 201 checks (Error.ofStoreError e).status) :
      Decides 201 checks ((service config).ask (.createMessage token number given) >>= f) i s := by
    subst he
    exact decides_of_error (by rw [ending_bind, hask, Ending.bind_answered]; rfl) hdecided
  cases hdelivery with
  | blank hbody =>
      obtain ⟨hblank, hstatus⟩ := of_validateBody_error hbody
      exact herror rfl (.inl ⟨hbad.mpr hblank, hstatus⟩)
  | missing hbody hlookup =>
      have hgood : ¬BadMessage r := hbad.not.mpr (of_validateBody_ok hbody)
      obtain ⟨hmissing, hstatus⟩ := of_lookupChat_error hlookup
      exact herror rfl (.inr ⟨hgood, .inl ⟨hmissing, hstatus⟩⟩)
  | usedUp hbody husedUp =>
      have hgood : ¬BadMessage r := hbad.not.mpr (of_validateBody_ok hbody)
      have hthere : ¬Missing s.store (some (token, number)) := by
        obtain ⟨record, hlink, -⟩ := husedUp
        rw [missing_some, not_not]
        exact ⟨record, hlink⟩
      exact herror rfl (.inr ⟨hgood, .inr ⟨hthere, .inl ⟨exhausted_some.mpr husedUp, rfl⟩⟩⟩)
  | created hbody hchat hnumbers message =>
      have hgood : ¬BadMessage r := hbad.not.mpr (of_validateBody_ok hbody)
      refine decides_step hask ((hf message _).of_pass ?_)
      simp [hgood, missing_some, exhausted_some, hchat, hnumbers]

theorem decides_createMessage (config : Config) (i : Instant) (r : Request)
    (rawToken rawNumber : String) (h : Serviceable s.store) :
    Decides 201
      [(place? rawToken rawNumber = none, 400), (BadMessage r, 422),
        (Missing s.store (place? rawToken rawNumber), 404),
        (Exhausted s.store (place? rawToken rawNumber), 409)]
      ((service config).createMessage rawToken rawNumber r) i s := by
  refine decides_place fun token number hplace => ?_
  rw [hplace]
  cases hpayload : readPayload messageForm r with
  | error e =>
      have hbad : BadMessage r := .inl ⟨e, hpayload⟩
      exact decides_of_error (by rw [ending_bind]; rfl)
        (.inl ⟨hbad, status_of_readPayload hpayload⟩)
  | ok given =>
      refine decides_step (ending_require _) (decides_deliver h hpayload fun message s => ?_)
      exact decides_step (ending_indexMessage _ _ _) (decides_pure rfl)

/-- Reading an operation whose answer depends on the chat alone. -/
theorem decides_read {operation : Store.Operation α} {f : α → Handling State Response}
    {success : Nat} {checks : List (Prop × Nat)} (hread : ChatService.Memory.IsRead operation)
    {g : Nat → α}
    (hanswer : (ChatService.Memory.perform s.moment operation s.store).2 =
      (s.store.lookupChat token number).map g)
    (h : ∀ record, s.store.lookupChat token number = .ok record →
      Decides success checks (f (g record)) i s) :
    Decides success ((Missing s.store (some (token, number)), 404) :: checks)
      ((service config).ask operation >>= f) i s := by
  have hask := ending_ask config (i := i) (s := s) operation
  rw [perform_of_isRead hread, hanswer] at hask
  refine decides_bind hask ?_ ?_
  · intro e he
    cases hlookup : s.store.lookupChat token number with
    | error e' =>
        rw [hlookup] at he
        obtain rfl := Except.error.inj he
        exact of_lookupChat_error hlookup
    | ok record => rw [hlookup] at he; contradiction
  · intro a ha
    cases hlookup : s.store.lookupChat token number with
    | error e' => rw [hlookup] at ha; contradiction
    | ok record =>
        rw [hlookup] at ha
        obtain rfl := Except.ok.inj ha
        rw [missing_some, not_not]
        exact ⟨⟨record, ChatService.Memory.lookupChat_eq_ok.mp hlookup⟩, h record hlookup⟩

/-- What is made of the query, which is read after the place. -/
theorem decides_query {β : Type} {names : List String} {f : β → Handling State Response}
    {success : Nat} {checks : List (Prop × Nat)} (g : List (String × String) → β)
    (h : Decides success checks (f (g (formFields r.target.query))) i s) :
    Decides success ((BadQuery names r, 400) :: checks)
      (Service.require ((readForm names r.target.query).map g) >>= f) i s := by
  refine decides_bind (ending_require _) ?_ ?_
  · intro e he
    cases hform : readForm names r.target.query with
    | error e' =>
        rw [hform] at he
        obtain rfl := Except.error.inj he
        exact ⟨⟨e', hform⟩, status_of_readForm hform⟩
    | ok fields => rw [hform] at he; contradiction
  · intro a ha
    cases hform : readForm names r.target.query with
    | error e' => rw [hform] at ha; contradiction
    | ok fields =>
        rw [hform] at ha
        obtain rfl := Except.ok.inj ha
        obtain rfl := eq_formFields_of_readForm hform
        exact ⟨by simp [BadQuery, hform], h⟩

/-- The fields of the query as they are. -/
theorem decides_form {names : List String}
    {f : List (String × String) → Handling State Response} {success : Nat}
    {checks : List (Prop × Nat)}
    (h : Decides success checks (f (formFields r.target.query)) i s) :
    Decides success ((BadQuery names r, 400) :: checks)
      (Service.require (readForm names r.target.query) >>= f) i s := by
  have hquery : Decides success ((BadQuery names r, 400) :: checks)
      (Service.require ((readForm names r.target.query).map id) >>= f) i s := decides_query id h
  rwa [Except.map_id] at hquery

theorem decides_listMessages (config : Config) (i : Instant) (r : Request)
    (rawToken rawNumber : String) (h : Serviceable s.store) :
    Decides 200
      [(place? rawToken rawNumber = none ∨ BadQuery ["page", "per_page"] r, 400),
        (Missing s.store (place? rawToken rawNumber), 404)]
      ((service config).listMessages rawToken rawNumber r) i s := by
  refine (decides_place fun token number hplace => ?_).merge
  rw [hplace]
  refine decides_query (service config).page ?_
  refine decides_read trivial (g := fun record => (s.store.chatAt record).messages.length)
    (congrArg Prod.snd h.connected.perform_countMessages) fun record hlookup => ?_
  have hlist := ending_ask config (i := i) (s := s)
    (.listMessages token number ((service config).page (formFields r.target.query)).offset
      ((service config).page (formFields r.target.query)).limit)
  rw [perform_of_isRead (by trivial), h.connected.perform_listMessages, hlookup] at hlist
  exact decides_step hlist (decides_pure rfl)

/-- What is made of a search whose chat is there. -/
theorem decides_searchPage {text : Option String} {page : Page.Request}
    {f : Page.Hits Search.Document → Response} (hf : ∀ hits, (f hits).status = 200) :
    Decides 200 [(∀ t ∈ text, Text.isBlank t = true, 422)]
      (ExceptT.lift (Search.searchPage (service config).backends.index token number
          (text.getD "") page) >>= fun answer =>
        Service.require (answer.mapError Error.ofSearchError) >>= fun hits => pure (f hits))
      i s := by
  have hlift : ending (ExceptT.lift (Search.searchPage (service config).backends.index token number
      (text.getD "") page)) i s =
        .answered i s (.ok (pageOfHits token number (text.getD "") page s.index)) := by
    rw [ending_lift, run_searchPage, Ending.bind_answered]
  have hblank : (∀ t ∈ text, Text.isBlank t = true) ↔ Text.isBlank (text.getD "") = true := by
    cases text with
    | none => simp; decide
    | some t => simp
  refine decides_step hlift (decides_bind (ending_require _) ?_ ?_)
  · intro e he
    by_cases hempty : Text.isBlank (text.getD "") = true
    · simp only [pageOfHits, Search.Query.ofPage, hempty, if_true] at he
      obtain rfl := Except.error.inj he
      exact ⟨hblank.mpr hempty, rfl⟩
    · simp only [pageOfHits, Search.Query.ofPage, hempty] at he
      contradiction
  · intro hits hhits
    refine ⟨fun hall => ?_, decides_pure (hf hits)⟩
    simp only [pageOfHits, Search.Query.ofPage, hblank.mp hall, if_true] at hhits
    contradiction

theorem decides_searchMessages (config : Config) (i : Instant) (r : Request)
    (rawToken rawNumber : String) (h : Serviceable s.store) :
    Decides 200
      [(place? rawToken rawNumber = none ∨ BadQuery ["query", "page", "per_page"] r, 400),
        (Missing s.store (place? rawToken rawNumber), 404), (BlankSearch r, 422)]
      ((service config).searchMessages rawToken rawNumber r) i s := by
  refine (decides_place fun token number hplace => ?_).merge
  rw [hplace]
  refine decides_form ?_
  refine decides_read trivial (g := fun record => (s.store.chatAt record).chat)
    (congrArg Prod.snd h.connected.perform_findChat) fun record hlookup => ?_
  exact decides_searchPage fun _ => rfl

/-! ## the routes -/

/-- A store that a request may find: calls of any kind were made on it, one by one or interleaved,
finished or not, and requests of any kind were served. -/
inductive Reachable : ChatService.Memory.State → Prop where
  | interleaved (requests : List ChatService.Memory.Request) (schedule : List (Turn Moment)) :
      Reachable (runSchedule schedule .empty (ChatService.Memory.start requests)).1
  | performed {α : Type} {store : ChatService.Memory.State} (h : Reachable store) (m : Moment)
      (operation : Store.Operation α) :
      Reachable (ChatService.Memory.perform m operation store).1
  | served {config : Config} {i i' : Instant} {s s' : State} {r : Request} {response : Response}
      (h : Reachable s.store)
      (hanswer : ((service config).respond r).run i s = .answered i' s' response) :
      Reachable s'.store

theorem Served.serviceable {s' : State} (h : Served config i s s') (hs : Serviceable s.store) :
    Serviceable s'.store := by
  refine ⟨h.linkage hs.toLinkage, ?_⟩
  cases h with
  | kept => exact hs.tallied
  | dropped key => exact hs.tallied
  | cached hfound hexpires => exact hs.tallied
  | planted hplants => exact hs.tallied.of_plants hplants
  | wasted => exact hs.tallied.takeId
  | posted hlink hchat hnumber hcount => exact hs.tallied.post hchat hnumber hcount

theorem Reachable.serviceable {store : ChatService.Memory.State} (h : Reachable store) :
    Serviceable store := by
  induction h with
  | interleaved requests schedule =>
      exact ChatService.Memory.runSchedule_serviceable requests schedule
  | performed _ m operation ih => exact ih.perform operation
  | served _ hanswer ih => exact (run_respond_served ih.toLinkage hanswer).2.serviceable ih

/-- The route answers the request with the status of the first check that fails, and tells what is
wrong and nothing else.  A request that is given time is sent this answer. -/
def AnswersBy (config : Config) (i : Instant) (s : State) (r : Request) (route : Route)
    (success : Nat) (checks : List (Prop × Nat)) : Prop :=
  ∃ s' response,
    ((service config).answer r route).run i s = .answered i s' response ∧
    DecidedBy success checks response.status ∧
    (response.status ≠ success →
      ∃ text, response.body = some (.object [("error", .text text)])) ∧
    (config.requestTimeout ≠ .zero →
      ((service config).respond r).run i s =
        .answered i s' (response.withHeaders (config.cors.headers r)))

theorem answersBy_of_decides {route : Route} {handling : Handling State Response} {success : Nat}
    {checks : List (Prop × Nat)} (h : Decides success checks handling i s)
    (hanswer : (service config).answer r route = Service.finish handling)
    (hroute : Route.ofPath? r.target.path = some route) (hmethod : r.method ∈ route.methods)
    (hhead : r.method ≠ "HEAD") : AnswersBy config i s r route success checks := by
  obtain ⟨s', answer, hending, hdecided, herror⟩ := h
  have hrun : ((service config).answer r route).run i s = .answered i s' (responseOf answer) := by
    rw [hanswer, run_finish, hending, Ending.bind_answered]
  refine ⟨s', responseOf answer, hrun, hdecided, fun hstatus => ?_, fun htime => ?_⟩
  · obtain ⟨e, rfl⟩ := herror hstatus
    exact ⟨e.publicText, rfl⟩
  · rw [run_respond htime hmethod hhead hroute, hrun, Ending.bind_answered]

theorem AnswersBy.of_not_last {route : Route} {success code : Nat} {failing : Prop}
    (checks : List (Prop × Nat))
    (h : AnswersBy config i s r route success (checks ++ [(failing, code)]))
    (hpass : ¬failing) : AnswersBy config i s r route success checks := by
  obtain ⟨s', response, hrun, hdecided, hrest⟩ := h
  exact ⟨s', response, hrun, hdecided.of_not_last hpass, hrest⟩

/-- Numbers are left in every chat while fewer ids than there are numbers are used up. -/
theorem not_exhausted (h : Serviceable s.store) (hids : s.store.ids < Word.maxInt64)
    (place : Option (String × Int)) : ¬Exhausted s.store place := by
  rintro ⟨p, -, husedUp⟩
  have hle := h.le_ids_of_usedUp husedUp
  omega

/-- **The first failing check decides.**  Wherever concurrent calls on the store are, and whatever
is cached and indexed: a message is refused for its path, then for its body, then for its chat; a
listing for its path or query, then for its chat; a search for its path or query, then for its chat,
then for its text.  A chat that has used up all numbers refuses a message too, last of all; but no
chat has before as many internal ids are used up. -/
theorem statuses_decided (config : Config) (i : Instant) (s : State) (hreach : Reachable s.store)
    (r : Request) (rawToken rawNumber : String) :
    (r.method = "POST" →
      Route.ofPath? r.target.path = some (.messages rawToken rawNumber) →
        AnswersBy config i s r (.messages rawToken rawNumber) 201
          [(place? rawToken rawNumber = none, 400), (BadMessage r, 422),
            (Missing s.store (place? rawToken rawNumber), 404),
            (Exhausted s.store (place? rawToken rawNumber), 409)] ∧
        (s.store.ids < Word.maxInt64 →
          AnswersBy config i s r (.messages rawToken rawNumber) 201
            [(place? rawToken rawNumber = none, 400), (BadMessage r, 422),
              (Missing s.store (place? rawToken rawNumber), 404)])) ∧
    (r.method = "GET" →
      Route.ofPath? r.target.path = some (.messages rawToken rawNumber) →
        AnswersBy config i s r (.messages rawToken rawNumber) 200
          [(place? rawToken rawNumber = none ∨ BadQuery ["page", "per_page"] r, 400),
            (Missing s.store (place? rawToken rawNumber), 404)]) ∧
    (r.method = "GET" →
      Route.ofPath? r.target.path = some (.search rawToken rawNumber) →
        AnswersBy config i s r (.search rawToken rawNumber) 200
          [(place? rawToken rawNumber = none ∨ BadQuery ["query", "page", "per_page"] r, 400),
            (Missing s.store (place? rawToken rawNumber), 404), (BlankSearch r, 422)]) := by
  have hs := hreach.serviceable
  refine ⟨fun hmethod hroute => ?_, fun hmethod hroute => ?_, fun hmethod hroute => ?_⟩
  · have hall := answersBy_of_decides (decides_createMessage config i r rawToken rawNumber hs)
      (by simp only [Service.answer, hmethod]; rfl) hroute (by simp [Route.methods, hmethod])
      (by simp [hmethod])
    exact ⟨hall, fun hids => hall.of_not_last [_, _, _] (not_exhausted hs hids _)⟩
  · exact answersBy_of_decides (decides_listMessages config i r rawToken rawNumber hs)
      (by simp only [Service.answer, hmethod]; rfl) hroute (by simp [Route.methods, hmethod])
      (by simp [hmethod])
  · exact answersBy_of_decides (decides_searchMessages config i r rawToken rawNumber hs)
      (by simp only [Service.answer, hmethod]; rfl) hroute (by simp [Route.methods, hmethod])
      (by simp [hmethod])

/-! ## in the middle of a deletion -/

/-- Of two chats, the first one is unlinked already and not yet marked as deleted. -/
def halfDeleted : State :=
  { moment := ⟨.epoch, "t"⟩
    store :=
      (runSchedule ([0, 0, 1, 1, 2, 2, 3, 3].map fun call => ⟨call, ⟨.epoch, "t"⟩⟩) .empty
        (ChatService.Memory.start
          [⟨_, .createApplication (some "a")⟩, ⟨_, .createChat "t"⟩, ⟨_, .createChat "t"⟩,
            ⟨_, .deleteChat "t" 1⟩])).1 }

/-- A message without a text, for the first chat. -/
def blankMessage : Request := post "/applications/t/chats/1/messages" "[[\" \"]]"

/-- A search without a text, in one of the chats. -/
def blankSearch (number : String) : Request :=
  ⟨"GET", .ofUri ("/applications/t/chats/" ++ number ++ "/messages/search?query="), [], []⟩

/-- The status of the response that is sent. -/
def Sends (s : State) (r : Request) (status : Nat) : Prop :=
  ∃ s' response, ((service {}).respond r).run ⟨0⟩ s = .answered ⟨0⟩ s' response ∧
    response.status = status

theorem AnswersBy.sends {route : Route} {success status : Nat} {checks : List (Prop × Nat)}
    (h : AnswersBy {} ⟨0⟩ s r route success checks)
    (hstatus : ∀ n, DecidedBy success checks n → n = status) : Sends s r status := by
  obtain ⟨s', response, -, hdecided, -, hsent⟩ := h
  exact ⟨s', _, hsent (by decide), hstatus _ hdecided⟩

theorem not_missing_of_isOk {s : ChatService.Memory.State}
    (h : (s.lookupChat token number).isOk) : ¬Missing s (some (token, number)) := by
  cases hlookup : s.lookupChat token number with
  | error e => rw [hlookup] at h; contradiction
  | ok record =>
      rw [missing_some, not_not]
      exact ⟨record, ChatService.Memory.lookupChat_eq_ok.mp hlookup⟩

theorem missing_of_not_isOk {s : ChatService.Memory.State}
    (h : (s.lookupChat token number).isOk = false) : Missing s (some (token, number)) := by
  rw [missing_some]
  rintro ⟨record, hlink⟩
  rw [ChatService.Memory.lookupChat_eq_ok.mpr hlink] at h
  contradiction

/-- Without a text, a message for the missing chat is refused for its body, and a search in it for
the chat; in the other chat the search is refused for its text. -/
theorem blanks_refused :
    Sends halfDeleted blankMessage 422 ∧ Sends halfDeleted (blankSearch "1") 404 ∧
      Sends halfDeleted (blankSearch "2") 422 := by
  have hreach : Reachable halfDeleted.store := .interleaved _ _
  have hplace : place? "t" "1" = some ("t", 1) := by decide +kernel
  have hplace' : place? "t" "2" = some ("t", 2) := by decide +kernel
  have hpayload : readPayload messageForm blankMessage = .ok (some " ") := by decide +kernel
  have hblank : BadMessage blankMessage := .inr ⟨some " ", hpayload, by decide +kernel⟩
  have hquery : ¬BadQuery ["query", "page", "per_page"] (blankSearch "1") := by
    rintro ⟨e, he⟩
    exact nomatch he
  have hquery' : ¬BadQuery ["query", "page", "per_page"] (blankSearch "2") := by
    rintro ⟨e, he⟩
    exact nomatch he
  have htext : BlankSearch (blankSearch "2") := by
    unfold BlankSearch
    decide +kernel
  have hmissing : Missing halfDeleted.store (some ("t", 1)) :=
    missing_of_not_isOk (by decide +kernel)
  have hthere : ¬Missing halfDeleted.store (some ("t", 2)) :=
    not_missing_of_isOk (by decide +kernel)
  have hmessage := (statuses_decided {} ⟨0⟩ halfDeleted hreach blankMessage "t" "1").1
    rfl (by decide +kernel)
  have hsearch := (statuses_decided {} ⟨0⟩ halfDeleted hreach (blankSearch "1") "t" "1").2.2
    rfl (by decide +kernel)
  have hsearch' := (statuses_decided {} ⟨0⟩ halfDeleted hreach (blankSearch "2") "t" "2").2.2
    rfl (by decide +kernel)
  refine ⟨hmessage.1.sends ?_, hsearch.sends ?_, hsearch'.sends ?_⟩
  · simp [DecidedBy, hplace, hblank]
  · simp [DecidedBy, hplace, hquery, hmissing]
  · simp [DecidedBy, hplace', hquery', hthere, htext]

end InMemory

end ChatService.Http
