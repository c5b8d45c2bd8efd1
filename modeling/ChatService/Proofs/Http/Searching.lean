import ChatService.Proofs.Http.Runs
import ChatService.Proofs.Page.Requests
import ChatService.Proofs.Search.Documents

/-!
# Searches agree with listings

The store and the index are changed by one handler, one after the other, and no other handler
touches messages.  So after every request the index holds the documents of the stored messages, and
a search answers with those messages of its chat that contain the text, in the order in which they
are listed.
-/

namespace ChatService.Http.InMemory

open ChatService.Memory (Linkage Moment LinkedAt)
open Search (Indexes)
open Store (Message)
open Word (IsInt64)

variable {config : Config} {i : Instant} {s s' : State} {past : List Point} {token : String}
  {number : Int}

theorem Served.indexes (h : Served config i s s') (hlinkage : Linkage s.store)
    (hindexes : Indexes s.store s.index) : Indexes s'.store s'.index := by
  cases h with
  | kept => exact hindexes
  | dropped key => exact hindexes
  | cached hfound hexpires => exact hindexes
  | planted hplants => exact hindexes.of_plants hlinkage hplants
  | wasted => exact hindexes.of_filed fun _ => .rfl
  | posted hlink hchat hnumber =>
      exact hindexes.post hlinkage hlink hchat (Store.nextAfter_eq_ok hnumber).2

/-- After every request the index holds the documents of the stored messages. -/
theorem Run.indexes (h : Run config (⟨i, s⟩ :: past)) : Indexes s.store s.index := by
  refine h.invariant (fun s => Indexes s.store s.index) (fun _ => Search.indexes_empty)
    (fun _ hlinkage hindexes hserved => ?_) _ List.mem_cons_self
  exact hserved.indexes hlinkage hindexes

/-! ## pages -/

section Pages

variable {fields : List (String × String)}

/-- The page that the fields of a query ask for. -/
abbrev askedPage (fields : List (String × String)) : Int := Page.pageOf (formValue? "page" fields)

/-- The page size that the fields of a query ask for. -/
abbrev askedSize (config : Config) (fields : List (String × String)) : Int :=
  config.pagination.sizeOf (formValue? "per_page" fields)

theorem page_eq : (service config).page fields = ⟨askedPage fields, askedSize config fields⟩ :=
  Page.Policy.normalize_eq

theorem slice_page {α : Type} {items : List α} (hlength : items.length ≤ Word.maxUInt64)
    (hsize : IsInt64 config.pagination.defaultPerPage) :
    Page.slice ((service config).page fields).offset ((service config).page fields).limit items =
      Page.pageItems (askedPage fields) (askedSize config fields) items :=
  Page.Policy.slice_normalize hlength hsize

end Pages

/-! ## listings -/

/-- The messages of a chat as the store lists and counts them. -/
def Lists (store : ChatService.Memory.State) (token : String) (number : Int)
    (messages : List Message) : Prop :=
  ∀ moment, ChatService.Memory.perform moment (.countMessages token number) store =
      (store, .ok messages.length) ∧
    ∀ offset limit, ChatService.Memory.perform moment (.listMessages token number offset limit)
      store = (store, .ok ((messages.drop offset).take limit))

/-- A chat that the store knows is listed from its record. -/
theorem lists_of_known {store : ChatService.Memory.State} {moment : Moment}
    {chat : Store.Chat} (hlinkage : Linkage store)
    (hknown : (ChatService.Memory.perform moment (.findChat token number) store).2 = .ok chat) :
    ∃ record found, LinkedAt store token number record ∧
      Keyed.get? record store.chats = some found ∧
      Lists store token number (found.messages.map (·.2)) := by
  rw [hlinkage.connected.perform_findChat] at hknown
  cases hrecord : store.lookupChat token number with
  | error e => rw [hrecord] at hknown; contradiction
  | ok record =>
      have hlink := ChatService.Memory.lookupChat_eq_ok.mp hrecord
      refine ⟨record, store.chatAt record, hlink, (hlinkage.connected _ _ _ hrecord).1, ?_⟩
      refine fun moment => ⟨?_, fun offset limit => ?_⟩
      · rw [hlinkage.connected.perform_countMessages, hrecord, List.length_map]
        rfl
      · rw [hlinkage.connected.perform_listMessages, hrecord]
        rfl

/-! ## searches -/

/-- The messages whose bodies contain a text, both in lower case. -/
def matching (text : String) (messages : List Message) : List Message :=
  messages.filter fun message =>
    Text.contains (Text.lower text) (Text.lower message.body)

/-- The body of the response to a search: how many messages match, and those on the page, each with
its place. -/
def searchJson (token : String) (number page size : Int) (found : List Message) : Json :=
  .object
    [("total", .nat found.length),
      ("results", .list ((Page.pageItems page size found).map fun message =>
        .object
          [("application_token", .text token), ("chat_number", .int number),
            ("message_number", .int message.number), ("body", .text message.body),
            ("created_at", .text message.createdAt.render)])),
      ("page", .int page), ("per_page", .int size)]

/-- What is sent for the hits that a search reads is the wanted page of all matching messages. -/
theorem toJson_hits {fields : List (String × String)} {found : List Message}
    (hlength : found.length ≤ Word.maxUInt64)
    (hsize : IsInt64 config.pagination.defaultPerPage) :
    Page.Hits.toJson
        { total := found.length
          results := ((Page.slice ((service config).page fields).offset
            ((service config).page fields).limit found).map (.ofMessage token number)).map
              Search.Document.toJson
          page := ((service config).page fields).page
          perPage := ((service config).page fields).perPage } =
      searchJson token number (askedPage fields) (askedSize config fields) found := by
  rw [slice_page hlength hsize, page_eq, List.map_map]
  rfl

theorem pageOfHits_eq {store : ChatService.Memory.State} {index : Search.Memory.State}
    (hindexes : Indexes store index) (hlinkage : Linkage store) {record : Nat}
    {found : ChatService.Memory.ChatRecord} (hlink : LinkedAt store token number record)
    (hfound : Keyed.get? record store.chats = some found) {text : String}
    (hblank : Text.isBlank text = false) (page : Page.Request) :
    pageOfHits token number text page index =
      .ok ⟨(matching text (found.messages.map (·.2))).length,
        (Page.slice page.offset page.limit (matching text (found.messages.map (·.2)))).map
          (.ofMessage token number), page.page, page.perPage⟩ := by
  have hhits : Search.Memory.hits ⟨token, number, text, page.offset, page.limit⟩ index =
      (matching text (found.messages.map (·.2))).map (.ofMessage token number) := by
    rw [hindexes.hits_eq hlinkage hlink hfound]
    simp only [Search.documentsOf, matching, List.filter_map, List.map_map]
    rfl
  have hquery : Search.Query.ofPage token number text page =
      .ok ⟨token, number, text, page.offset, page.limit⟩ := by
    simp [Search.Query.ofPage, hblank]
  unfold pageOfHits
  rw [hquery]
  simp only [Except.map, Search.Memory.search, hhits, List.length_map,
    ChatService.Memory.slice_map]

/-- A search in a known chat, step by step. -/
theorem ending_searchMessages {r : Request} {rawToken rawNumber text : String}
    {fields : List (String × String)} {chat : Store.Chat} {hits : Page.Hits Search.Document}
    (hchat : chatOf rawToken rawNumber = .ok (token, number))
    (hform : readForm ["query", "page", "per_page"] r.target.query = .ok fields)
    (htext : formValue? "query" fields = some text)
    (hknown : (ChatService.Memory.perform s.moment (.findChat token number) s.store).2 = .ok chat)
    (hhits : pageOfHits token number text ((service config).page fields) s.index = .ok hits) :
    ending ((service config).searchMessages rawToken rawNumber r) i s =
      .answered i s (.ok (.json 200 <| Page.Hits.toJson
        ⟨hits.total, hits.results.map Search.Document.toJson, hits.page, hits.perPage⟩)) := by
  have hread : ChatService.Memory.IsRead (.findChat token number) := trivial
  have hfind : s.perform (.findChat token number) = (s, .ok chat) := by
    rw [perform_of_isRead hread, hknown]
  unfold Service.searchMessages
  rw [ending_bind, ending_require, hchat, Work.Ending.bind_answered, onward_ok]
  simp only [ending_bind, ending_require, hform, Work.Ending.bind_answered, onward_ok, ending_ask,
    hfind, Except.mapError, htext, Option.getD_some, ending_lift, run_searchPage, hhits,
    ending_pure]

/-- **A search agrees with the listing.**  After any run, a search in a known chat answers with the
number of its messages that contain the text, and with the wanted window of these messages: the
messages are those that the store lists and counts, in strictly ascending order.  Each is told with
its place, its text and the moment of its creation, by a text that is read back as the moment.  The
usual page size is a number of 64 bits, as policies have it (`hsize`). -/
theorem Run.search_agrees (h : Run config (⟨i, s⟩ :: past))
    (htime : config.requestTimeout ≠ .zero) (hsize : IsInt64 config.pagination.defaultPerPage)
    (moment : Moment) {r : Request} {rawToken rawNumber text : String}
    {fields : List (String × String)} {chat : Store.Chat} (hmethod : r.method = "GET")
    (hroute : Route.ofPath? r.target.path = some (.search rawToken rawNumber))
    (hchat : chatOf rawToken rawNumber = .ok (token, number))
    (hform : readForm ["query", "page", "per_page"] r.target.query = .ok fields)
    (htext : formValue? "query" fields = some text) (hblank : Text.isBlank text = false)
    (hknown : (ChatService.Memory.perform moment (.findChat token number) s.store).2 = .ok chat) :
    ∃ messages : List Message,
      Lists s.store token number messages ∧
      messages.Pairwise (fun a b => a.number < b.number) ∧
      (∀ message ∈ messages,
        Timestamp.parse? message.createdAt.render = some message.createdAt) ∧
      ((service config).respond r).run i (s.atMoment moment) =
        .answered i (s.atMoment moment)
          { status := 200
            headers := ("content-type", "application/json") :: config.cors.headers r
            body := some <| searchJson token number (askedPage fields) (askedSize config fields)
              (matching text messages) } := by
  obtain ⟨record, found, hlink, hfound, hlists⟩ := lists_of_known h.linkage hknown
  obtain ⟨found', hfound', hlive, -⟩ := h.linkage.live _ _ _ hlink
  obtain rfl := Option.some.inj (hfound.symm.trans hfound')
  have hlength : (matching text (found.messages.map (·.2))).length ≤ Word.maxUInt64 :=
    calc (matching text (found.messages.map (·.2))).length
      _ ≤ (found.messages.map (·.2)).length := List.length_filter_le _ _
      _ = found.messages.length := List.length_map _
      _ ≤ Word.maxUInt64 := h.gapless.messages_length_le hfound hlive
  refine ⟨found.messages.map (·.2), hlists, Search.messages_ascending h.linkage hfound,
    fun message hmem => ?_, ?_⟩
  · exact (h.dates.of_mem_messages h.linkage hfound hmem).legible.1
  · have hhits := pageOfHits_eq h.indexes h.linkage hlink hfound hblank
      ((service config).page fields)
    have hsearch : ending ((service config).searchMessages rawToken rawNumber r) i
        (s.atMoment moment) = _ := ending_searchMessages hchat hform htext hknown hhits
    rw [run_respond_get htime hmethod hroute]
    show ((Service.finish ((service config).searchMessages rawToken rawNumber r)).run i
      (s.atMoment moment)).bind _ = _
    rw [run_finish, hsearch]
    simp only [Work.Ending.bind_answered, responseOf, toJson_hits hlength hsize]
    rfl

/-- An application, its first chat, and two messages in it. -/
def talk : List Request :=
  [post "/applications" "[[\"a\"]]", post "/applications/t/chats" "",
    post "/applications/t/chats/1/messages" "[[\"Hello\"]]",
    post "/applications/t/chats/1/messages" "[[\"Bye\"]]"]

/-- A search for a part of the first message. -/
def searchHello : Request :=
  ⟨"GET", .ofUri "/applications/t/chats/1/messages/search?query=hELL", [], []⟩

/-- The number of a message, its text, and when it was created and changed. -/
def contents (message : Message) : Int × String × Timestamp × Timestamp :=
  (message.number, message.body, message.createdAt, message.updatedAt)

/-- What is stored after the talk. -/
def Talked (store : ChatService.Memory.State) : Prop :=
  (ChatService.Memory.perform ⟨.epoch, "t"⟩ (.findChat "t" 1) store).2.isOk ∧
    (ChatService.Memory.perform ⟨.epoch, "t"⟩ (.countMessages "t" 1) store).2.toOption = some 2 ∧
    (ChatService.Memory.perform ⟨.epoch, "t"⟩ (.listMessages "t" 1 0 2) store).2.toOption.map
      (List.map contents) = some [(1, "Hello", .epoch, .epoch), (2, "Bye", .epoch, .epoch)]

instance (store : ChatService.Memory.State) : Decidable (Talked store) := by
  unfold Talked; infer_instance

theorem talked_through_talk :
    ∃ p, beginning.through {} ⟨.epoch, "t"⟩ talk = some p ∧ Talked p.state.store := by
  have htalk : (beginning.through {} ⟨.epoch, "t"⟩ talk).any
      (fun p => decide (Talked p.state.store)) = true := by decide +kernel
  cases hp : beginning.through {} ⟨.epoch, "t"⟩ talk with
  | none => rw [hp] at htalk; exact absurd htalk Bool.false_ne_true
  | some p => exact ⟨p, rfl, by simpa [hp] using htalk⟩

/-- Two messages are listed after the talk. -/
theorem Lists.talked {store : ChatService.Memory.State} {messages : List Message}
    (hlists : Lists store "t" 1 messages) (h : Talked store) :
    ∃ a b, messages = [a, b] ∧ contents a = (1, "Hello", .epoch, .epoch) ∧
      contents b = (2, "Bye", .epoch, .epoch) := by
  obtain ⟨-, hcount, hcontents⟩ := h
  obtain ⟨hcounted, hlisted⟩ := hlists ⟨.epoch, "t"⟩
  rw [hcounted] at hcount
  rw [hlisted] at hcontents
  have hlength : messages.length = 2 := Option.some.inj hcount
  obtain ⟨a, b, rfl⟩ := List.length_eq_two.mp hlength
  have htwo : [contents a, contents b] = _ := Option.some.inj hcontents
  simp only [List.cons.injEq, and_true] at htwo
  exact ⟨a, b, rfl, htwo⟩

theorem Talked.known {store : ChatService.Memory.State} (h : Talked store) :
    ∃ chat, (ChatService.Memory.perform ⟨.epoch, "t"⟩ (.findChat "t" 1) store).2 = .ok chat := by
  have hok := h.1
  cases hfind : (ChatService.Memory.perform ⟨.epoch, "t"⟩ (.findChat "t" 1) store).2 with
  | error e => rw [hfind] at hok; exact absurd hok Bool.false_ne_true
  | ok chat => exact ⟨chat, rfl⟩

/-- The search finds the first message and no other. -/
theorem search_hello :
    ∃ p, beginning.through {} ⟨.epoch, "t"⟩ talk = some p ∧
      ((service {}).respond searchHello).run p.instant (p.state.atMoment ⟨.epoch, "t"⟩) =
        .answered p.instant (p.state.atMoment ⟨.epoch, "t"⟩)
          { status := 200
            headers := ("content-type", "application/json") ::
              ({} : Config).cors.headers searchHello
            body := some (.object
              [("total", .nat 1),
                ("results", .list
                  [.object
                    [("application_token", .text "t"), ("chat_number", .int 1),
                      ("message_number", .int 1), ("body", .text "Hello"),
                      ("created_at", .text "1970-01-01T00:00:00Z")]]),
                ("page", .int 1), ("per_page", .int 20)]) } := by
  obtain ⟨p, hp, htalked⟩ := talked_through_talk
  have hstart : Run {} [beginning] := .start ⟨0⟩ ⟨.epoch, "t"⟩
  have hnow : Timestamp.epoch.IsValid := by decide +kernel
  have hthrough : ∃ past, Run {} (p :: past) := hstart.through hnow hp
  obtain ⟨past, hrun⟩ := hthrough
  obtain ⟨chat, hknown⟩ := htalked.known
  have htime : ({} : Config).requestTimeout ≠ .zero := by decide
  have hroute : Route.ofPath? searchHello.target.path = some (.search "t" "1") := by decide +kernel
  have hchat : chatOf "t" "1" = .ok ("t", 1) := rfl
  have hform : readForm ["query", "page", "per_page"] searchHello.target.query =
      .ok [("query", "hELL")] := rfl
  have htext : formValue? "query" [("query", "hELL")] = some "hELL" := by decide +kernel
  have hblank : Text.isBlank "hELL" = false := by decide +kernel
  obtain ⟨messages, hlists, -, -, hanswer⟩ := hrun.search_agrees htime (by decide) ⟨.epoch, "t"⟩ rfl
    hroute hchat hform htext hblank hknown
  obtain ⟨a, b, rfl, ha, hb⟩ := hlists.talked htalked
  obtain ⟨hnumber, hbody, hcreated, -⟩ : a.number = 1 ∧ a.body = "Hello" ∧ a.createdAt = .epoch ∧
    a.updatedAt = .epoch := by simpa [contents] using ha
  have hother : b.body = "Bye" := congrArg (·.2.1) hb
  have hmatching : matching "hELL" [a, b] = [a] := by
    have hfirst : Text.contains (Text.lower "hELL") (Text.lower "Hello") = true := by
      decide +kernel
    have hsecond : Text.contains (Text.lower "hELL") (Text.lower "Bye") = false := by
      decide +kernel
    simp [matching, hbody, hother, hfirst, hsecond]
  have hpage : askedPage [("query", "hELL")] = 1 := by decide +kernel
  have hsize : askedSize {} [("query", "hELL")] = 20 := by decide +kernel
  have hepoch : Timestamp.epoch.render = "1970-01-01T00:00:00Z" := by decide +kernel
  rw [hpage, hsize, hmatching] at hanswer
  refine ⟨p, hp, hanswer.trans ?_⟩
  simp [searchJson, Page.pageItems, hnumber, hbody, hcreated, hepoch]

end ChatService.Http.InMemory
