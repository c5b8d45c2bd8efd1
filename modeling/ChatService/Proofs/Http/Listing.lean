import ChatService.Proofs.Http.Searching
import ChatService.Proofs.Memory.NewestFirst

/-!
# Listings answer with the right items

The handlers of the three listings count first, ask the store for a part of the items then, and send
both with the page that was asked for.  For each of them the store has one complete list in the
order of the listing, and what is sent is the part of it that the page covers, for any page, any
size and any policy.
-/

namespace ChatService.Http.InMemory

open ChatService.Memory (Dates Gapless Legible Linkage Moment LinkedAt newestFirst)
open Page (pageItems)
open Store (Application Message Operation)
open Word (IsInt64 maxUInt64)

/-! ## complete lists -/

/-- An application that a listing puts before another one: it was created later, or at the same
moment and has the greater id. -/
def NoOlder (a b : Application) : Prop :=
  b.createdAt.le a.createdAt ∧ (a.createdAt = b.createdAt → b.id ≤ a.id)

/-- Everything that a listing lists, in its order, as clients see it: each item by its fields, with
moments as texts that are read back as them. -/
inductive Complete (store : ChatService.Memory.State) : Route → List Json → Prop where
  | applications {items : List Application}
      (hall : items.Perm (store.applications.map (·.2.application)))
      (horder : items.Pairwise NoOlder)
      (hlegible : ∀ a ∈ items, Legible a.createdAt a.updatedAt) :
      Complete store .applications <| items.map fun a =>
        .object
          [("token", .text a.token), ("name", .text a.name), ("chats_count", .int a.chatsCount),
            ("created_at", .text a.createdAt.render), ("updated_at", .text a.updatedAt.render)]
  | chats {raw token : String} {items : List Store.Chat} (htoken : tokenOf raw = .ok token)
      (hall : ∀ chat, chat ∈ items ↔ ∃ number record found, LinkedAt store token number record ∧
        Keyed.get? record store.chats = some found ∧ found.chat = chat)
      (horder : items.Pairwise fun a b => a.number < b.number)
      (hlegible : ∀ chat ∈ items, Legible chat.createdAt chat.updatedAt) :
      Complete store (.chats raw) <| items.map fun chat =>
        .object
          [("number", .int chat.number), ("messages_count", .int chat.messagesCount),
            ("created_at", .text chat.createdAt.render),
            ("updated_at", .text chat.updatedAt.render)]
  | messages {rawToken rawNumber token : String} {number : Int} {record : Nat}
      {found : ChatService.Memory.ChatRecord} {items : List Message}
      (hchat : chatOf rawToken rawNumber = .ok (token, number))
      (hlink : LinkedAt store token number record)
      (hfound : Keyed.get? record store.chats = some found)
      (hall : items.Perm (found.messages.map (·.2)))
      (horder : items.Pairwise fun a b => a.number < b.number)
      (hlegible : ∀ message ∈ items, Legible message.createdAt message.updatedAt) :
      Complete store (.messages rawToken rawNumber) <| items.map fun message =>
        .object
          [("number", .int message.number), ("body", .text message.body),
            ("created_at", .text message.createdAt.render),
            ("updated_at", .text message.updatedAt.render)]

/-- A listing whose parent, if it has one, is there. -/
def HasParent (store : ChatService.Memory.State) : Route → Prop
  | .applications => True
  | .chats raw => ∃ token found, tokenOf raw = .ok token ∧
      Keyed.get? token store.applications = some found
  | .messages rawToken rawNumber => ∃ token number record,
      chatOf rawToken rawNumber = .ok (token, number) ∧ LinkedAt store token number record
  | .health | .application _ | .search _ _ => False

/-- A page of a listing as clients see it. -/
def pageJson (page size : Int) (items : List Json) : Json :=
  .object
    [("data", .list (pageItems page size items)),
      ("meta", .object
        [("page", .int page), ("per_page", .int size), ("total", .nat items.length),
          ("total_pages", .nat ((items.length + (size.toNat - 1)) / size.toNat))])]

theorem sorted_newestFirst (applications : List Application) :
    (applications.mergeSort newestFirst).Pairwise NoOlder :=
  (ChatService.Memory.pairwise_newestFirst applications).imp
    ChatService.Memory.newestFirst_iff.mp

/-! ## handlers -/

section Handlers

variable {config : Config} {i : Instant} {s : State} {r : Request}
  {fields : List (String × String)} {route : Route}

/-- What is sent for the items that a listing reads is the wanted page of the complete list. -/
theorem listingResponse_eq {α : Type} (item : α → Json) {items : List α}
    (hlength : items.length ≤ maxUInt64) (hsize : IsInt64 config.pagination.defaultPerPage) :
    listingResponse item
        (Page.slice ((service config).page fields).offset ((service config).page fields).limit
          items)
        ((service config).page fields) items.length =
      .json 200 (pageJson (askedPage fields) (askedSize config fields) (items.map item)) := by
  have hpages : (((service config).page fields).window items.length).totalPages =
      (items.length + ((askedSize config fields).toNat - 1)) / (askedSize config fields).toNat := by
    rw [page_eq, Page.Request.window, Page.window, max_eq_left Page.Policy.one_le_sizeOf]
  unfold listingResponse Page.Paginated.ofRequest Page.Paginated.map Page.Meta.ofRequest
    Page.Paginated.toJson Page.Meta.toJson pageJson pageItems
  rw [slice_page hlength hsize, hpages, page_eq, List.length_map, pageItems, List.map_take,
    List.map_drop]

/-- A listing, step by step: the page, the count, and the items of the page. -/
theorem ending_listing {α : Type} (item : α → Json) {items : List α} {count : Operation Nat}
    {list : Nat → Nat → Operation (List α)}
    (hform : readForm ["page", "per_page"] r.target.query = .ok fields)
    (hcount : s.perform count = (s, .ok items.length))
    (hlist : ∀ offset limit, s.perform (list offset limit) =
      (s, .ok (Page.slice offset limit items)))
    (hlength : items.length ≤ maxUInt64) (hsize : IsInt64 config.pagination.defaultPerPage) :
    ending (do
        let page ← Service.require ((service config).listingPage r)
        let total ← (service config).ask count
        let listed ← (service config).ask (list page.offset page.limit)
        return listingResponse item listed page total) i s =
      .answered i s (.ok (.json 200
        (pageJson (askedPage fields) (askedSize config fields) (items.map item)))) := by
  have hpage : (service config).listingPage r = .ok ((service config).page fields) := by
    rw [Service.listingPage, hform]
    rfl
  simp only [ending_bind, ending_require, hpage, Work.Ending.bind_answered, onward_ok, ending_ask,
    hcount, hlist, Except.mapError, ending_pure, listingResponse_eq item hlength hsize]

/-- What a read answers where the store is known. -/
theorem perform_read {α : Type} {operation : Operation α} {answer : Store.Answer α}
    (hread : ChatService.Memory.IsRead operation)
    (hanswer : ChatService.Memory.perform s.moment operation s.store = (s.store, answer)) :
    s.perform operation = (s, answer) := by
  rw [perform_of_isRead hread, hanswer]

theorem ending_listApplications (hlinkage : Linkage s.store)
    (hfew : s.store.applications.length ≤ maxUInt64)
    (hsize : IsInt64 config.pagination.defaultPerPage)
    (hform : readForm ["page", "per_page"] r.target.query = .ok fields) :
    ending ((service config).listApplications r) i s =
      .answered i s (.ok (.json 200 (pageJson (askedPage fields) (askedSize config fields)
        ((s.store.allApplications.mergeSort newestFirst).map applicationJson)))) := by
  have hlength : (s.store.allApplications.mergeSort newestFirst).length =
      s.store.applications.length := by
    rw [List.length_mergeSort, ChatService.Memory.State.allApplications, List.length_map]
  refine ending_listing applicationJson hform (perform_read trivial ?_)
    (fun offset limit => perform_read trivial ?_) (hlength ▸ hfew) hsize
  · rw [ChatService.Memory.perform_countApplications, hlength]
  · exact ChatService.Memory.perform_listApplications hlinkage.tokens

theorem ending_listChats {raw token : String} {found : ChatService.Memory.ApplicationRecord}
    (hlinkage : Linkage s.store) (hgapless : Gapless s.store)
    (hsize : IsInt64 config.pagination.defaultPerPage)
    (hform : readForm ["page", "per_page"] r.target.query = .ok fields)
    (htoken : tokenOf raw = .ok token)
    (hfound : Keyed.get? token s.store.applications = some found) :
    ending ((service config).listChats raw r) i s =
      .answered i s (.ok (.json 200 (pageJson (askedPage fields) (askedSize config fields)
        ((s.store.chatsOf found).map chatJson)))) := by
  have hlookup := ChatService.Memory.lookupApplication_eq_ok.mpr hfound
  have hlength : (s.store.chatsOf found).length = found.chats.length := List.length_map ..
  unfold Service.listChats
  rw [ending_bind, ending_require, htoken, Work.Ending.bind_answered, onward_ok]
  refine ending_listing chatJson hform (perform_read trivial ?_)
    (fun offset limit => perform_read trivial ?_)
    (hlength ▸ hgapless.chats_length_le hlinkage hfound) hsize
  · rw [ChatService.Memory.perform_countChats, hlookup, hlength]
    rfl
  · rw [hlinkage.perform_listChats, hlookup]
    rfl

theorem ending_listMessages {rawToken rawNumber token : String} {number : Int} {record : Nat}
    {found : ChatService.Memory.ChatRecord} (hlinkage : Linkage s.store)
    (hgapless : Gapless s.store) (hsize : IsInt64 config.pagination.defaultPerPage)
    (hform : readForm ["page", "per_page"] r.target.query = .ok fields)
    (hchat : chatOf rawToken rawNumber = .ok (token, number))
    (hlink : LinkedAt s.store token number record)
    (hfound : Keyed.get? record s.store.chats = some found) (hlive : found.deleted = false) :
    ending ((service config).listMessages rawToken rawNumber r) i s =
      .answered i s (.ok (.json 200 (pageJson (askedPage fields) (askedSize config fields)
        ((found.messages.map (·.2)).map messageJson)))) := by
  have hlookup := ChatService.Memory.lookupChat_eq_ok.mpr hlink
  have hat : s.store.chatAt record = found := by
    rw [ChatService.Memory.State.chatAt, hfound, Option.getD_some]
  have hlength : (found.messages.map (·.2)).length = found.messages.length := List.length_map ..
  unfold Service.listMessages
  rw [ending_bind, ending_require, hchat, Work.Ending.bind_answered, onward_ok]
  refine ending_listing messageJson hform (perform_read trivial ?_)
    (fun offset limit => perform_read trivial ?_)
    (hlength ▸ hgapless.messages_length_le hfound hlive) hsize
  · rw [hlinkage.connected.perform_countMessages, hlookup, hlength, ← hat]
    rfl
  · rw [hlinkage.connected.perform_listMessages, hlookup, ← hat]
    rfl

/-- Whatever is listed, its complete list is there, and the wanted page of it is sent. -/
theorem run_listing (hlinkage : Linkage s.store) (hgapless : Gapless s.store)
    (hdates : Dates s.store)
    (hfew : route = .applications → s.store.applications.length ≤ maxUInt64)
    (hsize : IsInt64 config.pagination.defaultPerPage) (hparent : HasParent s.store route)
    (hform : readForm ["page", "per_page"] r.target.query = .ok fields) :
    ∃ items, Complete s.store route items ∧
      ((service config).get r route).run i s = .answered i s
        (.json 200 (pageJson (askedPage fields) (askedSize config fields) items)) := by
  cases route with
  | applications =>
      refine ⟨_, .applications (List.mergeSort_perm _ _) (sorted_newestFirst _) fun a ha => ?_, ?_⟩
      · obtain ⟨⟨token, found⟩, hentry, rfl⟩ := List.mem_map.mp (List.mem_mergeSort.mp ha)
        exact (hdates.applications token found
          ((Keyed.get?_eq_some_iff_mem hlinkage.tokens).mpr hentry)).legible
      exact (run_finish _).trans
        (congrArg (Work.Ending.bind · _) (ending_listApplications hlinkage (hfew rfl) hsize hform))
  | chats raw =>
      obtain ⟨token, found, htoken, hfound⟩ := hparent
      refine ⟨_, .chats htoken (fun _ => hlinkage.mem_chatsOf_iff hfound)
        (hlinkage.chatsOf_ascending hfound) fun chat hmem => ?_, ?_⟩
      · obtain ⟨-, record, found, -, hchat, rfl⟩ := (hlinkage.mem_chatsOf_iff hfound).mp hmem
        exact (hdates.chats record found hchat).legible
      exact (run_finish _).trans (congrArg (Work.Ending.bind · _)
        (ending_listChats hlinkage hgapless hsize hform htoken hfound))
  | messages rawToken rawNumber =>
      obtain ⟨token, number, record, hchat, hlink⟩ := hparent
      obtain ⟨found, hfound, hlive, -⟩ := hlinkage.live token number record hlink
      refine ⟨_, .messages hchat hlink hfound .rfl (Search.messages_ascending hlinkage hfound)
        fun message hmem => (hdates.of_mem_messages hlinkage hfound hmem).legible, ?_⟩
      exact (run_finish _).trans (congrArg (Work.Ending.bind · _)
        (ending_listMessages hlinkage hgapless hsize hform hchat hlink hfound hlive))
  | health | application _ | search _ _ => exact hparent.elim

end Handlers

/-! ## after any run -/

section Runs

variable {origin config : Config} {i : Instant} {s s' : State} {past : List Point}

/-- **A listing answers with its page.**  After any run, a listing whose parent is there has one
complete list in its order, and whatever page and size are asked for, and whatever the policy, the
answer is the items of this list that the page covers, with the page, its size and the length of the
list.  The size is at least 1 and never above a ceiling that is set.  Nothing keeps applications
from being more than a 64-bit count can tell but that no memory holds as many, so `hfew` says it;
chats and messages run out of numbers before. -/
theorem Run.listing_answers (h : Run origin (⟨i, s⟩ :: past))
    (htime : config.requestTimeout ≠ .zero) (hsize : IsInt64 config.pagination.defaultPerPage)
    (moment : Moment) {r : Request} {route : Route} {fields : List (String × String)}
    (hmethod : r.method = "GET") (hroute : Route.ofPath? r.target.path = some route)
    (hform : readForm ["page", "per_page"] r.target.query = .ok fields)
    (hparent : HasParent s.store route)
    (hfew : route = .applications → s.store.applications.length ≤ maxUInt64) :
    ∃ items, Complete s.store route items ∧
      ((service config).respond r).run i (s.atMoment moment) =
        .answered i (s.atMoment moment)
          { status := 200
            headers := ("content-type", "application/json") :: config.cors.headers r
            body := some (pageJson (askedPage fields) (askedSize config fields) items) } ∧
      1 ≤ askedSize config fields ∧
      (0 < config.pagination.maxPerPage → askedSize config fields ≤ config.pagination.maxPerPage) ∧
      ((pageItems (askedPage fields) (askedSize config fields) items).length : Int) ≤
        askedSize config fields := by
  have hone : 1 ≤ askedSize config fields := Page.Policy.one_le_sizeOf
  obtain ⟨items, hcomplete, hanswer⟩ :=
    run_listing (i := i) (s := s.atMoment moment) h.linkage h.gapless h.dates hfew hsize hparent
      hform
  refine ⟨items, hcomplete, ?_, hone, Page.Policy.sizeOf_le, ?_⟩
  · rw [run_respond_get htime hmethod hroute, hanswer]
    rfl
  · have hlength : (pageItems (askedPage fields) (askedSize config fields) items).length ≤
        (askedSize config fields).toNat := List.length_take_le _ _
    omega

/-- The second page of a talk, of a size that is far above the ceiling. -/
def secondPage : Request :=
  ⟨"GET", .ofUri "/applications/t/chats/1/messages?page=2&per_page=500", [], []⟩

/-- A service whose pages hold one item. -/
def narrow : Config := { pagination := ⟨20, 1⟩ }

/-- The messages of a chat are listed in one way. -/
theorem Complete.messages_eq {store : ChatService.Memory.State} {rawToken rawNumber token : String}
    {number : Int} {record : Nat} {found : ChatService.Memory.ChatRecord} {items : List Json}
    (h : Complete store (.messages rawToken rawNumber) items) (hlinkage : Linkage store)
    (hchat : chatOf rawToken rawNumber = .ok (token, number))
    (hlink : LinkedAt store token number record)
    (hfound : Keyed.get? record store.chats = some found) :
    items = (found.messages.map (·.2)).map fun message =>
      .object
        [("number", .int message.number), ("body", .text message.body),
          ("created_at", .text message.createdAt.render),
          ("updated_at", .text message.updatedAt.render)] := by
  cases h with
  | messages hchat' hlink' hfound' hall horder hlegible =>
      obtain ⟨rfl, rfl⟩ := Prod.mk.inj (Except.ok.inj (hchat.symm.trans hchat'))
      obtain rfl := hlink.unique hlink'
      obtain rfl := Option.some.inj (hfound.symm.trans hfound')
      refine congrArg (List.map _) (List.Perm.eq_of_pairwise (fun a b _ _ hab hba => ?_) horder
        (Search.messages_ascending hlinkage hfound) hall)
      omega

/-- The second of two messages, where a page holds one. -/
theorem second_of_two :
    ∃ p, beginning.through {} ⟨.epoch, "t"⟩ talk = some p ∧
      ((service narrow).respond secondPage).run p.instant (p.state.atMoment ⟨.epoch, "t"⟩) =
        .answered p.instant (p.state.atMoment ⟨.epoch, "t"⟩)
          { status := 200
            headers := ("content-type", "application/json") :: narrow.cors.headers secondPage
            body := some (.object
              [("data", .list
                  [.object
                    [("number", .int 2), ("body", .text "Bye"),
                      ("created_at", .text "1970-01-01T00:00:00Z"),
                      ("updated_at", .text "1970-01-01T00:00:00Z")]]),
                ("meta", .object
                  [("page", .int 2), ("per_page", .int 1), ("total", .nat 2),
                    ("total_pages", .nat 2)])]) } := by
  obtain ⟨p, hp, htalked⟩ := talked_through_talk
  have hstart : Run {} [beginning] := .start ⟨0⟩ ⟨.epoch, "t"⟩
  obtain ⟨past, hrun⟩ := hstart.through (by decide +kernel) hp
  obtain ⟨chat, hknown⟩ := htalked.known
  obtain ⟨record, found, hlink, hfound, hlists⟩ := lists_of_known hrun.linkage hknown
  have htime : narrow.requestTimeout ≠ .zero := by decide
  have hroute : Route.ofPath? secondPage.target.path = some (.messages "t" "1") := by decide +kernel
  have hform : readForm ["page", "per_page"] secondPage.target.query =
      .ok [("page", "2"), ("per_page", "500")] := rfl
  obtain ⟨items, hcomplete, hanswer, -⟩ := hrun.listing_answers htime
    (by decide) ⟨.epoch, "t"⟩ rfl hroute hform ⟨"t", 1, record, rfl, hlink⟩ nofun
  obtain rfl := hcomplete.messages_eq hrun.linkage rfl hlink hfound
  obtain ⟨a, b, hmessages, -, hb⟩ := hlists.talked htalked
  obtain ⟨hnumber, hbody, hcreated, hupdated⟩ : b.number = 2 ∧ b.body = "Bye" ∧
    b.createdAt = .epoch ∧ b.updatedAt = .epoch := by simpa [contents] using hb
  have hpage : askedPage [("page", "2"), ("per_page", "500")] = 2 := by decide +kernel
  have hsize : askedSize narrow [("page", "2"), ("per_page", "500")] = 1 := by
    decide +kernel
  have hepoch : Timestamp.epoch.render = "1970-01-01T00:00:00Z" := by decide +kernel
  rw [hpage, hsize, hmessages] at hanswer
  refine ⟨p, hp, hanswer.trans ?_⟩
  simp [pageJson, pageItems, hnumber, hbody, hcreated, hupdated, hepoch]

end Runs

end ChatService.Http.InMemory
