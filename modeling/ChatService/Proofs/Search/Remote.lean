import Mathlib.Data.List.Forall2
import Mathlib.Data.Option.Basic
import ChatService.Proofs.Search.Address
import ChatService.Proofs.Store.Codec
import ChatService.Search.Gateway
import ChatService.Search.Remote

/-!
# Searches on another machine

A search that is sent to an engine is one request, and its answer is one reply.  The reply is read
as a page of hits, or the search is unavailable; there is no third way.  Only where a reply sends
the client on to another address are there more requests, and then it is the last reply that is
read.
-/

namespace ChatService.Search

namespace Document

/-- The numbers of a document have 64 bits, and its moment can be written. -/
structure IsWritable (d : Document) : Prop where
  chatNumber : Word.IsInt64 d.chatNumber
  messageNumber : Word.IsInt64 d.messageNumber
  createdAt : d.createdAt.IsValid

variable {d : Document}

theorem IsWritable.isWhole_toJson (h : d.IsWritable) : d.toJson.IsWhole :=
  ⟨trivial, Store.isWhole_int h.chatNumber, Store.isWhole_int h.messageNumber, trivial, trivial,
    trivial⟩

theorem IsWritable.ofReading?_toReading (h : d.IsWritable) :
    ofReading? (Json.toReading d.toJson) = some d := by
  have hrecord : (Json.toReading d.toJson).record? fieldNames =
      some [Json.toReading (.text d.applicationToken), Json.toReading (.int d.chatNumber),
        Json.toReading (.int d.messageNumber), Json.toReading (.text d.body),
        Json.toReading (Store.timeJson d.createdAt)] := rfl
  unfold ofReading?
  rw [hrecord]
  dsimp only
  rw [Store.int64_toReading h.chatNumber, Store.int64_toReading h.messageNumber,
    Store.timeOf?_toReading h.createdAt]
  rfl

end Document

namespace Remote

open Json (Reading)

/-! ## what stands in an answer -/

/-- The number of hits that an answer gives: none where it is missing or null, a number, or the
value of an object. -/
inductive TotalIs : Option Reading → Nat → Prop where
  | missing : TotalIs none 0
  | null : TotalIs (some .null) 0
  | number {r : Reading} {n : Nat} (h : r.uint64 = .ok n) : TotalIs (some r) n
  | value {fields : List (Option String × Reading)} {j : Json} {r : Reading} {n : Nat}
      (hdepth : (Reading.object fields).depth ≤ totalDepth)
      (hread : (Reading.object fields).toJson? = some j)
      (hvalue : (Reading.object fields).record? ["value"] = some [r]) (h : r.uint64 = .ok n) :
      TotalIs (some (.object fields)) n

/-- The source of a hit is a document. -/
def HitIs (r : Reading) (d : Document) : Prop :=
  ∃ source, r.record? ["_source"] = some [source] ∧ Document.ofReading? source = some d

/-- The hits of an answer, in their order; there are none where they are missing. -/
inductive HitsAre : Option Reading → List Document → Prop where
  | missing : HitsAre none []
  | listed {items : List Reading} {documents : List Document}
      (h : List.Forall₂ HitIs items documents) : HitsAre (some (.list items)) documents

/-- Bytes that are the answer to a search, with a number of hits and documents. -/
def Answers (bytes : List UInt8) (total : Nat) (documents : List Document) : Prop :=
  ∃ r outer count hits, Json.readBytes? bytes = some r ∧ r.record? ["hits"] = some [outer] ∧
    outer.fields? ["total", "hits"] = some [count, hits] ∧ TotalIs count total ∧
      HitsAre hits documents

theorem toOption_eq_some {ε α : Type} {answer : Except ε α} {a : α} :
    answer.toOption = some a ↔ answer = .ok a := by
  cases answer <;> simp [Except.toOption]

theorem mapM_eq_some {α β : Type} {f : α → Option β} {xs : List α} {ys : List β} :
    xs.mapM f = some ys ↔ List.Forall₂ (fun x y => f x = some y) xs ys := by
  induction xs generalizing ys with
  | nil => cases ys <;> simp
  | cons x xs ih => cases ys <;> simp [List.mapM_cons, Option.bind_eq_some_iff, ih]

/-- A record of so many fields has so many values. -/
theorem length_of_fields? {names : List String} {r : Reading} {values : List (Option Reading)}
    (h : r.fields? names = some values) : values.length = names.length := by
  unfold Reading.fields? at h
  grind

theorem length_of_record? {names : List String} {r : Reading} {values : List Reading}
    (h : r.record? names = some values) : values.length = names.length := by
  obtain ⟨found, hfound, hvalues⟩ := Option.bind_eq_some_iff.mp h
  rw [← length_of_fields? hfound]
  exact (mapM_eq_some.mp hvalues).length_eq.symm

/-- The only value of a record with one field. -/
theorem exists_record? {name : String} {r v : Reading} :
    (∃ values, r.record? [name] = some values ∧ values[0]? = some v) ↔
      r.record? [name] = some [v] := by
  constructor
  · rintro ⟨values, hvalues, hfirst⟩
    obtain ⟨w, rfl⟩ := List.length_eq_one_iff.mp (length_of_record? hvalues)
    rw [hvalues, show w = v from Option.some.inj hfirst]
  · exact fun h => ⟨[v], h, rfl⟩

theorem totalOf?_object {fields : List (Option String × Reading)} {n : Nat} :
    totalOf? (.object fields) = some n ↔ TotalIs (some (.object fields)) n := by
  constructor
  · intro h
    simp only [totalOf?, Option.bind_eq_bind, Option.bind_eq_some_iff, toOption_eq_some,
      Option.guard_eq_some'] at h
    obtain ⟨-, hdepth, j, hread, values, hvalues, r, hfirst, hnumber⟩ := h
    exact .value hdepth hread (exists_record?.mp ⟨values, hvalues, hfirst⟩) hnumber
  · intro h
    cases h with
    | number h => contradiction
    | value hdepth hread hvalue h =>
        simp [totalOf?, guard, hdepth, hread, hvalue, toOption_eq_some.mpr h]

theorem totalOrZero?_eq_some {count : Option Reading} {n : Nat} :
    totalOrZero? count = some n ↔ TotalIs count n := by
  constructor
  · intro h
    match count with
    | none =>
        obtain rfl := Option.some.inj h
        exact .missing
    | some .null =>
        obtain rfl := Option.some.inj h
        exact .null
    | some (.object _) => exact totalOf?_object.mp h
    | some (.bool _) | some (.number _) | some (.text _) | some (.list _) | some .broken =>
        exact .number (toOption_eq_some.mp h)
  · intro h
    cases h with
    | missing => rfl
    | null => rfl
    | value hdepth hread hvalue hnumber =>
        exact totalOf?_object.mpr (.value hdepth hread hvalue hnumber)
    | @number r _ hnumber =>
        cases r <;> first | contradiction | exact toOption_eq_some.mpr hnumber

theorem hitOf?_eq_some {r : Reading} {d : Document} : hitOf? r = some d ↔ HitIs r d := by
  simp only [hitOf?, HitIs, Option.bind_eq_bind, Option.bind_eq_some_iff]
  constructor
  · rintro ⟨values, hvalues, source, hfirst, hsource⟩
    exact ⟨source, exists_record?.mp ⟨values, hvalues, hfirst⟩, hsource⟩
  · rintro ⟨source, hrecord, hsource⟩
    exact ⟨[source], hrecord, source, rfl, hsource⟩

theorem documentsOf?_eq_some {hits : Option Reading} {documents : List Document} :
    documentsOf? hits = some documents ↔ HitsAre hits documents := by
  constructor
  · intro h
    cases hits with
    | none =>
        obtain rfl := Option.some.inj h
        exact .missing
    | some r =>
        cases r with
        | list items =>
            refine .listed ((mapM_eq_some.mp h).imp fun _ _ => hitOf?_eq_some.mp)
        | _ => contradiction
  · rintro (_ | h)
    · rfl
    · exact mapM_eq_some.mpr (h.imp fun _ _ => hitOf?_eq_some.mpr)

theorem hitsOf?_eq_some {r : Reading} {found : Hits} :
    hitsOf? r = some found ↔ ∃ outer count hits, r.record? ["hits"] = some [outer] ∧
      outer.fields? ["total", "hits"] = some [count, hits] ∧ TotalIs count found.total ∧
        HitsAre hits found.documents := by
  simp only [hitsOf?, Option.bind_eq_bind, Option.bind_eq_some_iff, totalOrZero?_eq_some,
    documentsOf?_eq_some]
  constructor
  · rintro ⟨values, hvalues, outer, houter, parts, hparts, count, hcount, total, htotal, hits,
      hhits, documents, hdocuments, hfound⟩
    obtain rfl := Option.some.inj hfound
    obtain ⟨a, b, rfl⟩ := List.length_eq_two.mp (length_of_fields? hparts)
    obtain rfl := Option.some.inj hcount
    obtain rfl := Option.some.inj hhits
    exact ⟨outer, _, _, exists_record?.mp ⟨values, hvalues, houter⟩, hparts, htotal, hdocuments⟩
  · rintro ⟨outer, count, hits, houter, hparts, htotal, hdocuments⟩
    exact ⟨[outer], houter, outer, rfl, [count, hits], hparts, count, rfl, _, htotal, hits, rfl, _,
      hdocuments, rfl⟩

theorem readHits_eq_ok {reply : Reply} {found : Hits} :
    readHits reply = .ok found ↔
      ∃ bytes, reply.body = .ok bytes ∧ Answers bytes found.total found.documents := by
  have hanswers : ∀ bytes, (Json.readBytes? bytes).bind hitsOf? = some found ↔
      Answers bytes found.total found.documents := fun bytes => by
    simp only [Answers, Option.bind_eq_some_iff, hitsOf?_eq_some, exists_and_left]
  unfold readHits
  cases reply.body with
  | error detail => simp
  | ok bytes =>
      simp only [Except.ok.injEq, exists_eq_left', ← hanswers]
      cases (Json.readBytes? bytes).bind hitsOf? <;> simp

/-! ## answers of an engine -/

/-- The answer that an engine gives when it finds documents. -/
def foundJson (total : Nat) (documents : List Document) : Json :=
  .object
    [("took", .nat 1),
      ("hits",
        .object
          [("total", .object [("value", .nat total), ("relation", .text "eq")]),
            ("hits",
              .list (documents.map fun d =>
                .object [("_id", .text d.id), ("_source", d.toJson)]))])]

theorem areWhole_map {α : Type} {f : α → Json} {xs : List α} (h : ∀ x ∈ xs, (f x).IsWhole) :
    Json.AreWhole (xs.map f) := by
  induction xs with
  | nil => trivial
  | cons x xs ih =>
      obtain ⟨hx, hxs⟩ := List.forall_mem_cons.mp h
      exact ⟨hx, ih hxs⟩

theorem itemsReading_eq_map (items : List Json) :
    Json.itemsReading items = items.map Json.toReading := by
  induction items with
  | nil => rfl
  | cons item items ih => rw [Json.itemsReading, ih, List.map_cons]

/-- The fields of an object, read from its text. -/
theorem fields?_toReading {names : List String} {fields : List (String × Json)}
    (h : Reading.keysFit names (Json.fieldsReading fields) = true) :
    (Json.toReading (.object fields)).fields? names =
      some (names.map (Reading.lookup · (Json.fieldsReading fields))) :=
  (if_pos (Json.isComplete_toReading (.object fields))).trans (if_pos h)

theorem record?_toReading {name : String} {fields : List (String × Json)} {r : Reading}
    (h : Reading.keysFit [name] (Json.fieldsReading fields) = true)
    (hvalue : Reading.lookup name (Json.fieldsReading fields) = some r) :
    (Json.toReading (.object fields)).record? [name] = some [r] := by
  rw [Reading.record?, fields?_toReading h, List.map_singleton, hvalue]
  rfl

theorem uint64_toReading (n : Nat) : (Json.toReading (.nat n)).uint64 = .ok n := by
  simp [Json.nat, Json.int, Json.toReading, Reading.uint64]

/-- **What was put into an engine comes back** as it was: each document, in the engine's order. -/
theorem answers_foundJson {total : Nat} {documents : List Document}
    (htotal : total ≤ Word.maxUInt64) (hdocuments : ∀ d ∈ documents, d.IsWritable) :
    Answers (Text.utf8 (foundJson total documents).render.toList) total documents := by
  have hcount : (Json.nat total).IsWhole := Store.isWhole_nat htotal
  have hwhole : (foundJson total documents).IsWhole :=
    ⟨⟨by decide, by decide⟩, ⟨⟨hcount, trivial, trivial⟩,
      areWhole_map fun d hd => ⟨trivial, (hdocuments d hd).isWhole_toJson, trivial⟩, trivial⟩,
      trivial⟩
  refine ⟨_, _, _, _, Json.readBytes?_utf8_render hwhole, record?_toReading rfl rfl,
    fields?_toReading rfl, ?_, ?_⟩
  · exact .value (Nat.le_of_ble_eq_true rfl) rfl (record?_toReading rfl rfl)
      (uint64_toReading total)
  · refine .listed ?_
    rw [itemsReading_eq_map, List.map_map]
    refine List.forall₂_map_left_iff.mpr (List.forall₂_same.mpr fun d hd => ?_)
    exact ⟨_, record?_toReading rfl rfl, (hdocuments d hd).ofReading?_toReading⟩

/-! ## one request, one answer -/

/-- The page that a reply is taken for. -/
def pageOf (page : Page.Request) (reply : Option Reply) :
    Except SearchError (Page.Hits Document) :=
  (hideFailure ((reply.elim (.error broken) accepted).bind readHits)).map fun found =>
    ⟨found.total, found.documents, page.page, page.perPage⟩

variable {page : Page.Request} {reply : Option Reply}

/-- A reply is taken for a page exactly if it is a success and the answer to a search. -/
theorem pageOf_eq_ok {found : Page.Hits Document} :
    pageOf page reply = .ok found ↔
      ∃ r bytes total documents, reply = some r ∧ 200 ≤ r.status ∧ r.status < 300 ∧
        r.body = .ok bytes ∧ Answers bytes total documents ∧
          found = ⟨total, documents, page.page, page.perPage⟩ := by
  cases reply with
  | none => simp [pageOf, hideFailure, Except.mapError, Except.bind, Except.map]
  | some r =>
      have hread : pageOf page (some r) = .ok found ↔ (200 ≤ r.status ∧ r.status < 300) ∧
          ∃ hits, readHits r = .ok hits ∧
            found = ⟨hits.total, hits.documents, page.page, page.perPage⟩ := by
        by_cases hsuccess : 200 ≤ r.status ∧ r.status < 300
        · rw [pageOf, Option.elim_some, accepted, if_pos hsuccess, Except.bind]
          cases readHits r <;>
            simp [hsuccess, hideFailure, Except.mapError, Except.map, eq_comm (a := found)]
        · simp [pageOf, accepted, hsuccess, hideFailure, Except.mapError, Except.bind, Except.map]
      rw [hread]
      constructor
      · rintro ⟨⟨hlow, hhigh⟩, hits, hhits, rfl⟩
        obtain ⟨bytes, hbody, hanswers⟩ := readHits_eq_ok.mp hhits
        exact ⟨r, bytes, _, _, rfl, hlow, hhigh, hbody, hanswers, rfl⟩
      · rintro ⟨_, bytes, total, documents, heq, hlow, hhigh, hbody, hanswers, rfl⟩
        obtain rfl := Option.some.inj heq
        exact ⟨⟨hlow, hhigh⟩, ⟨total, documents⟩, readHits_eq_ok.mpr ⟨bytes, hbody, hanswers⟩, rfl⟩

/-- Whatever else it is, the search is unavailable. -/
theorem pageOf_eq_error {e : SearchError} (h : pageOf page reply = .error e) :
    ∃ detail, e = .unavailable detail := by
  unfold pageOf at h
  cases hhits : (reply.elim (.error broken) accepted).bind readHits with
  | ok found =>
      rw [hhits] at h
      contradiction
  | error f =>
      rw [hhits] at h
      exact ⟨f.message, (Except.error.inj h).symm⟩

section Sending

variable {m : Type → Type} [Monad m] (link : Link m) (site : Site) (token : String)
  (chatNumber : Int) {text : String} (page : Page.Request)

theorem searchPage_of_blank (h : Text.isBlank text = true) :
    searchPage (index link site) token chatNumber text page =
      pure (.error (.invalidQuery "query can't be blank")) := by
  rw [searchPage, Query.ofPage, if_pos h]

/-- A search that is not blank is one request, whose reply is the answer. -/
theorem searchPage_of_not_blank [LawfulMonad m] (h : Text.isBlank text = false) :
    searchPage (index link site) token chatNumber text page =
      pageOf page <$> link ⟨.post, site.target (site.index ++ "/_search"),
        some (Query.toJson ⟨token, chatNumber, text, page.offset, page.limit⟩)⟩ := by
  have hquery : Query.ofPage token chatNumber text page =
      .ok ⟨token, chatNumber, text, page.offset, page.limit⟩ := by
    rw [Query.ofPage, if_neg (by rw [h]; decide)]
  rw [searchPage, hquery]
  simp only [index, search, ask, bind_assoc, map_eq_pure_bind]
  refine congrArg (bind _) (funext fun reply => ?_)
  cases reply <;> simp [pageOf, bind]

end Sending

theorem address_of_slashes {site : Site} {base : List Char} {slashes : Nat}
    (hbase : site.base.toList = base ++ List.replicate slashes '/')
    (hlast : base.getLast? ≠ some '/') (path : String) :
    site.address path = base ++ '/' :: path.toList := by
  have hdrop : (base ++ List.replicate slashes '/').reverse.dropWhile (· = '/') = base.reverse := by
    rw [List.reverse_append, List.reverse_replicate,
      List.dropWhile_append_of_pos fun c hc => by simp [List.eq_of_mem_replicate hc]]
    refine List.dropWhile_eq_self_iff.mpr fun hpos hslash => hlast ?_
    rw [← List.head?_reverse, List.head?_eq_getElem?, List.getElem?_eq_getElem hpos,
      of_decide_eq_true hslash]
  rw [Site.address, hbase, hdrop, List.reverse_reverse]

/-! ## answers that are followed -/

section Following

variable {m : Type → Type} [Monad m] (redirects : Redirects) (wire : Wire m)

/-- An answer leads to a request exactly if it has one of five statuses and names an address that
the client can read. -/
theorem Redirects.next?_eq_some {request next : Request} {response : Response} :
    redirects.next? request response = some next ↔
      response.status ∈ [301, 302, 303, 307, 308] ∧ ∃ address, response.location = some address ∧
        redirects.onward request response.status address = some next := by
  rw [next?, statuses]
  split
  · next hstatus => simp [hstatus, Option.bind_eq_some_iff]
  · next hstatus => simp [hstatus]

/-- A request is sent once, and the answer decides whether there is another one. -/
theorem Redirects.link_eq (request : Request) :
    redirects.link wire request = wire request >>= fun response =>
      (response.bind (redirects.next? request)).elim (pure (response.map (·.toReply)))
        (redirects.follow wire redirects.hops) := by
  rw [link, follow]
  refine congrArg (bind _) (funext fun response => ?_)
  cases response.bind (redirects.next? request) <;> rfl

/-- The wire to a server whose answers name no address: what comes back for a request is a status
and a body, or nothing. -/
def unaddressed (link : Link m) : Wire m := fun request =>
  Option.map (fun reply => ⟨reply, none⟩) <$> link request

/-- Nothing is followed where no address is named. -/
theorem Redirects.link_unaddressed [LawfulMonad m] (link : Link m) (request : Request) :
    redirects.link (unaddressed link) request = link request := by
  have hlast : ∀ reply : Option Reply, (reply.map fun r => (⟨r, none⟩ : Response)).bind
      (redirects.next? request) = none := fun reply => by
    cases reply <;> simp [next?]
  rw [redirects.link_eq, unaddressed, bind_map_left]
  simp only [hlast, Option.elim_none, Option.map_map]
  exact (congrArg (bind _) (funext fun reply => by cases reply <;> rfl)).trans (bind_pure _)

end Following

/-- The request that a search is. -/
def Site.searchRequest (site : Site) (q : Query) : Request :=
  ⟨.post, site.target (site.index ++ "/_search"), some q.toJson⟩

/-- **A search is one request, and a page or unavailable.**  A blank text is refused before
anything is sent.  Otherwise the query is posted once, and the reply alone decides: it is a page
exactly if it is a success whose body is the answer to a search, and then the page has the hits of
the answer; in any other case the search is unavailable.  A second request is only ever sent where
the answer has a status of redirection and names an address; then the last answer decides, and a
server whose answers are statuses and bodies is asked once. -/
theorem searchPage_remote (page : Page.Request) :
    ∃ answer : Option Reply → Except SearchError (Page.Hits Document),
      (∀ reply found, answer reply = .ok found ↔
        ∃ r bytes total documents, reply = some r ∧ 200 ≤ r.status ∧ r.status < 300 ∧
          r.body = .ok bytes ∧ Answers bytes total documents ∧
            found = ⟨total, documents, page.page, page.perPage⟩) ∧
      (∀ reply e, answer reply = .error e → ∃ detail, e = .unavailable detail) ∧
      ∀ (m : Type → Type) [Monad m] [LawfulMonad m] (redirects : Redirects) (wire : Wire m)
        (site : Site) (token : String) (chatNumber : Int) (text : String),
        (Text.isBlank text = true →
          searchPage (index (redirects.link wire) site) token chatNumber text page =
            pure (.error (.invalidQuery "query can't be blank"))) ∧
        (Text.isBlank text = false → ∀ first,
          first = site.searchRequest ⟨token, chatNumber, text, page.offset, page.limit⟩ →
          (∀ link : Link m, wire = unaddressed link →
            searchPage (index (redirects.link wire) site) token chatNumber text page =
              answer <$> link first) ∧
          searchPage (index (redirects.link wire) site) token chatNumber text page =
            wire first >>= fun response =>
              (response.bind (redirects.next? first)).elim
                (pure (answer (response.map (·.toReply))))
                fun next => answer <$> redirects.follow wire redirects.hops next) ∧
        (∀ request response next, redirects.next? request response = some next ↔
          response.status ∈ [301, 302, 303, 307, 308] ∧
            ∃ address, response.location = some address ∧
              redirects.onward request response.status address = some next) ∧
        ∀ base slashes, site.base.toList = base ++ List.replicate slashes '/' →
          base.getLast? ≠ some '/' →
          Address.IsPlain (base ++ '/' :: (site.index ++ "/_search").toList) →
            site.target (site.index ++ "/_search") =
              String.ofList (base ++ '/' :: (site.index ++ "/_search").toList) := by
  refine ⟨pageOf page, fun _ _ => pageOf_eq_ok, fun _ _ => pageOf_eq_error,
    fun m _ _ redirects wire site token chatNumber text =>
      ⟨searchPage_of_blank _ site token chatNumber page, ?_,
        fun _ _ _ => redirects.next?_eq_some, ?_⟩⟩
  · rintro htext first rfl
    have hsearch := searchPage_of_not_blank (redirects.link wire) site token chatNumber page htext
    refine ⟨fun link hwire => ?_, ?_⟩
    · rw [hsearch, hwire, redirects.link_unaddressed]
      rfl
    · rw [hsearch, ← Site.searchRequest, redirects.link_eq, map_bind]
      refine congrArg (bind _) (funext fun response => ?_)
      cases response.bind (redirects.next? _) with
      | none => exact map_pure _ _
      | some next => rfl
  · intro base slashes hbase hlast hplain
    rw [Site.target, address_of_slashes hbase hlast]
    exact Address.target_of_plain hplain

/-! ## engines that answer always the same -/

/-- Gives one answer to each request, and keeps the requests. -/
def repeating (reply : Option Reply) : Link (StateM (List Request)) := fun request => do
  modify (· ++ [request])
  return reply

/-- Sends whoever asks in the old place to another one, where there is one answer to each request;
keeps the requests. -/
def moved (status : Nat) (reply : Reply) : Wire (StateM (List Request)) := fun request => do
  modify (· ++ [request])
  return if request.target = "/es/messages/_search" then
    some ⟨⟨status, .ok []⟩, some "/new/_search"⟩
  else some ⟨reply, none⟩

/-- A client that follows addresses on the same host: with 307 and 308 by the same request, else by
reading what is there. -/
def sameHost : Redirects where
  onward request status address :=
    if status = 307 ∨ status = 308 then some { request with target := address }
    else some ⟨.get, address, none⟩

def greeting : Document := ⟨"tok", 1, 4, "hello again", .epoch⟩

/-- The engine has found 21 documents, the last of which is on the third page. -/
def lastFound : Reply := ⟨200, .ok (Text.utf8 (foundJson 21 [greeting]).render.toList)⟩

/-- The engine that the third page is asked of. -/
def helloSite : Site := ⟨"/es//", "messages"⟩

/-- The request for the third page. -/
def helloRequest : Request :=
  ⟨.post, "/es/messages/_search", some (Query.toJson ⟨"tok", 1, "hello", 20, 10⟩)⟩

/-- The third page, with the requests that were sent for it. -/
def askHello (text : String) (wire : Wire (StateM (List Request))) :
    Except SearchError (Page.Hits Document) × List Request :=
  (searchPage (index (sameHost.link wire) helloSite) "tok" 1 text ⟨3, 10⟩).run []

theorem isWritable_greeting : greeting.IsWritable := ⟨by decide, by decide, by decide⟩

section Moving

variable {status count : Nat} {reply : Reply} {request : Request} {sent : List Request}

theorem run_bind_of_run {σ α β : Type} {x : StateM σ α} {f : α → StateM σ β} {s s' : σ} {a : α}
    (h : x.run s = (a, s')) : (x >>= f).run s = (f a).run s' := by
  rw [StateT.run_bind, h]
  rfl

theorem run_moved_old (h : request.target = "/es/messages/_search") :
    (moved status reply request).run sent =
      (some ⟨⟨status, .ok []⟩, some "/new/_search"⟩, sent ++ [request]) := by
  show (if request.target = _ then _ else _, _) = _
  rw [if_pos h]

theorem run_moved_new (h : request.target = "/new/_search") :
    (moved status reply request).run sent = (some ⟨reply, none⟩, sent ++ [request]) := by
  show (if request.target = _ then _ else _, _) = _
  rw [if_neg (by rw [h]; decide)]

/-- Where the engine is now, one request is enough. -/
theorem run_follow_moved (hcount : 0 < count) (h : request.target = "/new/_search") :
    (sameHost.follow (moved status reply) count request).run sent =
      (some reply, sent ++ [request]) := by
  obtain ⟨count, rfl⟩ := Nat.exists_eq_add_of_le' hcount
  rw [Redirects.follow, run_bind_of_run (run_moved_new h)]
  have hlast : sameHost.next? request ⟨reply, none⟩ = none := by simp [Redirects.next?]
  rw [Option.bind_some, hlast]
  rfl

end Moving

/-- A page, a connection that breaks, a redirection that leads nowhere, a blank text, and two
redirections that are followed. -/
theorem searchPage_remote_hello :
    Text.isBlank "hello" = false ∧ Text.isBlank "  " = true ∧
    askHello "hello" (unaddressed (repeating (some lastFound))) =
      (.ok ⟨21, [greeting], 3, 10⟩, [helloRequest]) ∧
    (∃ detail, askHello "hello" (unaddressed (repeating none)) =
      (.error (.unavailable detail), [helloRequest])) ∧
    (∃ detail, askHello "hello" (unaddressed (repeating (some ⟨307, .ok []⟩))) =
      (.error (.unavailable detail), [helloRequest])) ∧
    askHello "  " (unaddressed (repeating (some lastFound))) =
      (.error (.invalidQuery "query can't be blank"), []) ∧
    askHello "hello" (moved 307 lastFound) =
      (.ok ⟨21, [greeting], 3, 10⟩,
        [helloRequest, { helloRequest with target := "/new/_search" }]) ∧
    askHello "hello" (moved 303 lastFound) =
      (.ok ⟨21, [greeting], 3, 10⟩, [helloRequest, ⟨.get, "/new/_search", none⟩]) := by
  obtain ⟨answer, hpage, hunavailable, hsend⟩ := searchPage_remote ⟨3, 10⟩
  have hanswers : Answers (Text.utf8 (foundJson 21 [greeting]).render.toList) 21 [greeting] :=
    answers_foundJson (by decide) (by simpa using isWritable_greeting)
  have hfound : answer (some lastFound) = .ok ⟨21, [greeting], 3, 10⟩ :=
    (hpage _ _).mpr ⟨lastFound, _, _, _, rfl, by decide, by decide, rfl, hanswers, rfl⟩
  have hrefused : ∀ reply : Option Reply, (∀ r ∈ reply, r.status = 307) →
      ∃ detail, answer reply = .error (.unavailable detail) := fun reply hreply => by
    cases hanswer : answer reply with
    | ok found =>
        obtain ⟨r, -, -, -, hr, -, hhigh, -⟩ := (hpage _ _).mp hanswer
        rw [hreply r hr] at hhigh
        contradiction
    | error e =>
        obtain ⟨detail, rfl⟩ := hunavailable _ _ hanswer
        exact ⟨detail, rfl⟩
  have htarget : helloSite.searchRequest ⟨"tok", 1, "hello", 20, 10⟩ = helloRequest := by
    obtain ⟨-, -, -, htarget⟩ := hsend _ sameHost (unaddressed (repeating none)) helloSite "" 0 ""
    rw [Site.searchRequest, htarget "/es".toList 2 (by decide) (by decide) ⟨_, rfl, by decide⟩]
    rfl
  have hrun : ∀ reply, askHello "hello" (unaddressed (repeating reply)) =
      (answer reply, [helloRequest]) := fun reply => by
    obtain ⟨-, hrequest, -⟩ := hsend _ sameHost (unaddressed (repeating reply)) helloSite "tok" 1
      "hello"
    rw [askHello, (hrequest (by decide) _ rfl).1 _ rfl, Page.Request.offset, Page.Request.limit]
    exact congrArg (fun request => (answer reply, [request])) htarget
  have hmoved : ∀ status next, sameHost.next? helloRequest ⟨⟨status, .ok []⟩, "/new/_search"⟩ =
      some next → next.target = "/new/_search" →
        askHello "hello" (moved status lastFound) =
          (.ok ⟨21, [greeting], 3, 10⟩, [helloRequest, next]) := fun status next hnext hthere => by
    obtain ⟨-, hrequest, -⟩ := hsend _ sameHost (moved status lastFound) helloSite "tok" 1 "hello"
    have hold : (moved status lastFound helloRequest).run [] = _ := run_moved_old rfl
    rw [askHello, (hrequest (by decide) helloRequest htarget.symm).2, run_bind_of_run hold,
      Option.bind_some, hnext, Option.elim_some, StateT.run_map,
      run_follow_moved (by decide) hthere]
    exact congrArg (·, [helloRequest, next]) hfound
  refine ⟨by decide, by decide, by rw [hrun, hfound], ?_, ?_, ?_, ?_, ?_⟩
  · obtain ⟨detail, hdetail⟩ := hrefused none nofun
    exact ⟨detail, by rw [hrun, hdetail]⟩
  · obtain ⟨detail, hdetail⟩ := hrefused (some ⟨307, .ok []⟩) (by simp)
    exact ⟨detail, by rw [hrun, hdetail]⟩
  · rw [askHello, (hsend _ _ _ _ _ _ _).1 (by decide)]
    rfl
  · exact hmoved 307 _ rfl rfl
  · exact hmoved 303 _ rfl rfl

end Remote

end ChatService.Search
