import ChatService.Http.Handler
import ChatService.Proofs.Cache.ReadThrough
import ChatService.Proofs.Json.Records
import ChatService.Proofs.Search.Remote
import ChatService.Proofs.Store.Codec

/-!
# What is stored as JSON comes back

Applications are cached as JSON texts and documents are indexed as JSON.  Every application and
every document that can exist is decoded from its own text unchanged, and it is decoded alike from
any text with the same fields, in any order and among others.  So the application that a cached
lookup finds is the one that was loaded when the entry was written.
-/

namespace ChatService.Http

open Cache.ReadThrough (Lookup Run Write latest?)
open Json.Reading (Widens)
open Search (Document)
open Store (Application)

/-! ## fields in any order -/

variable {fields fields' : List (Option String × Json.Reading)}

theorem application_ofReading?_congr
    (h : Widens Application.fieldNames fields fields')
    (hcomplete : (Json.Reading.object fields).isComplete = true)
    (hcomplete' : (Json.Reading.object fields').isComplete = true) :
    Application.ofReading? (.object fields') = Application.ofReading? (.object fields) := by
  rw [Application.ofReading?, Application.ofReading?, h.record?_eq hcomplete hcomplete']

theorem document_ofReading?_congr
    (h : Widens Document.fieldNames fields fields')
    (hcomplete : (Json.Reading.object fields).isComplete = true)
    (hcomplete' : (Json.Reading.object fields').isComplete = true) :
    Document.ofReading? (.object fields') = Document.ofReading? (.object fields) := by
  rw [Document.ofReading?, Document.ofReading?, h.record?_eq hcomplete hcomplete']

theorem decode?_congr {text text' : String} (htext : Json.readWhole? text = some (.object fields))
    (htext' : Json.readWhole? text' = some (.object fields'))
    (h : Widens Application.fieldNames fields fields') :
    applicationCodec.decode? text' = applicationCodec.decode? text := by
  simp only [applicationCodec, htext, htext', Option.bind_some]
  exact application_ofReading?_congr h (Json.isComplete_of_readWhole? htext)
    (Json.isComplete_of_readWhole? htext')

/-! ## cached applications -/

/-- **An application is decoded from the text that is cached for it.** -/
theorem decode?_encode {a : Application} (h : a.IsWritable) :
    applicationCodec.decode? (applicationCodec.encode a) = some a := by
  simp only [applicationCodec]
  rw [h.ofReading?_render]

/-- Nothing under a key since an application was loaded and written there: until its lifetime is
over a lookup answers that application, and loads nothing. -/
theorem run_of_loaded {ε : Type} {config : Cache.Config} {writes : List Write} {i moment : Instant}
    {w : Cache.ReadThrough.Watched} {lifetime : Duration} {a : Application}
    {query : Lookup Application ε} (hrun : Run config writes i w) (ha : a.IsWritable)
    (hcodec : query.codec = applicationCodec)
    (hlatest : latest? query.key writes =
      some ⟨query.key, applicationCodec.encode a, moment, lifetime⟩)
    (hlive : i < moment.after lifetime) :
    (query.work config).run i w = .answered i w (.ok a) := by
  have hshown : Cache.Memory.live? i query.key w.entries = some (applicationCodec.encode a) := by
    rw [hrun.mirrors.live query.key i (Nat.le_refl _), Cache.ReadThrough.shown?, hlatest]
    exact if_pos hlive
  have hfound : query.found? i w = some a := by
    rw [Lookup.found?, hshown, hcodec, Option.bind_some, decode?_encode ha]
  rw [Cache.ReadThrough.run_work, hfound]

/-- **What is stored as JSON comes back.**  An application is decoded from its cached text, and a
document from its text and from the bytes of it.  Neither order nor unknown keys matter to either.
A cached lookup answers the application that was loaded when its entry was written. -/
theorem entities_comeBack :
    (∀ a : Application, a.IsWritable →
      applicationCodec.decode? (applicationCodec.encode a) = some a) ∧
    (∀ d : Document, d.IsWritable →
      (Json.readWhole? d.toJson.render).bind Document.ofReading? = some d ∧
      (Json.readBytes? (Text.utf8 d.toJson.render.toList)).bind Document.ofReading? = some d) ∧
    (∀ text text' fields fields', Json.readWhole? text = some (.object fields) →
      Json.readWhole? text' = some (.object fields') →
      (Widens Application.fieldNames fields fields' →
        applicationCodec.decode? text' = applicationCodec.decode? text) ∧
      (Widens Document.fieldNames fields fields' →
        Document.ofReading? (.object fields') = Document.ofReading? (.object fields))) ∧
    ∀ (ε : Type) (config : Cache.Config) (writes : List Write) (i moment : Instant)
      (w : Cache.ReadThrough.Watched) (lifetime : Duration) (a : Application)
      (query : Lookup Application ε), Run config writes i w → a.IsWritable →
      query.codec = applicationCodec →
      latest? query.key writes = some ⟨query.key, applicationCodec.encode a, moment, lifetime⟩ →
      i < moment.after lifetime →
        (query.work config).run i w = .answered i w (.ok a) := by
  refine ⟨fun a => decode?_encode, fun d hd => ⟨?_, ?_⟩, ?_, ?_⟩
  · rw [Json.readWhole?_render hd.isWhole_toJson, Option.bind_some, hd.ofReading?_toReading]
  · rw [Json.readBytes?_utf8_render hd.isWhole_toJson, Option.bind_some, hd.ofReading?_toReading]
  · intro text text' fields fields' htext htext'
    exact ⟨decode?_congr htext htext', fun h => document_ofReading?_congr h
      (Json.isComplete_of_readWhole? htext) (Json.isComplete_of_readWhole? htext')⟩
  · intro ε config writes i moment w lifetime a query hrun ha hcodec hlatest hlive
    exact run_of_loaded hrun ha hcodec hlatest hlive

/-- An application with numbers at the ends of their range, created in the first year that can be
written and changed within a leap second. -/
def extreme : Application :=
  { id := "", token := "\"\\\x00", name := "é😀\n", chatsCount := -9223372036854775808
    lastChatNumber := 9223372036854775807, createdAt := ⟨Timestamp.minSeconds, 1⟩
    updatedAt := ⟨1483228799, 1999999999⟩ }

theorem isWritable_extreme : extreme.IsWritable := ⟨by decide, by decide, by decide, by decide⟩

/-- Its fields in reverse order, behind one that applications do not have. -/
def scrambled : Json :=
  match extreme.toJson with
  | .object fields => .object (fields ++ [("more", Json.list [.null, .int 1])]).reverse
  | other => other

/-- A lookup that loads it for five nanoseconds. -/
def askExtreme : Lookup Application CacheError :=
  ⟨applicationCodec, "k", ⟨5⟩, .zero, .ok extreme, id⟩

/-- What is kept after that. -/
def extremeKept : Cache.ReadThrough.Watched := ⟨[("k", ⟨applicationCodec.encode extreme, ⟨5⟩⟩)], 1⟩

theorem run_askExtreme :
    Run {} [⟨"k", applicationCodec.encode extreme, ⟨0⟩, ⟨5⟩⟩] ⟨4⟩ extremeKept := by
  have hlookup : (askExtreme.work {}).run ⟨0⟩ {} = .answered ⟨0⟩ extremeKept (.ok extreme) := by
    rw [Cache.ReadThrough.run_work]
    rfl
  exact .pass (.lookup (.start ⟨0⟩) hlookup) ⟨4⟩

/-- It comes back from its text, from its fields in another order, and from the cache. -/
theorem entities_comeBack_extreme :
    extreme.IsWritable ∧
    applicationCodec.decode? (applicationCodec.encode extreme) = some extreme ∧
    applicationCodec.decode? scrambled.render = some extreme ∧
    (askExtreme.work {}).run ⟨4⟩ extremeKept = .answered ⟨4⟩ extremeKept (.ok extreme) := by
  obtain ⟨happlication, -, horder, hcached⟩ := entities_comeBack
  have hscrambled : scrambled.IsWhole :=
    ⟨⟨trivial, ⟨by decide, by decide⟩, trivial⟩, trivial, trivial, ⟨by decide, by decide⟩,
      ⟨by decide, by decide⟩, trivial, trivial, trivial, trivial⟩
  have hread := Json.readWhole?_render isWritable_extreme.isWhole_toJson
  have hread' := Json.readWhole?_render hscrambled
  have hwidens : ∀ own : List (String × Json), Widens Application.fieldNames
      (Json.fieldsReading own)
      (Json.fieldsReading (own ++ [("more", Json.list [.null, .int 1])]).reverse) := fun own =>
    Json.widens_fieldsReading (List.reverse_perm _) (by simp [Application.fieldNames])
  refine ⟨isWritable_extreme, happlication extreme isWritable_extreme, ?_, ?_⟩
  · exact ((horder _ _ _ _ hread hread').1 (hwidens _)).trans
      (happlication extreme isWritable_extreme)
  · exact hcached _ _ _ _ _ _ _ _ _ run_askExtreme isWritable_extreme rfl rfl (by decide)

end ChatService.Http
