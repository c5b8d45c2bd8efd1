import ChatService.Json.Bytes
import ChatService.Proofs.Json.Reading
import ChatService.Proofs.Store.Codec
import ChatService.Search.Query
import Mathlib.Data.List.Basic

/-!
# Query bodies

An engine reads a body as a demand: clauses that a hit must meet, a window and an order.  A tree is
the form of one demand at most, and the tree that is read out of what is sent for a query is the
form of the demand for that query, whatever its token and its text hold.  So they stand where they
are meant to stand and nowhere else, and two queries are never sent alike.
-/

namespace ChatService.Search

/-! ## demands -/

/-- A clause that a hit must meet. -/
inductive Clause where
  /-- A field has exactly this value. -/
  | term (field : String) (value : Json)
  /-- A text matches one of the fields. -/
  | multiMatch (text : String) (fields : List String) (kind fuzziness : String)

def Clause.toJson : Clause → Json
  | .term field value => .object [("term", .object [(field, value)])]
  | .multiMatch text fields kind fuzziness =>
    .object
      [("multi_match",
        .object
          [("query", .text text), ("fields", .list (fields.map .text)), ("type", .text kind),
            ("fuzziness", .text fuzziness)])]

/-- What an engine is asked for: hits that meet all clauses, and of these the window of `size` hits
behind the first `start`, sorted by fields. -/
structure Demand where
  must : List Clause
  start : Nat
  size : Nat
  /-- Fields with their directions; the first one decides. -/
  sort : List (String × String)

/-- A field to sort by, with its direction. -/
def sortJson (key : String × String) : Json :=
  .object [(key.1, .object [("order", .text key.2)])]

def Demand.toJson (demand : Demand) : Json :=
  .object
    [("query", .object [("bool", .object [("must", .list (demand.must.map Clause.toJson))])]),
      ("from", .nat demand.start), ("size", .nat demand.size),
      ("sort", .list (demand.sort.map sortJson))]

theorem text_injective : Function.Injective Json.text := fun _ _ h => Json.text.inj h

theorem nat_injective : Function.Injective Json.nat := fun _ _ h =>
  Int.ofNat.inj (Json.Number.integer.inj (Json.number.inj h))

theorem sortJson_injective : Function.Injective sortJson := by
  rintro ⟨field, direction⟩ ⟨field', direction'⟩ h
  simpa [sortJson] using h

theorem Clause.toJson_injective : Function.Injective Clause.toJson := by
  rintro (⟨field, value⟩ | ⟨text, fields, kind, fuzziness⟩)
    (⟨field', value'⟩ | ⟨text', fields', kind', fuzziness'⟩) h
  · simpa [Clause.toJson] using h
  · simp [Clause.toJson] at h
  · simp [Clause.toJson] at h
  · simpa [Clause.toJson, text_injective.list_map.eq_iff] using h

/-- **A tree is the form of one demand at most.** -/
theorem Demand.toJson_injective : Function.Injective Demand.toJson := by
  rintro ⟨must, start, size, sort⟩ ⟨must', start', size', sort'⟩ h
  simpa [Demand.toJson, Clause.toJson_injective.list_map.eq_iff, nat_injective.eq_iff,
    sortJson_injective.list_map.eq_iff] using h

/-! ## queries -/

namespace Query

variable {q q' : Query}

/-- The numbers of a query have 64 bits, the chat's with a sign. -/
structure IsWritable (q : Query) : Prop where
  chatNumber : Word.IsInt64 q.chatNumber
  offset : q.offset ≤ Word.maxUInt64
  limit : q.limit ≤ Word.maxUInt64

/-- The bytes that are sent for a query. -/
def sent (q : Query) : List UInt8 := Text.utf8 q.toJson.render.toList

/-- What a query asks an engine for. -/
def demand (q : Query) : Demand :=
  { must :=
      [.term "application_token" (.text q.applicationToken),
        .term "chat_number" (.int q.chatNumber),
        .multiMatch q.text ["body", "body.ngram"] "best_fields" "AUTO"]
    start := q.offset
    size := q.limit
    sort := [("message_number", "asc")] }

theorem toJson_demand (q : Query) : q.demand.toJson = q.toJson := rfl

theorem demand_injective : Function.Injective demand := by
  rintro ⟨token, chatNumber, text, offset, limit⟩ ⟨token', chatNumber', text', offset', limit'⟩ h
  simpa [demand, Json.int, and_assoc] using h

theorem IsWritable.isWhole_toJson (h : q.IsWritable) : q.toJson.IsWhole := by
  have hclauses : Json.AreWhole (q.demand.must.map Clause.toJson) :=
    ⟨⟨⟨trivial, trivial⟩, trivial⟩, ⟨⟨Store.isWhole_int h.chatNumber, trivial⟩, trivial⟩,
      ⟨⟨trivial, ⟨trivial, trivial, trivial⟩, trivial, trivial, trivial⟩, trivial⟩, trivial⟩
  have hsort : Json.AreWhole (q.demand.sort.map sortJson) :=
    ⟨⟨⟨trivial, trivial⟩, trivial⟩, trivial⟩
  exact ⟨⟨⟨hclauses, trivial⟩, trivial⟩, Store.isWhole_nat h.offset, Store.isWhole_nat h.limit,
    hsort, trivial⟩

/-- What is sent for a query is read as its form. -/
theorem IsWritable.read_sent (h : q.IsWritable) :
    (Json.readBytes? q.sent).bind Json.Reading.toJson? = some q.toJson := by
  rw [sent, Json.readBytes?_utf8_render h.isWhole_toJson, Option.bind_some,
    Json.toJson?_toReading]

theorem IsWritable.sent_inj (h : q.IsWritable) (h' : q'.IsWritable) (heq : q.sent = q'.sent) :
    q = q' := by
  have hread := h.read_sent
  rw [heq, h'.read_sent] at hread
  exact (demand_injective (Demand.toJson_injective (Option.some.inj hread))).symm

/-- **Nothing is injected into a query.**  The text that is sent for a query, and its bytes, are
read as one tree, and the only demand of which that tree is the form has the two clauses on the
token and the chat and the one on the text, the window, and the ascending order of the query.  No
other query is sent alike. -/
theorem sent_injectionFree (h : q.IsWritable) :
    (∃ tree, Json.parse? q.toJson.render = some tree ∧
      (Json.readBytes? q.sent).bind Json.Reading.toJson? = some tree ∧
      ∀ demand : Demand, tree = demand.toJson ↔
        demand =
          { must :=
              [.term "application_token" (.text q.applicationToken),
                .term "chat_number" (.int q.chatNumber),
                .multiMatch q.text ["body", "body.ngram"] "best_fields" "AUTO"]
            start := q.offset
            size := q.limit
            sort := [("message_number", "asc")] }) ∧
    ∀ q' : Query, q'.IsWritable → q.sent = q'.sent → q = q' := by
  refine ⟨⟨q.toJson, Json.parse?_render h.isWhole_toJson, h.read_sent, fun demand => ?_⟩,
    fun q' h' => h.sent_inj h'⟩
  rw [← toJson_demand, Demand.toJson_injective.eq_iff, eq_comm]
  rfl

/-- Quotes, backslashes, brackets and a control character where they would end a clause, and numbers
at both ends of their ranges. -/
def hostile : Query :=
  ⟨"\"\x7d\x7d,\x7b\"match_all\":\x7b\x7d\x7d,\x7b\"", -9223372036854775808,
    "\\\"\x00]\x7dé😀", 18446744073709551615, 9223372036854775808⟩

theorem hostile_inert :
    hostile.IsWritable ∧ ∃ tree, Json.parse? hostile.toJson.render = some tree ∧
      ∀ demand : Demand, tree = demand.toJson → demand.must.length = 3 ∧
        demand.must[2]? = some (.multiMatch "\\\"\x00]\x7dé😀" ["body", "body.ngram"] "best_fields"
          "AUTO") := by
  have hwritable : hostile.IsWritable := ⟨by decide, by decide, by decide⟩
  obtain ⟨⟨tree, hparse, -, htree⟩, -⟩ := sent_injectionFree hwritable
  refine ⟨hwritable, tree, hparse, fun demand hdemand => ?_⟩
  obtain rfl := (htree demand).mp hdemand
  exact ⟨rfl, rfl⟩

end Query

end ChatService.Search
