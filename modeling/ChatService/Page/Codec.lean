import ChatService.Json.Decode
import ChatService.Page.Envelope
import ChatService.Page.Policy

/-!
# Pages as JSON

The JSON forms of windows, requests and envelopes, and the reading of a paging policy out of a
configuration value.
-/

namespace ChatService.Page

def Window.toJson (w : Window) : Json :=
  .object [("offset", .nat w.offset), ("limit", .nat w.limit), ("total_pages", .nat w.totalPages)]

def Request.toJson (r : Request) : Json :=
  .object [("page", .int r.page), ("per_page", .int r.perPage)]

def Meta.toJson (m : Meta) : Json :=
  .object
    [("page", .int m.page), ("per_page", .int m.perPage), ("total", .nat m.total),
      ("total_pages", .nat m.totalPages)]

def Paginated.toJson (p : Paginated Json) : Json :=
  .object [("data", .list p.data), ("meta", p.place.toJson)]

def Hits.toJson (h : Hits Json) : Json :=
  .object
    [("total", .nat h.total), ("results", .list h.results), ("page", .int h.page),
      ("per_page", .int h.perPage)]

namespace Policy

def toJson (p : Policy) : Json :=
  .object [("default_per_page", .int p.defaultPerPage), ("max_per_page", .int p.maxPerPage)]

open Json (Reading Fault)

/-- A number of a policy, or the value it has when it is left out. -/
def numberOr (absent : Int) : Option Reading → Except Fault Int
  | none => .ok absent
  | some r => r.int64

/-- Reads a policy: an object whose missing fields have their usual values, or a list of up to two
    numbers. -/
def ofReading : Reading → Except Fault Policy
  | .object fields => do
    let size ← numberOr ({} : Policy).defaultPerPage (Reading.lookup "default_per_page" fields)
    let ceiling ← numberOr ({} : Policy).maxPerPage (Reading.lookup "max_per_page" fields)
    pure ⟨size, ceiling⟩
  | .list items => do
    let size ← numberOr ({} : Policy).defaultPerPage items[0]?
    let ceiling ← numberOr ({} : Policy).maxPerPage items[1]?
    if items.length ≤ 2 then pure ⟨size, ceiling⟩
    else throw (.shape [] (.wrongLength items.length "fewer elements in array"))
  | r => r.mismatch "struct PaginationPolicy"

end Policy

end ChatService.Page
