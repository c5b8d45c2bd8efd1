import ChatService.Page.Window

/-!
# Envelopes

What a page is sent in: the items of a listing with the page's place in it, or the hits of a search
with their number.
-/

namespace ChatService.Page

/-- The place of a page in its listing. -/
structure Meta where
  page : Int
  perPage : Int
  total : Nat
  totalPages : Nat
deriving DecidableEq, Repr

def Meta.ofRequest (request : Request) (total : Nat) : Meta :=
  ⟨request.page, request.perPage, total, (request.window total).totalPages⟩

/-- A page of a listing. -/
structure Paginated (α : Type) where
  data : List α
  place : Meta
deriving Repr

namespace Paginated

def ofRequest {α : Type} (data : List α) (request : Request) (total : Nat) : Paginated α :=
  ⟨data, Meta.ofRequest request total⟩

/-- The same page with every item changed. -/
def map {α β : Type} (f : α → β) (p : Paginated α) : Paginated β := ⟨p.data.map f, p.place⟩

end Paginated

/-- A page of search results: the number of all hits, the hits on this page, and the page asked
    for. -/
structure Hits (α : Type) where
  total : Nat
  results : List α
  page : Int
  perPage : Int
deriving Repr

end ChatService.Page
