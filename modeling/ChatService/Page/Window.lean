import ChatService.Word

/-!
# Pages of a listing

A listing is served in pages of equal size. A page request names a page, counted from 1, and a page
size; its window says how many items lie before the page, how many fit on it, and how many pages the
whole listing has.
-/

namespace ChatService.Page

open Word

/-- The part of an ordered listing that a page covers. -/
structure Window where
  offset : Nat
  limit : Nat
  totalPages : Nat
deriving DecidableEq, Repr

/-- The window of a page in a listing of `total` items. Pages and page sizes below 1 count as 1; the
    offset stops at the largest unsigned 64-bit number; a listing without items has no pages. -/
def window (page perPage : Int) (total : Nat) : Window :=
  let size := (max perPage 1).toNat
  { offset := mulUInt64Saturating ((max page 1).toNat - 1) size
    limit := size
    totalPages := (total + (size - 1)) / size }

/-- A requested page. -/
structure Request where
  page : Int
  perPage : Int
deriving DecidableEq, Repr

namespace Request

/-- A request whose fields are at least 1. -/
def clamped (page perPage : Int) : Request := ⟨max page 1, max perPage 1⟩

/-- The page size used where none is configured or asked for. -/
def defaultPerPage : Int := 20

/-- The first page at the default size. -/
def first : Request := clamped 1 defaultPerPage

def window (r : Request) (total : Nat) : Window := Page.window r.page r.perPage total

/-- The number of items before the page. -/
def offset (r : Request) : Nat := (r.window 0).offset

/-- The page size as a count. A request made by `clamped` has a positive size; for any other the
    bits of a negative size are read as an unsigned number. -/
def limit (r : Request) : Nat := toUInt64Bits r.perPage

end Request

/-- The items of a listing that a window lets through. -/
def slice {α : Type} (offset limit : Nat) (items : List α) : List α :=
  (items.drop offset).take limit

end ChatService.Page
