import Mathlib.Data.Int.Order.Basic
import Mathlib.Data.List.Basic
import ChatService.Page.Envelope

/-!
# The pages of a listing

The offset, the size and the number of pages of a listing are computed apart from each other.  Here
they are shown to fit: put one after the other, the pages give the listing back, each but the last
is full, and nothing comes after the last.

The number of pages is used through one equivalence only (`pageCount_le_iff`): there are at most
`n` pages iff `n` pages hold every item.  Everything about a single page is the length of a slice
and this equivalence.
-/

namespace ChatService.Page

open Word

variable {α : Type}

/-! ## Slices -/

theorem length_slice (offset limit : Nat) (xs : List α) :
    (slice offset limit xs).length = min limit (xs.length - offset) := by
  simp [slice]

theorem slice_eq_nil {offset : Nat} {xs : List α} (h : xs.length ≤ offset) (limit : Nat) :
    slice offset limit xs = [] := by
  simp [slice, List.drop_eq_nil_of_le h]

/-- An offset that stops at the largest unsigned 64-bit number lets the same items through as the
exact one: both are past the end of the listing. -/
theorem slice_saturating {xs : List α} (h : xs.length ≤ maxUInt64) (a b limit : Nat) :
    slice (mulUInt64Saturating a b) limit xs = slice (a * b) limit xs := by
  rcases Nat.le_total (a * b) maxUInt64 with hexact | hpast
  · rw [mulUInt64Saturating, Nat.min_eq_left hexact]
  · rw [mulUInt64Saturating, Nat.min_eq_right hpast, slice_eq_nil h,
      slice_eq_nil (Nat.le_trans h hpast)]

/-- The first `n` slices of one size are the items that they have room for. -/
theorem flatMap_slice (n size : Nat) (xs : List α) :
    (List.range n).flatMap (fun i => slice (i * size) size xs) = xs.take (n * size) := by
  induction n with
  | zero => simp
  | succ n ih =>
    rw [List.range_succ, List.flatMap_append, ih, List.flatMap_singleton, slice, Nat.succ_mul,
      List.take_add]

/-! ## Windows -/

/-- The number of items that a page has room for. -/
def pageSize (perPage : Int) : Nat := (max perPage 1).toNat

theorem pageSize_pos (perPage : Int) : 0 < pageSize perPage := by
  unfold pageSize; omega

@[simp] theorem window_limit (page perPage : Int) (total : Nat) :
    (window page perPage total).limit = pageSize perPage := rfl

theorem pageSize_cast (perPage : Int) : (pageSize perPage : Int) = max perPage 1 := by
  unfold pageSize; omega

theorem window_offset (page perPage : Int) (total : Nat) :
    (window page perPage total).offset =
      mulUInt64Saturating ((max page 1).toNat - 1) (pageSize perPage) := rfl

/-- The number of pages of a listing. -/
def pageCount (perPage : Int) (total : Nat) : Nat := (window 1 perPage total).totalPages

/-- The number of pages does not depend on the page asked for. -/
@[simp] theorem window_totalPages (page perPage : Int) (total : Nat) :
    (window page perPage total).totalPages = pageCount perPage total := rfl

/-- There are at most `n` pages iff `n` pages have room for every item. -/
theorem pageCount_le_iff (perPage : Int) (total n : Nat) :
    pageCount perPage total ≤ n ↔ total ≤ n * pageSize perPage := by
  have hrounded : pageCount perPage total =
      (total + (pageSize perPage - 1)) / pageSize perPage := rfl
  rw [hrounded, Nat.div_le_iff_le_mul_add_pred (pageSize_pos perPage), Nat.mul_comm,
    Nat.add_le_add_iff_right]

theorem lt_pageCount_iff (perPage : Int) (total n : Nat) :
    n < pageCount perPage total ↔ n * pageSize perPage < total := by
  simpa using (pageCount_le_iff perPage total n).not

/-- Clamping a request before its window is taken changes nothing: the window clamps again. -/
theorem window_clamped (page perPage : Int) (total : Nat) :
    (Request.clamped page perPage).window total = window page perPage total := by
  simp only [Request.window, Request.clamped, window, max_assoc, max_self]

theorem offset_clamped (page perPage : Int) (total : Nat) :
    (Request.clamped page perPage).offset = (window page perPage total).offset := by
  rw [Request.offset, window_clamped]
  rfl

theorem limit_clamped {perPage : Int} (h : IsInt64 perPage) (page : Int) :
    (Request.clamped page perPage).limit = pageSize perPage := by
  have hpositive : 0 ≤ max perPage 1 := by omega
  have hsmall : max perPage 1 ≤ maxInt64 := by have := h.2; unfold maxInt64 at *; omega
  exact toUInt64Bits_of_nonneg hpositive hsmall

/-! ## One page -/

/-- The items of a listing on a page. -/
def itemsOn (page perPage : Int) (xs : List α) : List α :=
  slice (window page perPage xs.length).offset (window page perPage xs.length).limit xs

section Items

variable {xs : List α}

/-- The items on page `n + 1` are those after `n` full pages. -/
theorem itemsOn_succ (h : xs.length ≤ maxUInt64) (n : Nat) (perPage : Int) :
    itemsOn (n + 1) perPage xs = slice (n * pageSize perPage) (pageSize perPage) xs := by
  have hbefore : (max ((n : Int) + 1) 1).toNat - 1 = n := by omega
  rw [itemsOn, window_limit, window_offset, hbefore, slice_saturating h]

theorem length_itemsOn_succ (h : xs.length ≤ maxUInt64) (n : Nat) (perPage : Int) :
    (itemsOn (n + 1) perPage xs).length =
      min (pageSize perPage) (xs.length - n * pageSize perPage) := by
  rw [itemsOn_succ h, length_slice]

/-- A page that more pages follow is full. -/
theorem length_itemsOn_of_lt (h : xs.length ≤ maxUInt64) {n : Nat} {perPage : Int}
    (hlater : n + 1 < pageCount perPage xs.length) :
    (itemsOn (n + 1) perPage xs).length = pageSize perPage := by
  have hroom := (lt_pageCount_iff perPage xs.length (n + 1)).mp hlater
  rw [Nat.succ_mul] at hroom
  rw [length_itemsOn_succ h]
  omega

/-- A page of the listing has an item. -/
theorem length_itemsOn_pos (h : xs.length ≤ maxUInt64) {n : Nat} {perPage : Int}
    (hpage : n < pageCount perPage xs.length) : 0 < (itemsOn (n + 1) perPage xs).length := by
  have hbefore := (lt_pageCount_iff perPage xs.length n).mp hpage
  have hsize := pageSize_pos perPage
  rw [length_itemsOn_succ h]
  omega

theorem length_itemsOn_le (page perPage : Int) (xs : List α) :
    (itemsOn page perPage xs).length ≤ pageSize perPage := by
  rw [itemsOn, length_slice, window_limit]
  exact Nat.min_le_left _ _

/-- Nothing is on a page after the last. -/
theorem itemsOn_eq_nil (h : xs.length ≤ maxUInt64) {n : Nat} {perPage : Int}
    (hpast : pageCount perPage xs.length ≤ n) : itemsOn (n + 1) perPage xs = [] := by
  rw [itemsOn_succ h, slice_eq_nil ((pageCount_le_iff perPage xs.length n).mp hpast)]

/-- Put one after the other, the pages are the listing. -/
theorem flatMap_itemsOn (h : xs.length ≤ maxUInt64) (perPage : Int) :
    (List.range (pageCount perPage xs.length)).flatMap
      (fun n : Nat => itemsOn (n + 1) perPage xs) = xs := by
  have hroom := (pageCount_le_iff perPage xs.length _).mp (Nat.le_refl _)
  simp only [itemsOn_succ h, flatMap_slice]
  exact List.take_of_length_le hroom

end Items

/-! ## Every intermediate number fits -/

/-- The number as an unsigned 64-bit number, unless it is none. -/
def uint64? (n : Int) : Option Nat :=
  if 0 ≤ n ∧ n ≤ maxUInt64 then some n.toNat else none

/-- The quotient rounded up, taken as the quotient with 1 added for a remainder, unless the divisor
is zero or the sum is no unsigned 64-bit number. -/
def divCeil? (total size : Nat) : Option Nat :=
  if size = 0 then none
  else if total % size = 0 then some (total / size)
  else uint64? (total / size + 1 : Nat)

/-- The window of a page, unless some number on the way to it is no unsigned 64-bit number.  Only
the product that gives the offset may stop at the end of the range. -/
def window? (page perPage : Int) (total : Nat) : Option Window := do
  let number ← uint64? (max page 1)
  let size ← uint64? (max perPage 1)
  let before ← uint64? (number - 1 : Int)
  let totalPages ← divCeil? total size
  some ⟨mulUInt64Saturating before size, size, totalPages⟩

theorem uint64?_eq_some {n : Int} (hnonneg : 0 ≤ n) (hsmall : n ≤ maxUInt64) :
    uint64? n = some n.toNat := if_pos ⟨hnonneg, hsmall⟩

/-- A signed 64-bit number raised to at least 1 is an unsigned one. -/
theorem uint64?_max_one {n : Int} (h : IsInt64 n) : uint64? (max n 1) = some (max n 1).toNat := by
  refine uint64?_eq_some (by omega) ?_
  have := h.2
  unfold maxInt64 at this
  unfold maxUInt64
  omega

/-- A quotient rounded up is the quotient, with 1 more for a remainder. -/
theorem div_rounded_up {size : Nat} (hsize : 0 < size) (total : Nat) :
    (total + (size - 1)) / size =
      if total % size = 0 then total / size else total / size + 1 := by
  have hdivided := Nat.div_add_mod total size
  have hremainder := Nat.mod_lt total hsize
  have hsplit : total + (size - 1) = size * (total / size) + (total % size + (size - 1)) := by omega
  rw [hsplit, Nat.mul_add_div hsize]
  split
  case isTrue hexact =>
    have hnone : (total % size + (size - 1)) / size = 0 := Nat.div_eq_of_lt (by omega)
    rw [hnone, Nat.add_zero]
  case isFalse hrest =>
    have hwhole : total % size + (size - 1) = total % size - 1 + size := by omega
    have hnone : (total % size - 1) / size = 0 := Nat.div_eq_of_lt (by omega)
    rw [hwhole, Nat.add_div_right _ hsize, hnone]

/-- The quotient rounded up never leaves the range, and it is the one that a window reports. -/
theorem divCeil?_eq_some {total size : Nat} (hsize : 0 < size) (h : total ≤ maxUInt64) :
    divCeil? total size = some ((total + (size - 1)) / size) := by
  rw [divCeil?, if_neg (Nat.ne_of_gt hsize), div_rounded_up hsize]
  split
  case isTrue => rfl
  case isFalse hrest =>
    -- a remainder leaves room for the 1: the size is at least 2
    have htwo : 2 ≤ size := by
      by_contra hone
      obtain rfl : size = 1 := by omega
      exact hrest (Nat.mod_one total)
    have hpositive : 0 < total :=
      Nat.pos_of_ne_zero (by rintro rfl; exact hrest (Nat.zero_mod size))
    have hroom : total / size + 1 ≤ total := Nat.div_lt_self hpositive htwo
    exact uint64?_eq_some (Int.natCast_nonneg _) (Int.ofNat_le.mpr (Nat.le_trans hroom h))

/-- No number on the way to a window leaves its range. -/
theorem window?_eq_some {page perPage : Int} {total : Nat} (hpage : IsInt64 page)
    (hper : IsInt64 perPage) (h : total ≤ maxUInt64) :
    window? page perPage total = some (window page perPage total) := by
  have hsmall := hpage.2
  have hbefore : uint64? (((max page 1).toNat : Int) - 1) = some ((max page 1).toNat - 1) := by
    rw [uint64?_eq_some (by omega) (by unfold maxInt64 at hsmall; unfold maxUInt64; omega)]
    congr 1
    omega
  simp only [window?, uint64?_max_one hpage, uint64?_max_one hper, Option.bind_eq_bind,
    Option.bind_some, hbefore]
  have hpages := divCeil?_eq_some (pageSize_pos perPage) h
  unfold pageSize at hpages
  rw [hpages]
  rfl

/-! ## The pages together -/

/-- A listing falls into `pages` pages. -/
structure Partition (perPage : Int) (xs : List α) (pages : Nat) : Prop where
  /-- Whatever page is asked for, this is how many pages its window and the answer tell of. -/
  reported : ∀ page : Int, (window page perPage xs.length).totalPages = pages ∧
    (Meta.ofRequest ⟨page, perPage⟩ xs.length).totalPages = pages ∧
    (Meta.ofRequest (Request.clamped page perPage) xs.length).totalPages = pages
  /-- A request for a page is served from the window of the page. -/
  requested : ∀ page : Int,
    slice (Request.clamped page perPage).offset (Request.clamped page perPage).limit xs =
      itemsOn page perPage xs
  /-- Put one after the other, the pages are the listing. -/
  joined : (List.range pages).flatMap (fun n : Nat => itemsOn (n + 1) perPage xs) = xs
  /-- Every page before the last is full. -/
  full : ∀ page : Int, 1 ≤ page → page < pages →
    ((itemsOn page perPage xs).length : Int) = max perPage 1
  /-- The last page has an item, and no more than it has room for. -/
  last : 0 < pages → 1 ≤ (itemsOn pages perPage xs).length ∧
    ((itemsOn pages perPage xs).length : Int) ≤ max perPage 1
  /-- Nothing is on a page after the last. -/
  beyond : ∀ page : Int, (pages : Int) < page → itemsOn page perPage xs = []
  /-- A page below 1 is page 1. -/
  below : ∀ page : Int, page < 1 → (∀ total, window page perPage total = window 1 perPage total) ∧
    Request.clamped page perPage = Request.clamped 1 perPage
  /-- No number on the way to a window leaves its range. -/
  inRange : ∀ (page : Int) (total : Nat), IsInt64 page → total ≤ maxUInt64 →
    window? page perPage total = some (window page perPage total)

/-- The pages of a listing partition it: for every listing shorter than `2 ^ 64` and every page size
that is a signed 64-bit number, whatever page is asked for. -/
theorem pages_partition (perPage : Int) (xs : List α) (hlength : xs.length ≤ maxUInt64)
    (hper : IsInt64 perPage) :
    Partition perPage xs (pageCount perPage xs.length) := by
  refine { reported := ?reported, requested := ?requested,
           joined := flatMap_itemsOn hlength perPage, full := ?full, last := ?last,
           beyond := ?beyond, below := ?below,
           inRange := fun page total hpage htotal => window?_eq_some hpage hper htotal }
  case reported =>
    refine fun page => ⟨rfl, rfl, ?_⟩
    rw [Meta.ofRequest, window_clamped]
    rfl
  case requested =>
    intro page
    rw [offset_clamped page perPage xs.length, limit_clamped hper]
    rfl
  case full =>
    intro page hone hlater
    obtain ⟨n, rfl⟩ : ∃ n : Nat, page = n + 1 := ⟨(page - 1).toNat, by omega⟩
    rw [length_itemsOn_of_lt hlength (by omega), pageSize_cast]
  case last =>
    intro hsome
    obtain ⟨n, hn⟩ : ∃ n, pageCount perPage xs.length = n + 1 := Nat.exists_eq_add_one.mpr hsome
    constructor
    · rw [hn]
      exact length_itemsOn_pos hlength (by omega)
    · rw [← pageSize_cast]
      exact_mod_cast length_itemsOn_le _ perPage xs
  case beyond =>
    intro page hpast
    obtain ⟨n, rfl⟩ : ∃ n : Nat, page = n + 1 := ⟨(page - 1).toNat, by omega⟩
    exact itemsOn_eq_nil hlength (by omega)
  case below =>
    intro page hbelow
    have hone : max page 1 = max (1 : Int) 1 := by omega
    exact ⟨fun total => by simp only [window, hone], by simp only [Request.clamped, hone]⟩

/-- Seven items on pages of three: the last page has one, and there is nothing on the largest page
that can be asked for, whose offset stops at the end of the range. -/
theorem pages_of_seven :
    Partition 3 [1, 2, 3, 4, 5, 6, 7] 3 ∧ itemsOn 3 3 [1, 2, 3, 4, 5, 6, 7] = [7] ∧
      (window maxInt64 3 7).offset = maxUInt64 ∧ itemsOn maxInt64 3 [1, 2, 3, 4, 5, 6, 7] = [] :=
  ⟨pages_partition 3 [1, 2, 3, 4, 5, 6, 7] (by decide) (by decide), rfl, rfl,
    (pages_partition 3 [1, 2, 3, 4, 5, 6, 7] (by decide) (by decide)).beyond maxInt64 (by decide)⟩

end ChatService.Page
