import ChatService.Page.Policy
import ChatService.Proofs.Page.Partition

/-!
# Pages asked for

What a client writes for a page and for its size is read as a signed 64-bit number in every case, so
the page that is served starts after `(page - 1) * size` items, and none of the ranges that the
arithmetic goes through is ever left.
-/

namespace ChatService.Page

open Word

/-! ## lenient numbers stay in range -/

theorem appendDigit_range {value : Int} (h : 0 ≤ value) (c : Char) :
    0 ≤ appendDigit value c ∧ appendDigit value c ≤ maxInt64 := by
  unfold appendDigit maxInt64
  omega

theorem foldl_appendDigit_range {value : Int} (h : 0 ≤ value ∧ value ≤ maxInt64) (cs : List Char) :
    0 ≤ cs.foldl appendDigit value ∧ cs.foldl appendDigit value ≤ maxInt64 := by
  induction cs generalizing value with
  | nil => exact h
  | cons c cs ih => exact ih (appendDigit_range h.1 c)

/-- Whatever a client writes is read as a signed 64-bit number. -/
theorem isInt64_coerceInt (raw : String) : IsInt64 (coerceInt raw) := by
  have hrange : ∀ cs, 0 ≤ leadingNumber cs ∧ leadingNumber cs ≤ maxInt64 := fun cs =>
    foldl_appendDigit_range (by decide) (cs.takeWhile Char.isDigit)
  unfold coerceInt IsInt64 minInt64
  unfold maxInt64 at hrange ⊢
  split <;> grind

/-! ## the page and its size -/

/-- The page that a request is served. -/
def pageOf (page : Option String) : Int := max 1 ((page.map coerceInt).getD 1)

/-- The page size that a request is served with. -/
def Policy.sizeOf (policy : Policy) (perPage : Option String) : Int :=
  let asked := max 1 ((perPage.map coerceInt).getD policy.defaultPerPage)
  if 0 < policy.maxPerPage then min asked policy.maxPerPage else asked

/-- The items on a page: `size` of them, after those of the pages before it. -/
def pageItems {α : Type} (page size : Int) (items : List α) : List α :=
  (items.drop ((page.toNat - 1) * size.toNat)).take size.toNat

section Sizes

variable {policy : Policy} {page perPage : Option String}

theorem one_le_pageOf : 1 ≤ pageOf page := by
  unfold pageOf; omega

theorem Policy.one_le_sizeOf : 1 ≤ policy.sizeOf perPage := by
  unfold Policy.sizeOf; grind

/-- No page is larger than a ceiling that is set. -/
theorem Policy.sizeOf_le (h : 0 < policy.maxPerPage) :
    policy.sizeOf perPage ≤ policy.maxPerPage := by
  unfold Policy.sizeOf; grind

theorem Policy.isInt64_sizeOf (hdefault : IsInt64 policy.defaultPerPage) :
    IsInt64 (policy.sizeOf perPage) := by
  have hasked : IsInt64 ((perPage.map coerceInt).getD policy.defaultPerPage) := by
    cases perPage with
    | none => exact hdefault
    | some raw => exact isInt64_coerceInt raw
  have hone : 1 ≤ policy.sizeOf perPage := Policy.one_le_sizeOf
  refine ⟨by unfold minInt64; omega, ?_⟩
  have hle := hasked.2
  unfold Policy.sizeOf maxInt64 at *
  grind

/-- The size is raised to 1 before it is lowered to the ceiling, and is still at least 1 then. -/
theorem Policy.normalize_eq :
    policy.normalize page perPage = ⟨pageOf page, policy.sizeOf perPage⟩ := by
  have hsize : max (policy.sizeOf perPage) 1 = policy.sizeOf perPage :=
    max_eq_left Policy.one_le_sizeOf
  have hpage : max ((page.map coerceInt).getD 1) 1 = pageOf page := max_comm _ _
  rw [← hsize, ← hpage]
  simp only [Policy.normalize, Policy.sizeOf, Request.clamped, max_comm]

/-- The items that are served: those that `page - 1` pages leave, as many as fit. -/
theorem Policy.slice_normalize {α : Type} {xs : List α} (hlength : xs.length ≤ maxUInt64)
    (hdefault : IsInt64 policy.defaultPerPage) :
    slice (policy.normalize page perPage).offset (policy.normalize page perPage).limit xs =
      pageItems (pageOf page) (policy.sizeOf perPage) xs := by
  have hclamped : policy.normalize page perPage =
      Request.clamped (pageOf page) (policy.sizeOf perPage) := by
    rw [Policy.normalize_eq, Request.clamped, max_eq_left one_le_pageOf,
      max_eq_left Policy.one_le_sizeOf]
  have hsize : pageSize (policy.sizeOf perPage) = (policy.sizeOf perPage).toNat := by
    rw [pageSize, max_eq_left Policy.one_le_sizeOf]
  have hpage : (max (pageOf page) 1).toNat = (pageOf page).toNat := by
    rw [max_eq_left one_le_pageOf]
  rw [hclamped, offset_clamped _ _ xs.length, limit_clamped (Policy.isInt64_sizeOf hdefault),
    window_offset, slice_saturating hlength, hsize, hpage]
  rfl

end Sizes

end ChatService.Page
