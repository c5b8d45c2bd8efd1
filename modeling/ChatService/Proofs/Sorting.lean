import Mathlib.Data.List.Nodup
import Mathlib.Data.List.Pairwise
import Mathlib.Data.List.Perm.Basic

/-!
# Sorted listings

A listing is sorted by what can be read off its items: then the result is in order.  Where no two
items have the same number it is the only one in strictly ascending order.
-/

namespace ChatService

variable {γ : Type}

/-- Sorting by keys puts the keys in order.  That the comparison goes by the keys need only hold of
the items that are sorted. -/
theorem pairwise_mergeSort_of_key {κ : Type} (key : γ → κ) (le : κ → κ → Bool)
    {r : γ → γ → Bool} {xs : List γ} (hr : ∀ a ∈ xs, ∀ b ∈ xs, r a b = le (key a) (key b))
    (trans : ∀ a b c, le a b → le b c → le a c) (total : ∀ a b, le a b || le b a) :
    (xs.mergeSort r).Pairwise fun a b => le (key a) (key b) = true := by
  have hkeys : (xs.mergeSort r).map key = (xs.map key).mergeSort le := List.map_mergeSort hr
  rw [← List.pairwise_map (f := key) (R := fun k l => le k l = true), hkeys]
  exact List.pairwise_mergeSort trans total _

variable {number : γ → Int} {xs ys : List γ}

/-- Sorting by a number that no two items share gives a strictly ascending order. -/
theorem mergeSort_ascending (hnodup : (xs.map number).Nodup) :
    (xs.mergeSort fun a b => decide (number a ≤ number b)).Pairwise
      fun a b => number a < number b := by
  have hle : (xs.mergeSort fun a b => decide (number a ≤ number b)).Pairwise
      fun a b => decide (number a ≤ number b) = true := by
    refine pairwise_mergeSort_of_key number (fun m n => decide (m ≤ n)) (fun _ _ _ _ => rfl)
      (fun a b c hab hbc => ?_) (fun a b => ?_)
    · simp only [decide_eq_true_eq] at hab hbc ⊢
      omega
    · simp only [Bool.or_eq_true, decide_eq_true_eq]
      omega
  have hne : (xs.mergeSort fun a b => decide (number a ≤ number b)).Pairwise
      fun a b => number a ≠ number b :=
    List.pairwise_map.mp (((List.mergeSort_perm _ _).map number).nodup_iff.mpr hnodup)
  refine (hle.and hne).imp fun h => ?_
  exact Int.lt_iff_le_and_ne.mpr ⟨of_decide_eq_true h.1, h.2⟩

/-- Sorting by a number that no two items share gives the one ascending order. -/
theorem mergeSort_eq_of_perm (hperm : xs.Perm ys)
    (hsorted : ys.Pairwise fun a b => number a < number b) :
    xs.mergeSort (fun a b => decide (number a ≤ number b)) = ys := by
  have hnodup : (ys.map number).Nodup :=
    List.pairwise_map.mpr (hsorted.imp fun hlt => Int.ne_of_lt hlt)
  refine List.Perm.eq_of_pairwise (fun a b ha hb hab hba => ?_)
    (mergeSort_ascending ((hperm.map number).nodup_iff.mpr hnodup)) hsorted
    ((List.mergeSort_perm _ _).trans hperm)
  exact absurd (Int.lt_trans hab hba) (Int.lt_irrefl _)

end ChatService
