import ChatService.Proofs.Database.Records

/-!
# The order of listings

A server sorts records of every kind: any two stand in one order or the other, and the order is
transitive.  Records that hold rows are sorted by what the rows say.
-/

namespace ChatService.Database

namespace Value

variable {a b c : Value}

@[simp] theorem le_long (m n : Int) : (long m).le (long n) = decide (m ≤ n) :=
  decide_eq_decide.mpr Rat.intCast_le_intCast

@[simp] theorem le_time (m n : Int) : (time m).le (time n) = decide (m ≤ n) := rfl

@[simp] theorem le_objectId (i j : ObjectId) : (objectId i).le (objectId j) = i.le j := rfl

/-- Numbers are sorted by size. -/
theorem le_of_number? {x y : Rat} (ha : a.number? = some x) (hb : b.number? = some y) :
    a.le b = decide (x ≤ y) := by
  cases a <;> cases b <;> simp_all [le, number?]

/-- Values of different types are sorted by their types. -/
theorem le_of_rank_ne (h : a.rank ≠ b.rank) : a.le b = decide (a.rank ≤ b.rank) := by
  cases a <;> cases b <;> first | rfl | exact absurd rfl h

theorem rank_le_of_le (h : a.le b = true) : a.rank ≤ b.rank := by
  by_cases hrank : a.rank = b.rank
  · exact Nat.le_of_eq hrank
  · exact of_decide_eq_true (le_of_rank_ne hrank ▸ h)

theorem exists_number? (h : a.rank = 1) : ∃ x, a.number? = some x := by
  cases a <;> simp_all [rank, number?]

theorem le_total (a b : Value) : (a.le b || b.le a) = true := by
  by_cases hrank : a.rank = b.rank
  · by_cases hnumber : a.rank = 1
    · obtain ⟨x, hx⟩ := exists_number? hnumber
      obtain ⟨y, hy⟩ := exists_number? (hrank ▸ hnumber)
      simpa [le_of_number? hx hy, le_of_number? hy hx] using Rat.le_total
    · cases a <;> cases b <;>
        simp_all [rank, le, number?, ObjectId.le, String.le_total, Bool.le_total, Nat.le_total,
          Int.le_total]
  · rw [le_of_rank_ne hrank, le_of_rank_ne (Ne.symm hrank)]
    simpa using Nat.le_total _ _

theorem le_trans (hab : a.le b = true) (hbc : b.le c = true) : a.le c = true := by
  have hab' := rank_le_of_le hab
  have hbc' := rank_le_of_le hbc
  by_cases hrank : a.rank = c.rank
  · have hb : b.rank = a.rank := by omega
    by_cases hnumber : a.rank = 1
    · obtain ⟨x, hx⟩ := exists_number? hnumber
      obtain ⟨y, hy⟩ := exists_number? (hb.trans hnumber)
      obtain ⟨z, hz⟩ := exists_number? (hrank ▸ hnumber)
      rw [le_of_number? hx hy, decide_eq_true_eq] at hab
      rw [le_of_number? hy hz, decide_eq_true_eq] at hbc
      rw [le_of_number? hx hz, decide_eq_true_eq]
      exact Rat.le_trans hab hbc
    · cases a <;> cases b <;> cases c <;> simp_all [rank, le, number?, ObjectId.le] <;>
        first | exact String.le_trans hab hbc | exact Bool.le_trans hab hbc | omega
  · rw [le_of_rank_ne hrank, decide_eq_true_eq]
    exact Nat.le_trans hab' hbc'

end Value

namespace Server

variable {a b : Record}

theorem inOrder_total (sort : List SortKey) (a b : Record) :
    (inOrder sort a b || inOrder sort b a) = true := by
  induction sort with
  | nil => rfl
  | cons key keys ih =>
      have htotal := Value.le_total ((Keyed.get? key.field a).getD .null)
        ((Keyed.get? key.field b).getD .null)
      simp only [inOrder]
      grind

theorem inOrder_trans (sort : List SortKey) (a b c : Record) (hab : inOrder sort a b = true)
    (hbc : inOrder sort b c = true) : inOrder sort a c = true := by
  induction sort with
  | nil => rfl
  | cons key keys ih =>
      simp only [inOrder] at hab hbc ⊢
      generalize (Keyed.get? key.field a).getD .null = u at *
      generalize (Keyed.get? key.field b).getD .null = v at *
      generalize (Keyed.get? key.field c).getD .null = w at *
      grind [Value.le_trans]

/-- What is sorted is in order, whatever it is. -/
theorem pairwise_sorted (sort : List SortKey) (records : List Record) :
    (records.mergeSort (inOrder sort)).Pairwise fun a b => inOrder sort a b = true :=
  List.pairwise_mergeSort (inOrder_trans sort) (inOrder_total sort) records

/-- Sorting by number sorts by the numbers that the records have. -/
theorem inOrder_byNumber {m n : Int} (ha : Keyed.get? "number" a = some (.long m))
    (hb : Keyed.get? "number" b = some (.long n)) : inOrder byNumber a b = decide (m ≤ n) := by
  simp only [inOrder, byNumber, ha, hb, Option.getD_some, Value.le_long]
  grind

/-- A later time comes first, and at one time a larger id. -/
theorem inOrder_newestFirst {m n : Int} {i j : ObjectId}
    (ha : Keyed.get? "created_at" a = some (.time m))
    (ha' : Keyed.get? "_id" a = some (.objectId i))
    (hb : Keyed.get? "created_at" b = some (.time n))
    (hb' : Keyed.get? "_id" b = some (.objectId j)) :
    inOrder newestFirst a b = decide (n < m ∨ m = n ∧ j.number ≤ i.number) := by
  simp only [inOrder, newestFirst, ha, ha', hb, hb', Option.getD_some, Value.le_time,
    Value.le_objectId, ObjectId.le]
  grind

end Server

end ChatService.Database
