import ChatService.Store.Counter

/-!
# Counts and numbers that were handed out

Both are plain sums: what was refused for its range is no answer.
-/

namespace ChatService.Store

/-- A number that is handed out is the next one. -/
theorem nextAfter_eq_ok {last number : Int} (h : nextAfter last = .ok number) :
    0 ≤ last ∧ number = last + 1 := by
  unfold nextAfter at h
  split at h
  · contradiction
  · next hlast =>
      cases hadd : Word.addInt64? last 1 with
      | none => simp [hadd] at h
      | some sum =>
          have hsum := (Word.addInt64?_eq_some_iff.mp hadd).2
          have heq : sum = number := by simpa [hadd] using h
          omega

theorem isInt64_of_nextAfter {last number : Int} (h : nextAfter last = .ok number) :
    Word.IsInt64 number := by
  unfold nextAfter at h
  split at h
  · contradiction
  · cases hadd : Word.addInt64? last 1 with
    | none => simp [hadd] at h
    | some sum =>
        obtain ⟨hrange, rfl⟩ := Word.addInt64?_eq_some_iff.mp hadd
        have heq : last + 1 = number := by simpa [hadd] using h
        exact heq ▸ hrange

theorem nextAfter_of_lt {last : Int} (h : 0 ≤ last) (hlt : last < Word.maxInt64) :
    nextAfter last = .ok (last + 1) := by
  have hadd : Word.addInt64? last 1 = some (last + 1) :=
    Word.addInt64?_eq_some_iff.mpr ⟨by unfold Word.IsInt64 Word.minInt64; omega, rfl⟩
  rw [nextAfter, if_neg (Int.not_lt.mpr h), hadd]

theorem nextAfter_ne_writeConflict (last : Int) (detail : String) :
    nextAfter last ≠ .error (.writeConflict detail) := by
  unfold nextAfter
  split
  · simp
  · cases Word.addInt64? last 1 <;> simp

/-- What checked arithmetic gives for one more child of a parent with these counters: its number,
and the new count. -/
def allocated (field : CounterField) (last count : Int) : Except StoreError (Int × Int) := do
  let number ← nextAfter last
  let count ← (CounterUpdate.increment field).apply count
  return (number, count)

theorem allocated_eq_ok {field : CounterField} {last count number count' : Int} :
    allocated field last count = .ok (number, count') ↔
      nextAfter last = .ok number ∧ (CounterUpdate.increment field).apply count = .ok count' := by
  unfold allocated
  cases nextAfter last with
  | error e => simp [bind, Except.bind]
  | ok number =>
      cases (CounterUpdate.increment field).apply count <;>
        simp [bind, Except.bind, pure, Except.pure]

theorem allocated_of_nextAfter_error (field : CounterField) {last : Int} (count : Int)
    {e : StoreError} (he : nextAfter last = .error e) : allocated field last count = .error e := by
  rw [allocated, he]
  rfl

/-- A changed count is the sum, and not negative. -/
theorem CounterUpdate.apply_eq_ok {u : CounterUpdate} {current next : Int}
    (h : u.apply current = .ok next) : next = current + u.delta ∧ 0 ≤ next := by
  unfold CounterUpdate.apply at h
  cases hadd : Word.addInt64? current u.delta with
  | none => simp [hadd] at h
  | some sum =>
      have hsum := (Word.addInt64?_eq_some_iff.mp hadd).2
      simp only [hadd] at h
      split at h
      · contradiction
      · have heq : sum = next := by simpa using h
        omega

theorem CounterUpdate.isInt64_of_apply {u : CounterUpdate} {current next : Int}
    (h : u.apply current = .ok next) : Word.IsInt64 next := by
  unfold CounterUpdate.apply at h
  cases hadd : Word.addInt64? current u.delta with
  | none => simp [hadd] at h
  | some sum =>
      obtain ⟨hrange, rfl⟩ := Word.addInt64?_eq_some_iff.mp hadd
      simp only [hadd] at h
      split at h
      · contradiction
      · have heq : current + u.delta = next := by simpa using h
        exact heq ▸ hrange

theorem CounterUpdate.apply_of_le {u : CounterUpdate} {current : Int}
    (h : 0 ≤ current + u.delta) (hle : current + u.delta ≤ Word.maxInt64) :
    u.apply current = .ok (current + u.delta) := by
  have hadd : Word.addInt64? current u.delta = some (current + u.delta) :=
    Word.addInt64?_eq_some_iff.mpr ⟨by unfold Word.IsInt64 Word.minInt64; omega, rfl⟩
  simp only [apply, hadd]
  exact if_neg (Int.not_lt.mpr h)

end ChatService.Store
