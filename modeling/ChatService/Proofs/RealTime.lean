import ChatService.Call
import Mathlib.Data.List.Induction

/-!
# What comes first in real time

A call begins with its first section, and it has returned once it has begun and is finished.  One
call comes before another in real time when it has returned before the other begins.  Calls that are
put in the order of points in time, each somewhere between the beginning and the end of its call,
stand in no order that real time forbids.
-/

namespace ChatService

universe u

variable {σ ι κ : Type} {α : Type u} {s₀ : σ} {calls₀ : List (Call σ ι κ α)}
  {schedule earlier : List (Turn ι)} {turn : Turn ι} {k k' n n' : Nat}

/-! ## sections one after the other -/

theorem runSchedule_append_singleton : runSchedule (schedule ++ [turn]) s₀ calls₀ =
    turn.run (runSchedule schedule s₀ calls₀).1 (runSchedule schedule s₀ calls₀).2 := by
  simp [runSchedule]

/-- A finished call stays as it is. -/
theorem Turn.run_getElem?_done {answer : α} {s : σ} {calls : List (Call σ ι κ α)}
    (h : calls[k]? = some (.done answer)) : (turn.run s calls).2[k]? = some (.done answer) := by
  unfold Turn.run
  split
  · exact h
  · next call hcall =>
      by_cases hturn : turn.call = k
      · subst hturn
        rw [h] at hcall
        cases hcall
        simp [Call.advance, (List.getElem?_eq_some_iff.mp h).1]
      · simpa [List.getElem?_set_ne hturn] using h

/-- No call is lost. -/
theorem length_runSchedule (schedule : List (Turn ι)) :
    (runSchedule schedule s₀ calls₀).2.length = calls₀.length := by
  induction schedule using List.reverseRecOn with
  | nil => rfl
  | append_singleton schedule turn ih =>
      rw [runSchedule_append_singleton, Turn.run]
      cases (runSchedule schedule s₀ calls₀).2[turn.call]? with
      | none => exact ih
      | some call => exact List.length_set.trans ih

/-- **Induction over the turns of one call**: sections of its own take it further, those of other
calls leave it where it is. -/
theorem runSchedule_call_induct {motive : List (Turn ι) → Call σ ι κ α → Prop}
    (start : ∀ {call}, calls₀[k]? = some call → motive [] call)
    (own : ∀ {schedule turn call}, turn.call = k →
      (runSchedule schedule s₀ calls₀).2[k]? = some call → motive schedule call →
        motive (schedule ++ [turn])
          (call.advance turn.input (runSchedule schedule s₀ calls₀).1).2)
    (other : ∀ {schedule turn call}, turn.call ≠ k → motive schedule call →
      motive (schedule ++ [turn]) call)
    {schedule : List (Turn ι)} {call : Call σ ι κ α}
    (hcall : (runSchedule schedule s₀ calls₀).2[k]? = some call) : motive schedule call := by
  induction schedule using List.reverseRecOn generalizing call with
  | nil => exact start hcall
  | append_singleton schedule turn ih =>
      rw [runSchedule_append_singleton, Turn.run] at hcall
      cases hturn : (runSchedule schedule s₀ calls₀).2[turn.call]? with
      | none =>
          rw [hturn] at hcall
          have hne : turn.call ≠ k := by
            rintro rfl
            simp [hturn] at hcall
          exact other hne (ih hcall)
      | some found =>
          simp only [hturn] at hcall
          by_cases hk : turn.call = k
          · subst hk
            rw [List.getElem?_set_self (List.getElem?_eq_some_iff.mp hturn).1] at hcall
            cases hcall
            exact own rfl hturn (ih hturn)
          · rw [List.getElem?_set_ne hk] at hcall
            exact other hk (ih hcall)

/-! ## what a call has reached -/

/-- A call has run its first section. -/
def Begun (schedule : List (Turn ι)) (k : Nat) : Prop := ∃ turn ∈ schedule, turn.call = k

theorem Begun.mono (h : Begun earlier k) (hearlier : earlier <+: schedule) : Begun schedule k := by
  obtain ⟨turn, hturn, hk⟩ := h
  exact ⟨turn, hearlier.subset hturn, hk⟩

theorem begun_append_singleton :
    Begun (schedule ++ [turn]) k ↔ Begun schedule k ∨ turn.call = k := by
  simp [Begun, or_and_right, exists_or]

/-- A call has begun and has its answer. -/
def Returned (s₀ : σ) (calls₀ : List (Call σ ι κ α)) (schedule : List (Turn ι)) (k : Nat) : Prop :=
  Begun schedule k ∧ ∃ answer, (runSchedule schedule s₀ calls₀).2[k]? = some (.done answer)

theorem Returned.append (h : Returned s₀ calls₀ schedule k) (rest : List (Turn ι)) :
    Returned s₀ calls₀ (schedule ++ rest) k := by
  induction rest generalizing schedule with
  | nil => simpa using h
  | cons turn rest ih =>
      obtain ⟨hbegun, answer, hanswer⟩ := h
      have hnext : Returned s₀ calls₀ (schedule ++ [turn]) k :=
        ⟨begun_append_singleton.mpr (.inl hbegun), answer,
          by rw [runSchedule_append_singleton]; exact Turn.run_getElem?_done hanswer⟩
      simpa using ih hnext

theorem Returned.mono (h : Returned s₀ calls₀ earlier k) (hearlier : earlier <+: schedule) :
    Returned s₀ calls₀ schedule k := by
  obtain ⟨rest, rfl⟩ := hearlier
  exact h.append rest

/-! ## points in time -/

/-- One call returned before the other began. -/
def Precedes (s₀ : σ) (calls₀ : List (Call σ ι κ α)) (schedule : List (Turn ι)) (k k' : Nat) :
    Prop :=
  ∃ earlier, earlier <+: schedule ∧ Returned s₀ calls₀ earlier k ∧ ¬Begun earlier k'

/-- The turn with some number falls between the beginning and the end of a call. -/
structure During (s₀ : σ) (calls₀ : List (Call σ ι κ α)) (schedule : List (Turn ι)) (k n : Nat) :
    Prop where
  passed : n < schedule.length
  begun : Begun (schedule.take (n + 1)) k
  pending : ¬Returned s₀ calls₀ (schedule.take n) k

theorem During.append_singleton (h : During s₀ calls₀ schedule k n) :
    During s₀ calls₀ (schedule ++ [turn]) k n where
  passed := by simpa using Nat.lt_succ_of_lt h.passed
  begun := by
    rw [List.take_append_of_le_length h.passed]
    exact h.begun
  pending := by
    rw [List.take_append_of_le_length (Nat.le_of_lt h.passed)]
    exact h.pending

/-- The turn of a call that has not returned. -/
theorem during_last (hpending : ¬Returned s₀ calls₀ schedule turn.call) :
    During s₀ calls₀ (schedule ++ [turn]) turn.call schedule.length where
  passed := by simp
  begun := by
    rw [List.take_of_length_le (by simp)]
    exact begun_append_singleton.mpr (.inr rfl)
  pending := by rwa [List.take_left' rfl]

/-- An earlier turn, if the call had begun by then and has not returned yet. -/
theorem during_earlier (hn : n < schedule.length) (hbegun : Begun (schedule.take n) k)
    (hpending : ¬Returned s₀ calls₀ schedule k) : During s₀ calls₀ schedule k n where
  passed := hn
  begun := hbegun.mono (List.take_prefix_take_left (Nat.le_succ n))
  pending h := hpending (h.mono (List.take_prefix _ _))

/-- **Points in time respect real time.** -/
theorem During.not_precedes (h : During s₀ calls₀ schedule k n)
    (h' : During s₀ calls₀ schedule k' n') (hle : n ≤ n') :
    ¬Precedes s₀ calls₀ schedule k' k := by
  intro ⟨earlier, hearlier, hreturned, hbegun⟩
  by_cases hlength : earlier.length ≤ n'
  · exact h'.pending (hreturned.mono (List.prefix_take_iff.mpr ⟨hearlier, hlength⟩))
  · have hlater : schedule.take (n + 1) <+: earlier :=
      List.prefix_of_prefix_length_le (List.take_prefix _ _) hearlier
        (Nat.le_trans (List.length_take_le _ _) (by omega))
    exact hbegun (h.begun.mono hlater)

end ChatService
