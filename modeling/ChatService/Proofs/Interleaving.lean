import ChatService.Call
import Mathlib.Data.List.Forall2

/-!
# Calls that keep to rules

A call follows rules when each of its sections, in whatever state it finds, does something that the
rules allow to a call that holds what this one holds: a reserved id, a record found, nothing at all.
What a call holds is no part of the program; it is said here what the call has done so far and
what it has yet to do.

The rules speak of one section at a time, so whether they keep an invariant is a matter of single
steps; `runSchedule_follows` carries it over to every interleaving of any number of calls.
-/

namespace ChatService

universe u v

variable {σ ι κ η : Type} {α : Type u} {β : Type v}

namespace Call

/-- A call that holds something follows rules: every section does what the rules allow and leaves
the call with something else to hold, and in the end it holds what its answer says. -/
def Follows (rule : η → ι → σ → σ → η → Prop) (final : η → α → Prop) : η → Call σ ι κ α → Prop
  | held, .done answer => final held answer
  | held, .step _ effect next =>
    ∀ i s, ∃ held', rule held i s (effect i s) held' ∧ Follows rule final held' (next i s)

variable {rule : η → ι → σ → σ → η → Prop} {final : η → α → Prop}

theorem follows_map {final : η → β → Prop} {f : α → β} {held : η} {call : Call σ ι κ α}
    (h : call.Follows rule (fun held answer => final held (f answer)) held) :
    (call.map f).Follows rule final held := by
  induction call generalizing held with
  | done answer => exact h
  | step lock effect next ih =>
      intro i s
      obtain ⟨held', hrule, hnext⟩ := h i s
      exact ⟨held', hrule, ih i s hnext⟩

/-- A section of a call that follows rules; a finished call does nothing. -/
theorem Follows.advance {held : η} {call : Call σ ι κ α} (h : call.Follows rule final held)
    (i : ι) (s : σ) :
    call.advance i s = (s, call) ∨
      ∃ held', rule held i s (call.advance i s).1 held' ∧
        (call.advance i s).2.Follows rule final held' := by
  cases call with
  | done answer => exact .inl rfl
  | step lock effect next => exact .inr (h i s)

end Call

/-! ## several calls -/

section Pool

variable {rule : η → ι → σ → σ → η → Prop} {final : η → α → Prop}

/-- What several calls hold, one after the other. -/
def AllFollow (rule : η → ι → σ → σ → η → Prop) (final : η → α → Prop) (helds : List η)
    (calls : List (Call σ ι κ α)) : Prop :=
  List.Forall₂ (fun held call => call.Follows rule final held) helds calls

theorem forall₂_set {γ δ : Type*} {r : γ → δ → Prop} {xs : List γ} {ys : List δ} {n : Nat} {x : γ}
    {y : δ} (h : List.Forall₂ r xs ys) (hr : r x y) :
    List.Forall₂ r (xs.set n x) (ys.set n y) := by
  induction h generalizing n with
  | nil => exact .nil
  | cons hhead htail ih =>
      cases n with
      | zero => exact .cons hr htail
      | succ n => exact .cons hhead ih

theorem exists_of_forall₂_getElem? {γ δ : Type*} {r : γ → δ → Prop} {xs : List γ} {ys : List δ}
    {n : Nat} {y : δ} (h : List.Forall₂ r xs ys) (hy : ys[n]? = some y) :
    ∃ x, xs[n]? = some x ∧ r x y := by
  induction h generalizing n with
  | nil => simp at hy
  | cons hhead htail ih =>
      cases n with
      | zero => exact ⟨_, rfl, (Option.some.inj hy) ▸ hhead⟩
      | succ n => exact ih (by simpa using hy)

/-- A turn does nothing, or one section of one call as the rules allow. -/
theorem Turn.run_follows (turn : Turn ι) (s : σ) {helds : List η} {calls : List (Call σ ι κ α)}
    (h : AllFollow rule final helds calls) :
    turn.run s calls = (s, calls) ∨
      ∃ held held', helds[turn.call]? = some held ∧
        rule held turn.input s (turn.run s calls).1 held' ∧
        AllFollow rule final (helds.set turn.call held') (turn.run s calls).2 := by
  unfold Turn.run
  cases hcall : calls[turn.call]? with
  | none => exact .inl rfl
  | some call =>
      obtain ⟨held, hheld, hfollows⟩ := exists_of_forall₂_getElem? h hcall
      obtain hidle | ⟨held', hrule, hnext⟩ := hfollows.advance turn.input s
      · left
        have hset : calls.set turn.call call = calls := by
          obtain ⟨_, rfl⟩ := List.getElem?_eq_some_iff.mp hcall
          exact List.set_getElem_self _
        simp [hidle, hset]
      · exact .inr ⟨held, held', hheld, hrule, forall₂_set h hnext⟩

/-- **Every interleaving keeps what every rule keeps.** -/
theorem runSchedule_follows (inv : σ → List η → Prop)
    (keeps : ∀ {s s' helds n i held held'}, inv s helds → helds[n]? = some held →
      rule held i s s' held' → inv s' (helds.set n held'))
    (schedule : List (Turn ι)) {s : σ} {helds : List η} {calls : List (Call σ ι κ α)}
    (hfollow : AllFollow rule final helds calls) (hinv : inv s helds) :
    ∃ helds', AllFollow rule final helds' (runSchedule schedule s calls).2 ∧
      inv (runSchedule schedule s calls).1 helds' := by
  induction schedule generalizing s helds calls with
  | nil => exact ⟨helds, hfollow, hinv⟩
  | cons turn schedule ih =>
      simp only [runSchedule, List.foldl_cons] at ih ⊢
      obtain hidle | ⟨held, held', hheld, hrule, hfollow'⟩ := turn.run_follows s hfollow
      · simpa only [hidle] using ih hfollow hinv
      · exact ih hfollow' (keeps hinv hheld hrule)

/-- A call that runs from end to end keeps what every rule keeps. -/
theorem Call.Follows.run {i : ι} {call : Call σ ι κ α} (inv : σ → List η → Prop) {n : Nat}
    (keeps : ∀ {s s' helds held held'}, inv s helds → helds[n]? = some held →
      rule held i s s' held' → inv s' (helds.set n held'))
    {s : σ} {helds : List η} {held : η} (hfollow : call.Follows rule final held)
    (hheld : helds[n]? = some held) (hinv : inv s helds) :
    ∃ held', final held' (call.run i s).2 ∧ inv (call.run i s).1 (helds.set n held') := by
  induction call generalizing s helds held with
  | done answer =>
      obtain ⟨hn, rfl⟩ := List.getElem?_eq_some_iff.mp hheld
      exact ⟨helds[n], hfollow, by rwa [List.set_getElem_self]⟩
  | step lock effect next ih =>
      obtain ⟨held', hrule, hnext⟩ := hfollow i s
      have hn : n < helds.length := (List.getElem?_eq_some_iff.mp hheld).1
      obtain ⟨held'', hfinal, hinv'⟩ := ih i s hnext (List.getElem?_set_self hn)
        (keeps hinv hheld hrule)
      exact ⟨held'', hfinal, by rwa [List.set_set] at hinv'⟩

end Pool

/-! ## one call -/

theorem Call.run_map {i : ι} {f : α → β} (call : Call σ ι κ α) (s : σ) :
    (call.map f).run i s = ((call.run i s).1, f (call.run i s).2) := by
  induction call generalizing s with
  | done answer => rfl
  | step lock effect next ih => exact ih i s (effect i s)

/-- A call that runs from end to end is a schedule in which it has all turns. -/
theorem Call.exists_runSchedule (call : Call σ ι κ α) (i : ι) (s : σ) :
    ∃ n, runSchedule (List.replicate (n + 1) ⟨0, i⟩) s [call] =
      ((call.run i s).1, [.done (call.run i s).2]) := by
  induction call generalizing s with
  | done answer => exact ⟨0, rfl⟩
  | step lock effect next ih =>
      obtain ⟨n, hn⟩ := ih i s (effect i s)
      exact ⟨n + 1, hn⟩

end ChatService
