import ChatService.Work

/-!
# Runs of work

How work ends is read off its parts: one after the other, on a part of a larger state, or under a
limit.  Work over things that are all in memory never waits, so a limit on it changes nothing unless
it leaves no time at all.
-/

namespace ChatService.Work

variable {σ τ α β : Type} {i : Instant} {s : σ}

/-! ## endings -/

/-- What work ends with when an answer leads on to another ending. -/
def Ending.bind (ending : Ending σ α) (next : Instant → σ → α → Ending τ β) : Ending τ β :=
  match ending with
  | .answered i s a => next i s a
  | .never => .never
  | .stopped => .stopped

@[simp] theorem Ending.bind_answered (a : α) (next : Instant → σ → α → Ending τ β) :
    (Ending.answered i s a).bind next = next i s a := rfl

/-- An ending whose answer, if there is one, meets a condition. -/
def Ending.Meets (post : Instant → σ → α → Prop) : Ending σ α → Prop
  | .answered i s a => post i s a
  | .never | .stopped => True

theorem Ending.meets_bind {ending : Ending σ α} {next : Instant → σ → α → Ending τ β}
    {post : Instant → τ → β → Prop} :
    (ending.bind next).Meets post ↔ ending.Meets fun i s a => (next i s a).Meets post := by
  cases ending <;> rfl

theorem Ending.Meets.mono {ending : Ending σ α} {post post' : Instant → σ → α → Prop}
    (h : ending.Meets post) (himp : ∀ i s a, post i s a → post' i s a) : ending.Meets post' := by
  cases ending with
  | answered i s a => exact himp i s a h
  | never => trivial
  | stopped => trivial

/-! ## one after the other -/

@[simp] theorem run_done (a : α) : (Work.done a : Work σ α).run i s = .answered i s a := rfl

@[simp] theorem run_pure (a : α) : (pure a : Work σ α).run i s = .answered i s a := rfl

@[simp] theorem run_act (effect : Instant → σ → σ) (next : Instant → σ → Work σ α) :
    (Work.act effect next).run i s = (next i s).run i (effect i s) := rfl

@[simp] theorem run_now (body : Instant → σ → σ × α) :
    (now body).run i s = .answered i (body i s).1 (body i s).2 := rfl

@[simp] theorem run_ofState (body : StateM σ α) :
    (ofState body).run i s = .answered i (body.run s).2 (body.run s).1 := rfl

theorem run_bind_eq (work : Work σ α) (f : α → Work σ β) :
    (work.bind f).run i s = (work.run i s).bind fun i s a => (f a).run i s :=
  run_bind work f i s

@[simp] theorem run_monadBind (work : Work σ α) (f : α → Work σ β) :
    (work >>= f).run i s = (work.run i s).bind fun i s a => (f a).run i s :=
  run_bind work f i s

/-! ## work that never waits -/

/-- Work that never waits. -/
def IsImmediate : Work σ α → Prop
  | .done _ | .stop => True
  | .act _ next => ∀ i s, IsImmediate (next i s)
  | .wait .. | .never => False

theorem isImmediate_bind {work : Work σ α} {f : α → Work σ β} (h : work.IsImmediate)
    (hf : ∀ a, (f a).IsImmediate) : (work.bind f).IsImmediate := by
  induction work with
  | done a => exact hf a
  | act effect next ih => exact fun i s => ih i s (h i s)
  | wait length next => exact h.elim
  | never => exact h.elim
  | stop => trivial

theorem isImmediate_ofCall {κ : Type} (call : Call σ Instant κ α) : (ofCall call).IsImmediate := by
  induction call with
  | done a => trivial
  | step lock effect next ih => exact fun i s => ih i s

theorem isImmediate_onPart {part : σ → τ} {replace : τ → σ → σ} {work : Work τ α}
    (h : work.IsImmediate) : (work.onPart part replace).IsImmediate := by
  induction work with
  | done a => trivial
  | act effect next ih => exact fun i s => ih i (part s) (h i (part s))
  | wait length next => exact h.elim
  | never => exact h.elim
  | stop => trivial

theorem isImmediate_bounded {limit : Duration} {work : Work σ α} (h : work.IsImmediate) :
    (work.bounded limit).IsImmediate := by
  induction work with
  | done a => trivial
  | act effect next ih => exact fun i s => ih i s (h i s)
  | wait length next => exact h.elim
  | never => exact h.elim
  | stop => trivial

theorem isImmediate_before {limit : Duration} {work : Work σ α} (h : work.IsImmediate) :
    (work.before limit).IsImmediate := by
  induction work with
  | done a => unfold before; split <;> trivial
  | act effect next ih =>
      unfold before
      split
      · trivial
      · exact fun i s => ih i s (h i s)
  | wait length next => exact h.elim
  | never => exact h.elim
  | stop => unfold before; split <;> trivial

/-- A limit on work that never waits is never reached. -/
theorem run_bounded {limit : Duration} {work : Work σ α} (h : work.IsImmediate) :
    (work.bounded limit).run i s = (work.run i s).bind fun i s a => .answered i s (some a) := by
  induction work generalizing s with
  | done a => rfl
  | act effect next ih => exact ih i s (h i s)
  | wait length next => exact h.elim
  | never => exact h.elim
  | stop => rfl

/-- A limit that leaves no time at all keeps work from beginning; no other matters to work that
never waits. -/
theorem run_before {limit : Duration} {work : Work σ α} (h : work.IsImmediate) :
    (work.before limit).run i s =
      if limit = .zero then .answered i s none
      else (work.run i s).bind fun i s a => .answered i s (some a) := by
  by_cases hlimit : limit = .zero
  · rw [if_pos hlimit]
    cases work with
    | done a => simp [before, hlimit]
    | act effect next => simp [before, hlimit]
    | wait length next => exact h.elim
    | never => exact h.elim
    | stop => simp [before, hlimit]
  · rw [if_neg hlimit]
    induction work generalizing s with
    | done a => simp [before, hlimit]
    | act effect next ih => simpa [before, hlimit] using ih i s (h i s)
    | wait length next => exact h.elim
    | never => exact h.elim
    | stop => simp [before, hlimit]; rfl

/-! ## work on a part -/

/-- What is read and replaced is one part of a larger state. -/
structure IsPart (part : σ → τ) (replace : τ → σ → σ) : Prop where
  part_replace : ∀ t s, part (replace t s) = t
  replace_part : ∀ s, replace (part s) s = s
  replace_replace : ∀ t t' s, replace t (replace t' s) = replace t s

/-- Work on a part runs on the part alone and puts what it leaves in the place of the part. -/
theorem run_onPart {part : σ → τ} {replace : τ → σ → σ} (work : Work τ α)
    (h : IsPart part replace) :
    (work.onPart part replace).run i s =
      (work.run i (part s)).bind fun i t a => .answered i (replace t s) a := by
  induction work generalizing i s with
  | done a => simp [onPart, h.replace_part]
  | act effect next ih =>
      simp only [onPart, run_act, ih, h.part_replace, h.replace_replace]
  | wait length next ih => exact ih
  | never => rfl
  | stop => rfl

/-- A limit on work on a part is a limit on the work. -/
theorem bounded_onPart (part : σ → τ) (replace : τ → σ → σ) (limit : Duration)
    (work : Work τ α) :
    (work.onPart part replace).bounded limit = (work.bounded limit).onPart part replace := by
  induction work generalizing limit with
  | done a => rfl
  | act effect next ih =>
      simp only [onPart, bounded, ih]
  | wait length next ih =>
      simp only [onPart, bounded, ih]
      split <;> rfl
  | never => rfl
  | stop => rfl

/-! ## within a limit -/

/-- What work comes to by a deadline: nothing if it takes longer, or for ever. -/
def Ending.answerBy (deadline : Instant) : Ending σ α → Option α
  | .answered i _ a => if i ≤ deadline then some a else none
  | .never | .stopped => none

/-- How work ends under a limit that began at some moment, told by how it ends without one. -/
inductive Limited (limit : Duration) (i : Instant) : Ending σ α → Ending σ (Option α) → Prop where
  | answered {d : Duration} {s : σ} {a : α} (hd : d ≤ limit) :
      Limited limit i (.answered (i.after d) s a) (.answered (i.after d) s (some a))
  | late {ending : Ending σ α} {s : σ} (hlate : ending.answerBy (i.after limit) = none) :
      Limited limit i ending (.answered (i.after limit) s none)
  | stopped : Limited limit i .stopped .stopped

theorem after_after (i : Instant) (a b : Duration) : (i.after a).after b = i.after (a + b) :=
  congrArg Instant.mk (Nat.add_assoc i.nanos a.nanos b.nanos)

/-- A limit that begins after a part of the work, and is shorter by that part. -/
theorem Limited.wait {limit length : Duration} {ending : Ending σ α}
    {ending' : Ending σ (Option α)} (hle : length ≤ limit)
    (h : Limited ⟨limit.nanos - length.nanos⟩ (i.after length) ending ending') :
    Limited limit i ending ending' := by
  have hlimit : (i.after length).after ⟨limit.nanos - length.nanos⟩ = i.after limit := by
    have hle' : length.nanos ≤ limit.nanos := hle
    rw [after_after]
    exact congrArg i.after (congrArg Duration.mk (Nat.add_sub_cancel' hle'))
  cases h with
  | answered hd =>
      rw [after_after]
      refine .answered ?_
      have hd' : _ ≤ limit.nanos - length.nanos := hd
      have hle' : length.nanos ≤ limit.nanos := hle
      show length.nanos + _ ≤ limit.nanos
      omega
  | late hlate =>
      rw [hlimit] at hlate ⊢
      exact .late hlate
  | stopped => exact .stopped

/-- Work never ends before it began. -/
theorem le_of_run {work : Work σ α} {j : Instant} {s' : σ} {a : α}
    (h : work.run i s = .answered j s' a) : i ≤ j := by
  induction work generalizing i s with
  | done answer =>
      obtain ⟨rfl, -, -⟩ := h
      exact Nat.le_refl _
  | act effect next ih => exact ih i s h
  | wait length next ih => exact Nat.le_trans (Nat.le_add_right _ _) (ih h)
  | never => contradiction
  | stop => contradiction

/-- **Work under a limit** answers what it would answer without, if that comes in time, and nothing
when the limit is over. -/
theorem limited_run (limit : Duration) (work : Work σ α) (i : Instant) (s : σ) :
    Limited limit i (work.run i s) ((work.bounded limit).run i s) := by
  induction work generalizing limit i s with
  | done a => exact .answered (d := .zero) (Nat.zero_le _)
  | act effect next ih => exact ih i s limit i (effect i s)
  | wait length next ih =>
      unfold bounded
      split
      · next hle => exact .wait hle (ih _ _ _)
      · next hlonger =>
          refine .late ?_
          have hlonger' : limit.nanos < length.nanos := Nat.lt_of_not_le hlonger
          simp only [Work.run]
          cases hrun : next.run (i.after length) s with
          | answered j s' a =>
              have hj : i.nanos + length.nanos ≤ j.nanos := le_of_run hrun
              have hover : ¬ j ≤ i.after limit := by
                show ¬ j.nanos ≤ i.nanos + limit.nanos
                omega
              exact if_neg hover
          | never => rfl
          | stopped => rfl
  | never => exact .late rfl
  | stop => exact .stopped

/-! ## all the way -/

/-- A condition that holds of the state whenever work looks at it, changes it, waits or ends. -/
def Throughout (P : σ → Prop) : Work σ α → Instant → σ → Prop
  | .act effect next, i, s => P s ∧ Throughout P (next i s) i (effect i s)
  | .wait length next, i, s => P s ∧ Throughout P next (i.after length) s
  | .done _, _, s | .never, _, s | .stop, _, s => P s

section Throughout

variable {P : σ → Prop}

theorem throughout_bind {work : Work σ α} {f : α → Work σ β} (h : work.Throughout P i s)
    (hnext : (work.run i s).Meets fun i s a => (f a).Throughout P i s) :
    (work.bind f).Throughout P i s := by
  induction work generalizing i s with
  | done a => exact hnext
  | act effect next ih => exact ⟨h.1, ih i s h.2 hnext⟩
  | wait length next ih => exact ⟨h.1, ih h.2 hnext⟩
  | never => exact h
  | stop => exact h

/-- What holds all along holds in the end. -/
theorem Throughout.meets {work : Work σ α} (h : work.Throughout P i s) :
    (work.run i s).Meets fun _ s _ => P s := by
  induction work generalizing i s with
  | done a => exact h
  | act effect next ih => exact ih i s h.2
  | wait length next ih => exact ih h.2
  | never => trivial
  | stop => trivial

/-- Work after which nothing is done any more but to answer. -/
theorem throughout_bind_done {work : Work σ α} {f : α → Work σ β} (h : work.Throughout P i s)
    (hdone : ∀ a, ∃ b, f a = .done b) : (work.bind f).Throughout P i s := by
  refine throughout_bind h (h.meets.mono fun i s a hstate => ?_)
  obtain ⟨b, hb⟩ := hdone a
  rw [hb]
  exact hstate

/-- What the part does not matter to holds all along work on the part. -/
theorem throughout_onPart {part : σ → τ} {replace : τ → σ → σ}
    (hreplace : ∀ t s, P s → P (replace t s)) (work : Work τ α) (h : P s) :
    (work.onPart part replace).Throughout P i s := by
  induction work generalizing i s with
  | act effect next ih => exact ⟨h, ih i (part s) (hreplace _ _ h)⟩
  | wait length next ih => exact ⟨h, ih h⟩
  | _ => exact h

end Throughout

end ChatService.Work
