import ChatService.Proofs.Work

/-!
# Two pieces of work in step

Work on one state and work on another are in step when they wait for the same lengths of time, with
related states whenever they wait, and end with related states and answers; how often they act in
between does not matter.  Work that is in step stays so when it goes on, and under a time limit,
since a limit can only cut work short where it waits.
-/

namespace ChatService.Work

variable {σ τ α β γ δ : Type} {R : σ → τ → Prop} {Q : α → β → Prop} {i : Instant} {s : σ} {t : τ}

/-- From a moment on, work on one state is in step with work on another. -/
inductive InStep (R : σ → τ → Prop) (Q : α → β → Prop) :
    Instant → σ → Work σ α → τ → Work τ β → Prop where
  | done {i : Instant} {s : σ} {t : τ} {a : α} {b : β} (hstates : R s t) (hanswers : Q a b) :
      InStep R Q i s (.done a) t (.done b)
  | actLeft {i : Instant} {s : σ} {t : τ} {effect : Instant → σ → σ}
      {next : Instant → σ → Work σ α} {work' : Work τ β}
      (h : InStep R Q i (effect i s) (next i s) t work') : InStep R Q i s (.act effect next) t work'
  | actRight {i : Instant} {s : σ} {t : τ} {work : Work σ α} {effect : Instant → τ → τ}
      {next : Instant → τ → Work τ β} (h : InStep R Q i s work (effect i t) (next i t)) :
      InStep R Q i s work t (.act effect next)
  | wait {i : Instant} {s : σ} {t : τ} {length : Duration} {next : Work σ α} {next' : Work τ β}
      (hstates : R s t) (h : InStep R Q (i.after length) s next t next') :
      InStep R Q i s (.wait length next) t (.wait length next')
  | never {i : Instant} {s : σ} {t : τ} (hstates : R s t) : InStep R Q i s .never t .never
  | stop {i : Instant} {s : σ} {t : τ} : InStep R Q i s .stop t .stop

/-- In step from any moment and any related states on. -/
def Alike (R : σ → τ → Prop) (Q : α → β → Prop) (work : Work σ α) (work' : Work τ β) : Prop :=
  ∀ i s t, R s t → InStep R Q i s work t work'

theorem alike_done {a : α} {b : β} (h : Q a b) : Alike R Q (.done a) (.done b) :=
  fun _ _ _ hstates => .done hstates h

/-- Work is in step with itself. -/
theorem inStep_self (work : Work σ α) : InStep Eq Eq i s work s work := by
  induction work generalizing i s with
  | done a => exact .done rfl rfl
  | act effect next ih => exact .actLeft (.actRight (ih i s))
  | wait length next ih => exact .wait rfl ih
  | never => exact .never rfl
  | stop => exact .stop

theorem alike_self (work : Work σ α) : Alike Eq Eq work work := by
  rintro i s _ rfl
  exact inStep_self work

theorem InStep.mono {Q' : α → β → Prop} {work : Work σ α} {work' : Work τ β}
    (h : InStep R Q i s work t work') (himp : ∀ a b, Q a b → Q' a b) :
    InStep R Q' i s work t work' := by
  induction h with
  | done hstates hanswers => exact .done hstates (himp _ _ hanswers)
  | actLeft h ih => exact .actLeft ih
  | actRight h ih => exact .actRight ih
  | wait hstates h ih => exact .wait hstates ih
  | never hstates => exact .never hstates
  | stop => exact .stop

theorem Alike.mono {Q' : α → β → Prop} {work : Work σ α} {work' : Work τ β}
    (h : Alike R Q work work') (himp : ∀ a b, Q a b → Q' a b) : Alike R Q' work work' :=
  fun i s t hstates => (h i s t hstates).mono himp

/-! ## going on -/

theorem InStep.bind {Q' : γ → δ → Prop} {work : Work σ α} {work' : Work τ β} {f : α → Work σ γ}
    {f' : β → Work τ δ} (h : InStep R Q i s work t work')
    (hnext : ∀ a b, Q a b → Alike R Q' (f a) (f' b)) :
    InStep R Q' i s (work.bind f) t (work'.bind f') := by
  induction h with
  | done hstates hanswers => exact hnext _ _ hanswers _ _ _ hstates
  | actLeft h ih => exact .actLeft ih
  | actRight h ih => exact .actRight ih
  | wait hstates h ih => exact .wait hstates ih
  | never hstates => exact .never hstates
  | stop => exact .stop

theorem Alike.bind {Q' : γ → δ → Prop} {work : Work σ α} {work' : Work τ β} {f : α → Work σ γ}
    {f' : β → Work τ δ} (h : Alike R Q work work')
    (hnext : ∀ a b, Q a b → Alike R Q' (f a) (f' b)) :
    Alike R Q' (work.bind f) (work'.bind f') :=
  fun i s t hstates => (h i s t hstates).bind hnext

/-- Work on a part is in step with the work itself. -/
theorem alike_onPart {part : σ → τ} {replace : τ → σ → σ} (hpart : IsPart part replace)
    (work : Work τ α) : Alike (fun s t => part s = t) Eq (work.onPart part replace) work := by
  rintro i s _ rfl
  induction work generalizing i s with
  | done a => exact .done rfl rfl
  | act effect next ih =>
      refine .actLeft (.actRight ?_)
      have h := ih i (part s) i (replace (effect i (part s)) s)
      rwa [hpart.part_replace] at h
  | wait length next ih => exact .wait rfl (ih _ _)
  | never => exact .never rfl
  | stop => exact .stop

/-! ## within a time limit -/

/-- No answer on both sides, or related answers. -/
inductive InTime (Q : α → β → Prop) : Option α → Option β → Prop where
  | late : InTime Q none none
  | answered {a : α} {b : β} (h : Q a b) : InTime Q (some a) (some b)

theorem InStep.bounded {work : Work σ α} {work' : Work τ β} (h : InStep R Q i s work t work')
    (limit : Duration) : InStep R (InTime Q) i s (work.bounded limit) t (work'.bounded limit) := by
  induction h generalizing limit with
  | done hstates hanswers => exact .done hstates (.answered hanswers)
  | actLeft h ih => exact .actLeft (ih limit)
  | actRight h ih => exact .actRight (ih limit)
  | wait hstates h ih =>
      unfold Work.bounded
      split
      · exact .wait hstates (ih _)
      · exact .wait hstates (.done hstates .late)
  | never hstates => exact .wait hstates (.done hstates .late)
  | stop => exact .stop

theorem Alike.bounded {work : Work σ α} {work' : Work τ β} (h : Alike R Q work work')
    (limit : Duration) : Alike R (InTime Q) (work.bounded limit) (work'.bounded limit) :=
  fun i s t hstates => (h i s t hstates).bounded limit

/-! ## endings -/

/-- Endings at the same moment, with related states and answers. -/
inductive Ending.Alike (R : σ → τ → Prop) (Q : α → β → Prop) : Ending σ α → Ending τ β → Prop where
  | answered {i : Instant} {s : σ} {t : τ} {a : α} {b : β} (hstates : R s t) (hanswers : Q a b) :
      Ending.Alike R Q (.answered i s a) (.answered i t b)
  | never : Ending.Alike R Q .never .never
  | stopped : Ending.Alike R Q .stopped .stopped

theorem Ending.Alike.bind {Q' : γ → δ → Prop} {ending : Ending σ α} {ending' : Ending τ β}
    {next : Instant → σ → α → Ending σ γ} {next' : Instant → τ → β → Ending τ δ}
    (h : Ending.Alike R Q ending ending')
    (hnext : ∀ i s t a b, R s t → Q a b → Ending.Alike R Q' (next i s a) (next' i t b)) :
    Ending.Alike R Q' (ending.bind next) (ending'.bind next') := by
  cases h with
  | answered hstates hanswers => exact hnext _ _ _ _ _ hstates hanswers
  | never => exact .never
  | stopped => exact .stopped

/-- Work in step ends alike. -/
theorem InStep.run {work : Work σ α} {work' : Work τ β} (h : InStep R Q i s work t work') :
    Ending.Alike R Q (work.run i s) (work'.run i t) := by
  induction h with
  | done hstates hanswers => exact .answered hstates hanswers
  | actLeft h ih => exact ih
  | actRight h ih => exact ih
  | wait hstates h ih => exact ih
  | never hstates => exact .never
  | stop => exact .stopped

/-- Work that has no time at all is over at once. -/
theorem run_before_zero (work : Work σ α) :
    (work.before .zero).run i s = .answered i s none := by
  induction work generalizing i s with
  | done a => rfl
  | act effect next => rfl
  | wait length next ih =>
      obtain ⟨_ | n⟩ := length
      · exact ih
      · rfl
  | never => rfl
  | stop => rfl

/-- **Work in step ends alike within a time limit**: where time is up, the states are related. -/
theorem InStep.run_before {work : Work σ α} {work' : Work τ β} (h : InStep R Q i s work t work')
    {limit : Duration} (hstart : limit = .zero → R s t) :
    Ending.Alike R (InTime Q) ((work.before limit).run i s) ((work'.before limit).run i t) := by
  induction h generalizing limit with
  | @done i s t a b hstates hanswers =>
      by_cases hlimit : limit = .zero
      · simp only [before, if_pos hlimit]
        exact .answered hstates .late
      · simp only [before, if_neg hlimit]
        exact .answered hstates (.answered hanswers)
  | @actLeft i s t effect next work' h ih =>
      by_cases hlimit : limit = .zero
      · subst hlimit
        rw [run_before_zero, run_before_zero]
        exact .answered (hstart rfl) .late
      · simpa [before, hlimit] using ih fun hzero => absurd hzero hlimit
  | @actRight i s t work effect next h ih =>
      by_cases hlimit : limit = .zero
      · subst hlimit
        rw [run_before_zero, run_before_zero]
        exact .answered (hstart rfl) .late
      · simpa [before, hlimit] using ih fun hzero => absurd hzero hlimit
  | wait hstates h ih =>
      unfold before
      split
      · exact ih fun _ => hstates
      · exact .answered hstates .late
  | never hstates => exact .answered hstates .late
  | stop =>
      unfold before
      split
      · next hlimit => exact .answered (hstart hlimit) .late
      · exact .stopped

end ChatService.Work
