import ChatService.Database.Transaction

/-!
# Runs of programs

What answers a program is described by a rule: which answers a request may get in a state, and
which state comes after.  A rule may leave the choice to the surroundings -- any clock reading, any
fault -- so a program has many runs.  `Ensures` says what holds at the end of all of them, and is
proved along the program, one request at a time.
-/

namespace ChatService.Database

universe u

variable {σ : Type u} {α β : Type}

/-- A request with the answer that it got. -/
structure Exchange : Type 1 where
  {α : Type}
  request : Ask α
  answer : α

/-- Which exchanges there may be in a state, and the state after. -/
abbrev Rule (σ : Type u) : Type (max u 1) := σ → Exchange → σ → Prop

namespace Program

/-- A run: every request gets an answer that the rule allows. -/
inductive Runs (rule : Rule σ) {α : Type} : Program α → σ → σ → α → Prop where
  | done {answer : α} {s : σ} : Runs rule (.done answer) s s answer
  | ask {β : Type} {request : Ask β} {next : β → Program α} {final : α} {s s'' : σ} (answer : β)
      (s' : σ) (hanswer : rule s ⟨request, answer⟩ s')
      (hnext : Runs rule (next answer) s' s'' final) :
      Runs rule (.ask request next) s s'' final

/-- However the requests are answered, the program ends as wanted. -/
def Ensures (rule : Rule σ) (post : σ → α → Prop) : Program α → σ → Prop
  | .done answer, s => post s answer
  | .ask request next, s =>
    ∀ answer s', rule s ⟨request, answer⟩ s' → Ensures rule post (next answer) s'

variable {rule : Rule σ} {post post' : σ → α → Prop} {s s' : σ} {p : Program α}

theorem Ensures.of_runs (h : p.Ensures rule post s) {answer : α}
    (hruns : p.Runs rule s s' answer) : post s' answer := by
  induction hruns with
  | done => exact h
  | ask answer s' hanswer _ ih => exact ih (h answer s' hanswer)

theorem Ensures.imp (h : p.Ensures rule post s)
    (himp : ∀ s answer, post s answer → post' s answer) : p.Ensures rule post' s := by
  induction p generalizing s with
  | done answer => exact himp s answer h
  | ask request next ih => exact fun answer s' hanswer => ih answer (h answer s' hanswer)

/-- **What answers by the rule makes a run of the rule**, also when it keeps more in mind than the
rule speaks of. -/
theorem runs_run {τ : Type} {answer : {β : Type} → Ask β → StateM τ β} (seen : τ → σ)
    (h : ∀ {β : Type} (t : τ) (request : Ask β),
      rule (seen t) ⟨request, (answer request t).1⟩ (seen (answer request t).2))
    (p : Program α) (t : τ) :
    p.Runs rule (seen t) (seen (p.run answer t).2) (p.run answer t).1 := by
  induction p generalizing t with
  | done final => exact .done
  | ask request next ih => exact .ask _ _ (h t request) (ih _ _)

theorem runs_done {final answer : α} :
    (done final).Runs rule s s' answer ↔ s' = s ∧ answer = final := by
  constructor
  · rintro ⟨⟩
    exact ⟨rfl, rfl⟩
  · rintro ⟨rfl, rfl⟩
    exact .done

theorem runs_bind {f : α → Program β} {final : β} :
    (p >>= f).Runs rule s s' final ↔
      ∃ answer s₁, p.Runs rule s s₁ answer ∧ (f answer).Runs rule s₁ s' final := by
  induction p generalizing s with
  | done answer =>
      constructor
      · exact fun h => ⟨answer, s, .done, h⟩
      · rintro ⟨_, _, ⟨⟩, h⟩
        exact h
  | ask request next ih =>
      constructor
      · rintro (_ | ⟨answer, s₁, hanswer, hnext⟩)
        obtain ⟨value, s₂, hruns, hrest⟩ := (ih answer).mp hnext
        exact ⟨value, s₂, .ask answer s₁ hanswer hruns, hrest⟩
      · rintro ⟨value, s₂, _ | ⟨answer, s₁, hanswer, hruns⟩, hrest⟩
        exact .ask answer s₁ hanswer ((ih answer).mpr ⟨value, s₂, hruns, hrest⟩)

theorem runs_asking {request : Ask α} {answer : α} :
    (asking request).Runs rule s s' answer ↔ rule s ⟨request, answer⟩ s' := by
  constructor
  · rintro (_ | ⟨answer, s₁, hanswer, ⟨⟩⟩)
    exact hanswer
  · exact fun hanswer => .ask answer s' hanswer .done

/-! ## one step after the other -/

theorem ensures_asking {request : Ask α}
    (h : ∀ answer s', rule s ⟨request, answer⟩ s' → post s' answer) :
    (asking request).Ensures rule post s := h

theorem ensures_bind {f : α → Program β} {post : σ → β → Prop}
    (h : p.Ensures rule (fun s' answer => (f answer).Ensures rule post s') s) :
    (p >>= f).Ensures rule post s := by
  induction p generalizing s with
  | done answer => exact h
  | ask request next ih => exact fun answer s' hanswer => ih answer (h answer s' hanswer)

end Program

/-! ## scripts -/

namespace Script

variable {rule : Rule σ} {s s' : σ}

/-- What a script that may fail must end in: one thing if it answers, another if it fails. -/
abbrev Ensures (rule : Rule σ) (post : σ → Except StoreError α → Prop) (x : Script α) (s : σ) :
    Prop := Program.Ensures rule post x.run s

variable {post : σ → Except StoreError α → Prop} {x : Script α}

theorem ensures_ofExcept {answer : Except StoreError α} (h : post s answer) :
    Ensures rule post (ofExcept answer) s := h

theorem ensures_asking {request : Ask α}
    (h : ∀ answer s', rule s ⟨request, answer⟩ s' → post s' (.ok answer)) :
    Ensures rule post (asking request) s := h

theorem ensures_send {session : Option Session} {command : Command α}
    (h : ∀ answer s', rule s ⟨.send session command, answer⟩ s' → post s' (sent answer)) :
    Ensures rule post (send session command) s := h

theorem ensures_bind {f : α → Script β} {post : σ → Except StoreError β → Prop}
    (hok : Ensures rule
      (fun s' result =>
        match result with
        | .ok answer => Ensures rule post (f answer) s'
        | .error e => post s' (.error e)) x s) :
    Ensures rule post (x >>= f) s := by
  refine Program.ensures_bind (Program.Ensures.imp hok fun s' result h => ?_)
  cases result with
  | ok answer => exact h
  | error e => exact h

end Script

/-! ## what a program asks for -/

/-- A program that asks only for what it may ask for, whatever the answers. -/
def Program.Asks (allowed : (β : Type) → Ask β → Prop) {α : Type} : Program α → Prop
  | .done _ => True
  | .ask request next => allowed _ request ∧ ∀ answer, (next answer).Asks allowed

section Asks

variable {allowed : (β : Type) → Ask β → Prop}

theorem Program.asks_bind {p : Program α} {f : α → Program β} (hp : p.Asks allowed)
    (hf : ∀ answer, (f answer).Asks allowed) : (p >>= f).Asks allowed := by
  induction p with
  | done answer => exact hf answer
  | ask request next ih => exact ⟨hp.1, fun answer => ih answer (hp.2 answer)⟩

theorem Script.asks_bind {x : Script α} {f : α → Script β} (hx : x.run.Asks allowed)
    (hf : ∀ answer, (f answer).run.Asks allowed) : (x >>= f).run.Asks allowed := by
  refine Program.asks_bind hx fun result => ?_
  cases result with
  | ok answer => exact hf answer
  | error e => trivial

theorem Script.asks_asking {request : Ask α} (h : allowed _ request) :
    (Script.asking request).run.Asks allowed := ⟨h, fun _ => trivial⟩

theorem Script.asks_send {session : Option Session} {command : Command α}
    (h : allowed _ (.send session command)) : (Script.send session command).run.Asks allowed :=
  ⟨h, fun _ => trivial⟩

/-- What changes with no request does not change in a run. -/
theorem Program.ensures_of_asks {rule : Rule σ} {p : Program α} {s : σ} (hp : p.Asks allowed)
    (h : ∀ {β : Type} (request : Ask β) (answer : β) (s' : σ), allowed β request →
      rule s ⟨request, answer⟩ s' → s' = s) :
    p.Ensures rule (fun s' _ => s' = s) s := by
  induction p with
  | done answer => rfl
  | ask request next ih =>
      intro answer s' hrule
      obtain rfl := h request answer s' hp.1 hrule
      exact ih answer (hp.2 answer)

end Asks

/-! ## work that is run again -/

section Retry

open Store (RetryPolicy)

variable {rule : Rule σ} {policy : RetryPolicy} {label : String}
  {work : Program (Except StoreError α)} {post : σ → Except StoreError α → Prop}

/-- **The rule for attempts**, told by the attempts that are left.  What holds after one attempt
holds after many, if a conflict leads back to where an attempt may begin. -/
theorem ensures_attempts (inv : Nat → σ → Prop) (post : Nat → σ → Except StoreError α → Prop)
    (hwork : ∀ left s, inv (left + 1) s → work.Ensures rule (post left) s)
    (hconflict : ∀ left s detail, post left s (.error (.writeConflict detail)) → inv left s)
    (hpause : ∀ left s length s', inv left s → rule s ⟨.pause length, ()⟩ s' → inv left s')
    (hexhausted : ∀ left s attempt, inv left s →
      post left s (.error (RetryPolicy.exhausted label attempt)))
    (left attempt : Nat) {s : σ} (hinv : inv (left + 1) s) :
    (policy.attemptFrom pause label work left attempt).Ensures rule
      (fun s' result => ∃ left', post left' s' result) s := by
  induction left generalizing attempt s with
  | zero =>
      unfold RetryPolicy.attemptFrom
      refine Program.ensures_bind ((hwork 0 s hinv).imp fun s' result hpost => ?_)
      split
      · exact ⟨0, hexhausted 0 s' attempt (hconflict 0 s' _ hpost)⟩
      · exact ⟨0, hpost⟩
  | succ left ih =>
      unfold RetryPolicy.attemptFrom
      refine Program.ensures_bind ((hwork (left + 1) s hinv).imp fun s' result hpost => ?_)
      split
      · have hinv' := hconflict (left + 1) s' _ hpost
        dsimp only
        split
        · exact Program.ensures_bind <| Program.ensures_asking fun _ s'' hrule =>
            ih _ (hpause (left + 1) s' _ s'' hinv' hrule)
        · exact ih _ hinv'
      · exact ⟨left + 1, hpost⟩

/-- The rule for attempts, where it does not matter how many are left. -/
theorem ensures_attemptFrom (inv : σ → Prop) (hwork : ∀ s, inv s → work.Ensures rule post s)
    (hconflict : ∀ s detail, post s (.error (.writeConflict detail)) → inv s)
    (hpause : ∀ s length s', inv s → rule s ⟨.pause length, ()⟩ s' → inv s')
    (hexhausted : ∀ s attempt, inv s → post s (.error (RetryPolicy.exhausted label attempt)))
    (left attempt : Nat) {s : σ} (hinv : inv s) :
    (policy.attemptFrom pause label work left attempt).Ensures rule post s :=
  (ensures_attempts (fun _ => inv) (fun _ => post) (fun _ => hwork) (fun _ => hconflict)
    (fun _ => hpause) (fun _ => hexhausted) left attempt hinv).imp fun _ _ ⟨_, hpost⟩ => hpost

end Retry

end ChatService.Database
