import ChatService.Locking
import ChatService.Proofs.RealTime

/-!
# Locks that are taken one at a time

A task that takes a lock only while it holds none, and has released it when it ends, goes from
bracket to bracket (`Brackets`).  Workers on such tasks never wait for one another in a circle: a
worker that waits holds nothing, so whoever holds what it waits for can go on.  A lock is held by
one worker at a time (`runWorkers_exclusive`), and between two brackets nobody else sees what such a
task does, so every run of workers is a run of calls in locked sections (`runWorkers_sections`):
what holds of those holds of workers too.
-/

namespace ChatService

universe u v

variable {σ ι κ : Type} {α : Type u} {β : Type v}

namespace Task

/-! ## brackets -/

/-- A task that holds one lock at a time, from what it holds at first to what it holds in the
end. -/
def Brackets : Option κ → Option κ → Task σ ι κ α → Prop
  | held, final, .done _ => held = final
  | held, final, .acquire lock next => held = none ∧ Brackets (some lock) final next
  | held, final, .release lock next => held = some lock ∧ Brackets none final next
  | held, final, .act _ next => ∀ i s, Brackets held final (next i s)

theorem brackets_bind {held between final : Option κ} {task : Task σ ι κ α}
    {f : α → Task σ ι κ β} (h : Brackets held between task)
    (hf : ∀ a, Brackets between final (f a)) : Brackets held final (task.bind f) := by
  induction task generalizing held with
  | done a =>
      obtain rfl : held = between := h
      exact hf a
  | acquire lock next ih => exact ⟨h.1, ih h.2⟩
  | release lock next ih => exact ⟨h.1, ih h.2⟩
  | act effect next ih => exact fun i s => ih i s (h i s)

theorem brackets_done (held : Option κ) (a : α) :
    Brackets held held (.done a : Task σ ι κ α) := rfl

theorem brackets_now (held : Option κ) (body : ι → σ → σ × α) :
    Brackets held held (now body : Task σ ι κ α) := fun _ _ => rfl

theorem brackets_look (held : Option κ) (body : σ → α) :
    Brackets held held (look body : Task σ ι κ α) := fun _ _ => rfl

/-- A scope takes its lock while nothing is held, and leaves nothing held. -/
theorem brackets_guarded {lock : κ} {scope : Task σ ι κ α}
    (h : Brackets (some lock) (some lock) scope) : Brackets none none (guarded lock scope) :=
  ⟨rfl, brackets_bind h fun _ => ⟨rfl, rfl⟩⟩

theorem brackets_map {held final : Option κ} {task : Task σ ι κ α} {f : α → β}
    (h : Brackets held final task) : Brackets held final (task.map f) :=
  brackets_bind h fun _ => rfl

/-! ## sections -/

/-- A task as a call: what it does at a time is a section under the lock that it then holds. -/
def sections : Option κ → Task σ ι κ α → Call σ ι κ α
  | _, .done a => .done a
  | _, .acquire lock next => sections (some lock) next
  | _, .release _ next => sections none next
  | held, .act effect next => .step held effect fun i s => sections held (next i s)

theorem sections_map (held : Option κ) (task : Task σ ι κ α) (f : α → β) :
    (task.map f).sections held = (task.sections held).map f := by
  induction task generalizing held with
  | done a => rfl
  | acquire lock next ih => exact ih (some lock)
  | release lock next ih => exact ih none
  | act effect next ih =>
      exact congrArg (Call.step held effect) (funext fun i => funext fun s => ih i s held)

theorem bind_bind {γ : Type v} (task : Task σ ι κ α) (f : α → Task σ ι κ β) (g : β → Task σ ι κ γ) :
    (task.bind f).bind g = task.bind fun a => (f a).bind g := by
  induction task with
  | done a => rfl
  | acquire lock next ih => exact congrArg (Task.acquire lock) ih
  | release lock next ih => exact congrArg (Task.release lock) ih
  | act effect next ih =>
      exact congrArg (Task.act effect) (funext fun i => funext fun s => ih i s)

/-- A look, and what follows it. -/
theorem sections_look_bind (body : σ → α) (f : α → Task σ ι κ β) :
    ((look body).bind f).sections none = .look fun s => (f (body s)).sections none := rfl

/-- A scope in which one thing is done. -/
theorem sections_guarded (lock : κ) (body : ι → σ → σ × α) :
    (guarded lock (now body)).sections none =
      .locked lock fun i s => ((body i s).1, .done (body i s).2) := rfl

/-- A scope in which one thing is done, and what follows it. -/
theorem sections_guarded_bind (lock : κ) (body : ι → σ → σ × α) (f : α → Task σ ι κ β) :
    ((guarded lock (now body)).bind f).sections none =
      .locked lock fun i s => ((body i s).1, (f (body i s).2).sections none) := rfl

/-- A scope that only looks, and what follows it. -/
theorem sections_guarded_look_bind (lock : κ) (body : σ → α) (f : α → Task σ ι κ β) :
    ((guarded lock (look body)).bind f).sections none =
      .lookLocked lock fun s => (f (body s)).sections none := rfl

/-! ## awaited locks -/

section Awaits

variable (later : σ → σ → Prop) (allowed : σ → κ → Prop)

/-- A task that only takes locks that it is allowed to take where it takes them, however the state
changes before each of its steps, and ends as a condition says. -/
def AwaitsOnly (post : σ → α → Prop) : σ → Task σ ι κ α → Prop
  | s, .done a => post s a
  | s, .acquire lock next => allowed s lock ∧ AwaitsOnly post s next
  | s, .release _ next => AwaitsOnly post s next
  | s, .act _ next => ∀ i s', later s s' → AwaitsOnly post s' (next i s')

variable {later allowed} {post : σ → α → Prop} {s s' : σ} {task : Task σ ι κ α}

theorem awaitsOnly_look (post : σ → α → Prop) {body : σ → α}
    (h : ∀ s', later s s' → post s' (body s')) :
    AwaitsOnly later allowed post s (look body : Task σ ι κ α) := fun _ s' hlater => h s' hlater

theorem awaitsOnly_now {body : ι → σ → σ × α}
    (h : ∀ i s', later s s' → post s' (body i s').2) :
    AwaitsOnly later allowed post s (now body : Task σ ι κ α) := fun i s' hlater => h i s' hlater

theorem awaitsOnly_bind {post' : σ → β → Prop} {f : α → Task σ ι κ β}
    (h : AwaitsOnly later allowed post s task)
    (hf : ∀ s a, post s a → AwaitsOnly later allowed post' s (f a)) :
    AwaitsOnly later allowed post' s (task.bind f) := by
  induction task generalizing s with
  | done a => exact hf s a h
  | acquire lock next ih => exact ⟨h.1, ih h.2⟩
  | release lock next ih => exact ih (show AwaitsOnly later allowed post s next from h)
  | act effect next ih => exact fun i s' hlater => ih i s' (h i s' hlater)

theorem awaitsOnly_guarded {lock : κ} (hlock : allowed s lock)
    (h : AwaitsOnly later allowed post s task) :
    AwaitsOnly later allowed post s (guarded lock task) :=
  ⟨hlock, awaitsOnly_bind h fun _ _ hpost => hpost⟩

theorem AwaitsOnly.mono {allowed' : σ → κ → Prop} {post' : σ → α → Prop}
    (h : AwaitsOnly later allowed post s task)
    (hallowed : ∀ s lock, allowed s lock → allowed' s lock)
    (hpost : ∀ s a, post s a → post' s a) : AwaitsOnly later allowed' post' s task := by
  induction task generalizing s with
  | done a => exact hpost s a h
  | acquire lock next ih => exact ⟨hallowed s lock h.1, ih h.2⟩
  | release lock next ih => exact ih (show AwaitsOnly later allowed post s next from h)
  | act effect next ih => exact fun i s' hlater => ih i s' (h i s' hlater)

/-- What is allowed stays allowed in later states. -/
theorem AwaitsOnly.stays (htrans : ∀ {s s' s''}, later s s' → later s' s'' → later s s'')
    (hstays : ∀ {s s' lock}, later s s' → allowed s lock → allowed s' lock) (hlater : later s s')
    (h : AwaitsOnly later allowed (fun _ _ => True) s task) :
    AwaitsOnly later allowed (fun _ _ => True) s' task := by
  induction task with
  | done a => trivial
  | acquire lock next ih => exact ⟨hstays hlater h.1, ih h.2⟩
  | release lock next ih => exact ih h
  | act effect next ih => exact fun i s'' hlater' => h i s'' (htrans hlater hlater')

end Awaits

end Task

/-! ## one worker -/

namespace Worker

/-- A worker that holds one lock at most, and none in the end. -/
def Brackets (worker : Worker σ ι κ α) : Prop :=
  ∃ held : Option κ, worker.held = held.toList ∧ worker.task.Brackets held none

/-- What is left of a worker's call. -/
def call (worker : Worker σ ι κ α) : Call σ ι κ α := worker.task.sections worker.held.head?

variable {worker : Worker σ ι κ α} {workers : List (Worker σ ι κ α)} {lock : κ} {i : ι} {s : σ}

/-- **A worker that waits for a lock holds none.** -/
theorem Brackets.held_eq_nil (h : worker.Brackets) (hawaits : worker.awaits? = some lock) :
    worker.held = [] := by
  obtain ⟨task, locks⟩ := worker
  obtain ⟨held, rfl, hbrackets⟩ := h
  cases task with
  | acquire lock next =>
      obtain ⟨rfl, -⟩ := hbrackets
      rfl
  | done a | release lock next | act effect next => simp [awaits?] at hawaits

variable [DecidableEq κ]

/-- A worker that holds a lock can take its next step. -/
theorem Brackets.canStep_of_mem (h : worker.Brackets) (hheld : lock ∈ worker.held) :
    worker.canStep workers := by
  obtain ⟨task, locks⟩ := worker
  obtain ⟨held, rfl, hbrackets⟩ := h
  obtain rfl : held = some lock := by simpa using hheld
  cases task with
  | done a => exact absurd hbrackets (by simp [Task.Brackets])
  | acquire lock next => exact absurd hbrackets.1 (by simp)
  | release lock next => rfl
  | act effect next => rfl

/-- A worker that is not finished can take its next step, unless it waits for a lock that another
worker holds. -/
theorem canStep_or_held (workers : List (Worker σ ι κ α)) (h : worker.isFinished = false) :
    worker.canStep workers ∨
      ∃ lock, worker.awaits? = some lock ∧ ∃ other ∈ workers, lock ∈ other.held := by
  cases hawaits : worker.awaits? with
  | none => exact .inl (by simp [canStep, h, hawaits])
  | some lock =>
      by_cases hfree : ∀ other ∈ workers, lock ∉ other.held
      · exact .inl (by simpa [canStep, h, hawaits] using hfree)
      · exact .inr ⟨lock, rfl, by simpa using hfree⟩

theorem mem_held_step (h : lock ∈ (worker.step i s).2.held) :
    worker.awaits? = some lock ∨ lock ∈ worker.held := by
  obtain ⟨task, locks⟩ := worker
  cases task with
  | done a | act effect next => exact .inr h
  | acquire lock' next =>
      obtain rfl | hold := List.mem_cons.mp h
      · exact .inl rfl
      · exact .inr hold
  | release lock' next => exact .inr (List.mem_of_mem_erase h)

/-- A lock that the next step takes is free. -/
theorem free_of_canStep (h : worker.canStep workers) (hawaits : worker.awaits? = some lock) :
    ∀ other ∈ workers, lock ∉ other.held := by
  simpa [canStep, hawaits] using (Bool.and_eq_true_iff.mp h).2

theorem Brackets.step (h : worker.Brackets) : (worker.step i s).2.Brackets := by
  obtain ⟨task, locks⟩ := worker
  obtain ⟨held, rfl, hbrackets⟩ := h
  cases task with
  | done a => exact ⟨held, rfl, hbrackets⟩
  | acquire lock next =>
      obtain ⟨rfl, hnext⟩ := hbrackets
      exact ⟨some lock, rfl, hnext⟩
  | release lock next =>
      obtain ⟨rfl, hnext⟩ := hbrackets
      exact ⟨none, by simp [Worker.step], hnext⟩
  | act effect next => exact ⟨held, rfl, hbrackets i s⟩

/-- A step takes or releases a lock, or runs the next section of the call. -/
theorem Brackets.step_call (h : worker.Brackets) :
    ((worker.step i s).1 = s ∧ (worker.step i s).2.call = worker.call) ∨
      ((worker.step i s).1, (worker.step i s).2.call) = worker.call.advance i s := by
  obtain ⟨task, locks⟩ := worker
  obtain ⟨held, rfl, hbrackets⟩ := h
  cases task with
  | done a => exact .inl ⟨rfl, rfl⟩
  | acquire lock next => exact .inl ⟨rfl, rfl⟩
  | release lock next =>
      obtain ⟨rfl, hnext⟩ := hbrackets
      exact .inl ⟨rfl, by simp [Worker.step, call, Task.sections]⟩
  | act effect next => exact .inr rfl

theorem awaitsOnly_step {later : σ → σ → Prop} {allowed : σ → κ → Prop}
    (h : worker.task.AwaitsOnly later allowed (fun _ _ => True) s) (hnow : later s s) :
    (worker.step i s).2.task.AwaitsOnly later allowed (fun _ _ => True) s := by
  obtain ⟨task, locks⟩ := worker
  cases task with
  | done a => trivial
  | acquire lock next => exact h.2
  | release lock next => exact h
  | act effect next => exact h i s hnow

omit [DecidableEq κ] in
theorem allowed_of_awaits {later : σ → σ → Prop} {allowed : σ → κ → Prop}
    (h : worker.task.AwaitsOnly later allowed (fun _ _ => True) s)
    (hawaits : worker.awaits? = some lock) : allowed s lock := by
  obtain ⟨task, locks⟩ := worker
  cases task with
  | acquire lock next =>
      obtain rfl := Option.some.inj hawaits
      exact h.1
  | done a | release lock next | act effect next => simp [awaits?] at hawaits

end Worker

/-! ## several workers -/

variable [DecidableEq κ] {s : σ} {workers : List (Worker σ ι κ α)}

/-- A turn does nothing, or the next step of a worker that can take it. -/
theorem Turn.work_cases (turn : Turn ι) (s : σ) (workers : List (Worker σ ι κ α)) :
    turn.work s workers = (s, workers) ∨
      ∃ worker, workers[turn.call]? = some worker ∧ worker.canStep workers ∧
        turn.work s workers = ((worker.step turn.input s).1,
          workers.set turn.call (worker.step turn.input s).2) := by
  unfold Turn.work
  cases hworker : workers[turn.call]? with
  | none => exact .inl rfl
  | some worker =>
      by_cases hstep : worker.canStep workers
      · exact .inr ⟨worker, rfl, hstep, by simp [hstep]⟩
      · exact .inl (by simp [hstep])

/-- **What every step keeps holds throughout a run of workers.** -/
theorem runWorkers_induct (inv : σ → List (Worker σ ι κ α) → Prop)
    (keeps : ∀ {s workers n worker} (i : ι), inv s workers → workers[n]? = some worker →
      worker.canStep workers → inv (worker.step i s).1 (workers.set n (worker.step i s).2))
    (schedule : List (Turn ι)) (h : inv s workers) :
    inv (runWorkers schedule s workers).1 (runWorkers schedule s workers).2 := by
  induction schedule generalizing s workers with
  | nil => exact h
  | cons turn schedule ih =>
      simp only [runWorkers, List.foldl_cons] at ih ⊢
      obtain hidle | ⟨worker, hworker, hstep, hwork⟩ := turn.work_cases s workers
      · rw [hidle]
        exact ih h
      · rw [hwork]
        exact ih (keeps turn.input h hworker hstep)

theorem brackets_set {n : Nat} {worker : Worker σ ι κ α} {i : ι}
    (h : ∀ worker ∈ workers, worker.Brackets) (hworker : workers[n]? = some worker) :
    ∀ other ∈ workers.set n (worker.step i s).2, other.Brackets := by
  intro other hother
  obtain hold | rfl := List.mem_or_eq_of_mem_set hother
  · exact h other hold
  · exact (h worker (List.mem_of_getElem? hworker)).step

/-- No lock is held by two workers. -/
def Exclusive (workers : List (Worker σ ι κ α)) : Prop :=
  ∀ (n m : Nat) (worker other : Worker σ ι κ α) (lock : κ), workers[n]? = some worker →
    workers[m]? = some other → lock ∈ worker.held → lock ∈ other.held → n = m

/-- A step takes no lock that another worker holds. -/
theorem Exclusive.step (h : Exclusive workers) {n : Nat} {worker : Worker σ ι κ α} {i : ι}
    (hworker : workers[n]? = some worker) (hstep : worker.canStep workers) :
    Exclusive (workers.set n (worker.step i s).2) := by
  have hfree : ∀ m other lock, workers[m]? = some other → m ≠ n →
      lock ∈ (worker.step i s).2.held → lock ∉ other.held := by
    intro m other lock hother hne hmem hheld
    obtain hnew | hold := worker.mem_held_step hmem
    · exact worker.free_of_canStep hstep hnew other (List.mem_of_getElem? hother) hheld
    · exact hne (h m n other worker lock hother hworker hheld hold)
  intro m k other other' lock hm hk hmem hmem'
  rw [List.getElem?_set] at hm hk
  by_cases hnm : n = m
  · by_cases hnk : n = k
    · exact hnm.symm.trans hnk
    · grind
  · by_cases hnk : n = k
    · grind
    · exact h m k other other' lock (by simpa [hnm] using hm) (by simpa [hnk] using hk) hmem hmem'

/-- **A lock is held by one worker at a time**, whatever the workers do. -/
theorem runWorkers_exclusive (schedule : List (Turn ι)) (h : Exclusive workers) :
    Exclusive (runWorkers schedule s workers).2 :=
  runWorkers_induct (fun _ workers => Exclusive workers)
    (fun _ hexclusive hworker hstep => hexclusive.step hworker hstep) schedule h

/-- **Every worker that is not finished can go on, or waits for one that can.** -/
theorem exists_canStep (h : ∀ worker ∈ workers, worker.Brackets) {worker : Worker σ ι κ α}
    (hunfinished : worker.isFinished = false) :
    worker.canStep workers ∨ ∃ lock, worker.awaits? = some lock ∧
      ∃ other ∈ workers, lock ∈ other.held ∧ other.canStep workers := by
  obtain hstep | ⟨lock, hawaits, other, hother, hheld⟩ :=
    Worker.canStep_or_held workers hunfinished
  · exact .inl hstep
  · exact .inr ⟨lock, hawaits, other, hother, hheld, (h other hother).canStep_of_mem hheld⟩

/-- A step of a worker is a turn of its call, or no turn. -/
theorem step_sections (h : ∀ worker ∈ workers, worker.Brackets) {n : Nat}
    {worker : Worker σ ι κ α} (hworker : workers[n]? = some worker) (i : ι) :
    ((worker.step i s).1 = s ∧
        (workers.set n (worker.step i s).2).map Worker.call = workers.map Worker.call) ∨
      ((worker.step i s).1, (workers.set n (worker.step i s).2).map Worker.call) =
        Turn.run ⟨n, i⟩ s (workers.map Worker.call) := by
  have hcall : (workers.map Worker.call)[n]? = some worker.call := by simp [hworker]
  have hbrackets := h worker (List.mem_of_getElem? hworker)
  obtain ⟨hstate, hsame⟩ | hadvance := hbrackets.step_call (i := i) (s := s)
  · left
    refine ⟨hstate, ?_⟩
    rw [List.map_set, hsame]
    obtain ⟨hn, hget⟩ := List.getElem?_eq_some_iff.mp hcall
    rw [← hget, List.set_getElem_self]
  · right
    simp only [Turn.run, hcall, ← hadvance, List.map_set]

/-- **Workers that bracket their locks do nothing that calls in sections could not do**: a run of
workers is a run of their calls. -/
theorem runWorkers_sections (schedule : List (Turn ι))
    (h : ∀ worker ∈ workers, worker.Brackets) :
    ∃ schedule' : List (Turn ι),
      runSchedule schedule' s (workers.map Worker.call) =
        ((runWorkers schedule s workers).1, (runWorkers schedule s workers).2.map Worker.call) := by
  have hinv := runWorkers_induct (s := s)
    (fun s' workers' => (∀ worker ∈ workers', worker.Brackets) ∧
      ∃ schedule', runSchedule schedule' s (workers.map Worker.call) =
        (s', workers'.map Worker.call))
    (fun {s' workers' n worker} i ⟨hbrackets, schedule', hrun⟩ hworker _ => by
      refine ⟨brackets_set hbrackets hworker, ?_⟩
      obtain ⟨hstate, hsame⟩ | hturn := step_sections (s := s') hbrackets hworker i
      · exact ⟨schedule', by rw [hstate, hsame, hrun]⟩
      · refine ⟨schedule' ++ [⟨n, i⟩], ?_⟩
        rw [runSchedule_append_singleton, hrun, hturn])
    schedule ⟨h, [], rfl⟩
  exact hinv.2

end ChatService
