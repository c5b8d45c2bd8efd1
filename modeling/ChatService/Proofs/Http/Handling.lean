import ChatService.Http.InMemory
import ChatService.Proofs.Memory.Lookups
import ChatService.Proofs.Work

/-!
# Runs of handlers over things in memory

A handler is a chain of steps that may fail, and over things in memory every step is over at once.
So a handler ends with what its steps say one after the other, and the time that a request may take
matters only if there is none at all.
-/

namespace ChatService.Http

open Work (Ending IsImmediate)

variable {σ α β : Type} {i : Instant} {s : σ}

/-! ## steps that may fail -/

/-- How a handling ends. -/
def ending (handling : Handling σ α) (i : Instant) (s : σ) : Ending σ (Except Error α) :=
  handling.run.run i s

/-- Goes on after a step that succeeded. -/
def onward (next : Instant → σ → α → Ending σ (Except Error β)) (i : Instant) (s : σ) :
    Except Error α → Ending σ (Except Error β)
  | .ok a => next i s a
  | .error e => .answered i s (.error e)

@[simp] theorem onward_ok (next : Instant → σ → α → Ending σ (Except Error β)) (a : α) :
    onward next i s (.ok a) = next i s a := rfl

@[simp] theorem onward_error (next : Instant → σ → α → Ending σ (Except Error β)) (e : Error) :
    onward next i s (.error e) = .answered i s (.error e) := rfl

@[simp] theorem ending_pure (a : α) :
    ending (pure a : Handling σ α) i s = .answered i s (.ok a) := rfl

@[simp] theorem ending_bind (handling : Handling σ α) (f : α → Handling σ β) :
    ending (handling >>= f) i s =
      (ending handling i s).bind (onward fun i s a => ending (f a) i s) := by
  refine (Work.run_bind_eq handling.run _).trans ?_
  unfold ending
  cases handling.run.run i s with
  | answered i s answer => cases answer <;> rfl
  | never => rfl
  | stopped => rfl

@[simp] theorem ending_require (part : Except Error α) :
    ending (Service.require part : Handling σ α) i s = .answered i s part := rfl

@[simp] theorem ending_lift (work : Work σ α) :
    ending (ExceptT.lift work) i s = (work.run i s).bind fun i s a => .answered i s (.ok a) :=
  Work.run_monadBind work _

@[simp] theorem ending_mk (work : Work σ (Except Error α)) :
    ending (ExceptT.mk work) i s = work.run i s := rfl

theorem isImmediate_handling_bind {handling : Handling σ α} {f : α → Handling σ β}
    (h : handling.run.IsImmediate) (hf : ∀ a, (f a).run.IsImmediate) :
    (handling >>= f).run.IsImmediate :=
  Work.isImmediate_bind h fun
    | .ok a => hf a
    | .error _ => trivial

theorem isImmediate_lift {work : Work σ α} (h : work.IsImmediate) :
    (ExceptT.lift work : Handling σ α).run.IsImmediate :=
  Work.isImmediate_bind h fun _ => trivial

/-! ## from handlers to responses -/

/-- The response that an answer of a handler stands for. -/
def responseOf : Except Error Response → Response
  | .ok response => response
  | .error e => errorResponse e

theorem run_finish (handling : Handling σ Response) :
    (Service.finish handling).run i s =
      (ending handling i s).bind fun i s answer => .answered i s (responseOf answer) := by
  refine (Work.run_bind_eq handling.run _).trans ?_
  unfold ending
  cases handling.run.run i s with
  | answered i s answer => cases answer <;> rfl
  | never => rfl
  | stopped => rfl

/-- A response in time, when the work for it never waits. -/
theorem run_timed (service : Service σ) {work : Work σ Response} (h : work.IsImmediate) :
    (service.timed work).run i s =
      if service.config.requestTimeout = .zero then .answered i s (.empty 408)
      else work.run i s := by
  refine (Work.run_bind_eq (work.before _) _).trans ?_
  rw [Work.run_before h]
  split
  · rfl
  · cases work.run i s <;> rfl

/-- The response to a request that is not an enquiry of a browser. -/
theorem run_layered (service : Service σ) {r : Request} {work : Work σ Response}
    (hmethod : r.method ≠ "OPTIONS") (htime : service.config.requestTimeout ≠ .zero)
    (h : work.IsImmediate) :
    (service.layered r work).run i s =
      (work.run i s).bind fun i s response =>
        .answered i s (response.withHeaders (service.config.cors.headers r)) := by
  unfold Service.layered
  rw [if_neg hmethod]
  refine (Work.run_bind_eq (service.timed work) _).trans ?_
  rw [run_timed service h, if_neg htime]
  rfl

/-! ## the service in memory -/

namespace InMemory

variable {i : Instant} {s : State} (config : Config)

@[simp] theorem setCache_cache (cache : Cache.Memory.State) :
    (s.setCache cache).cache = cache := rfl

@[simp] theorem setIndex_index (index : Search.Memory.State) :
    (s.setIndex index).index = index := rfl

theorem ending_ask {α : Type} (operation : Store.Operation α) :
    ending ((service config).ask operation) i s =
      .answered i (s.perform operation).1 ((s.perform operation).2.mapError .ofStoreError) := rfl

theorem isImmediate_ask {α : Type} (operation : Store.Operation α) :
    ((service config).ask operation).run.IsImmediate := fun _ _ => trivial

theorem perform_eq {α : Type} (operation : Store.Operation α) :
    s.perform operation =
      ({ s with store := (ChatService.Memory.perform s.moment operation s.store).1 },
        (ChatService.Memory.perform s.moment operation s.store).2) := rfl

/-- An operation that reads leaves everything as it is. -/
theorem perform_of_isRead {α : Type} {operation : Store.Operation α}
    (h : ChatService.Memory.IsRead operation) :
    s.perform operation = (s, (ChatService.Memory.perform s.moment operation s.store).2) := by
  rw [perform_eq, ChatService.Memory.perform_of_isRead h]

end InMemory

end ChatService.Http
