import ChatService.Proofs.Refinement.Writes

/-!
# Both stores answer alike

A history of operations is run twice, once on the store in memory and once on the store in the
database, each from empty.  As long as the clock shows times of the calendar, tokens are fresh and
object ids grow, no answer tells the two stores apart but by its internal ids, and those differ by
one renaming throughout.
-/

namespace ChatService.Refinement

open Database (ObjectId Reading)
open Memory (Moment Settled perform)
open Store (Operation Outcome RetryPolicy)

/-! ## histories -/

/-- An operation, with what the clock shows and the token that is fresh when it is run. -/
structure Step where
  {α : Type}
  operation : Operation α
  ms : Int
  token : String

/-- What a step shows the store in memory. -/
def Step.moment (step : Step) : Moment := ⟨Database.timeOfMillis step.ms, step.token⟩

/-- What a step shows the store in the database. -/
def Step.reading (step : Step) (ids : Nat → ObjectId) : Reading := ⟨step.ms, step.token, ids⟩

/-- Runs a history in memory. -/
def memoryRun : List Step → Memory.State → Memory.State × List Outcome
  | [], s => (s, [])
  | step :: steps, s =>
    let result := perform step.moment step.operation s
    let rest := memoryRun steps result.1
    (rest.1, .of step.operation result.2 :: rest.2)

/-- Runs a history in the database, where nothing fails. -/
def databaseRun (policy : RetryPolicy) (ids : Nat → ObjectId) :
    List Step → Database.Server.State × Nat → (Database.Server.State × Nat) × List Outcome
  | [], t => (t, [])
  | step :: steps, t =>
    let result := (Database.program policy step.operation).exec (step.reading ids) t
    let rest := databaseRun policy ids steps result.2
    (rest.1, .of step.operation result.1 :: rest.2)

/-- A listing asks for at least one item; the database takes a limit of zero for none. -/
def AsksForItems : {α : Type} → Operation α → Prop
  | _, .listApplications _ limit | _, .listChats _ _ limit | _, .listMessages _ _ _ limit =>
    1 ≤ limit
  | _, _ => True

/-- What is presupposed of a history and of the object ids that it is given. -/
structure Admissible (steps : List Step) (ids : Nat → ObjectId) : Prop where
  /-- The clock shows times that the calendar reaches. -/
  calendar : ∀ step ∈ steps, (Timestamp.ofMillis? step.ms).isSome
  /-- Tokens are fresh. -/
  tokens : (steps.map (·.token)).Nodup
  limits : ∀ step ∈ steps, AsksForItems step.operation
  /-- Not everything is created that could be numbered. -/
  few : (memoryRun steps .empty).1.ids < 2 ^ 63 - 1
  /-- Object ids grow in the order of creation. -/
  increasing : Increasing ids (memoryRun steps .empty).1.ids

/-! ## one step -/

variable {policy : RetryPolicy} {ids : Nat → ObjectId} {s : Memory.State}
  {t : Database.Server.State × Nat}

/-- **One operation is answered alike**, whatever it is. -/
theorem Paired.agree {α : Type} {r : Reading} {operation : Operation α} (h : Paired r.ids s t)
    (hcalendar : (Timestamp.ofMillis? r.ms).isSome)
    (hfree : Keyed.get? r.token s.applications = none) (hlimit : AsksForItems operation)
    (hnext : Increasing r.ids (perform (moment r) operation s).1.ids) :
    Agree policy r operation s t := by
  obtain ⟨state, n⟩ := t
  obtain rfl : n = s.ids := h.handed
  cases operation with
  | createApplication name => exact h.agree_createApplication hcalendar hfree name hnext
  | countApplications => exact h.agree_countApplications
  | listApplications offset limit => exact h.agree_listApplications hlimit
  | findApplication token => exact h.agree_findApplication token
  | createChat token => exact h.agree_createChat hcalendar token hnext
  | findChat token number => exact h.agree_findChat token number
  | countChats token => exact h.agree_countChats token
  | listChats token offset limit => exact h.agree_listChats token hlimit
  | deleteChat token number => exact h.agree_deleteChat hcalendar token number
  | createMessage token number body => exact h.agree_createMessage hcalendar token number body hnext
  | countMessages token number => exact h.agree_countMessages token number
  | listMessages token number offset limit => exact h.agree_listMessages token number hlimit
  | ping => exact h.agree_ping

/-- Two stores that have answered alike go on as a pair. -/
theorem Agree.paired {α : Type} {r : Reading} {operation : Operation α}
    (hagree : Agree policy r operation s t) (h : Paired r.ids s t)
    (hcalendar : (Timestamp.ofMillis? r.ms).isSome)
    (hfree : Keyed.get? r.token s.applications = none)
    (hnext : Increasing r.ids (perform (moment r) operation s).1.ids)
    (hfew : ((perform (moment r) operation s).1.ids : Int) < Word.maxInt64) :
    Paired r.ids (perform (moment r) operation s).1
      ((Database.program policy operation).exec r t).2 where
  toSimulates := hagree.simulates
  settled := h.settled.perform hfree (moment_now hcalendar).1 operation hfew
  increasing := hnext
  few := hfew

/-! ## whole histories -/

theorem ids_le_memoryRun (steps : List Step) (s : Memory.State) :
    s.ids ≤ (memoryRun steps s).1.ids := by
  induction steps generalizing s with
  | nil => exact Nat.le_refl _
  | cons step steps ih =>
      exact Nat.le_trans (Memory.ids_le_perform step.operation) (ih _)

/-- From a pair of stores, every history is answered alike. -/
theorem Paired.databaseRun_eq (steps : List Step) (h : Paired ids s t)
    (hfree : ∀ step ∈ steps, Keyed.get? step.token s.applications = none)
    (hcalendar : ∀ step ∈ steps, (Timestamp.ofMillis? step.ms).isSome)
    (htokens : (steps.map (·.token)).Nodup)
    (hlimits : ∀ step ∈ steps, AsksForItems step.operation)
    (hfew : ((memoryRun steps s).1.ids : Int) < Word.maxInt64)
    (hids : Increasing ids (memoryRun steps s).1.ids) :
    (databaseRun policy ids steps t).2 =
      (memoryRun steps s).2.map (Outcome.renamed (renamedId ids)) := by
  induction steps generalizing s t with
  | nil => rfl
  | cons step steps ih =>
      have hfree₀ := hfree step List.mem_cons_self
      have hcalendar₀ := hcalendar step List.mem_cons_self
      have hle := ids_le_memoryRun steps (perform step.moment step.operation s).1
      have hfew : ((memoryRun steps (perform step.moment step.operation s).1).1.ids : Int) <
        Word.maxInt64 := hfew
      have hnext := hids.of_le hle
      have hagree : Agree policy (step.reading ids) step.operation s t :=
        Paired.agree (r := step.reading ids) h hcalendar₀ hfree₀
          (hlimits step List.mem_cons_self) hnext
      have hpaired := hagree.paired h hcalendar₀ hfree₀ hnext
        (Int.lt_of_le_of_lt (Int.ofNat_le.mpr hle) hfew)
      have hfresh : ∀ other ∈ steps, Keyed.get? other.token
          (perform step.moment step.operation s).1.applications = none := by
        intro other hother
        have hchange : Memory.Change step.moment s (perform step.moment step.operation s).1 :=
          h.settled.change hfree₀ h.few step.operation
        refine Keyed.get?_eq_none_iff.mpr fun hmem => ?_
        obtain hsame | hold := hchange.tokens hfree₀ other.token hmem
        · exact (List.nodup_cons.mp htokens).1 (List.mem_map.mpr ⟨other, hother, hsame⟩)
        · exact Keyed.get?_eq_none_iff.mp (hfree other (List.mem_cons_of_mem _ hother)) hold
      have hrest := ih hpaired hfresh (fun other hother => hcalendar other (by simp [hother]))
        (List.nodup_cons.mp htokens).2 (fun other hother => hlimits other (by simp [hother]))
        hfew hids
      have hanswer : ((Database.program policy step.operation).exec (step.reading ids) t).1 =
          (perform step.moment step.operation s).2.map
            (Store.renamed (renamedId ids) step.operation) := hagree.answer
      simp only [databaseRun, memoryRun, List.map_cons, Outcome.renamed, hanswer]
      exact congrArg _ hrest

/-- **The store in the database refines the store in memory.**  Run from empty on any history, both
answer every operation alike: with the same values, after the id that memory gave out as the `n`-th
is replaced by the `n`-th object id, or with the same error. -/
theorem databaseRun_refines (policy : RetryPolicy) (steps : List Step) (ids : Nat → ObjectId)
    (h : Admissible steps ids) :
    (databaseRun policy ids steps (opened, 0)).2 =
      (memoryRun steps .empty).2.map (Outcome.renamed (renamedId ids)) := by
  have hfew : ((memoryRun steps .empty).1.ids : Int) < Word.maxInt64 := by
    have := h.few
    unfold Word.maxInt64
    omega
  have hempty : Paired ids .empty (opened, 0) :=
    { toSimulates := simulates_opened ids
      settled := Memory.settled_empty
      increasing := h.increasing.of_le (Nat.zero_le _)
      few := by decide }
  exact hempty.databaseRun_eq steps (fun _ _ => rfl) h.calendar h.tokens h.limits hfew h.increasing

/-- A chat is written to, listed, deleted, and looked for. -/
def shortHistory : List Step :=
  [⟨.createApplication (some "a"), 5, "t"⟩, ⟨.createChat "t", 7, "u"⟩,
    ⟨.createMessage "t" 1 (some "b"), 11, "v"⟩, ⟨.listMessages "t" 1 0 10, 13, "w"⟩,
    ⟨.deleteChat "t" 1, 17, "x"⟩, ⟨.findChat "t" 1, 19, "y"⟩]

/-- Object ids that count in steps of two. -/
def evenIds (n : Nat) : ObjectId := .ofNat (2 * n)

theorem databaseRun_shortHistory :
    Admissible shortHistory evenIds ∧
      (databaseRun ⟨1, .zero⟩ evenIds shortHistory (opened, 0)).2 =
        (memoryRun shortHistory .empty).2.map (Outcome.renamed (renamedId evenIds)) := by
  have hids : (memoryRun shortHistory .empty).1.ids = 3 := by decide +kernel
  have hadmissible : Admissible shortHistory evenIds :=
    { calendar := by simp only [shortHistory, List.forall_mem_cons]; decide
      tokens := by decide
      limits := by simp [shortHistory, AsksForItems]
      few := by rw [hids]; decide
      increasing := by
        rw [hids]
        intro i j hi hlt hj
        have hnumber : ∀ k, k ≤ 3 → (evenIds k).number = 2 * k := fun k hk =>
          Nat.mod_eq_of_lt (Nat.lt_of_le_of_lt (Nat.mul_le_mul_left 2 hk) (by decide))
        rw [hnumber i (by omega), hnumber j hj]
        omega }
  exact ⟨hadmissible, databaseRun_refines _ _ _ hadmissible⟩

end ChatService.Refinement
