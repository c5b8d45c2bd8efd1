import Mathlib.Data.List.Dedup
import ChatService.Proofs.Memory.Independence

/-!
# One application after the other

Since operations on different applications do not see one another, what a run of operations answers
about an application depends on the operations that are addressed to it, in their order, and on
nothing that stands between them.  So a run can be regrouped: all operations on one application,
then all on the next.  Only the operations on applications as a whole see the difference.
-/

namespace ChatService

/-! ## regrouped lists -/

section Regroup

variable {ι κ : Type*} [DecidableEq κ] {key : ι → κ} {k : κ} {keys : List κ} {items : List ι}

/-- The items of each key together, in the order that they had. -/
def regroup (key : ι → κ) (items : List ι) : List ι :=
  (items.map key).dedup.flatMap fun k => items.filter (key · = k)

/-- What is collected key by key are the items of these keys. -/
theorem flatMap_filter_perm (hnodup : keys.Nodup) :
    (keys.flatMap fun k => items.filter (key · = k)).Perm (items.filter (key · ∈ keys)) := by
  induction keys with
  | nil => simp
  | cons k keys ih =>
      obtain ⟨hk, hnodup⟩ := List.nodup_cons.mp hnodup
      have hhere : (items.filter (key · ∈ k :: keys)).filter (key · = k) =
          items.filter (key · = k) := by
        rw [List.filter_filter]
        exact List.filter_congr fun item _ => by grind
      have hthere : (items.filter (key · ∈ k :: keys)).filter (fun item => !decide (key item = k)) =
          items.filter (key · ∈ keys) := by
        rw [List.filter_filter]
        exact List.filter_congr fun item _ => by grind
      have hsplit := List.filter_append_perm (key · = k) (items.filter (key · ∈ k :: keys))
      rw [hhere, hthere] at hsplit
      exact ((ih hnodup).append_left _).trans hsplit

theorem regroup_perm : (regroup key items).Perm items := by
  have hall : items.filter (key · ∈ (items.map key).dedup) = items :=
    List.filter_eq_self.mpr fun item hitem => by simpa using ⟨item, hitem, rfl⟩
  exact (flatMap_filter_perm (List.nodup_dedup _)).trans (.of_eq hall)

theorem filter_flatMap_filter (hnodup : keys.Nodup) :
    (keys.flatMap fun k => items.filter (key · = k)).filter (key · = k) =
      if k ∈ keys then items.filter (key · = k) else [] := by
  induction keys with
  | nil => rfl
  | cons k' keys ih =>
      obtain ⟨hk', hnodup⟩ := List.nodup_cons.mp hnodup
      rw [List.flatMap_cons, List.filter_append, ih hnodup, List.filter_filter]
      by_cases hk : k = k'
      · subst hk
        simp [hk']
      · have hnone :
            items.filter (fun item => decide (key item = k) && decide (key item = k')) = [] :=
          List.filter_eq_nil_iff.mpr fun item _ => by grind
        simp [hk, hnone]

/-- Items of one key keep their order. -/
theorem filter_regroup : (regroup key items).filter (key · = k) = items.filter (key · = k) := by
  rw [regroup, filter_flatMap_filter (List.nodup_dedup _), ite_eq_left_iff]
  intro hk
  refine (List.filter_eq_nil_iff.mpr fun item hitem hkey => hk ?_).symm
  simpa using ⟨item, hitem, of_decide_eq_true hkey⟩

/-- Items of one key stand together. -/
theorem filter_infix_regroup : items.filter (key · = k) <:+: regroup key items := by
  by_cases hk : k ∈ (items.map key).dedup
  · rw [regroup, List.flatMap_def]
    exact List.infix_of_mem_flatten (List.mem_map_of_mem hk)
  · have hnone : items.filter (key · = k) = [] :=
      List.filter_eq_nil_iff.mpr fun item hitem hkey =>
        hk (by simpa using ⟨item, hitem, of_decide_eq_true hkey⟩)
    rw [hnone]
    exact List.nil_infix

example : regroup (· % 3) [7, 3, 1, 5, 6, 2] = [7, 1, 3, 6, 5, 2] := by decide

end Regroup

namespace Memory

open Store (Operation Answer Outcome)

variable {m m' n n' : Moment} {s s' : State} {token : String} {α β : Type}

/-! ## runs of operations -/

/-- An operation, with the token that an application gets if it makes one. -/
structure Job : Type 1 where
  fresh : String
  request : Request

/-- The token of the application that a job is addressed to. -/
def Job.token? (job : Job) : Option String := job.request.2.token? job.fresh

/-- Runs jobs one after the other, each at its own time: what they answer without internal ids and
timestamps, and the state that they leave. -/
def performAll : List (Timestamp × Job) → State → List (Job × Outcome) × State
  | [], s => ([], s)
  | (now, job) :: run, s =>
    let (s, answer) := perform ⟨now, job.fresh⟩ job.request.2 s
    let (answers, s) := performAll run s
    ((job, (Outcome.of job.request.2 answer).bare) :: answers, s)

/-- What the jobs of a run answer that are addressed to one application. -/
def answersAbout (token : String) (run : List (Timestamp × Job)) (s : State) :
    List (Job × Outcome) :=
  (performAll run s).1.filter (·.1.token? = some token)

/-- The jobs that are addressed to one application, all at the same time. -/
def alone (token : String) (jobs : List Job) : List (Timestamp × Job) :=
  (jobs.filter (·.token? = some token)).map fun job => (.epoch, job)

/-- An operation leaves the applications that it is not addressed to as they are. -/
theorem get?_contents_perform (h : Linkage s) {operation : Operation α}
    (hother : operation.token? m.token ≠ some token) :
    Keyed.get? token (perform m operation s).1.contents = Keyed.get? token s.contents := by
  cases htoken : operation.token? m.token with
  | none =>
      have hread : IsRead operation := by
        cases operation <;> simp_all [Operation.token?, IsRead]
      rw [perform_of_isRead hread]
  | some token' =>
      have hne : token' ≠ token := fun heq => hother (htoken.trans (congrArg some heq))
      obtain ⟨f, hconfined, hacts⟩ := exists_actsAs_confined htoken
      have hseen := congrArg Prod.fst (hacts m s rfl h)
      exact (congrArg (Keyed.get? token) hseen).trans (hconfined.leaves _ _ hne)

/-- **What a run says about an application** depends on the jobs that are addressed to it, and on
what the application looked like. -/
theorem performAll_alone (token : String) (run : List (Timestamp × Job)) (h : Linkage s)
    (h' : Linkage s') (hsame : Keyed.get? token s.contents = Keyed.get? token s'.contents) :
    answersAbout token run s = answersAbout token (alone token (run.map (·.2))) s' ∧
      Keyed.get? token (performAll run s).2.contents =
        Keyed.get? token (performAll (alone token (run.map (·.2))) s').2.contents := by
  induction run generalizing s s' with
  | nil => exact ⟨rfl, hsame⟩
  | cons entry run ih =>
      obtain ⟨now, job⟩ := entry
      have hnext := h.perform (m := ⟨now, job.fresh⟩) job.request.2
      by_cases habout : job.token? = some token
      · -- both runs do the job
        obtain ⟨f, hconfined, hacts⟩ := exists_actsAs_confined habout
        have hseen := hacts ⟨now, job.fresh⟩ s rfl h
        have hseen' := hacts ⟨.epoch, job.fresh⟩ s' rfl h'
        obtain ⟨hanswer, hleft⟩ := hconfined.sees _ _ hsame
        rw [← hseen, ← hseen'] at hanswer hleft
        have hnext' := h'.perform (m := ⟨.epoch, job.fresh⟩) job.request.2
        obtain ⟨hanswers, hend⟩ := ih hnext hnext' hleft
        have hhere : (Outcome.of job.request.2 (perform ⟨now, job.fresh⟩ job.request.2 s).2).bare =
            (Outcome.of job.request.2 (perform ⟨.epoch, job.fresh⟩ job.request.2 s').2).bare :=
          congrArg (Outcome.of job.request.2) hanswer
        have halone : alone token (((now, job) :: run).map (·.2)) =
            (.epoch, job) :: alone token (run.map (·.2)) := by
          simp [alone, habout]
        rw [halone]
        refine ⟨?_, hend⟩
        simpa [answersAbout, performAll, habout, hhere] using hanswers
      · -- only the longer run does the job, and the application does not notice
        have hleft := (get?_contents_perform (m := ⟨now, job.fresh⟩) h habout).trans hsame
        obtain ⟨hanswers, hend⟩ := ih hnext h' hleft
        have halone :
            alone token (((now, job) :: run).map (·.2)) = alone token (run.map (·.2)) := by
          simp [alone, habout]
        rw [halone]
        refine ⟨?_, hend⟩
        simpa [answersAbout, performAll, habout] using hanswers

/-- Runs that do the same jobs on an application in the same order say the same about it. -/
theorem performAll_congr {run run' : List (Timestamp × Job)} (h : Linkage s)
    (hsame : (run.map (·.2)).filter (·.token? = some token) =
      (run'.map (·.2)).filter (·.token? = some token)) :
    answersAbout token run s = answersAbout token run' s ∧
      Keyed.get? token (performAll run s).2.contents =
        Keyed.get? token (performAll run' s).2.contents := by
  have halone : alone token (run.map (·.2)) = alone token (run'.map (·.2)) :=
    congrArg (List.map fun job => (Timestamp.epoch, job)) hsame
  obtain ⟨hanswers, hend⟩ := performAll_alone token run h h rfl
  obtain ⟨hanswers', hend'⟩ := performAll_alone token run' h h rfl
  rw [halone] at hanswers hend
  exact ⟨hanswers.trans hanswers'.symm, hend.trans hend'.symm⟩

theorem performAll_ping (run : List (Timestamp × Job)) (s : State) :
    ∀ entry ∈ (performAll run s).1, entry.1.request = ⟨Unit, .ping⟩ →
      entry.2 = .of .ping (.ok ()) := by
  induction run generalizing s with
  | nil => simp [performAll]
  | cons entry run ih =>
      obtain ⟨now, fresh, request⟩ := entry
      intro answered hanswered hping
      obtain rfl | hlater := List.mem_cons.mp hanswered
      · cases hping
        rfl
      · exact ih _ answered hlater hping

/-! ## what independence comes to -/

/-- Two operations can be run in either order from a state: the answers are the same, up to
internal ids and timestamps, and so is what is left; and neither changes a record of the other. -/
structure Commutes (m m' n n' : Moment) (operation : Operation α) (operation' : Operation β)
    (s : State) : Prop where
  first : (seen n operation (perform n' operation' s).1).2 = (seen m operation s).2
  second : (seen m' operation' (perform m operation s).1).2 = (seen n' operation' s).2
  contents : SameContents (perform m' operation' (perform m operation s).1).1
    (perform n operation (perform n' operation' s).1).1
  leaves_first : Leaves m operation s (perform m operation s).1
  leaves_second : Leaves m' operation' (perform m operation s).1
    (perform m' operation' (perform m operation s).1).1

/-- Another order for the jobs of a run, in which the jobs on each application stand together: they
answer the same, at whatever times they run. -/
structure Regroups (s : State) (run : List (Timestamp × Job)) (jobs : List Job) : Prop where
  perm : jobs.Perm (run.map (·.2))
  contiguous : ∀ token : String, jobs.filter (·.token? = some token) <:+: jobs
  answers : ∀ run', run'.map (·.2) = jobs → ∀ token,
    answersAbout token run' s = answersAbout token run s
  pings : ∀ run', run'.map (·.2) = jobs → ∀ entry ∈ (performAll run s).1 ++ (performAll run' s).1,
    entry.1.request = ⟨Unit, .ping⟩ → entry.2 = .of .ping (.ok ())
  contents : ∀ run', run'.map (·.2) = jobs →
    SameContents (performAll run' s).2 (performAll run s).2

/-- The applications of a store have nothing to do with one another, nor do the messages of
different chats. -/
structure Parted (s : State) : Prop where
  commutes : ∀ {α β : Type} (operation : Operation α) (operation' : Operation β)
    (m m' n n' : Moment), n.token = m.token → n'.token = m'.token →
    Independent m.token m'.token operation operation' → Commutes m m' n n' operation operation' s
  regroups : ∀ run, ∃ jobs, Regroups s run jobs

theorem Linkage.commutes (h : Linkage s) {operation : Operation α} {operation' : Operation β}
    (hindependent : Independent m.token m'.token operation operation')
    (hn : n.token = m.token) (hn' : n'.token = m'.token) :
    Commutes m m' n n' operation operation' s := by
  obtain ⟨hsecond, hfirst, hcontents⟩ := seen_commute h hindependent hn hn'
  exact ⟨hfirst, hsecond, hcontents, leaves_perform h operation,
    leaves_perform (h.perform operation) operation'⟩

theorem Linkage.regroups (h : Linkage s) (run : List (Timestamp × Job)) :
    Regroups s run (regroup Job.token? (run.map (·.2))) where
  perm := regroup_perm
  contiguous token := by
    rw [filter_regroup]
    exact filter_infix_regroup
  answers run' hrun' token := (performAll_congr h (by rw [hrun', filter_regroup])).1
  pings run' _ entry hentry :=
    (List.mem_append.mp hentry).elim (performAll_ping run s entry) (performAll_ping run' s entry)
  contents run' hrun' token := (performAll_congr h (by rw [hrun', filter_regroup])).2

/-- **Applications are independent** in every state that calls lead to, and so are the messages of
different chats: operations on them commute and leave one another alone, and any run of operations
can be done one application after the other. -/
theorem runSchedule_parted (requests : List Request) (schedule : List (Turn Moment)) :
    Parted (runSchedule schedule .empty (start requests)).1 := by
  obtain ⟨helds, -, hgrounded⟩ := runSchedule_follows Grounded
    (fun hgrounded hheld hmove => hgrounded.of_move hheld hmove) schedule (hold_start requests)
    (grounded_of_idle linkage_empty (by simp))
  exact
    { commutes _ _ m m' n n' hn hn' hindependent :=
        hgrounded.toLinkage.commutes hindependent hn hn'
      regroups run := ⟨_, hgrounded.toLinkage.regroups run⟩ }

end Memory

end ChatService
