import ChatService.Proofs.Http.Served
import ChatService.Proofs.Memory.Dates
import ChatService.Proofs.Memory.Gapless

/-!
# Runs of the service in memory

A run begins with nothing stored, cached or indexed.  From then on requests of any kind are served,
and time passes between them.  A run is known by all the points it went through, so that what is
answered now can be compared with what was stored before.
-/

namespace ChatService.Http.InMemory

open ChatService.Memory (Dates Gapless Linkage Moment)

/-- What is kept at a moment. -/
structure Point where
  instant : Instant
  state : State

/-- The points that a run went through, the latest one first. -/
inductive Run (config : Config) : List Point → Prop where
  | start (i : Instant) (moment : Moment) : Run config [⟨i, { moment }⟩]
  | pass {i : Instant} {s : State} {past : List Point} (h : Run config (⟨i, s⟩ :: past))
      (length : Duration) : Run config (⟨i.after length, s⟩ :: ⟨i, s⟩ :: past)
  | serve {i i' : Instant} {s s' : State} {past : List Point} {r : Request} {response : Response}
      (h : Run config (⟨i, s⟩ :: past)) {moment : Moment} (hnow : moment.now.IsValid)
      (hanswer : ((service config).respond r).run i (s.atMoment moment) =
        .answered i' s' response) :
      Run config (⟨i', s'⟩ :: ⟨i, s⟩ :: past)

variable {config : Config} {i : Instant} {s s' : State} {past : List Point}

theorem Served.linkage (h : Served config i s s') (hlinkage : Linkage s.store) :
    Linkage s'.store := by
  cases h with
  | kept => exact hlinkage
  | dropped key => exact hlinkage
  | cached hfound hexpires => exact hlinkage
  | planted hplants => exact hlinkage.of_plants hplants
  | wasted => exact hlinkage.takeId
  | posted hlink hchat hnumber => exact hlinkage.post hchat (Store.nextAfter_eq_ok hnumber).2

theorem Run.linkage_of_mem {points : List Point} (h : Run config points) :
    ∀ p ∈ points, Linkage p.state.store := by
  induction h with
  | start i moment => simpa using ChatService.Memory.linkage_empty
  | pass h length ih => exact List.forall_mem_cons.mpr ⟨(List.forall_mem_cons.mp ih).1, ih⟩
  | @serve i i' s s' past r response h moment hnow hanswer ih =>
      have hlinkage : Linkage s.store := (List.forall_mem_cons.mp ih).1
      have hserved := (run_respond_served (s := s.atMoment moment) hlinkage hanswer).2
      exact List.forall_mem_cons.mpr ⟨hserved.linkage hlinkage, ih⟩

theorem Run.linkage (h : Run config (⟨i, s⟩ :: past)) : Linkage s.store :=
  h.linkage_of_mem _ List.mem_cons_self

/-- What the latest request of a run did. -/
theorem Run.served (h : Run config (⟨i, s⟩ :: past)) {moment : Moment} {r : Request}
    {i' : Instant} {response : Response}
    (hanswer : ((service config).respond r).run i (s.atMoment moment) =
      .answered i' s' response) : i' = i ∧ Served config i (s.atMoment moment) s' :=
  run_respond_served (s := s.atMoment moment) h.linkage hanswer

/-- **Induction over a run**: time passes, or a request does what a request may do. -/
theorem Run.induct {motive : List Point → Prop} (start : ∀ i moment, motive [⟨i, { moment }⟩])
    (pass : ∀ {i s past} (length : Duration), Run config (⟨i, s⟩ :: past) →
      motive (⟨i, s⟩ :: past) → motive (⟨i.after length, s⟩ :: ⟨i, s⟩ :: past))
    (serve : ∀ {i s s' past} {moment : Moment}, Run config (⟨i, s⟩ :: past) →
      motive (⟨i, s⟩ :: past) → moment.now.IsValid → Served config i (s.atMoment moment) s' →
        motive (⟨i, s'⟩ :: ⟨i, s⟩ :: past))
    {points : List Point} (h : Run config points) : motive points := by
  induction h with
  | start i moment => exact start i moment
  | pass h length ih => exact pass length h ih
  | serve h hnow hanswer ih =>
      obtain ⟨rfl, hserved⟩ := h.served hanswer
      exact serve h ih hnow hserved

/-- **What every request keeps holds throughout a run.** -/
theorem Run.invariant (inv : State → Prop) (start : ∀ moment, inv { moment })
    (keeps : ∀ {i s s'} {moment : Moment}, moment.now.IsValid → Linkage s.store → inv s →
      Served config i (s.atMoment moment) s' → inv s')
    {points : List Point} (h : Run config points) : ∀ p ∈ points, inv p.state := by
  refine Run.induct (motive := fun points => ∀ p ∈ points, inv p.state) ?_ ?_ ?_ h
  · intro i moment
    simpa using start moment
  · intro i s past length _ ih
    exact List.forall_mem_cons.mpr ⟨(List.forall_mem_cons.mp ih).1, ih⟩
  · intro i s s' past moment h ih hnow hserved
    have hinv := keeps hnow h.linkage (List.forall_mem_cons.mp ih).1 hserved
    exact List.forall_mem_cons.mpr ⟨hinv, ih⟩

/-! ## numbers and moments of a run -/

theorem Served.gapless (h : Served config i s s') (hlinkage : Linkage s.store)
    (hgapless : Gapless s.store) : Gapless s'.store := by
  cases h with
  | kept => exact hgapless
  | dropped key => exact hgapless
  | cached hfound hexpires => exact hgapless
  | planted hplants => exact hgapless.of_plants hplants
  | wasted => exact hgapless.takeId
  | posted hlink hchat hnumber =>
      obtain ⟨chat, hchat', hlive, -⟩ := hlinkage.live _ _ _ hlink
      obtain rfl := Option.some.inj (hchat.symm.trans hchat')
      exact hgapless.post hchat hlive hnumber

theorem Run.gapless (h : Run config (⟨i, s⟩ :: past)) : Gapless s.store := by
  refine h.invariant (fun s => Gapless s.store) (fun _ => ChatService.Memory.gapless_empty)
    (fun _ hlinkage hgapless hserved => ?_) _ List.mem_cons_self
  exact hserved.gapless hlinkage hgapless

theorem Served.dates {moment : Moment} (hnow : moment.now.IsValid)
    (h : Served config i (s.atMoment moment) s') (hdates : Dates s.store) : Dates s'.store := by
  cases h with
  | kept => exact hdates
  | dropped key => exact hdates
  | cached hfound hexpires => exact hdates
  | planted hplants => exact hdates.of_plants hnow hplants
  | wasted => exact hdates.takeId
  | posted hlink hchat hnumber => exact hdates.post hnow hchat

theorem Run.dates (h : Run config (⟨i, s⟩ :: past)) : Dates s.store := by
  refine h.invariant (fun s => Dates s.store) (fun _ => ChatService.Memory.dates_empty)
    (fun hnow _ hdates hserved => ?_) _ List.mem_cons_self
  exact hserved.dates hnow hdates

/-! ## requests one after the other -/

/-- The point after a request, where the request is answered. -/
def Point.after (config : Config) (p : Point) (moment : Moment) (r : Request) : Option Point :=
  match ((service config).respond r).run p.instant (p.state.atMoment moment) with
  | .answered i s _ => some ⟨i, s⟩
  | .never | .stopped => none

theorem Run.after {p p' : Point} (h : Run config (p :: past)) {moment : Moment}
    (hnow : moment.now.IsValid) {r : Request} (hafter : p.after config moment r = some p') :
    Run config (p' :: p :: past) := by
  unfold Point.after at hafter
  split at hafter
  · next i s response hanswer =>
      cases hafter
      exact .serve h hnow hanswer
  · contradiction
  · contradiction

/-- The point after several requests, where all of them are answered. -/
def Point.through (config : Config) (moment : Moment) (p : Point) : List Request → Option Point
  | [] => some p
  | r :: rest => (p.after config moment r).bind fun p => p.through config moment rest

theorem Run.through {p p' : Point} (h : Run config (p :: past)) {moment : Moment}
    (hnow : moment.now.IsValid) {requests : List Request}
    (hthrough : p.through config moment requests = some p') :
    ∃ past', Run config (p' :: past') := by
  induction requests generalizing p past with
  | nil =>
      cases hthrough
      exact ⟨past, h⟩
  | cons r rest ih =>
      obtain ⟨next, hnext, hrest⟩ := Option.bind_eq_some_iff.mp hthrough
      exact ih (h.after hnow hnext) hrest

/-- The beginning of a run. -/
def beginning : Point := ⟨⟨0⟩, { moment := ⟨.epoch, "t"⟩ }⟩

/-- A request with a JSON body. -/
def post (uri body : String) : Request :=
  ⟨"POST", .ofUri uri, [("content-type", "application/json")], Text.utf8 body.toList⟩

end ChatService.Http.InMemory
