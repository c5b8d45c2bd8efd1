import ChatService.Proofs.Memory.Consistency
import ChatService.Proofs.Memory.Creation
import ChatService.Proofs.Time.Reading

/-!
# Listings of applications

Applications are listed newest first, and of two that were created at the same moment the one with
the greater id comes first.  Ids stand in the order of creation, so no two applications are alike in
this order, whatever the clock has shown: it may stand still or go back.  Therefore there is one
list of them, in whatever order the map is gone through, and windows of it that follow one another
show each application once.
-/

namespace ChatService.Memory

open Store (Application Operation Outcome)

attribute [local irreducible] idText

variable {requests : List Request} {schedule earlier : List (Turn Moment)} {turn : Turn Moment}
  {n offset limit : Nat} {a b : Application} {applications : List Application}
  {call : OutcomeCall}

/-! ## the order of a listing -/

theorem newestFirst_iff : newestFirst a b = true ↔
    b.createdAt.le a.createdAt = true ∧ (a.createdAt = b.createdAt → b.id ≤ a.id) := by
  unfold newestFirst
  split
  · next heq => simp [heq, Timestamp.le]
  · next hne => simp [hne]

theorem newestFirst_trans {c : Application} (hab : newestFirst a b = true)
    (hbc : newestFirst b c = true) : newestFirst a c = true := by
  rw [newestFirst_iff] at *
  obtain ⟨htime, hid⟩ := hab
  obtain ⟨htime', hid'⟩ := hbc
  refine ⟨Timestamp.le_trans htime' htime, fun hsame => ?_⟩
  have hbetween : a.createdAt = b.createdAt := Timestamp.le_antisymm (hsame ▸ htime') htime
  exact String.le_trans (hid' (hbetween ▸ hsame)) (hid hbetween)

theorem newestFirst_total (a b : Application) :
    (newestFirst a b || newestFirst b a) = true := by
  rw [Bool.or_eq_true, newestFirst_iff, newestFirst_iff]
  by_cases hsame : a.createdAt = b.createdAt
  · obtain hid | hid := String.le_total b.id a.id
    · exact .inl ⟨by simp [hsame, Timestamp.le], fun _ => hid⟩
    · exact .inr ⟨by simp [hsame, Timestamp.le], fun _ => hid⟩
  · obtain htime | htime := Timestamp.le_total b.createdAt a.createdAt
    · exact .inl ⟨htime, fun heq => absurd heq hsame⟩
    · exact .inr ⟨htime, fun heq => absurd heq.symm hsame⟩

theorem id_eq_of_newestFirst (hab : newestFirst a b = true) (hba : newestFirst b a = true) :
    a.id = b.id := by
  rw [newestFirst_iff] at hab hba
  have hsame : a.createdAt = b.createdAt := Timestamp.le_antisymm hba.1 hab.1
  exact String.le_antisymm (hba.2 hsame.symm) (hab.2 hsame)

theorem pairwise_newestFirst (applications : List Application) :
    (applications.mergeSort newestFirst).Pairwise fun a b => newestFirst a b = true :=
  List.pairwise_mergeSort (fun a b c => newestFirst_trans (a := a) (b := b) (c := c))
    newestFirst_total applications

/-- Applications with ids of their own have one order, in whatever order they are found. -/
theorem mergeSort_newestFirst_eq {found : List Application} (hperm : found.Perm applications)
    (hids : (applications.map (·.id)).Nodup) :
    found.mergeSort newestFirst = applications.mergeSort newestFirst := by
  have hsorted : (found.mergeSort newestFirst).Perm (applications.mergeSort newestFirst) :=
    (List.mergeSort_perm _ _).trans (hperm.trans (List.mergeSort_perm _ _).symm)
  refine List.Perm.eq_of_pairwise (fun a b ha hb hab hba => ?_) (pairwise_newestFirst found)
    (pairwise_newestFirst applications) hsorted
  have hmem : a ∈ applications := hperm.subset (List.mem_mergeSort.mp ha)
  exact List.inj_on_of_nodup_map hids hmem (List.mem_mergeSort.mp hb)
    (id_eq_of_newestFirst hab hba)

/-! ## what was created later -/

/-- An application is put before another one: it has a later moment, or was created later at the
same moment. -/
def Newer (requests : List Request) (schedule : List (Turn Moment)) (a b : Application) : Prop :=
  ∃ p q, Created requests schedule p a ∧ Created requests schedule q b ∧
    (b.createdAt.le a.createdAt = true ∧ a.createdAt ≠ b.createdAt ∨
      a.createdAt = b.createdAt ∧ q.before.length < p.before.length)

/-- The order of a listing is that of moments and points of creation. -/
theorem newer_of_newestFirst {p q : CreationPoint} (ha : Created requests schedule p a)
    (hb : Created requests schedule q b) (hfew : (storeAfter requests schedule).ids < 16 ^ 24)
    (hid : a.id ≠ b.id) (h : newestFirst a b = true) : Newer requests schedule a b := by
  obtain ⟨htime, hle⟩ := newestFirst_iff.mp h
  refine ⟨p, q, ha, hb, ?_⟩
  by_cases hsame : a.createdAt = b.createdAt
  · have hlt : b.id < a.id := Std.lt_of_le_of_ne (hle hsame) (Ne.symm hid)
    exact .inr ⟨hsame, (hb.id_lt_iff ha hfew).mp hlt⟩
  · exact .inl ⟨htime, hsame⟩

/-- **Whatever was created is sorted strictly**, if no application is there twice. -/
theorem pairwise_newer (hfew : (storeAfter requests schedule).ids < 16 ^ 24)
    (hcreated : ∀ a ∈ applications, ∃ p, Created requests schedule p a)
    (hids : (applications.map (·.id)).Nodup) :
    (applications.mergeSort newestFirst).Pairwise (Newer requests schedule) := by
  have hne : (applications.mergeSort newestFirst).Pairwise fun a b => a.id ≠ b.id :=
    List.pairwise_map.mp (((List.mergeSort_perm _ _).map Application.id).nodup_iff.mpr hids)
  refine ((pairwise_newestFirst applications).and hne).imp_of_mem ?_
  rintro a b ha hb ⟨hnewest, hid⟩
  obtain ⟨p, hp⟩ := hcreated a (List.mem_mergeSort.mp ha)
  obtain ⟨q, hq⟩ := hcreated b (List.mem_mergeSort.mp hb)
  exact newer_of_newestFirst hp hq hfew hid hnewest

/-! ## what is stored -/

theorem linkage_storeAfter (requests : List Request) (schedule : List (Turn Moment)) :
    Linkage (storeAfter requests schedule) := by
  obtain ⟨_, -, htracked⟩ := exists_tracked requests schedule
  exact htracked.toLinkage

theorem nodup_ids (hfew : (storeAfter requests schedule).ids < 16 ^ 24) :
    ((storeAfter requests schedule).allApplications.map (·.id)).Nodup := by
  obtain ⟨helds, -, haccounted⟩ := runSchedule_accounted requests schedule
  have hids := (haccounted hfew).toInv.ids.nodup.of_append_left.of_append_left
  rw [State.allApplications, List.map_map]
  exact hids

/-- A store, gone through in some order of its map. -/
def State.inOrder (s : State) (entries : Keyed String ApplicationRecord) : State :=
  { s with applications := entries }

section AtRest

variable {s : State} {m : Moment} {entries : Keyed String ApplicationRecord}

/-- A listing of a store answers with a window of its one list. -/
theorem perform_listApplications_inOrder (htokens : (Keyed.keys s.applications).Nodup)
    (hids : (s.allApplications.map (·.id)).Nodup) (hentries : entries.Perm s.applications) :
    perform m (.listApplications offset limit) (s.inOrder entries) =
      (s.inOrder entries,
        .ok (Page.slice offset limit (s.allApplications.mergeSort newestFirst))) := by
  have hkeys : (Keyed.keys (s.inOrder entries).applications).Nodup :=
    (hentries.map Prod.fst).nodup_iff.mpr htokens
  have hall : (s.inOrder entries).allApplications.Perm s.allApplications :=
    hentries.map fun entry : String × ApplicationRecord => entry.2.application
  rw [perform_listApplications hkeys, mergeSort_newestFirst_eq hall hids]

/-- Answers to listings of a store that nothing changes, each of which goes on where the one before
has ended.  The map may be gone through in another order each time. -/
inductive Windows (s : State) : Nat → List (List Application) → Prop where
  | nil : Windows s 0 []
  | next {stop limit : Nat} {answers : List (List Application)} {m : Moment}
      {entries : Keyed String ApplicationRecord} {window : List Application}
      (h : Windows s stop answers) (hentries : entries.Perm s.applications)
      (hwindow : (perform m (.listApplications stop limit) (s.inOrder entries)).2 = .ok window) :
      Windows s (stop + limit) (answers ++ [window])

/-- **Windows show what stands before their end, in its order.** -/
theorem Windows.flatten_eq {stop : Nat} {answers : List (List Application)}
    (htokens : (Keyed.keys s.applications).Nodup)
    (hids : (s.allApplications.map (·.id)).Nodup) (h : Windows s stop answers) :
    answers.flatten = (s.allApplications.mergeSort newestFirst).take stop := by
  induction h with
  | nil => rfl
  | next _ hentries hwindow ih =>
      rw [perform_listApplications_inOrder htokens hids hentries] at hwindow
      obtain rfl := Except.ok.inj hwindow
      rw [List.flatten_append, List.flatten_singleton, ih, Page.slice, List.take_add]

end AtRest

/-! ## a listing among other calls -/

/-- What is sent of the applications that were read. -/
def sortedWindow (offset limit : Nat) (read : List Application) : List Application :=
  Page.slice offset limit (read.mergeSort newestFirst)

/-- An application that a listing comes to, and what had run before. -/
structure ApplicationVisit where
  token : String
  before : List (Turn Moment)

/-- The application that a visit shows. -/
def ApplicationVisit.application? (requests : List Request) (v : ApplicationVisit) :
    Option Application :=
  (Keyed.get? v.token (storeAfter requests v.before).applications).map (·.application)

/-- A call ran its first section after some others. -/
def RanFirst (schedule : List (Turn Moment)) (n : Nat) (before : List (Turn Moment)) : Prop :=
  ∃ turn, turn.call = n ∧ before ++ [turn] <+: schedule ∧ ¬Begun before n

/-- What a listing has read so far: the tokens of all applications, and then one application after
the other, each under its lock, up to those that are left. -/
structure Read (requests : List Request) (schedule : List (Turn Moment)) (n : Nat)
    (looked : List (Turn Moment)) (visits : List ApplicationVisit) (left : List String) : Prop where
  first : RanFirst schedule n looked
  tokens : visits.map (·.token) ++ left = Keyed.keys (storeAfter requests looked).applications
  under : ∀ v ∈ visits, looked <+: v.before ∧
    RanUnder requests schedule n (.application v.token) v.before

/-- How far a listing of applications is. -/
inductive Browsing (requests : List Request) (schedule : List (Turn Moment))
    (n offset limit : Nat) : OutcomeCall → Prop where
  | waiting (hbegun : ¬Begun schedule n) :
      Browsing requests schedule n offset limit
        ((listApplications offset limit).map (.of (.listApplications offset limit)))
  | reading {looked : List (Turn Moment)} {visits : List ApplicationVisit} {left : List String}
      (hread : Read requests schedule n looked visits left)
      (hturns : left ≠ [] → turnsOf schedule n = visits.length + 1) :
      Browsing requests schedule n offset limit
        ((readApplications (fun read => reply (sortedWindow offset limit read)) left
            (visits.filterMap (·.application? requests)).reverse).map
          (.of (.listApplications offset limit)))

section Steps

variable {looked : List (Turn Moment)} {visits : List ApplicationVisit} {left : List String}
  {token : String}

theorem RanFirst.append (h : RanFirst schedule n looked) :
    RanFirst (schedule ++ [turn]) n looked := by
  obtain ⟨first, hcall, hprefix, hbegun⟩ := h
  exact ⟨first, hcall, hprefix.trans (List.prefix_append _ _), hbegun⟩

theorem RanFirst.isPrefix (h : RanFirst schedule n looked) : looked <+: schedule := by
  obtain ⟨first, -, hprefix, -⟩ := h
  exact (List.prefix_append _ _).trans hprefix

theorem Read.append (h : Read requests schedule n looked visits left) :
    Read requests (schedule ++ [turn]) n looked visits left :=
  { h with
    first := h.first.append
    under := fun v hv => ⟨(h.under v hv).1, (h.under v hv).2.append⟩ }

/-- The next application that is left. -/
theorem Read.visit (h : Read requests schedule n looked visits (token :: left))
    (hunder : RanUnder requests (schedule ++ [turn]) n (.application token) schedule) :
    Read requests (schedule ++ [turn]) n looked (visits ++ [⟨token, schedule⟩]) left where
  first := h.first.append
  tokens := by rw [← h.tokens, List.map_append, List.append_assoc]; rfl
  under v hv := by
    obtain hv | hv := List.mem_append.mp hv
    · exact h.append.under v hv
    · obtain rfl := List.mem_singleton.mp hv
      exact ⟨h.first.isPrefix, hunder⟩

theorem Browsing.other (h : Browsing requests schedule n offset limit call)
    (hturn : turn.call ≠ n) : Browsing requests (schedule ++ [turn]) n offset limit call := by
  have hturns : turnsOf (schedule ++ [turn]) n = turnsOf schedule n := turnsOf_append_of_ne hturn
  cases h with
  | waiting hbegun =>
      exact .waiting (mt begun_append_singleton.mp (not_or.mpr ⟨hbegun, hturn⟩))
  | reading hread hcount => exact .reading hread.append fun hleft => hturns.trans (hcount hleft)

/-- A section that comes to an application. -/
theorem advance_readApplications {finish : List Application → StoreCall (List Application)}
    {before : List (Turn Moment)} {i : Moment}
    {f : Store.Answer (List Application) → Outcome} :
    (((readApplications finish (token :: left)
        (visits.filterMap (·.application? requests)).reverse).map f).advance i
          (storeAfter requests before)).2 =
      (readApplications finish left ((visits ++ [ApplicationVisit.mk token before]).filterMap
        (·.application? requests)).reverse).map f := by
  rw [List.filterMap_append, List.reverse_append]
  simp only [readApplications, Call.lookLocked, Call.map, Call.advance]
  cases hfound : Keyed.get? token (storeAfter requests before).applications with
  | none => simp [ApplicationVisit.application?, hfound]
  | some found => simp [ApplicationVisit.application?, hfound]

/-- **A turn takes a listing one application further.** -/
theorem Browsing.advance (h : Browsing requests schedule turn.call offset limit call)
    (hcall : (callsAfter requests schedule)[turn.call]? = some call) :
    Browsing requests (schedule ++ [turn]) turn.call offset limit
      (call.advance turn.input (storeAfter requests schedule)).2 := by
  have hturns : turnsOf (schedule ++ [turn]) turn.call = turnsOf schedule turn.call + 1 :=
    turnsOf_append_self
  cases h with
  | waiting hbegun =>
      have hnone : turnsOf schedule turn.call = 0 := by
        simpa [turnsOf, Begun] using hbegun
      have hread : Read requests (schedule ++ [turn]) turn.call schedule []
          (Keyed.keys (storeAfter requests schedule).applications) :=
        ⟨⟨turn, rfl, List.prefix_rfl, hbegun⟩, rfl, by simp⟩
      exact .reading hread fun _ => by simp [hturns, hnone]
  | @reading looked visits left hread hcount =>
      cases left with
      | nil => exact .reading hread.append (by simp)
      | cons token left =>
          have hunder : RanUnder requests (schedule ++ [turn]) turn.call (.application token)
              schedule := ranUnder_append_singleton hcall rfl
          have hturns := hturns.trans (congrArg (· + 1) (hcount (by simp)))
          rw [advance_readApplications]
          exact .reading (hread.visit hunder) fun _ => by simpa using hturns

end Steps

/-- **However the calls are interleaved**, a listing is as far as it says. -/
theorem browsing_of_listApplications
    (hrequest : requests[n]? = some ⟨_, .listApplications offset limit⟩)
    (hcall : (callsAfter requests schedule)[n]? = some call) :
    Browsing requests schedule n offset limit call := by
  refine runSchedule_call_induct
    (motive := fun schedule call => Browsing requests schedule n offset limit call)
    (fun hstart => ?_) ?_ (fun hother hbrowsing => hbrowsing.other hother) hcall
  · simp only [start, List.getElem?_map, hrequest] at hstart
    cases hstart
    exact .waiting (by simp [Begun])
  · rintro schedule turn call rfl hcall hbrowsing
    exact hbrowsing.advance hcall

/-! ## what a listing among other calls answers -/

/-- An application that was stored stays, and is as it was created. -/
theorem exists_later {token : String} {found : ApplicationRecord} (hearlier : earlier <+: schedule)
    (hfound : Keyed.get? token (storeAfter requests earlier).applications = some found) :
    ∃ found', Keyed.get? token (storeAfter requests schedule).applications = some found' ∧
      asCreated found'.application = asCreated found.application := by
  have horiginal : asCreated found.application ∈ (storeAfter requests earlier).originals :=
    List.mem_map_of_mem (List.mem_map_of_mem (f := fun entry => entry.2.application)
      (Keyed.mem_of_get?_eq_some hfound))
  obtain ⟨a, ha, hsame⟩ := List.mem_map.mp ((originals_later requests hearlier).subset horiginal)
  obtain ⟨⟨token', found'⟩, hentry, rfl⟩ := List.mem_map.mp ha
  have hlinkage := linkage_storeAfter requests schedule
  have hfound' := (Keyed.get?_eq_some_iff_mem hlinkage.tokens).mpr hentry
  have htokens := congrArg Application.token hsame
  have htoken : token' = token := by
    rw [← hlinkage.token _ _ hfound', ← (linkage_storeAfter requests earlier).token _ _ hfound]
    exact htokens
  exact ⟨found', htoken ▸ hfound', hsame⟩

theorem length_applications_le (requests : List Request) (hearlier : earlier <+: schedule) :
    (storeAfter requests earlier).applications.length ≤
      (storeAfter requests schedule).applications.length := by
  simpa [State.originals, State.allApplications] using
    (originals_later requests hearlier).length_le

/-- What a listing among other calls shows. -/
structure Shown (requests : List Request) (schedule : List (Turn Moment)) (n : Nat)
    (looked : List (Turn Moment)) (shown : List Application) : Prop where
  first : RanFirst schedule n looked
  /-- All that were stored when the listing began, -/
  all : (shown.map asCreated).Perm (storeAfter requests looked).originals
  /-- each as it was when the listing came to it, -/
  read : ∀ a ∈ shown, ∃ before, looked <+: before ∧
    RanUnder requests schedule n (.application a.token) before ∧
      a ∈ (storeAfter requests before).allApplications
  /-- and newest first. -/
  order : shown.Pairwise (Newer requests schedule)

section Answers

variable {looked : List (Turn Moment)} {visits : List ApplicationVisit} {left : List String}
  {v : ApplicationVisit}

/-- What is found at a visit is what was there when the listing began. -/
theorem Read.application?_eq (h : Read requests schedule n looked visits left) (hv : v ∈ visits) :
    (v.application? requests).map asCreated =
      (Keyed.get? v.token (storeAfter requests looked).applications).map
        fun found => asCreated found.application := by
  have hkey : v.token ∈ Keyed.keys (storeAfter requests looked).applications := by
    rw [← h.tokens]
    exact List.mem_append_left _ (List.mem_map_of_mem hv)
  cases hfound : Keyed.get? v.token (storeAfter requests looked).applications with
  | none => exact absurd hkey (Keyed.get?_eq_none_iff.mp hfound)
  | some found =>
      obtain ⟨found', hfound', hsame⟩ := exists_later (h.under v hv).1 hfound
      simp [ApplicationVisit.application?, hfound', hsame]

/-- A listing that has come to all applications has read those that were there at its beginning. -/
theorem Read.map_asCreated (h : Read requests schedule n looked visits []) :
    (visits.filterMap (·.application? requests)).map asCreated =
      (storeAfter requests looked).originals := by
  let original (token : String) : Option Application :=
    (Keyed.get? token (storeAfter requests looked).applications).map
      fun found => asCreated found.application
  have hvisits : (visits.filterMap (·.application? requests)).map asCreated =
      (visits.map (·.token)).filterMap original := by
    rw [List.map_filterMap, List.filterMap_map]
    exact List.filterMap_congr fun v hv => h.application?_eq hv
  have htokens : visits.map (·.token) = Keyed.keys (storeAfter requests looked).applications := by
    simpa using h.tokens
  have hnodup := (linkage_storeAfter requests looked).tokens
  rw [hvisits, htokens, Keyed.keys, List.filterMap_map, State.originals, State.allApplications,
    List.map_map, ← List.filterMap_eq_map]
  refine List.filterMap_congr fun entry hentry => ?_
  have hget := (Keyed.get?_eq_some_iff_mem hnodup).mpr hentry
  simp [original, hget]

/-- What was read was stored when the listing came to it. -/
theorem Read.exists_before (h : Read requests schedule n looked visits left)
    (ha : a ∈ visits.filterMap (·.application? requests)) : ∃ before, looked <+: before ∧
      RanUnder requests schedule n (.application a.token) before ∧
        a ∈ (storeAfter requests before).allApplications := by
  obtain ⟨v, hv, hshown⟩ := List.mem_filterMap.mp ha
  obtain ⟨found, hfound, rfl⟩ := Option.map_eq_some_iff.mp hshown
  obtain ⟨hlooked, hunder⟩ := h.under v hv
  have htoken := (linkage_storeAfter requests v.before).token _ _ hfound
  exact ⟨v.before, hlooked, htoken ▸ hunder,
    List.mem_map_of_mem (f := fun entry => entry.2.application)
      (Keyed.mem_of_get?_eq_some hfound)⟩

/-- Nothing was read twice. -/
theorem Read.nodup_ids (h : Read requests schedule n looked visits [])
    (hfew : (storeAfter requests schedule).ids < 16 ^ 24) :
    ((visits.filterMap (·.application? requests)).map (·.id)).Nodup := by
  have hle := ids_le_later requests h.first.isPrefix
  have hread : ((visits.filterMap (·.application? requests)).map asCreated).map (·.id) =
      (visits.filterMap (·.application? requests)).map (·.id) := List.map_map ..
  have hstored : (storeAfter requests looked).originals.map (·.id) =
      (storeAfter requests looked).allApplications.map (·.id) := List.map_map ..
  rw [← hread, h.map_asCreated, hstored]
  exact Memory.nodup_ids (by omega)

/-- **What a listing has read is what it shows.** -/
theorem Read.shown (h : Read requests schedule n looked visits [])
    (hfew : (storeAfter requests schedule).ids < 16 ^ 24) :
    Shown requests schedule n looked
      ((visits.filterMap (·.application? requests)).mergeSort newestFirst) where
  first := h.first
  all := h.map_asCreated ▸ (List.mergeSort_perm _ _).map _
  read _ ha := h.exists_before (List.mem_mergeSort.mp ha)
  order := by
    refine pairwise_newer hfew (fun a ha => ?_) (h.nodup_ids hfew)
    obtain ⟨before, -, hunder, hstored⟩ := h.exists_before ha
    obtain ⟨p, hp⟩ := exists_created hstored
    exact ⟨p, hp.mono hunder.isPrefix⟩

/-- A listing that has had a turn for every application has come to its end. -/
theorem Browsing.answer (h : Browsing requests schedule n offset limit call)
    (hturns : (storeAfter requests schedule).applications.length + 1 ≤ turnsOf schedule n) :
    ∃ answer, call = .done (.of (.listApplications offset limit) answer) := by
  cases h with
  | waiting hbegun =>
      have hnone : turnsOf schedule n = 0 := by simpa [turnsOf, Begun] using hbegun
      omega
  | @reading looked visits left hread hcount =>
      cases left with
      | nil => exact ⟨_, rfl⟩
      | cons token left =>
          have hlength := congrArg List.length hread.tokens
          have hle := length_applications_le requests hread.first.isPrefix
          have hcount := hcount (by simp)
          simp only [List.length_append, List.length_map, List.length_cons, Keyed.keys] at hlength
          omega

/-- How a listing that has returned has come to its answer. -/
theorem Browsing.returned {answer : Store.Answer (List Application)}
    (h : Browsing requests schedule n offset limit
      (.done (.of (.listApplications offset limit) answer)))
    (hfew : (storeAfter requests schedule).ids < 16 ^ 24) :
    ∃ looked shown, answer = .ok (Page.slice offset limit shown) ∧
      Shown requests schedule n looked shown := by
  generalize hcall : Call.done (Outcome.of (.listApplications offset limit) answer) = call at h
  cases h with
  | waiting => cases hcall
  | @reading looked visits left hread =>
      cases left with
      | nil =>
          cases hcall
          rw [List.reverse_reverse]
          exact ⟨looked, _, rfl, hread.shown hfew⟩
      | cons token left => cases hcall

end Answers

/-! ## after any run -/

/-- All applications, each of them once, and every one of them newer than those behind it. -/
structure NewestFirst (requests : List Request) (schedule : List (Turn Moment))
    (applications : List Application) : Prop where
  all : applications.Perm (storeAfter requests schedule).allApplications
  once : applications.Nodup
  order : applications.Pairwise (Newer requests schedule)

theorem newestFirst_mergeSort (hfew : (storeAfter requests schedule).ids < 16 ^ 24) :
    NewestFirst requests schedule
      ((storeAfter requests schedule).allApplications.mergeSort newestFirst) where
  all := List.mergeSort_perm _ _
  once := (List.mergeSort_perm _ _).nodup_iff.mpr (List.Nodup.of_map _ (nodup_ids hfew))
  order := pairwise_newer hfew (fun _ ha => exists_created ha) (nodup_ids hfew)

/-- **Listings are newest first.**  Among calls of any kind that start on the empty store, in any
order of their sections and at any moments, ids compare as texts like their numbers, every
application was created at one point, and a creation that had returned before another one began was
before it.  The applications that are stored have one order, by their moments and then by the points
of their creation, latest first: a listing answers with its window of it, in whatever order the map
is gone through, and windows that follow one another show each application once.  A listing that
runs among other calls comes to its end, and shows in this order what was stored when it began.
`hfew` says that the counter of ids, which has 64 bits, has not run over. -/
theorem listApplications_newestFirst (requests : List Request) (schedule : List (Turn Moment))
    (hfew : (storeAfter requests schedule).ids ≤ Word.maxUInt64) :
    (∀ i j, i ≤ Word.maxUInt64 → j ≤ Word.maxUInt64 → (idText i < idText j ↔ i < j)) ∧
    (∀ a ∈ (storeAfter requests schedule).allApplications, ∃! p, Created requests schedule p a) ∧
    (∀ p q a b, Created requests schedule p a → Created requests schedule q b →
      Precedes .empty (start requests) schedule p.turn.call q.turn.call →
        p.before.length < q.before.length) ∧
    (∃ applications, NewestFirst requests schedule applications ∧
      (∀ m entries offset limit, entries.Perm (storeAfter requests schedule).applications →
        perform m (.listApplications offset limit)
            ((storeAfter requests schedule).inOrder entries) =
          ((storeAfter requests schedule).inOrder entries,
            .ok (Page.slice offset limit applications))) ∧
      ∀ stop answers, Windows (storeAfter requests schedule) stop answers →
        answers.flatten = applications.take stop) ∧
    ∀ n offset limit, requests[n]? = some ⟨_, .listApplications offset limit⟩ →
      ((storeAfter requests schedule).applications.length + 1 ≤ turnsOf schedule n →
        ∃ answer, (callsAfter requests schedule)[n]? =
          some (.done (.of (.listApplications offset limit) answer))) ∧
      ∀ answer, (callsAfter requests schedule)[n]? =
          some (.done (.of (.listApplications offset limit) answer)) →
        ∃ looked shown, answer = .ok (Page.slice offset limit shown) ∧
          Shown requests schedule n looked shown := by
  have hmax : Word.maxUInt64 < 16 ^ 24 := by decide
  have hfew : (storeAfter requests schedule).ids < 16 ^ 24 := Nat.lt_of_le_of_lt hfew hmax
  have htokens := (linkage_storeAfter requests schedule).tokens
  refine ⟨fun i j hi hj => idText_lt_idText (by omega) (by omega), fun a ha => ?_,
    fun p q a b ha hb => ha.length_lt_of_precedes hb,
    ⟨_, newestFirst_mergeSort hfew,
      fun m entries offset limit => perform_listApplications_inOrder htokens (nodup_ids hfew),
      fun stop answers hwindows => hwindows.flatten_eq htokens (nodup_ids hfew)⟩,
    fun n offset limit hrequest => ⟨fun hturns => ?_, fun answer hcall =>
      (browsing_of_listApplications hrequest hcall).returned hfew⟩⟩
  · obtain ⟨p, hp⟩ := exists_created ha
    exact ⟨p, hp, fun q hq => hq.unique hp rfl hfew⟩
  · obtain ⟨call, hcall⟩ := exists_call schedule hrequest
    obtain ⟨answer, rfl⟩ := (browsing_of_listApplications hrequest hcall).answer hturns
    exact ⟨answer, hcall⟩

/-- Three applications are created, and listed meanwhile. -/
def createThree : List Request :=
  [⟨_, .createApplication (some "a")⟩, ⟨_, .createApplication (some "b")⟩,
    ⟨_, .createApplication (some "c")⟩, ⟨_, .listApplications 0 2⟩]

/-- The first and the last application are made at the same moment.  The clock has gone back when
the second one is made, which is stored before the first one.  The listing begins before the last
one is made, and comes to the others after it is stored. -/
def backAndForth : List (Turn Moment) :=
  [(0, 5, "s"), (1, 3, "t"), (1, 0, ""), (0, 0, ""), (3, 0, ""), (2, 5, "u"), (2, 0, ""),
    (3, 0, ""), (3, 0, ""), (3, 0, "")].map fun (call, seconds, token) =>
      ⟨call, ⟨⟨seconds, 0⟩, token⟩⟩

/-- The applications in their order, with the ids 3, 1 and 2. -/
def lastFirstSecond : List Application :=
  [newApplication ⟨⟨5, 0⟩, "u"⟩ 3 "c", newApplication ⟨⟨5, 0⟩, "s"⟩ 1 "a",
    newApplication ⟨⟨3, 0⟩, "t"⟩ 2 "b"]

/-- Listings of the three, at rest and among the other calls. -/
theorem listApplications_backAndForth :
    (storeAfter createThree backAndForth).ids ≤ Word.maxUInt64 ∧
    NewestFirst createThree backAndForth lastFirstSecond ∧
    (perform ⟨.epoch, ""⟩ (.listApplications 1 1) ((storeAfter createThree backAndForth).inOrder
      (storeAfter createThree backAndForth).applications.reverse)).2 =
        .ok [newApplication ⟨⟨5, 0⟩, "s"⟩ 1 "a"] ∧
    ∃ looked shown, Shown createThree backAndForth 3 looked shown ∧
      Page.slice 0 2 shown = lastFirstSecond.drop 1 := by
  have hids : (storeAfter createThree backAndForth).ids ≤ Word.maxUInt64 := by decide +kernel
  obtain ⟨-, -, -, ⟨applications, hnewest, hperform, -⟩, hlist⟩ :=
    listApplications_newestFirst createThree backAndForth hids
  have hall : lastFirstSecond.Perm (storeAfter createThree backAndForth).allApplications := by
    decide +kernel
  have hsorted : lastFirstSecond.Pairwise fun a b => newestFirst a b = true := by decide +kernel
  have hnodup : (lastFirstSecond.map (·.id)).Nodup := by decide +kernel
  have happlications : applications = lastFirstSecond := by
    have hlisted := (hperform ⟨.epoch, ""⟩ _ 0 3 (.refl _)).symm.trans
      (perform_listApplications (by decide +kernel))
    have hlength : applications.length = 3 := (hnewest.all.trans hall.symm).length_eq
    have hslice : Page.slice 0 3 applications = Page.slice 0 3
        ((storeAfter createThree backAndForth).allApplications.mergeSort newestFirst) :=
      Except.ok.inj (Prod.mk.inj hlisted).2
    rw [mergeSort_newestFirst_eq hall.symm hnodup, List.mergeSort_of_pairwise hsorted] at hslice
    rwa [Page.slice, List.drop_zero, List.take_of_length_le (Nat.le_of_eq hlength)] at hslice
  subst happlications
  refine ⟨hids, hnewest, ?_, ?_⟩
  · rw [hperform _ _ _ _ (List.reverse_perm _)]
    rfl
  · obtain ⟨-, hanswers⟩ := hlist 3 0 2 rfl
    have hcall : (callsAfter createThree backAndForth)[3]? =
        some (.done (.of (.listApplications 0 2)
          (.ok (sortedWindow 0 2 (lastFirstSecond.drop 1).reverse)))) := rfl
    obtain ⟨looked, shown, hanswer, hshown⟩ := hanswers _ hcall
    have hslice := Except.ok.inj hanswer
    have hlast := List.drop_sublist 1 lastFirstSecond
    rw [sortedWindow,
      mergeSort_newestFirst_eq (List.reverse_perm _) (hnodup.sublist (hlast.map _)),
      List.mergeSort_of_pairwise (hsorted.sublist hlast)] at hslice
    exact ⟨looked, shown, hshown, hslice.symm⟩

end ChatService.Memory
