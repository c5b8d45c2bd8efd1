import ChatService.Proofs.Memory.Fates

/-!
# Listing chats while they come and go

A listing of chats holds its application only while it cuts its window out of the links.  Then it
comes to the chats of the window one by one, each under a lock of its own, and other calls create,
write to and delete chats in between.  What it answers is known from the points at which it did so
(`Seen`): the chats of the window in their order, without those whose deletion had returned by the
time that the listing came to them, and each of them as it was at that time.
-/

namespace ChatService.Memory

open Store (Outcome)

attribute [local irreducible] idText

variable {requests : List Request} {schedule earlier later before : List (Turn Moment)}
  {turn : Turn Moment} {n : Nat} {lock : Lock} {token : String} {number : Int} {offset limit : Nat}
  {call : OutcomeCall}

/-! ## sections under a lock -/

/-- A call ran a section under a lock, after some others had run. -/
def RanUnder (requests : List Request) (schedule : List (Turn Moment)) (n : Nat) (lock : Lock)
    (before : List (Turn Moment)) : Prop :=
  ∃ turn, turn.call = n ∧ before ++ [turn] <+: schedule ∧ Takes (callsAfter requests before) n lock

theorem RanUnder.append (h : RanUnder requests schedule n lock before) :
    RanUnder requests (schedule ++ [turn]) n lock before := by
  obtain ⟨turn, hturn, hprefix, htakes⟩ := h
  exact ⟨turn, hturn, hprefix.trans (List.prefix_append _ _), htakes⟩

/-- The next section of a call that waits for a lock. -/
theorem ranUnder_append_singleton (hcall : (callsAfter requests schedule)[turn.call]? = some call)
    (hlock : call.nextLock? = some lock) :
    RanUnder requests (schedule ++ [turn]) turn.call lock schedule :=
  ⟨turn, rfl, List.prefix_rfl, by rw [Takes, hcall, Option.bind_some, hlock]⟩

theorem RanUnder.isPrefix (h : RanUnder requests schedule n lock before) : before <+: schedule := by
  obtain ⟨turn, -, hprefix, -⟩ := h
  exact (List.prefix_append _ _).trans hprefix

theorem RanUnder.length_lt (h : RanUnder requests schedule n lock before) :
    before.length < schedule.length := by
  obtain ⟨turn, -, hprefix, -⟩ := h
  have hlength := hprefix.length_le
  rw [List.length_append, List.length_singleton] at hlength
  omega

/-- A point at which the call has not begun comes before its sections. -/
theorem RanUnder.prefix_of_not_begun (h : RanUnder requests schedule n lock before)
    (hearlier : earlier <+: schedule) (hbegun : ¬Begun earlier n) : earlier <+: before := by
  obtain ⟨turn, rfl, hprefix, -⟩ := h
  refine List.prefix_of_prefix_length_le hearlier ((List.prefix_append _ _).trans hprefix) ?_
  by_contra hlength
  have hpast : before ++ [turn] <+: earlier :=
    List.prefix_of_prefix_length_le hprefix hearlier (by simp; omega)
  exact hbegun ⟨turn, hpast.subset (by simp), rfl⟩

/-- A point at which the call has returned comes after its sections. -/
theorem RanUnder.prefix_of_returned (h : RanUnder requests schedule n lock before)
    (hlater : later <+: schedule) (hreturned : Returned .empty (start requests) later n) :
    before <+: later := by
  obtain hprefix | hpast := List.prefix_or_prefix_of_prefix h.isPrefix hlater
  · exact hprefix
  · obtain ⟨-, outcome, hdone⟩ := hreturned.mono hpast
    obtain ⟨-, -, -, htakes⟩ := h
    rw [Takes, callsAfter, hdone] at htakes
    contradiction

/-- How many sections a call has run. -/
def turnsOf (schedule : List (Turn Moment)) (n : Nat) : Nat :=
  schedule.countP fun turn => turn.call = n

theorem turnsOf_append_self :
    turnsOf (schedule ++ [turn]) turn.call = turnsOf schedule turn.call + 1 := by
  simp [turnsOf]

theorem turnsOf_append_of_ne (h : turn.call ≠ n) :
    turnsOf (schedule ++ [turn]) n = turnsOf schedule n := by
  simp [turnsOf, h]

/-! ## what a listing sees -/

/-- A chat that a listing comes to, and what had run before. -/
structure Visit where
  number : Int
  record : Nat
  before : List (Turn Moment)

/-- The chat that a visit shows, unless it is marked as deleted. -/
def Visit.chat? (requests : List Request) (v : Visit) : Option Store.Chat :=
  ((Keyed.get? v.record (storeAfter requests v.before).chats).filter fun chat =>
    !chat.deleted).map (·.chat)

/-- What a listing has seen so far: the links of the application, under its lock, and the chats of
the window up to those that are left, one after the other and each under its lock. -/
structure Seen (requests : List Request) (schedule : List (Turn Moment)) (n : Nat) (token : String)
    (offset limit : Nat) (cut : List (Turn Moment)) (found : ApplicationRecord)
    (visits : List Visit) (left : Keyed Int Nat) : Prop where
  cutUnder : RanUnder requests schedule n (.application token) cut
  stored : Keyed.get? token (storeAfter requests cut).applications = some found
  window : visits.map (fun v => (v.number, v.record)) ++ left = Page.slice offset limit found.chats
  visitUnder : ∀ v ∈ visits, RanUnder requests schedule n (.chat v.record) v.before
  order : (cut :: visits.map (·.before)).Pairwise fun a b => a.length < b.length

/-- A listing that has found its application and is yet to cut its window. -/
def cutting (token : String) (offset limit : Nat) : StoreCall (List Store.Chat) :=
  .locked (.application token) fun _ s =>
    match Keyed.get? token s.applications with
    | none => (s, refuse (.applicationNotFound token))
    | some found => (s, readChats ((Page.slice offset limit found.chats).map (·.2)) [])

/-- The application of a call was not there when the call ran some section. -/
def Missed (requests : List Request) (schedule : List (Turn Moment)) (n : Nat) (token : String) :
    Prop :=
  ∃ before turn, turn.call = n ∧ before ++ [turn] <+: schedule ∧
    Keyed.get? token (storeAfter requests before).applications = none

/-- How far a listing is, and what it has seen. -/
inductive Progress (requests : List Request) (schedule : List (Turn Moment)) (n : Nat)
    (token : String) (offset limit : Nat) : OutcomeCall → Prop where
  | waiting (hturns : turnsOf schedule n = 0) :
      Progress requests schedule n token offset limit
        ((listChats token offset limit).map (.of (.listChats token offset limit)))
  | cutting (hturns : turnsOf schedule n = 1) :
      Progress requests schedule n token offset limit
        ((cutting token offset limit).map (.of (.listChats token offset limit)))
  | missing (hmissed : Missed requests schedule n token) :
      Progress requests schedule n token offset limit
        (.done (.of (.listChats token offset limit) (.error (.applicationNotFound token))))
  | reading {cut : List (Turn Moment)} {found : ApplicationRecord} {visits : List Visit}
      {left : Keyed Int Nat}
      (hseen : Seen requests schedule n token offset limit cut found visits left)
      (hturns : left ≠ [] → turnsOf schedule n = visits.length + 2) :
      Progress requests schedule n token offset limit
        ((readChats (left.map (·.2)) (visits.filterMap (·.chat? requests)).reverse).map
          (.of (.listChats token offset limit)))

section Steps

variable {cut : List (Turn Moment)} {found : ApplicationRecord} {visits : List Visit} {record : Nat}
  {left : Keyed Int Nat}

theorem Missed.append (h : Missed requests schedule n token) :
    Missed requests (schedule ++ [turn]) n token := by
  obtain ⟨before, turn, hturn, hprefix, hnone⟩ := h
  exact ⟨before, turn, hturn, hprefix.trans (List.prefix_append _ _), hnone⟩

theorem Seen.append (h : Seen requests schedule n token offset limit cut found visits left) :
    Seen requests (schedule ++ [turn]) n token offset limit cut found visits left :=
  { h with
    cutUnder := h.cutUnder.append
    visitUnder := fun v hv => (h.visitUnder v hv).append }

/-- The next chat that is left. -/
theorem Seen.visit
    (h : Seen requests schedule n token offset limit cut found visits ((number, record) :: left))
    (hunder : RanUnder requests (schedule ++ [turn]) n (.chat record) schedule) :
    Seen requests (schedule ++ [turn]) n token offset limit cut found
      (visits ++ [⟨number, record, schedule⟩]) left where
  cutUnder := h.cutUnder.append
  stored := h.stored
  window := by rw [← h.window, List.map_append, List.append_assoc]; rfl
  visitUnder v hv := by
    obtain hv | hv := List.mem_append.mp hv
    · exact (h.visitUnder v hv).append
    · obtain rfl := List.mem_singleton.mp hv
      exact hunder
  order := by
    have hbefore : ∀ p ∈ cut :: visits.map (·.before), p.length < schedule.length := by
      intro p hp
      obtain rfl | hp := List.mem_cons.mp hp
      · exact h.cutUnder.length_lt
      · obtain ⟨v, hv, rfl⟩ := List.mem_map.mp hp
        exact (h.visitUnder v hv).length_lt
    have hlast : ∀ p ∈ cut :: visits.map (·.before), ∀ other ∈ [schedule],
        p.length < other.length := by simpa using hbefore
    rw [List.map_append, ← List.cons_append]
    exact List.pairwise_append.mpr ⟨h.order, List.pairwise_singleton _ _, hlast⟩

/-- The turns of other calls take a listing no further. -/
theorem Progress.other (h : Progress requests schedule n token offset limit call)
    (hturn : turn.call ≠ n) :
    Progress requests (schedule ++ [turn]) n token offset limit call := by
  have hturns : turnsOf (schedule ++ [turn]) n = turnsOf schedule n := turnsOf_append_of_ne hturn
  cases h with
  | waiting hcount => exact .waiting (hturns.trans hcount)
  | cutting hcount => exact .cutting (hturns.trans hcount)
  | missing hmissed => exact .missing hmissed.append
  | reading hseen hcount => exact .reading hseen.append fun hleft => hturns.trans (hcount hleft)

/-- A section that comes to a chat. -/
theorem advance_readChats (number : Int) {records : List Nat} {before : List (Turn Moment)}
    {i : Moment} {f : Store.Answer (List Store.Chat) → Outcome} :
    (((readChats (record :: records) (visits.filterMap (·.chat? requests)).reverse).map f).advance i
        (storeAfter requests before)).2 =
      (readChats records
        ((visits ++ [Visit.mk number record before]).filterMap
          (·.chat? requests)).reverse).map f := by
  rw [List.filterMap_append, List.reverse_append]
  simp only [readChats, Call.lookLocked, Call.map, Call.advance]
  cases hchat : Keyed.get? record (storeAfter requests before).chats with
  | none => simp [Visit.chat?, hchat]
  | some chat => cases hdeleted : chat.deleted <;> simp [Visit.chat?, hchat, hdeleted]

/-- **A turn takes a listing one section further.** -/
theorem Progress.advance (h : Progress requests schedule turn.call token offset limit call)
    (hcall : (callsAfter requests schedule)[turn.call]? = some call) :
    Progress requests (schedule ++ [turn]) turn.call token offset limit
      (call.advance turn.input (storeAfter requests schedule)).2 := by
  have hturns : turnsOf (schedule ++ [turn]) turn.call = turnsOf schedule turn.call + 1 :=
    turnsOf_append_self
  have hmissed (hnone : Keyed.get? token (storeAfter requests schedule).applications = none) :
      Missed requests (schedule ++ [turn]) turn.call token :=
    ⟨schedule, turn, rfl, List.prefix_rfl, hnone⟩
  cases h with
  | waiting hcount =>
      simp only [listChats, withApplication, Call.look, Call.map, Call.advance]
      cases hfound : Keyed.get? token (storeAfter requests schedule).applications with
      | none => exact .missing (hmissed hfound)
      | some found => exact .cutting (by omega)
  | cutting hcount =>
      have hunder :
          RanUnder requests (schedule ++ [turn]) turn.call (.application token) schedule :=
        ranUnder_append_singleton hcall rfl
      simp only [Memory.cutting, Call.locked, Call.map, Call.advance]
      cases hfound : Keyed.get? token (storeAfter requests schedule).applications with
      | none => exact .missing (hmissed hfound)
      | some found =>
          have hseen : Seen requests (schedule ++ [turn]) turn.call token offset limit schedule
              found [] (Page.slice offset limit found.chats) :=
            ⟨hunder, hfound, rfl, by simp, by simp⟩
          exact .reading hseen fun _ => by simp [hturns, hcount]
  | missing hmissed => exact .missing hmissed.append
  | @reading cut found visits left hseen hcount =>
      cases left with
      | nil => exact .reading hseen.append (by simp)
      | cons entry left =>
          obtain ⟨number, record⟩ := entry
          have hunder : RanUnder requests (schedule ++ [turn]) turn.call (.chat record) schedule :=
            ranUnder_append_singleton hcall rfl
          have hturns := hturns.trans (congrArg (· + 1) (hcount (by simp)))
          rw [List.map_cons, advance_readChats number]
          exact .reading (hseen.visit hunder) fun _ => by simpa using hturns

end Steps

/-- **However the calls are interleaved**, a listing is as far as it says. -/
theorem progress_of_listChats (hrequest : requests[n]? = some ⟨_, .listChats token offset limit⟩)
    (hcall : (callsAfter requests schedule)[n]? = some call) :
    Progress requests schedule n token offset limit call := by
  refine runSchedule_call_induct
    (motive := fun schedule call => Progress requests schedule n token offset limit call)
    (fun hstart => ?_) ?_ (fun hother hprogress => hprogress.other hother) hcall
  · simp only [start, List.getElem?_map, hrequest] at hstart
    cases hstart
    exact .waiting rfl
  · rintro schedule turn call rfl hcall hprogress
    exact hprogress.advance hcall

/-! ## what a listing answers -/

/-- What a listing answers, after it has come to every chat of its window. -/
structure Listed (requests : List Request) (schedule : List (Turn Moment)) (n : Nat)
    (token : String) (offset limit : Nat) (chats : List Store.Chat) (cut : List (Turn Moment))
    (found : ApplicationRecord) (visits : List Visit) : Prop
    extends Seen requests schedule n token offset limit cut found visits [] where
  /-- The answer is what the visits show, -/
  shown : chats = visits.filterMap (·.chat? requests)
  /-- which is nothing exactly if a deletion had returned by then, -/
  deleted : ∀ v ∈ visits, v.chat? requests = none ↔
    v.number ∈ numbersDeleted token (callsAfter requests v.before)
  /-- and the chat, with as many messages as it had then, if not. -/
  read : ∀ v ∈ visits, ∀ chat, v.chat? requests = some chat → chat.number = v.number ∧
    ∃ record, Keyed.get? v.record (storeAfter requests v.before).chats = some record ∧
      record.chat = chat ∧ chat.messagesCount = record.messages.length
  ascending : chats.Pairwise fun a b => a.number < b.number
  limited : chats.length ≤ limit
  /-- A chat of the window is there if it was not deleted when the listing had returned, -/
  undeleted : ∀ number ∈ Keyed.keys (Page.slice offset limit found.chats), ∀ later,
    later <+: schedule → Returned .empty (start requests) later n →
      number ∉ numbersDeleted token (callsAfter requests later) →
        ∃ chat ∈ chats, chat.number = number
  /-- and no chat is there whose deletion had returned when the listing began. -/
  gone : ∀ number earlier, earlier <+: schedule → ¬Begun earlier n →
    number ∈ numbersDeleted token (callsAfter requests earlier) →
      ∀ chat ∈ chats, chat.number ≠ number

section Answers

variable {cut : List (Turn Moment)} {found : ApplicationRecord} {visits : List Visit} {v : Visit}
  {left : Keyed Int Nat}

theorem Seen.length_le (h : Seen requests schedule n token offset limit cut found visits left) :
    visits.length + left.length ≤ limit := by
  have hlength := congrArg List.length h.window
  rw [List.length_append, List.length_map] at hlength
  rw [hlength]
  exact List.length_take_le _ _

theorem Seen.cut_prefix (h : Seen requests schedule n token offset limit cut found visits left)
    (hv : v ∈ visits) : cut <+: v.before := by
  have hlt := List.rel_of_pairwise_cons h.order (List.mem_map_of_mem hv)
  exact List.prefix_of_prefix_length_le h.cutUnder.isPrefix (h.visitUnder v hv).isPrefix
    (Nat.le_of_lt hlt)

/-- Every visit is to a chat that was linked under the lock of the application. -/
theorem Seen.linkedAt (h : Seen requests schedule n token offset limit cut found visits left)
    (hv : v ∈ visits) : LinkedAt (storeAfter requests cut) token v.number v.record := by
  obtain ⟨_, -, htracked⟩ := exists_tracked requests cut
  have hwindow : (v.number, v.record) ∈ Page.slice offset limit found.chats := by
    rw [← h.window]
    exact List.mem_append_left _ (List.mem_map_of_mem (f := fun v => (v.number, v.record)) hv)
  exact (htracked.mem_chats_iff h.stored).mp (List.mem_of_mem_drop (List.mem_of_mem_take hwindow))

theorem Seen.ascending (h : Seen requests schedule n token offset limit cut found visits left) :
    visits.Pairwise fun v w => v.number < w.number := by
  obtain ⟨_, -, htracked⟩ := exists_tracked requests cut
  have hlinks := List.pairwise_map.mp (htracked.chats token found h.stored).1
  have hwindow : (visits.map fun v => (v.number, v.record)) <+:
      Page.slice offset limit found.chats := h.window ▸ List.prefix_append _ _
  have hsublist := hwindow.sublist.trans ((List.take_sublist _ _).trans (List.drop_sublist _ _))
  exact (List.pairwise_map (f := fun v : Visit => (v.number, v.record))).mp
    (hlinks.sublist hsublist)

/-- What is found at a visit. -/
theorem Seen.chat?_eq (h : Seen requests schedule n token offset limit cut found visits left)
    (hv : v ∈ visits) :
    ∃ record, Keyed.get? v.record (storeAfter requests v.before).chats = some record ∧
      record.chat.number = v.number ∧
      (record.deleted = true ↔ v.number ∈ numbersDeleted token (callsAfter requests v.before)) ∧
      (record.deleted = false → record.chat.messagesCount = record.messages.length) ∧
      v.chat? requests = if record.deleted then none else some record.chat := by
  obtain ⟨record, hrecord, hnumber, hdeleted, hcount⟩ :=
    exists_record_later (h.cut_prefix hv) (h.linkedAt hv)
  refine ⟨record, hrecord, hnumber, hdeleted, hcount, ?_⟩
  cases hmarked : record.deleted <;> simp [Visit.chat?, hrecord, hmarked]

/-- A chat that is shown has the number of the window, and counts its messages. -/
theorem Seen.read (h : Seen requests schedule n token offset limit cut found visits left)
    (hv : v ∈ visits) {chat : Store.Chat} (hchat : v.chat? requests = some chat) :
    chat.number = v.number ∧
      ∃ record, Keyed.get? v.record (storeAfter requests v.before).chats = some record ∧
        record.chat = chat ∧ chat.messagesCount = record.messages.length := by
  obtain ⟨record, hrecord, hnumber, -, hcount, heq⟩ := h.chat?_eq hv
  cases hmarked : record.deleted with
  | true => simp [heq, hmarked] at hchat
  | false =>
      obtain rfl : record.chat = chat := by simpa [heq, hmarked] using hchat
      exact ⟨hnumber, record, hrecord, rfl, hcount hmarked⟩

theorem Seen.chat?_eq_none (h : Seen requests schedule n token offset limit cut found visits left)
    (hv : v ∈ visits) : v.chat? requests = none ↔
      v.number ∈ numbersDeleted token (callsAfter requests v.before) := by
  obtain ⟨record, -, -, hdeleted, -, heq⟩ := h.chat?_eq hv
  rw [← hdeleted, heq]
  cases record.deleted <;> simp

/-- **What a listing has seen is what it answers.** -/
theorem listed_of_seen (h : Seen requests schedule n token offset limit cut found visits []) :
    Listed requests schedule n token offset limit (visits.filterMap (·.chat? requests)) cut found
      visits where
  toSeen := h
  shown := rfl
  deleted _ hv := h.chat?_eq_none hv
  read _ hv _ hchat := h.read hv hchat
  ascending := by
    refine List.pairwise_filterMap.mpr (h.ascending.imp_of_mem ?_)
    intro v w hv hw hlt chat hchat other hother
    rw [(h.read hv hchat).1, (h.read hw hother).1]
    exact hlt
  limited := Nat.le_trans (List.length_filterMap_le _ _) h.length_le
  undeleted number hmem later hlater hreturned hdeleted := by
    obtain ⟨v, hv, rfl⟩ : ∃ v ∈ visits, v.number = number := by
      rw [← h.window, List.append_nil] at hmem
      simpa [Keyed.keys] using hmem
    cases hchat : v.chat? requests with
    | none =>
        have hbefore := (h.visitUnder v hv).prefix_of_returned hlater hreturned
        exact absurd (numbersDeleted_later hbefore ((h.chat?_eq_none hv).mp hchat)) hdeleted
    | some chat => exact ⟨chat, List.mem_filterMap.mpr ⟨v, hv, hchat⟩, (h.read hv hchat).1⟩
  gone number earlier hearlier hbegun hdeleted chat hchat := by
    obtain ⟨v, hv, hshown⟩ := List.mem_filterMap.mp hchat
    rw [(h.read hv hshown).1]
    rintro rfl
    have hcut := h.cutUnder.prefix_of_not_begun hearlier hbegun
    exact not_linkedAt_of_deleted hcut hdeleted (h.linkedAt hv)

/-- A listing that has had a turn for every chat of its window has come to its end. -/
theorem Progress.answer (h : Progress requests schedule n token offset limit call)
    (hturns : limit + 2 ≤ turnsOf schedule n) :
    ∃ answer, call = .done (.of (.listChats token offset limit) answer) := by
  cases h with
  | waiting hcount => omega
  | cutting hcount => omega
  | missing hmissed => exact ⟨_, rfl⟩
  | @reading cut found visits left hseen hcount =>
      cases left with
      | nil => exact ⟨_, rfl⟩
      | cons entry left =>
          have hlength := hseen.length_le
          have hcount := hcount (by simp)
          rw [List.length_cons] at hlength
          omega

/-- How a listing that has returned has come to its answer. -/
theorem Progress.returned {answer : Store.Answer (List Store.Chat)}
    (h : Progress requests schedule n token offset limit
      (.done (.of (.listChats token offset limit) answer))) :
    (answer = .error (.applicationNotFound token) ∧ Missed requests schedule n token) ∨
      ∃ chats cut found visits, answer = .ok chats ∧
        Listed requests schedule n token offset limit chats cut found visits := by
  generalize hcall : Call.done (Outcome.of (.listChats token offset limit) answer) = call at h
  cases h with
  | waiting => cases hcall
  | cutting => cases hcall
  | missing hmissed =>
      cases hcall
      exact .inl ⟨rfl, hmissed⟩
  | @reading cut found visits left hseen =>
      cases left with
      | nil =>
          cases hcall
          rw [List.reverse_reverse]
          exact .inr ⟨_, cut, found, visits, rfl, listed_of_seen hseen⟩
      | cons entry left => cases hcall

end Answers

/-- **A listing shows its window as it finds it.**  Among calls of any kind that start on the empty
store, in any order of their sections, a listing comes to an end with as many turns as it may show
chats, and two.  It is refused only for an application that is not there.  Otherwise it answers with
the chats of the window that it has cut under the lock of the application, as they are when it comes
to each of them: in ascending order, without those whose deletion has returned by then, and with as
many messages as each of them has. -/
theorem listChats_interleaved (requests : List Request) (schedule : List (Turn Moment)) (n : Nat)
    (token : String) (offset limit : Nat)
    (hrequest : requests[n]? = some ⟨_, .listChats token offset limit⟩) :
    (limit + 2 ≤ turnsOf schedule n →
      ∃ answer, (callsAfter requests schedule)[n]? =
        some (.done (.of (.listChats token offset limit) answer))) ∧
    ∀ answer, (callsAfter requests schedule)[n]? =
        some (.done (.of (.listChats token offset limit) answer)) →
      (answer = .error (.applicationNotFound token) ∧ Missed requests schedule n token) ∨
        ∃ chats cut found visits, answer = .ok chats ∧
          Listed requests schedule n token offset limit chats cut found visits := by
  refine ⟨fun hturns => ?_, fun answer hcall => (progress_of_listChats hrequest hcall).returned⟩
  have hlt : n < (callsAfter requests schedule).length := by
    rw [callsAfter, length_runSchedule, start, List.length_map]
    exact (List.getElem?_eq_some_iff.mp hrequest).1
  have hcall := List.getElem?_eq_getElem hlt
  obtain ⟨answer, hanswer⟩ := (progress_of_listChats hrequest hcall).answer hturns
  exact ⟨answer, hcall.trans (congrArg some hanswer)⟩

/-- Of three chats, the first one is deleted and the second one is written to while the first two
are listed. -/
def listWhileDeleting : List Request :=
  [⟨_, .createApplication (some "a")⟩, ⟨_, .createChat "t"⟩, ⟨_, .createChat "t"⟩,
    ⟨_, .createChat "t"⟩, ⟨_, .deleteChat "t" 1⟩, ⟨_, .createMessage "t" 2 (some "b")⟩,
    ⟨_, .listChats "t" 0 2⟩]

/-- Both happens after the listing has cut its window. -/
def cutDeletePostRead : List (Turn Moment) :=
  [0, 0, 1, 1, 2, 2, 3, 3, 6, 6, 4, 4, 4, 5, 5, 5, 6, 6].map fun call => ⟨call, ⟨.epoch, "t"⟩⟩

/-- The numbers and counts that a listing has answered. -/
def countsListed? (call : OutcomeCall) : Option (List (Int × Int)) :=
  match call.answer? with
  | some (.of (.listChats _ _ _) (.ok chats)) =>
    some (chats.map fun chat => (chat.number, chat.messagesCount))
  | _ => none

/-- The listing shows the second chat with its message, and no other. -/
theorem listChats_cutDeletePostRead :
    ∃ chats cut found visits, chats.map (fun chat => (chat.number, chat.messagesCount)) = [(2, 1)] ∧
      Listed listWhileDeleting cutDeletePostRead 6 "t" 0 2 chats cut found visits := by
  obtain ⟨hends, hanswers⟩ :=
    listChats_interleaved listWhileDeleting cutDeletePostRead 6 "t" 0 2 rfl
  obtain ⟨answer, hcall⟩ := hends (by decide)
  have hcounts : (callsAfter listWhileDeleting cutDeletePostRead)[6]?.bind countsListed? =
      some [(2, 1)] := by decide +kernel
  rw [hcall] at hcounts
  obtain ⟨rfl, -⟩ | ⟨chats, cut, found, visits, rfl, hlisted⟩ := hanswers answer hcall
  · contradiction
  · exact ⟨chats, cut, found, visits, Option.some.inj hcounts, hlisted⟩

end ChatService.Memory
