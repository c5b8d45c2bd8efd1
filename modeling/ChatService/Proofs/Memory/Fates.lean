import ChatService.Proofs.Memory.Ownership
import ChatService.Proofs.Memory.Permanence
import ChatService.Proofs.Memory.Players

/-!
# What becomes of a linked chat

A chat is linked until a deletion takes its link away, and the same deletion marks it in a section
of its own.  The number is never linked again, so no other deletion takes it: a chat that was linked
once is marked exactly if a deletion of its number has returned.  As long as it is not marked, it
counts its messages rightly.

All of this holds wherever calls are, and none of it needs that internal ids differ.
-/

namespace ChatService.Memory

attribute [local irreducible] idText

variable {m : Moment} {s s' : State} {helds : List Holding} {n : Nat} {held held' : Holding}
  {token body : String} {number next count : Int} {record : Nat}

/-! ## numbers that were taken -/

/-- No number that calls took is linked again, and no two calls took the same one. -/
structure Removed (s : State) (helds : List Holding) : Prop where
  retired : ∀ {k : Nat} {held : Holding} {token number}, helds[k]? = some held →
    held.takenFrom token = some number → Retired s token number
  takenOnce : ∀ {k k' : Nat} {held held' : Holding} {token number}, helds[k]? = some held →
    helds[k']? = some held' → held.takenFrom token = some number →
      held'.takenFrom token = some number → k = k'

theorem Retired.of_move (h : Retired s token number) (hmove : Move held m s s' held') :
    Retired s' token number := by
  cases hmove with
  | look | make | refuse | mark | find | letGo | waste | post => exact h
  | store hfree => exact h.store hfree
  | link hfound hnumber hcount => exact h.link hfound (Store.nextAfter_eq_ok hnumber).2
  | unlink hfound hlink hcount => exact h.unlink

/-- What a call took, it took before or takes now from where it is linked. -/
theorem takenFrom_of_move (hlinkage : Linkage s) (hmove : Move held m s s' held')
    (h : held'.takenFrom token = some number) :
    held.takenFrom token = some number ∨
      (∃ record, LinkedAt s token number record) ∧ Retired s' token number := by
  cases hmove with
  | mark => exact .inl h
  | unlink hfound hlink hcount =>
      obtain ⟨rfl, rfl⟩ := by simpa [Holding.takenFrom] using h
      exact .inr ⟨⟨_, _, hfound, hlink⟩, hlinkage.retired_unlink hfound hlink⟩
  | _ => cases h

theorem Removed.of_move (h : Removed s helds) (hlinkage : Linkage s)
    (hheld : helds[n]? = some held) (hmove : Move held m s s' held') :
    Removed s' (helds.set n held') where
  retired hk htaken := by
    obtain ⟨rfl, rfl⟩ | ⟨-, hk⟩ := getElem?_set_cases hk
    · obtain hbefore | ⟨-, hretired⟩ := takenFrom_of_move hlinkage hmove htaken
      · exact (h.retired hheld hbefore).of_move hmove
      · exact hretired
    · exact (h.retired hk htaken).of_move hmove
  takenOnce hk hk' htaken htaken' := by
    -- who takes a number now takes it from a link, and no other call holds a number that is linked
    have hnew : ∀ {k other token number}, helds[k]? = some other →
        other.takenFrom token = some number → held'.takenFrom token = some number → k = n := by
      intro k other token number hk htaken htaken'
      obtain hbefore | ⟨⟨record, hlink⟩, -⟩ := takenFrom_of_move hlinkage hmove htaken'
      · exact h.takenOnce hk hheld htaken hbefore
      · exact absurd hlink (h.retired hk htaken).not_linked
    obtain ⟨rfl, rfl⟩ | ⟨-, hold⟩ := getElem?_set_cases hk
    · obtain ⟨rfl, -⟩ | ⟨-, hold'⟩ := getElem?_set_cases hk'
      · rfl
      · exact (hnew hold' htaken' htaken).symm
    · obtain ⟨rfl, rfl⟩ | ⟨-, hold'⟩ := getElem?_set_cases hk'
      · exact hnew hold htaken htaken'
      · exact h.takenOnce hold hold' htaken htaken'

/-! ## counts -/

/-- A chat that is not marked counts its messages. -/
def Counted (s : State) : Prop :=
  ∀ record chat, Keyed.get? record s.chats = some chat → chat.deleted = false →
    chat.chat.messagesCount = chat.messages.length

theorem counted_empty : Counted .empty := by simp [Counted, State.empty, Keyed.get?]

theorem Counted.link (h : Counted s) (application : Store.Application) :
    Counted (s.link m token application number count) := by
  intro record chat hchat hlive
  obtain ⟨rfl, rfl⟩ | hchat := chats_link_cases hchat
  · rfl
  · exact h record chat hchat hlive

theorem Counted.mark (h : Counted s) : Counted (s.mark record) := by
  intro record' chat' hchat' hlive
  obtain ⟨chat, hchat, ⟨-, rfl⟩ | ⟨-, rfl⟩⟩ := marked_cases hchat'
  · contradiction
  · exact h record' _ hchat hlive

theorem Counted.post {chat : ChatRecord} (h : Counted s) (hlinkage : Linkage s)
    (hchat : Keyed.get? record s.chats = some chat) (hlive : chat.deleted = false)
    (hnumber : Store.nextAfter chat.chat.lastMessageNumber = .ok next)
    (hcount : (Store.CounterUpdate.increment .messages).apply chat.chat.messagesCount = .ok count) :
    Counted (s.post m record chat.chat next count body) := by
  intro record' chat' hchat' hlive'
  obtain ⟨-, rfl⟩ | ⟨-, hchat'⟩ := posted_cases hchat hchat'
  · obtain ⟨-, rfl⟩ := Store.nextAfter_eq_ok hnumber
    obtain ⟨rfl, -⟩ := Store.CounterUpdate.apply_eq_ok hcount
    have hcounted := h record chat hchat hlive
    simp only [ChatRecord.addMessage, (hlinkage.messages record chat hchat).putAscending_eq,
      List.length_append, List.length_singleton]
    show chat.chat.messagesCount + 1 = _
    omega
  · exact h record' chat' hchat' hlive'

theorem Counted.of_move (h : Counted s) (hlinkage : Linkage s) (hmove : Move held m s s' held') :
    Counted s' := by
  cases hmove with
  | look | make | refuse | store | unlink | find | letGo | waste => exact h
  | link hfound hnumber hcount => exact h.link _
  | mark => exact h.mark
  | post hbody hchat hlive hnumber hcount => exact h.post hlinkage hchat hlive hnumber hcount

/-! ## wherever calls are -/

/-- Links, what calls hold of them, and the counts of chats. -/
structure Tracked (s : State) (helds : List Holding) : Prop
    extends Grounded s helds, Homed s, Removed s helds where
  counted : Counted s

theorem tracked_empty (h : ∀ held ∈ helds, held = .idle) : Tracked .empty helds :=
  { grounded_of_idle linkage_empty h, homed_empty with
    retired := fun hk htaken => by
      rw [h _ (List.mem_of_getElem? hk)] at htaken
      cases htaken
    takenOnce := fun hk _ htaken => by
      rw [h _ (List.mem_of_getElem? hk)] at htaken
      cases htaken
    counted := counted_empty }

/-- **Every move keeps it.** -/
theorem Tracked.of_move (h : Tracked s helds) (hheld : helds[n]? = some held)
    (hmove : Move held m s s' held') : Tracked s' (helds.set n held') :=
  { h.toGrounded.of_move hheld hmove,
    h.toHomed.of_move (h.toGrounded.of_move hheld hmove).toLinkage hmove,
    h.toRemoved.of_move h.toLinkage hheld hmove with
    counted := h.counted.of_move h.toLinkage hmove }

/-! ## what becomes of a linked chat -/

/-- What may have become of a chat that was linked once under a token and a number. -/
inductive Fate (s : State) (helds : List Holding) (token : String) (number : Int) (record : Nat) :
    Prop where
  | linked (hlink : LinkedAt s token number record)
  | unlinked (hheld : .unlinked token number record ∈ helds)
  | deleted (hmarked : HasRecord s record true) (hheld : .deleted token number ∈ helds)

theorem HasRecord.of_move (h : HasRecord s record true) (hlinkage : Linkage s)
    (hmove : Move held m s s' held') : HasRecord s' record true := by
  cases hmove with
  | look | make | refuse | store | unlink | find | letGo | waste => exact h
  | link hfound hnumber hcount =>
      exact (hlinkage.spares_link hfound (Store.nextAfter_eq_ok hnumber).2).fates record true h
  | mark => exact h.mark
  | post hbody hchat hlive hnumber hcount => exact spares_post.fates record true h

/-- A link stays, or is taken away by the call that moves. -/
theorem linkedAt_or_unlinked (hlinkage : Linkage s) (hlink : LinkedAt s token number record)
    (hmove : Move held m s s' held') :
    LinkedAt s' token number record ∨ held' = .unlinked token number record := by
  cases hmove with
  | look | make | refuse | mark | find | letGo | waste | post => exact .inl hlink
  | store hfree => exact .inl ((linkedAt_store hfree).mpr hlink)
  | link hfound hnumber hcount =>
      exact .inl
        ((hlinkage.linkedAt_next hfound (Store.nextAfter_eq_ok hnumber).2).mpr (.inl hlink))
  | @unlink _ _ token' found number' count record' hfound hget hcount =>
      by_cases hplace : token = token' ∧ number = number'
      · obtain ⟨rfl, rfl⟩ := hplace
        rw [hlink.unique ⟨found, hfound, hget⟩]
        exact .inr rfl
      · exact .inl ((linkedAt_unlink hfound).mpr ⟨hlink, hplace⟩)

/-- **Every move takes a chat no further than its fate.** -/
theorem Fate.of_move (h : Fate s helds token number record) (htracked : Tracked s helds)
    (hheld : helds[n]? = some held) (hmove : Move held m s s' held') :
    Fate s' (helds.set n held') token number record := by
  have hlt : n < helds.length := (List.getElem?_eq_some_iff.mp hheld).1
  cases h with
  | linked hlink =>
      obtain hlink | rfl := linkedAt_or_unlinked htracked.toLinkage hlink hmove
      · exact .linked hlink
      · exact .unlinked (List.mem_set hlt _)
  | unlinked hmem =>
      by_cases hown : held = .unlinked token number record
      · subst hown
        cases hmove
        obtain ⟨⟨chat, hchat, -⟩, -⟩ := htracked.unlinked token number record hmem
        have hmarked : HasRecord (s.mark record) record true :=
          ⟨chat.mark, by rw [get?_chats_mark, if_pos rfl, hchat]; rfl, rfl⟩
        exact .deleted hmarked (List.mem_set hlt _)
      · exact .unlinked (mem_set_of_ne hheld hmem (Ne.symm hown))
  | deleted hmarked hmem =>
      have hown : held ≠ .deleted token number := by
        rintro rfl
        cases hmove
      exact .deleted (hmarked.of_move htracked.toLinkage hmove)
        (mem_set_of_ne hheld hmem hown.symm)

/-- **A chat that was linked once is marked exactly if a deletion of its number has returned.** -/
theorem Fate.marked_iff (h : Fate s helds token number record) (htracked : Tracked s helds) :
    HasRecord s record true ↔ .deleted token number ∈ helds := by
  have hlive : HasRecord s record false → ¬HasRecord s record true := by
    rintro ⟨chat, hchat, hfalse⟩ ⟨chat', hchat', htrue⟩
    rw [hchat] at hchat'
    cases hchat'
    rw [hfalse] at htrue
    contradiction
  cases h with
  | linked hlink =>
      obtain ⟨chat, hchat, hfalse, -⟩ := htracked.live token number record hlink
      refine iff_of_false (hlive ⟨chat, hchat, hfalse⟩) fun hmem => ?_
      obtain ⟨k, hk⟩ := List.mem_iff_getElem?.mp hmem
      exact (htracked.retired hk (by simp [Holding.takenFrom])).not_linked hlink
  | unlinked hheld =>
      refine iff_of_false (hlive (htracked.unlinked token number record hheld).1) fun hmem => ?_
      obtain ⟨k, hk⟩ := List.mem_iff_getElem?.mp hheld
      obtain ⟨k', hk'⟩ := List.mem_iff_getElem?.mp hmem
      have htaken : (Holding.unlinked token number record).takenFrom token = some number := by
        simp [Holding.takenFrom]
      have htaken' : (Holding.deleted token number).takenFrom token = some number := by
        simp [Holding.takenFrom]
      obtain rfl := htracked.takenOnce hk hk' htaken htaken'
      rw [hk] at hk'
      cases hk'
  | deleted hmarked hheld => exact iff_of_true hmarked hheld

/-! ## along a schedule -/

variable {requests : List Request} {earlier schedule : List (Turn Moment)}

/-- The store after some sections of calls that started on the empty store. -/
def storeAfter (requests : List Request) (schedule : List (Turn Moment)) : State :=
  (runSchedule schedule .empty (start requests)).1

/-- How far the calls are after some of their sections. -/
def callsAfter (requests : List Request) (schedule : List (Turn Moment)) : List OutcomeCall :=
  (runSchedule schedule .empty (start requests)).2

theorem exists_tracked (requests : List Request) (schedule : List (Turn Moment)) :
    ∃ helds, Hold helds (callsAfter requests schedule) ∧
      Tracked (storeAfter requests schedule) helds :=
  runSchedule_follows Tracked (fun h hheld hmove => h.of_move hheld hmove) schedule
    (hold_start requests) (tracked_empty (by simp))

/-- What holds after some sections, and every move keeps, holds after more of them. -/
theorem exists_tracked_later (requests : List Request) (inv : State → List Holding → Prop)
    (keeps : ∀ {m : Moment} {s s' : State} {helds : List Holding} {n : Nat} {held held' : Holding},
      Tracked s helds → inv s helds → helds[n]? = some held → Move held m s s' held' →
        inv s' (helds.set n held'))
    (hearlier : earlier <+: schedule)
    (hinv : ∀ helds, Hold helds (callsAfter requests earlier) →
      Tracked (storeAfter requests earlier) helds → inv (storeAfter requests earlier) helds) :
    ∃ helds, Hold helds (callsAfter requests schedule) ∧
      Tracked (storeAfter requests schedule) helds ∧ inv (storeAfter requests schedule) helds := by
  obtain ⟨rest, rfl⟩ := hearlier
  obtain ⟨helds, hhold, htracked⟩ := exists_tracked requests earlier
  have hrun : runSchedule (earlier ++ rest) .empty (start requests) =
      runSchedule rest (storeAfter requests earlier) (callsAfter requests earlier) :=
    List.foldl_append
  unfold storeAfter callsAfter
  rw [hrun]
  exact runSchedule_follows (fun s helds => Tracked s helds ∧ inv s helds)
    (fun h hheld hmove => ⟨h.1.of_move hheld hmove, keeps h.1 h.2 hheld hmove⟩) rest hhold
    ⟨htracked, hinv helds hhold htracked⟩

/-- A number was deleted if the call that deleted it has returned. -/
theorem mem_numbersDeleted {calls : List OutcomeCall} (h : Hold helds calls) :
    number ∈ numbersDeleted token calls ↔ .deleted token number ∈ helds := by
  rw [numbersDeleted, filterMap_of_hold h (deletedWithin_of_follows token), List.mem_filterMap]
  constructor
  · rintro ⟨held, hmem, hheld⟩
    cases held with
    | deleted token' number' =>
        obtain ⟨rfl, rfl⟩ := by simpa [Holding.deletedWithin] using hheld
        exact hmem
    | _ => cases hheld
  · exact fun hmem => ⟨_, hmem, by simp [Holding.deletedWithin]⟩

theorem numbersDeleted_later (hearlier : earlier <+: schedule)
    (h : number ∈ numbersDeleted token (callsAfter requests earlier)) :
    number ∈ numbersDeleted token (callsAfter requests schedule) := by
  obtain ⟨helds, hhold, -, hmem⟩ := exists_tracked_later requests
    (fun _ helds => .deleted token number ∈ helds)
    (fun _ hmem hheld hmove => mem_set_of_ne hheld hmem (by rintro rfl; cases hmove)) hearlier
    (fun helds hhold _ => (mem_numbersDeleted hhold).mp h)
  exact (mem_numbersDeleted hhold).mpr hmem

/-- **A number whose deletion has returned is linked never again.** -/
theorem not_linkedAt_of_deleted (hearlier : earlier <+: schedule)
    (h : number ∈ numbersDeleted token (callsAfter requests earlier)) :
    ¬LinkedAt (storeAfter requests schedule) token number record := by
  obtain ⟨helds, hhold, htracked⟩ := exists_tracked requests schedule
  have hmem := (mem_numbersDeleted hhold).mp (numbersDeleted_later hearlier h)
  obtain ⟨k, hk⟩ := List.mem_iff_getElem?.mp hmem
  exact (htracked.retired hk (by simp [Holding.takenFrom])).not_linked

/-- **What is found of a chat that was linked before**: its record, marked exactly if a deletion of
its number has returned, and with a right count of its messages otherwise. -/
theorem exists_record_later (hearlier : earlier <+: schedule)
    (hlink : LinkedAt (storeAfter requests earlier) token number record) :
    ∃ chat, Keyed.get? record (storeAfter requests schedule).chats = some chat ∧
      chat.chat.number = number ∧
      (chat.deleted = true ↔ number ∈ numbersDeleted token (callsAfter requests schedule)) ∧
      (chat.deleted = false → chat.chat.messagesCount = chat.messages.length) := by
  obtain ⟨helds, hhold, htracked, hfate, howned⟩ := exists_tracked_later requests
    (fun s helds => Fate s helds token number record ∧ Owned s token number record)
    (fun htracked h hheld hmove =>
      ⟨h.1.of_move htracked hheld hmove,
        h.2.of_extends htracked.toLinkage (extends_of_move htracked.toLinkage hmove)⟩)
    hearlier (fun _ _ htracked => ⟨.linked hlink, htracked.owned _ _ _ hlink⟩)
  obtain ⟨-, chat, -, hchat, -, hnumber⟩ := howned.home
  refine ⟨chat, hchat, hnumber, ?_, htracked.counted record chat hchat⟩
  rw [mem_numbersDeleted hhold, ← hfate.marked_iff htracked, HasRecord, hchat]
  simp

end ChatService.Memory
