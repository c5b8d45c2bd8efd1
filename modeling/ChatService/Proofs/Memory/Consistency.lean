import ChatService.Proofs.Memory.Removals

/-!
# The in-memory store under every interleaving

Any number of calls may run on the store at once, in any order of their sections.  Whatever the
order, counts and numbers agree with the records, and the numbers handed out within a parent are
those from 1 on, each of them once.  Once all calls are finished, the chats of an application are
those that calls created and no call deleted.
-/

namespace ChatService.Memory

open Store (Application Message Operation Answer CounterUpdate Scope)

/-- What holds of the store between any two sections. -/
structure Consistent (s : State) : Prop where
  /-- Each application counts its links, which stand in ascending order. -/
  counted : ∀ token found, (token, found) ∈ s.applications →
    found.application.chatsCount = found.chats.length ∧
      (Keyed.keys found.chats).Pairwise (· < ·)
  /-- Each link leads to a chat of this number and this application that is not deleted. -/
  linked : ∀ token found number record, (token, found) ∈ s.applications →
    (number, record) ∈ found.chats →
      1 ≤ number ∧ number ≤ found.application.lastChatNumber ∧
        ∃ chat, (record, chat) ∈ s.chats ∧ chat.chat.number = number ∧
          chat.chat.applicationId = found.application.id ∧ chat.deleted = false
  /-- The messages of a chat are numbered without a gap, linked or not. -/
  live : ∀ record chat, (record, chat) ∈ s.chats → chat.deleted = false →
    Keyed.keys chat.messages = numbersTo chat.chat.lastMessageNumber ∧
      chat.chat.messagesCount = chat.messages.length
  deleted : ∀ record chat, (record, chat) ∈ s.chats → chat.deleted = true → chat.messages = []
  /-- No token, no record and no internal id stands for two things. -/
  tokens : (Keyed.keys s.applications).Nodup
  records : (Keyed.keys s.chats).Nodup
  ids : (storedIds s).Nodup
  names : ∀ token found, (token, found) ∈ s.applications →
    Text.isBlank found.application.name = false
  bodies : ∀ record chat, (record, chat) ∈ s.chats → ∀ number message,
    (number, message) ∈ chat.messages → Text.isBlank message.body = false

/-- The numbers that calls were given within one parent are those from 1 up to its last number, each
of them once: no two calls share one, and none is left out. -/
structure NumberedOnce (s : State) (calls : List OutcomeCall) : Prop where
  chats : ∀ token found, (token, found) ∈ s.applications →
    (numbersWithin (.application token) calls).Perm (numbersTo found.application.lastChatNumber)
  messages : ∀ token found record chat, (token, found) ∈ s.applications →
    (record, chat) ∈ s.chats → chat.chat.applicationId = found.application.id →
    (numbersWithin (.chat token chat.chat.number) calls).Perm
      (numbersTo chat.chat.lastMessageNumber)
  every : ∀ scope, ∃ last, (numbersWithin scope calls).Perm (numbersTo last)

/-- What finished calls leave: no chat without its link, and in each application the chats that
calls created and no call deleted. -/
structure Balanced (s : State) (calls : List OutcomeCall) : Prop where
  linked : ∀ record chat, (record, chat) ∈ s.chats → chat.deleted = false →
    ∃ token found, (token, found) ∈ s.applications ∧ (chat.chat.number, record) ∈ found.chats
  remaining : ∀ token found, (token, found) ∈ s.applications →
    (numbersDeleted token calls ++ Keyed.keys found.chats).Perm
      (numbersWithin (.application token) calls)
  counted : ∀ token found, (token, found) ∈ s.applications →
    found.application.chatsCount =
      (numbersWithin (.application token) calls).length - (numbersDeleted token calls).length

variable {s : State} {helds : List Holding}

theorem Inv.consistent (h : Inv s helds) : Consistent s := by
  have happlication : ∀ token found, (token, found) ∈ s.applications →
      Keyed.get? token s.applications = some found := fun _ _ hmem =>
    (Keyed.get?_eq_some_iff_mem h.shape.tokens).mpr hmem
  have hchat : ∀ record chat, (record, chat) ∈ s.chats →
      Keyed.get? record s.chats = some chat := fun _ _ hmem =>
    (Keyed.get?_eq_some_iff_mem h.shape.records).mpr hmem
  constructor
  case counted =>
    intro token found hfound
    have hsound := h.shape.application token found (happlication token found hfound)
    exact ⟨hsound.counted, hsound.ascending⟩
  case linked =>
    intro token found number record hfound hlink
    have hsound := h.shape.application token found (happlication token found hfound)
    have hnodup : (Keyed.keys found.chats).Nodup := hsound.ascending.imp fun hlt => Int.ne_of_lt hlt
    obtain ⟨chat, hrecord, hnumber, hhome, hlive⟩ :=
      hsound.linked number record ((Keyed.get?_eq_some_iff_mem hnodup).mpr hlink)
    obtain ⟨hlow, hhigh⟩ := (h.shape.chat record chat hrecord).inHome token found
      (happlication token found hfound) hhome.symm
    exact ⟨hnumber ▸ hlow, hnumber ▸ hhigh, chat, Keyed.mem_of_get?_eq_some hrecord, hnumber,
      hhome, hlive⟩
  case live =>
    intro record chat hmem hlive
    have hsound := h.shape.chat record chat (hchat record chat hmem)
    exact ⟨hsound.numbered hlive, hsound.counted hlive⟩
  case deleted =>
    exact fun record chat hmem => (h.shape.chat record chat (hchat record chat hmem)).emptied
  case tokens => exact h.shape.tokens
  case records => exact h.shape.records
  case ids => exact h.ids.nodup.of_append_left
  case names =>
    exact fun token found hmem =>
      (h.shape.application token found (happlication token found hmem)).name
  case bodies =>
    exact fun record chat hmem number message =>
      (h.shape.chat record chat (hchat record chat hmem)).bodies (number, message)

/-- Within any parent, known or not, the numbers held are those up to some number. -/
theorem Inv.heldNumbers_perm (h : Inv s helds) (scope : Scope) :
    ∃ last, (heldNumbers scope helds).Perm (numbersTo last) := by
  cases scope with
  | application token =>
      cases hfound : Keyed.get? token s.applications with
      | none => exact ⟨0, h.numbers.noChats token hfound ▸ .refl _⟩
      | some found => exact ⟨_, h.numbers.chats token found hfound⟩
  | chat token number =>
      by_cases hexists : ∃ found record chat, Keyed.get? token s.applications = some found ∧
          Keyed.get? record s.chats = some chat ∧
          chat.chat.applicationId = found.application.id ∧ chat.chat.number = number
      · obtain ⟨found, record, chat, hfound, hchat, hhome, rfl⟩ := hexists
        exact ⟨_, h.numbers.messages token found record chat hfound hchat hhome⟩
      · have hempty := h.numbers.noMessages token number
          fun found record chat hfound hchat hhome hnumber =>
            hexists ⟨found, record, chat, hfound, hchat, hhome, hnumber⟩
        exact ⟨0, hempty ▸ .refl _⟩

theorem numbersWithin_of_hold {calls : List OutcomeCall} (h : Hold helds calls) (scope : Scope) :
    numbersWithin scope calls = heldNumbers scope helds :=
  filterMap_of_hold h (numberWithin_of_follows scope)

theorem Inv.numberedOnce (h : Inv s helds) {calls : List OutcomeCall} (hhold : Hold helds calls) :
    NumberedOnce s calls where
  chats token found hfound := by
    rw [numbersWithin_of_hold hhold]
    exact h.numbers.chats token found ((Keyed.get?_eq_some_iff_mem h.shape.tokens).mpr hfound)
  messages token found record chat hfound hchat hhome := by
    rw [numbersWithin_of_hold hhold]
    exact h.numbers.messages token found record chat
      ((Keyed.get?_eq_some_iff_mem h.shape.tokens).mpr hfound)
      ((Keyed.get?_eq_some_iff_mem h.shape.records).mpr hchat) hhome
  every scope := by
    rw [numbersWithin_of_hold hhold]
    exact h.heldNumbers_perm scope

/-- What was taken from an application by calls that are finished now was deleted by them. -/
theorem takenNumbers_of_finished {calls : List OutcomeCall} (hhold : Hold helds calls)
    (hdone : ∀ call ∈ calls, call.answer?.isSome) (token : String) :
    takenNumbers token helds = numbersDeleted token calls := by
  have hdeleted : numbersDeleted token calls = helds.filterMap (Holding.deletedWithin token) :=
    filterMap_of_hold hhold (deletedWithin_of_follows token)
  rw [hdeleted]
  refine List.filterMap_congr fun held hheld => ?_
  obtain ⟨outcome, rfl⟩ := settled_of_hold hhold hdone held hheld
  exact settled_takenFrom token outcome

theorem Accounted.balanced (h : Accounted s helds) {calls : List OutcomeCall}
    (hhold : Hold helds calls) (hdone : ∀ call ∈ calls, call.answer?.isSome) :
    Balanced s calls := by
  have hremaining : ∀ token found, (token, found) ∈ s.applications →
      (numbersDeleted token calls ++ Keyed.keys found.chats).Perm
        (numbersWithin (.application token) calls) := by
    intro token found hmem
    have hfound := (Keyed.get?_eq_some_iff_mem h.shape.tokens).mpr hmem
    rw [← takenNumbers_of_finished hhold hdone]
    exact (h.removals.taken token found hfound).trans
      ((h.toInv.numberedOnce hhold).chats token found hmem).symm
  refine { linked := fun record chat hmem hlive => ?_, remaining := hremaining, counted := ?_ }
  · have hchat := (Keyed.get?_eq_some_iff_mem h.shape.records).mpr hmem
    obtain ⟨token, found, hfound, hlink⟩ | hunmarked := h.removals.live record chat hchat hlive
    · exact ⟨token, found, Keyed.mem_of_get?_eq_some hfound, Keyed.mem_of_get?_eq_some hlink⟩
    · obtain ⟨token, number, hheld⟩ := hunmarked
      obtain ⟨outcome, heq⟩ := settled_of_hold hhold hdone _ hheld
      exact absurd heq.symm (settled_ne_unlinked outcome token number record)
  · intro token found hmem
    have hcounted := (h.toInv.consistent.counted token found hmem).1
    have hlength := (hremaining token found hmem).length_eq
    rw [List.length_append, Keyed.keys, List.length_map] at hlength
    omega

/-- Calls that start on the empty store keep the invariant, whatever the schedule. -/
theorem runSchedule_accounted (requests : List Request) (schedule : List (Turn Moment)) :
    ∃ helds, Hold helds (runSchedule schedule .empty (start requests)).2 ∧
      ((runSchedule schedule .empty (start requests)).1.ids < 16 ^ 24 →
        Accounted (runSchedule schedule .empty (start requests)).1 helds) := by
  refine runSchedule_follows (fun s helds => s.ids < 16 ^ 24 → Accounted s helds) ?_ schedule
    (hold_start requests) fun _ => accounted_empty (by simp)
  intro s s' helds n m held held' haccounted hheld hmove hfew
  exact (haccounted (by have := ids_le_of_move hmove; omega)).of_move hheld hmove hfew

/-- **Every interleaving leaves a consistent store.**  Any calls may start on the empty store, and
their sections may run in any order: counts and numbers agree with the records, and within each
parent the calls were given the numbers from 1 on, each of them once.  Once all calls are finished,
nothing is left between two sections.  `ids` counts what was created, refused creations included. -/
theorem runSchedule_consistent (requests : List Request) (schedule : List (Turn Moment))
    (hfew : (runSchedule schedule .empty (start requests)).1.ids < 2 ^ 63 - 1) :
    let (s, calls) := runSchedule schedule .empty (start requests)
    Consistent s ∧ NumberedOnce s calls ∧
      ((∀ call ∈ calls, call.answer?.isSome) → Balanced s calls) := by
  obtain ⟨helds, hhold, haccounted⟩ := runSchedule_accounted requests schedule
  have haccounted := haccounted (by omega)
  exact ⟨haccounted.toInv.consistent, haccounted.toInv.numberedOnce hhold,
    haccounted.balanced hhold⟩

/-- A chat is deleted while a message is on its way to it. -/
def postWhileDeleting : List Request :=
  [⟨_, .createApplication (some "a")⟩, ⟨_, .createChat "t"⟩, ⟨_, .deleteChat "t" 1⟩,
    ⟨_, .createMessage "t" 1 (some "b")⟩]

/-- The message is added after the chat is unlinked and before it is marked. -/
def unlinkPostMark : List (Turn Moment) :=
  [0, 0, 1, 1, 3, 3, 2, 2, 3, 2].map fun call => ⟨call, ⟨.epoch, "t"⟩⟩

theorem runSchedule_unlinkPostMark :
    let (s, calls) := runSchedule unlinkPostMark .empty (start postWhileDeleting)
    s.ids < 2 ^ 63 - 1 ∧ numbersWithin (.chat "t" 1) calls = [1] ∧ numbersDeleted "t" calls = [1] ∧
      Consistent s ∧ Balanced s calls := by
  have hids : (runSchedule unlinkPostMark .empty (start postWhileDeleting)).1.ids < 2 ^ 63 - 1 := by
    decide +kernel
  have hdone : ∀ call ∈ (runSchedule unlinkPostMark .empty (start postWhileDeleting)).2,
      call.answer?.isSome := by
    decide +kernel
  obtain ⟨hconsistent, -, hbalanced⟩ := runSchedule_consistent postWhileDeleting unlinkPostMark hids
  exact ⟨hids, by decide +kernel, by decide +kernel, hconsistent, hbalanced hdone⟩

end ChatService.Memory
