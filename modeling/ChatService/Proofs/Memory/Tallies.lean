import ChatService.Proofs.Memory.Sequential

/-!
# Why a message is refused

A chat counts as many messages as it has handed out numbers, because nothing but its deletion ever
takes a message away.  So the two counters of a chat run out together, and a message with a body is
refused for two reasons only: its chat does not exist, or has used up all numbers.  The second needs
as many internal ids as there are numbers.

Like `Linkage`, this holds in the middle of calls too, wherever each of them is.
-/

namespace ChatService.Memory

open Store (Message Operation)

attribute [local irreducible] idText

variable {m : Moment} {s s' : State} {held held' : Holding} {helds : List Holding}
  {token body : String} {number next count : Int} {record n : Nat} {chat : ChatRecord}

/-- Messages are counted by the number that was handed out last, which used up as many ids. -/
structure Tally (ids : Nat) (chat : Store.Chat) : Prop where
  count : chat.messagesCount = chat.lastMessageNumber
  nonneg : 0 ≤ chat.lastMessageNumber
  le_ids : chat.lastMessageNumber ≤ ids
  le_max : chat.lastMessageNumber ≤ Word.maxInt64

/-- The counters of all chats, deleted or not, agree. -/
def Tallied (s : State) : Prop :=
  ∀ record chat, Keyed.get? record s.chats = some chat → Tally s.ids chat.chat

theorem tallied_empty : Tallied .empty := by simp [Tallied, State.empty, Keyed.get?]

theorem Tally.of_le {ids ids' : Nat} {chat : Store.Chat} (h : Tally ids chat) (hle : ids ≤ ids') :
    Tally ids' chat :=
  { h with le_ids := Int.le_trans h.le_ids (by omega) }

/-! ## what every move keeps -/

theorem Tallied.takeId (h : Tallied s) : Tallied s.takeId :=
  fun record chat hchat => (h record chat hchat).of_le (Nat.le_succ _)

theorem Tallied.link (h : Tallied s) (application : Store.Application) :
    Tallied (s.link m token application number count) := by
  intro record chat hchat
  obtain ⟨rfl, rfl⟩ | hchat := chats_link_cases hchat
  · exact ⟨rfl, Int.le_refl 0, Int.natCast_nonneg _, (by decide : (0 : Int) ≤ Word.maxInt64)⟩
  · exact (h record chat hchat).of_le (Nat.le_succ _)

theorem Tallied.mark (h : Tallied s) : Tallied (s.mark record) := by
  intro record' chat' hchat'
  obtain ⟨chat, hchat, ⟨-, rfl⟩ | ⟨-, rfl⟩⟩ := marked_cases hchat'
  · exact { h record' chat hchat with }
  · exact h record' chat' hchat

theorem Tallied.post (h : Tallied s) (hchat : Keyed.get? record s.chats = some chat)
    (hnumber : Store.nextAfter chat.chat.lastMessageNumber = .ok next)
    (hcount : (Store.CounterUpdate.increment .messages).apply chat.chat.messagesCount = .ok count) :
    Tallied (s.post m record chat.chat next count body) := by
  intro record' chat' hchat'
  obtain ⟨-, rfl⟩ | ⟨-, hchat'⟩ := posted_cases hchat hchat'
  · have htally := h record chat hchat
    obtain ⟨hnonneg, rfl⟩ := Store.nextAfter_eq_ok hnumber
    obtain ⟨rfl, -⟩ := Store.CounterUpdate.apply_eq_ok hcount
    have hrange := (Store.isInt64_of_nextAfter hnumber).2
    have hle := htally.le_ids
    refine ⟨congrArg (· + 1) htally.count, ?_, ?_, hrange⟩
    · show 0 ≤ chat.chat.lastMessageNumber + 1
      omega
    · show chat.chat.lastMessageNumber + 1 ≤ ((s.ids + 1 : Nat) : Int)
      omega
  · exact (h record' chat' hchat').of_le (Nat.le_succ _)

theorem Tallied.of_move (h : Tallied s) (hmove : Move held m s s' held') : Tallied s' := by
  cases hmove with
  | look | refuse | find _ _ | letGo => exact h
  | make _ | waste => exact h.takeId
  | store _ => exact h
  | link _ _ _ => exact h.link _
  | unlink _ _ _ => exact h
  | mark => exact h.mark
  | post _ hchat _ hnumber hcount => exact h.post hchat hnumber hcount

theorem Tallied.of_plants (h : Tallied s) (hplants : Plants m s s') : Tallied s' := by
  cases hplants with
  | nothing => exact h
  | waste => exact h.takeId
  | application _ _ => exact h.takeId
  | chat _ _ _ => exact h.link _

/-! ## wherever calls are -/

/-- Links lead to chats that are there, and the counters of chats agree. -/
structure Serviceable (s : State) : Prop extends Linkage s where
  tallied : Tallied s

/-- **Whatever calls are made and however they interleave**, finished or not. -/
theorem runSchedule_serviceable (requests : List Request) (schedule : List (Turn Moment)) :
    Serviceable (runSchedule schedule .empty (start requests)).1 := by
  obtain ⟨helds, -, hgrounded, htallied⟩ :=
    runSchedule_follows (fun s helds => Grounded s helds ∧ Tallied s)
      (fun h hheld hmove => ⟨h.1.of_move hheld hmove, h.2.of_move hmove⟩) schedule
      (hold_start requests)
      ⟨grounded_of_idle linkage_empty (by simp), tallied_empty⟩
  exact ⟨hgrounded.toLinkage, htallied⟩

theorem Serviceable.perform {α : Type} (h : Serviceable s) (operation : Operation α) :
    Serviceable (perform m operation s).1 := by
  obtain ⟨held, -, htallied⟩ := (moves_call operation).run (i := m) (n := 0) (s := s)
    (fun s _ => Tallied s) (fun htallied _ hmove => htallied.of_move hmove)
    (show [Holding.idle][0]? = some .idle from rfl) h.tallied
  exact ⟨h.toLinkage.perform operation, htallied⟩

/-! ## refusals -/

/-- A chat that has used up all numbers. -/
def UsedUp (s : State) (token : String) (number : Int) : Prop :=
  ∃ record, LinkedAt s token number record ∧
    (s.chatAt record).chat.lastMessageNumber = Word.maxInt64

/-- As many ids as there are numbers are used up first. -/
theorem Serviceable.le_ids_of_usedUp (h : Serviceable s) (husedUp : UsedUp s token number) :
    Word.maxInt64 ≤ s.ids := by
  obtain ⟨record, hlink, hlast⟩ := husedUp
  have htally := h.tallied record _ (h.chatAt_of_linkedAt hlink).1
  exact hlast ▸ htally.le_ids

/-- The ways that a message may go, by what is asked first: whether it has a body, whether its chat
exists, and whether numbers are left. -/
inductive Delivery (s : State) (token : String) (number : Int) (given : Option String) :
    Store.Answer Message → Prop where
  | blank {e : StoreError} (h : Store.validateBody given = .error e) :
      Delivery s token number given (.error e)
  | missing {body : String} {e : StoreError} (hbody : Store.validateBody given = .ok body)
      (h : s.lookupChat token number = .error e) : Delivery s token number given (.error e)
  | usedUp {body : String} (hbody : Store.validateBody given = .ok body)
      (h : UsedUp s token number) :
      Delivery s token number given (.error (.constraintViolation "sequence exhausted"))
  | created {body : String} (hbody : Store.validateBody given = .ok body)
      (hchat : ∃ record, LinkedAt s token number record) (h : ¬UsedUp s token number)
      (message : Message) : Delivery s token number given (.ok message)

theorem nextAfter_maxInt64 :
    Store.nextAfter Word.maxInt64 = .error (.constraintViolation "sequence exhausted") := rfl

/-- **Every message goes one of these ways.** -/
theorem Serviceable.delivery (h : Serviceable s) (given : Option String) :
    Delivery s token number given
      (Memory.perform m (.createMessage token number given) s).2 := by
  rw [h.connected.perform_createMessage]
  cases hbody : Store.validateBody given with
  | error e => exact .blank hbody
  | ok body =>
      cases hlookup : s.lookupChat token number with
      | error e => exact .missing hbody hlookup
      | ok record =>
          have hlink : LinkedAt s token number record := lookupChat_eq_ok.mp hlookup
          have htally := h.tallied record _ (h.chatAt_of_linkedAt hlink).1
          dsimp only
          by_cases hlast : (s.chatAt record).chat.lastMessageNumber = Word.maxInt64
          · rw [Store.allocated_of_nextAfter_error .messages _
              (hlast.symm ▸ nextAfter_maxInt64)]
            exact .usedUp hbody ⟨record, hlink, hlast⟩
          · have hcount := htally.count
            have hnonneg := htally.nonneg
            have hmax := htally.le_max
            rw [allocated_of_lt (by omega) (by omega) (by omega)]
            refine .created hbody ⟨record, hlink⟩ ?_ _
            rintro ⟨record', hlink', hlast'⟩
            rw [hlink.unique hlink'] at hlast
            exact hlast hlast'

end ChatService.Memory
