import ChatService.Proofs.Memory.Growth
import ChatService.Proofs.Memory.Tidy

/-!
# Operations of the in-memory store one after the other

An operation that runs from end to end makes all its moves at once, so what it answers and how it
changes the store can be said in one equation each.
-/

namespace ChatService.Memory

open Store (Application Message Operation Answer CounterField CounterUpdate Scope)

variable {α : Type} {m : Moment} {s s' : State} {token : String} {number : Int} {record : Nat}
  {found : ApplicationRecord} {chat : ChatRecord}

/-- Everything that holds between two operations. -/
structure Settled (s : State) : Prop where
  accounted : ∃ helds, Accounted s helds ∧ ∀ record, ¬ Unmarked helds record
  tidy : Tidy s

theorem Settled.inv (h : Settled s) : ∃ helds, Inv s helds :=
  h.accounted.imp fun _ haccounted => haccounted.1.toInv

theorem Settled.shape (h : Settled s) : Shape s := h.inv.elim fun _ hinv => hinv.shape

/-- A chat record that is not deleted has its link, which no interleaving promises. -/
theorem Settled.linked (h : Settled s) (hchat : Keyed.get? record s.chats = some chat)
    (hlive : chat.deleted = false) : Linked s chat.chat.number record := by
  obtain ⟨helds, haccounted, hmarked⟩ := h.accounted
  exact (haccounted.removals.live record chat hchat hlive).resolve_right (hmarked record)

/-- A link leads to a chat record that is not deleted. -/
theorem Settled.get?_chats (h : Settled s) (hrecord : s.lookupChat token number = .ok record) :
    Keyed.get? record s.chats = some (s.chatAt record) ∧ (s.chatAt record).deleted = false := by
  obtain ⟨found, hfound, hlink⟩ := lookupChat_eq_ok.mp hrecord
  obtain ⟨chat, hchat, -, -, hlive⟩ :=
    (h.shape.application token found hfound).linked number record hlink
  have hat : s.chatAt record = chat := by rw [State.chatAt, hchat, Option.getD_some]
  exact ⟨hat.symm ▸ hchat, hat.symm ▸ hlive⟩

theorem Settled.connected (h : Settled s) : Connected s := fun _ _ _ => h.get?_chats

/-! ## operations that look -/

section Looks

variable {offset limit : Nat}

theorem Settled.perform_listApplications (h : Settled s) :
    perform m (.listApplications offset limit) s =
      (s, .ok (Page.slice offset limit (s.allApplications.mergeSort newestFirst))) :=
  Memory.perform_listApplications h.shape.tokens

theorem Settled.perform_listChats (h : Settled s) :
    perform m (.listChats token offset limit) s =
      (s, (s.lookupApplication token).map fun found =>
        Page.slice offset limit (s.chatsOf found)) := by
  refine h.connected.perform_listChats fun found hfound => ?_
  have hsound := h.shape.application token found (lookupApplication_eq_ok.mp hfound)
  exact hsound.ascending.imp fun hlt => Int.ne_of_lt hlt

end Looks

/-! ## operations that write -/

section Writes

/-! ### whatever the counters hold -/

theorem perform_createChat (token : String) :
    perform m (.createChat token) s =
      match s.lookupApplication token with
      | .error e => (s, .error e)
      | .ok found =>
        match Store.allocated .chats found.application.lastChatNumber
            found.application.chatsCount with
        | .error e => (s, .error e)
        | .ok (number, count) =>
          (s.link m token found.application number count,
            .ok (newChat m (s.ids + 1) found.application number)) := by
  show (withApplication token _).run m s = _
  rw [run_withApplication]
  cases s.lookupApplication token with
  | error e => rfl
  | ok found =>
      unfold Store.allocated
      dsimp only
      cases Store.nextAfter found.application.lastChatNumber with
      | error e => rfl
      | ok number =>
          cases (CounterUpdate.increment .chats).apply found.application.chatsCount <;> rfl

theorem perform_deleteChat (token : String) (number : Int) :
    perform m (.deleteChat token number) s =
      match s.lookupApplication token with
      | .error e => (s, .error e)
      | .ok found =>
        match Keyed.get? number found.chats with
        | none => (s, .error (.chatNotFound token number))
        | some record =>
          match (CounterUpdate.decrement .chats).apply found.application.chatsCount with
          | .error e => (s, .error e)
          | .ok count => ((s.unlink m token number count).mark record, .ok ()) := by
  show (withApplication token _).run m s = _
  rw [run_withApplication]
  cases s.lookupApplication token with
  | error e => rfl
  | ok found =>
      dsimp only
      cases Keyed.get? number found.chats with
      | none => rfl
      | some record =>
          dsimp only
          cases (CounterUpdate.decrement .chats).apply found.application.chatsCount <;> rfl

theorem Connected.perform_createMessage (h : Connected s) (token : String) (number : Int)
    (body : Option String) :
    perform m (.createMessage token number body) s =
      match Store.validateBody body with
      | .error e => (s, .error e)
      | .ok body =>
        match s.lookupChat token number with
        | .error e => (s, .error e)
        | .ok record =>
          let chat := (s.chatAt record).chat
          match Store.allocated .messages chat.lastMessageNumber chat.messagesCount with
          | .error e => (s.takeId, .error e)
          | .ok (next, count) =>
            (s.post m record chat next count body,
              .ok (newMessage m (s.ids + 1) chat next body)) := by
  show (createMessage token number body).run m s = _
  unfold createMessage orRefuse
  cases Store.validateBody body with
  | error e => rfl
  | ok body =>
      dsimp only
      rw [h.run_withChat]
      cases s.lookupChat token number with
      | error e => rfl
      | ok record =>
          unfold Store.allocated
          dsimp only
          cases Store.nextAfter (s.chatAt record).chat.lastMessageNumber with
          | error e => rfl
          | ok next =>
              cases (CounterUpdate.increment .messages).apply
                (s.chatAt record).chat.messagesCount <;> rfl

/-! ### in a settled store -/

/-- Counts and numbers of an application are in range while ids are. -/
theorem Settled.application_in_range (h : Settled s) (hfew : (s.ids : Int) < Word.maxInt64)
    (hfound : Keyed.get? token s.applications = some found) :
    0 ≤ found.application.chatsCount ∧
      found.application.chatsCount ≤ found.application.lastChatNumber ∧
      found.application.lastChatNumber < Word.maxInt64 := by
  have hcounted := (h.shape.application token found hfound).counted
  have htidy := h.tidy.application token found hfound
  have hcount := htidy.count_le
  have hlast := htidy.last_le
  omega

/-- A chat that is not deleted still has all its messages. -/
theorem SoundChat.count_eq_last (h : SoundChat s record chat) (hlive : chat.deleted = false) :
    chat.chat.messagesCount = chat.chat.lastMessageNumber := by
  have hlast := h.last_nonneg
  have hkeys := congrArg List.length (h.numbered hlive)
  rw [length_numbersTo, Keyed.keys, List.length_map] at hkeys
  rw [h.counted hlive]
  omega

/-- Counts and numbers of a chat are in range while ids are. -/
theorem Settled.chat_in_range (h : Settled s) (hfew : (s.ids : Int) < Word.maxInt64)
    (hchat : Keyed.get? record s.chats = some chat) (hlive : chat.deleted = false) :
    0 ≤ chat.chat.messagesCount ∧ chat.chat.messagesCount = chat.chat.lastMessageNumber ∧
      chat.chat.lastMessageNumber < Word.maxInt64 := by
  have hsound := h.shape.chat record chat hchat
  have hequal := hsound.count_eq_last hlive
  have hnonneg := hsound.last_nonneg
  have hlast := (h.tidy.chat record chat hchat).last_le
  omega

/-- The next number and the next count, while both are in range. -/
theorem allocated_of_lt {field : CounterField} {last current : Int} (h : 0 ≤ current)
    (hle : current ≤ last) (hlt : last < Word.maxInt64) :
    Store.allocated field last current = .ok (last + 1, current + 1) := by
  refine Store.allocated_eq_ok.mpr ⟨Store.nextAfter_of_lt (by omega) hlt, ?_⟩
  have hdelta : (CounterUpdate.increment field).delta = 1 := rfl
  rw [CounterUpdate.apply_of_le (by omega) (by omega), hdelta]

theorem Settled.perform_createChat (h : Settled s) (hfew : (s.ids : Int) < Word.maxInt64)
    (token : String) :
    perform m (.createChat token) s =
      match s.lookupApplication token with
      | .error e => (s, .error e)
      | .ok found =>
        (s.link m token found.application (found.application.lastChatNumber + 1)
          (found.application.chatsCount + 1),
          .ok <|
            newChat m (s.ids + 1) found.application (found.application.lastChatNumber + 1)) := by
  rw [Memory.perform_createChat]
  cases hfound : s.lookupApplication token with
  | error e => rfl
  | ok found =>
      have happlication := lookupApplication_eq_ok.mp hfound
      obtain ⟨hnonneg, hle, hlast⟩ := h.application_in_range hfew happlication
      simp only [allocated_of_lt hnonneg hle hlast]

theorem Settled.perform_deleteChat (h : Settled s) (hfew : (s.ids : Int) < Word.maxInt64)
    (token : String) (number : Int) :
    perform m (.deleteChat token number) s =
      match s.lookupApplication token with
      | .error e => (s, .error e)
      | .ok found =>
        match Keyed.get? number found.chats with
        | none => (s, .error (.chatNotFound token number))
        | some record =>
          ((s.unlink m token number (found.application.chatsCount - 1)).mark record, .ok ()) := by
  rw [Memory.perform_deleteChat]
  cases hfound : s.lookupApplication token with
  | error e => rfl
  | ok found =>
      have happlication := lookupApplication_eq_ok.mp hfound
      dsimp only
      cases hlink : Keyed.get? number found.chats with
      | none => rfl
      | some record =>
          have hcounted := (h.shape.application token found happlication).counted
          have hlength : 0 < found.chats.length :=
            List.length_pos_of_mem (Keyed.mem_of_get?_eq_some hlink)
          obtain ⟨-, hle, hlast⟩ := h.application_in_range hfew happlication
          have hcount : (CounterUpdate.decrement .chats).apply found.application.chatsCount =
              .ok (found.application.chatsCount - 1) :=
            CounterUpdate.apply_of_le (by simp only [CounterUpdate.decrement]; omega)
              (by simp only [CounterUpdate.decrement]; omega)
          simp only [hcount]

theorem Settled.perform_createMessage (h : Settled s) (hfew : (s.ids : Int) < Word.maxInt64)
    (token : String) (number : Int) (body : Option String) :
    perform m (.createMessage token number body) s =
      match Store.validateBody body with
      | .error e => (s, .error e)
      | .ok body =>
        match s.lookupChat token number with
        | .error e => (s, .error e)
        | .ok record =>
          let chat := (s.chatAt record).chat
          (s.post m record chat (chat.lastMessageNumber + 1) (chat.messagesCount + 1) body,
            .ok (newMessage m (s.ids + 1) chat (chat.lastMessageNumber + 1) body)) := by
  rw [h.connected.perform_createMessage]
  cases Store.validateBody body with
  | error e => rfl
  | ok body =>
      dsimp only
      cases hrecord : s.lookupChat token number with
      | error e => rfl
      | ok record =>
          obtain ⟨hchat, hlive⟩ := h.get?_chats hrecord
          obtain ⟨hnonneg, hequal, hlast⟩ := h.chat_in_range hfew hchat hlive
          simp only [allocated_of_lt hnonneg (Int.le_of_eq hequal) hlast]

end Writes

/-! ## every operation -/

/-- Everything that a whole operation does to a settled store. -/
inductive Change (m : Moment) (s : State) : State → Prop where
  | look : Change m s s
  | store (name : String) : Change m s (s.takeId.store (newApplication m (s.ids + 1) name))
  | link {token : String} {found : ApplicationRecord}
      (hfound : Keyed.get? token s.applications = some found) :
      Change m s (s.link m token found.application (found.application.lastChatNumber + 1)
        (found.application.chatsCount + 1))
  | remove {token : String} {found : ApplicationRecord} {number : Int} {record : Nat}
      (hfound : Keyed.get? token s.applications = some found)
      (hlink : Keyed.get? number found.chats = some record) :
      Change m s ((s.unlink m token number (found.application.chatsCount - 1)).mark record)
  | post {record : Nat} {chat : ChatRecord} (hchat : Keyed.get? record s.chats = some chat)
      (hlive : chat.deleted = false) (body : String) :
      Change m s (s.post m record chat.chat (chat.chat.lastMessageNumber + 1)
        (chat.chat.messagesCount + 1) body)

/-- **No operation does anything else.** -/
theorem Settled.change (h : Settled s) (hfree : Keyed.get? m.token s.applications = none)
    (hfew : (s.ids : Int) < Word.maxInt64) (operation : Operation α) :
    Change m s (perform m operation s).1 := by
  cases operation with
  | createApplication name =>
      rw [perform_createApplication hfree]
      cases Store.validateName name with
      | error e => exact .look
      | ok name => exact .store name
  | createChat token =>
      rw [h.perform_createChat hfew]
      cases hfound : s.lookupApplication token with
      | error e => exact .look
      | ok found => exact .link (lookupApplication_eq_ok.mp hfound)
  | deleteChat token number =>
      rw [h.perform_deleteChat hfew]
      cases hfound : s.lookupApplication token with
      | error e => exact .look
      | ok found =>
          dsimp only
          cases hlink : Keyed.get? number found.chats with
          | none => exact .look
          | some record => exact .remove (lookupApplication_eq_ok.mp hfound) hlink
  | createMessage token number body =>
      rw [h.perform_createMessage hfew]
      cases Store.validateBody body with
      | error e => exact .look
      | ok body =>
          dsimp only
          cases hrecord : s.lookupChat token number with
          | error e => exact .look
          | ok record =>
              obtain ⟨hchat, hlive⟩ := h.get?_chats hrecord
              exact .post hchat hlive body
  | countApplications => exact .look
  | listApplications offset limit => rw [h.perform_listApplications]; exact .look
  | findApplication token => rw [perform_findApplication]; exact .look
  | findChat token number => rw [h.connected.perform_findChat]; exact .look
  | countChats token => rw [perform_countChats]; exact .look
  | listChats token offset limit => rw [h.perform_listChats]; exact .look
  | countMessages token number => rw [h.connected.perform_countMessages]; exact .look
  | listMessages token number offset limit => rw [h.connected.perform_listMessages]; exact .look
  | ping => exact .look

theorem Tidy.of_change (h : Tidy s) (hshape : Shape s) (hnow : m.now.IsReading)
    (hchange : Change m s s') : Tidy s' := by
  cases hchange with
  | look => exact h
  | store name => exact h.store hnow name
  | link hfound => exact h.link hfound rfl rfl hnow
  | remove hfound hlink => exact h.remove hfound rfl hnow
  | post hchat hlive body => exact h.post hshape hchat hlive rfl hnow body

/-- An operation brings in no token but its own. -/
theorem Change.tokens (h : Change m s s') (hfree : Keyed.get? m.token s.applications = none) :
    ∀ token ∈ Keyed.keys s'.applications,
      token = m.token ∨ token ∈ Keyed.keys s.applications := by
  cases h with
  | look => exact fun token => .inr
  | store name =>
      have hput : (s.takeId.store (newApplication m (s.ids + 1) name)).applications =
          s.applications ++ [(m.token, ⟨newApplication m (s.ids + 1) name, []⟩)] :=
        Keyed.put_eq_append hfree
      rw [hput]
      intro token htoken
      simpa [or_comm] using htoken
  | link hfound =>
      simp only [State.link, State.updateApplication, Keyed.keys_update]
      exact fun token => .inr
  | remove hfound hlink =>
      simp only [State.mark, State.updateChat, State.unlink, State.updateApplication,
        Keyed.keys_update]
      exact fun token => .inr
  | post hchat hlive body => exact fun token => .inr

/-- A pool in which one more call has not begun. -/
theorem Inv.append_idle {helds : List Holding} (h : Inv s helds) : Inv s (helds ++ [.idle]) := by
  have hnumbers : ∀ scope, heldNumbers scope (helds ++ [.idle]) = heldNumbers scope helds := by
    intro scope
    simp [heldNumbers, Holding.numberWithin]
  have hids : allIds s (helds ++ [.idle]) = allIds s helds := by simp [allIds, Holding.madeId]
  exact
    { ids := ⟨by rw [hids]; exact h.ids.used, by rw [hids]; exact h.ids.nodup⟩
      shape := h.shape
      backed := fun held hheld => by
        obtain hmem | hlast := List.mem_append.mp hheld
        · exact h.backed held hmem
        · obtain rfl := List.mem_singleton.mp hlast
          trivial
      numbers := h.numbers.of_perm fun scope => hnumbers scope ▸ .refl _ }

theorem takenNumbers_append_idle {helds : List Holding} :
    takenNumbers token (helds ++ [.idle]) = takenNumbers token helds := by
  simp [takenNumbers, Holding.takenFrom]

theorem Accounted.append_idle {helds : List Holding} (h : Accounted s helds) :
    Accounted s (helds ++ [.idle]) where
  toInv := h.toInv.append_idle
  removals :=
    { live := fun record chat hchat hlive =>
        (h.removals.live record chat hchat hlive).imp_right fun ⟨token, number, hmem⟩ =>
          ⟨token, number, List.mem_append_left _ hmem⟩
      taken := fun token found hfound => by
        rw [takenNumbers_append_idle]
        exact h.removals.taken token found hfound
      untaken := fun token hnone => by
        rw [takenNumbers_append_idle]
        exact h.removals.untaken token hnone }

/-- An operation that runs from end to end makes moves only, and marks what it unlinks. -/
theorem accounted_perform {helds : List Holding} (h : Accounted s helds)
    (hmarked : ∀ record, ¬ Unmarked helds record) (operation : Operation α)
    (hfew : (perform m operation s).1.ids < 16 ^ 24) :
    ∃ helds', Accounted (perform m operation s).1 helds' ∧
      ∀ record, ¬ Unmarked helds' record := by
  obtain ⟨held, hfinal, haccounted⟩ := (moves_call operation).run
    (i := m) (n := helds.length) (fun s helds => s.ids < 16 ^ 24 → Accounted s helds)
    (fun haccounted hheld hmove hfew =>
      (haccounted (by have := ids_le_of_move hmove; omega)).of_move hheld hmove hfew)
    (by simp) fun _ => h.append_idle
  refine ⟨_, haccounted hfew, fun record hunmarked => ?_⟩
  obtain ⟨token, number, hmem⟩ := hunmarked
  rw [List.set_append_right _ _ (Nat.le_refl _), Nat.sub_self, List.set_cons_zero] at hmem
  obtain hold | hlast := List.mem_append.mp hmem
  · exact hmarked record ⟨token, number, hold⟩
  · have hsettled : held = .settled (.of operation _) := hfinal
    exact settled_ne_unlinked _ _ _ _ (hsettled.symm.trans (List.mem_singleton.mp hlast).symm)

theorem ids_le_perform (operation : Operation α) : s.ids ≤ (perform m operation s).1.ids := by
  obtain ⟨held, -, hle⟩ := (moves_call operation).run (i := m) (n := 0) (s := s)
    (fun s' _ => s.ids ≤ s'.ids)
    (fun hle _ hmove => Nat.le_trans hle (ids_le_of_move hmove))
    (show [Holding.idle][0]? = some .idle from rfl) (Nat.le_refl _)
  exact hle

/-- **Every operation leaves a settled store.** -/
theorem Settled.perform (h : Settled s) (hfree : Keyed.get? m.token s.applications = none)
    (hnow : m.now.IsReading) (operation : Operation α)
    (hfew : ((perform m operation s).1.ids : Int) < Word.maxInt64) :
    Settled (perform m operation s).1 := by
  have hle := ids_le_perform (m := m) (s := s) operation
  obtain ⟨helds, haccounted, hmarked⟩ := h.accounted
  exact
    { accounted := accounted_perform haccounted hmarked operation
        (by unfold Word.maxInt64 at hfew; omega)
      tidy := h.tidy.of_change h.shape hnow (h.change hfree (by omega) operation) }

theorem settled_empty : Settled .empty where
  accounted := ⟨[], accounted_empty (by simp), by simp [Unmarked]⟩
  tidy := tidy_empty

end ChatService.Memory
