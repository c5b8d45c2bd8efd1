import ChatService.Proofs.Memory.Applications

/-!
# Every move keeps the invariant

The moves that leave the records alone are alike: the call goes on to hold something that hands out
no number.  Marking a record and adding a message change one chat record each.
-/

namespace ChatService.Memory

open Store (Application Message Operation Answer CounterUpdate Scope)

attribute [local irreducible] idText

variable {m : Moment} {s s' : State} {helds : List Holding} {n : Nat} {held held' : Holding}

/-! ## moves that leave the records alone -/

theorem extends_refl : Extends s s where
  ids := Nat.le_refl _
  application _ found hfound := ⟨found, hfound, .refl _⟩
  chat _ chat hchat := ⟨chat, hchat, .refl _, .refl _⟩
  link _ found _ _ hfound hlink _ := ⟨found, hfound, hlink⟩

/-- A section that only looks, and lets its call hold something that neither carries an id nor hands
out a number. -/
theorem Inv.keep (h : Inv s helds) (hheld : helds[n]? = some held)
    (hmade : held'.madeId = none) (hnone : ∀ scope, held.numberWithin scope = none)
    (hnone' : ∀ scope, held'.numberWithin scope = none) (hbacked : Backed s held') :
    Inv s (helds.set n held') where
  ids := h.ids.of_subperm (allIds_set_subperm hheld hmade) (Nat.le_refl _)
  shape := h.shape
  backed := h.backed_set extends_refl hbacked
  numbers := h.numbers.of_perm fun scope =>
    heldNumbers_set_of_none hheld (hnone scope) (hnone' scope)

theorem extends_takeId : Extends s s.takeId :=
  { extends_refl with ids := Nat.le_succ _ }

theorem Shape.takeId (h : Shape s) : Shape s.takeId where
  tokens := h.tokens
  records := h.records
  application token found hfound := { h.application token found hfound with }
  chat record chat hchat :=
    { h.chat record chat hchat with given := Nat.le_succ_of_le (h.chat record chat hchat).given }
  homes := h.homes

theorem Numbers.takeId (h : Numbers s helds) : Numbers s.takeId helds := { h with }

/-- An id that is taken for nothing. -/
theorem Inv.waste (h : Inv s helds) (hheld : helds[n]? = some held)
    (hnone : ∀ scope, held.numberWithin scope = none) : Inv s.takeId (helds.set n .idle) where
  ids := h.ids.of_subperm (allIds_set_subperm hheld rfl) (Nat.le_succ _)
  shape := h.shape.takeId
  backed := h.backed_set extends_takeId trivial
  numbers := (h.numbers.of_perm fun scope => heldNumbers_set_of_none hheld (hnone scope) rfl).takeId

theorem Inv.make (h : Inv s helds) (hheld : helds[n]? = some .idle) {name : String}
    (hname : Text.isBlank name = false) (hfew : s.ids + 1 < 16 ^ 24) :
    Inv s.takeId (helds.set n (.made (newApplication m (s.ids + 1) name))) where
  ids := by
    refine h.ids.of_perm_cons ?_ rfl hfew
    have hmade := madeIds_set hheld (.made (newApplication m (s.ids + 1) name))
    simp only [Holding.madeId, Option.toList_none, List.append_nil, Option.toList_some,
      newApplication] at hmade
    refine (hmade.append_left _).trans ?_
    rw [← List.append_assoc]
    exact List.perm_append_singleton _ _
  shape := h.shape.takeId
  backed := h.backed_set extends_takeId ⟨hname, rfl, rfl⟩
  numbers := (h.numbers.of_perm fun _ => heldNumbers_set_of_none hheld rfl rfl).takeId

/-! ## marking a chat record -/

section Mark

variable {token : String} {number : Int} {record : Nat}

theorem marked_before {record' : Nat} {chat' : ChatRecord}
    (hchat' : Keyed.get? record' (s.mark record).chats = some chat') :
    ∃ chat, Keyed.get? record' s.chats = some chat ∧ chat.chat = chat'.chat := by
  obtain ⟨chat, hchat, ⟨-, rfl⟩ | ⟨-, rfl⟩⟩ := marked_cases hchat'
  · exact ⟨chat, hchat, rfl⟩
  · exact ⟨chat', hchat, rfl⟩

theorem extends_mark : Extends s (s.mark record) where
  ids := Nat.le_refl _
  application _ found hfound := ⟨found, hfound, rfl⟩
  chat record' chat hchat := by
    rw [get?_chats_mark]
    split
    · exact ⟨chat.mark, by rw [hchat, Option.map_some], rfl, rfl⟩
    · exact ⟨chat, hchat, rfl, rfl⟩
  link _ found _ _ hfound hlink _ := ⟨found, hfound, hlink⟩

theorem Shape.mark (h : Shape s) (hbacked : Backed s (.unlinked token number record)) :
    Shape (s.mark record) where
  tokens := h.tokens
  records := by simpa [State.mark, State.updateChat] using h.records
  application token found hfound := by
    have hsound := h.application token found hfound
    refine { hsound with linked := fun number record' hlink => ?_ }
    obtain ⟨chat, hchat, hsame⟩ := hsound.linked number record' hlink
    have hother : record ≠ record' := fun heq => hbacked.2 token found number hfound (heq ▸ hlink)
    exact ⟨chat, by rw [get?_chats_mark, if_neg hother, hchat], hsame⟩
  chat record' chat' hchat' := by
    obtain ⟨chat, hchat, ⟨-, rfl⟩ | ⟨-, rfl⟩⟩ := marked_cases hchat'
    · exact
        { h.chat record' chat hchat with
          numbered := by simp [ChatRecord.mark], counted := by simp [ChatRecord.mark]
          emptied := fun _ => rfl, bodies := by simp [ChatRecord.mark] }
    · exact { h.chat record' chat' hchat with }
  homes record₁ record₂ chat₁ chat₂ hchat₁ hchat₂ hhome hsame := by
    obtain ⟨before₁, hbefore₁, heq₁⟩ := marked_before hchat₁
    obtain ⟨before₂, hbefore₂, heq₂⟩ := marked_before hchat₂
    exact h.homes record₁ record₂ before₁ before₂ hbefore₁ hbefore₂ (by rw [heq₁, heq₂, hhome])
      (by rw [heq₁, heq₂, hsame])

theorem Numbers.mark (h : Numbers s helds) : Numbers (s.mark record) helds where
  chats := h.chats
  noChats := h.noChats
  messages token found record' chat' hfound hchat' hhome := by
    obtain ⟨chat, hchat, heq⟩ := marked_before hchat'
    rw [← heq] at hhome ⊢
    exact h.messages token found record' chat hfound hchat hhome
  noMessages token number hfree :=
    h.noMessages token number fun found record' chat hfound hchat hhome => by
      obtain ⟨chat', hchat', hhome', hnumber'⟩ := extends_mark.chat record' chat hchat
      exact hnumber' ▸ hfree found record' chat' hfound hchat' (hhome'.trans hhome)

theorem Inv.mark (h : Inv s helds) (hheld : helds[n]? = some (.unlinked token number record)) :
    Inv (s.mark record) (helds.set n (.deleted token number)) where
  ids := h.ids.of_subperm
    ((storedIds_mark_sublist.append_right _).subperm.trans (allIds_set_subperm hheld rfl))
    (Nat.le_refl _)
  shape := h.shape.mark (h.backed _ (List.mem_of_getElem? hheld))
  backed := h.backed_set extends_mark trivial
  numbers := (h.numbers.of_perm fun _ => heldNumbers_set_of_none hheld rfl rfl).mark

end Mark

/-! ## adding a message -/

section Post

variable {token body : String} {number next count : Int} {record : Nat} {chat : ChatRecord}

theorem posted_before (hchat : Keyed.get? record s.chats = some chat) {record' : Nat}
    {chat' : ChatRecord}
    (hchat' : Keyed.get? record' (s.post m record chat.chat next count body).chats = some chat') :
    ∃ before, Keyed.get? record' s.chats = some before ∧
      before.chat.applicationId = chat'.chat.applicationId ∧
      before.chat.number = chat'.chat.number := by
  obtain ⟨rfl, rfl⟩ | ⟨-, hchat'⟩ := posted_cases hchat hchat'
  · exact ⟨chat, hchat, rfl, rfl⟩
  · exact ⟨chat', hchat', rfl, rfl⟩

theorem get?_chats_post_of_some {record' : Nat} {before : ChatRecord}
    (hbefore : Keyed.get? record' s.chats = some before) :
    ∃ after, Keyed.get? record' (s.post m record chat.chat next count body).chats = some after ∧
      after.chat.applicationId = before.chat.applicationId ∧
      after.chat.number = before.chat.number ∧ after.deleted = before.deleted := by
  rw [get?_chats_post]
  split
  · exact ⟨before.addMessage m next count (newMessage m (s.ids + 1) chat.chat next body),
      by rw [hbefore, Option.map_some], rfl, rfl, rfl⟩
  · exact ⟨before, hbefore, rfl, rfl, rfl⟩

theorem extends_post : Extends s (s.post m record chat.chat next count body) where
  ids := Nat.le_succ _
  application _ found hfound := ⟨found, hfound, rfl⟩
  chat record' before hbefore := by
    obtain ⟨after, hafter, hhome, hnumber, -⟩ := get?_chats_post_of_some hbefore
    exact ⟨after, hafter, hhome, hnumber⟩
  link _ found _ _ hfound hlink _ := ⟨found, hfound, hlink⟩

/-- The next number is above those of all messages. -/
theorem SoundChat.lt_next (h : SoundChat s record chat) (hlive : chat.deleted = false)
    (hnext : next = chat.chat.lastMessageNumber + 1) :
    ∀ other ∈ Keyed.keys chat.messages, other < next := by
  intro other hother
  rw [h.numbered hlive, mem_numbersTo] at hother
  omega

theorem SoundChat.messages_addMessage (h : SoundChat s record chat) (hlive : chat.deleted = false)
    (hnext : next = chat.chat.lastMessageNumber + 1) (m : Moment) (count : Int)
    (message : Message) :
    (chat.addMessage m next count message).messages = chat.messages ++ [(next, message)] :=
  Keyed.putAscending_eq_append (h.lt_next hlive hnext)

theorem SoundChat.addMessage (h : SoundChat s record chat) (hlive : chat.deleted = false)
    (hnext : next = chat.chat.lastMessageNumber + 1) (hcount : count = chat.chat.messagesCount + 1)
    (hbody : Text.isBlank body = false) :
    SoundChat (s.post m record chat.chat next count body) record
      (chat.addMessage m next count (newMessage m (s.ids + 1) chat.chat next body)) := by
  have happend : ∀ message : Message, Keyed.putAscending next message chat.messages =
      chat.messages ++ [(next, message)] := h.messages_addMessage hlive hnext m count
  have hlast := h.last_nonneg
  refine
    { given := Nat.le_succ_of_le h.given, home := h.home, inHome := h.inHome
      last_nonneg := ?_, numbered := fun _ => ?_, counted := fun _ => ?_, emptied := ?_
      bodies := ?_ }
  · simp only [ChatRecord.addMessage]
    omega
  · simp only [ChatRecord.addMessage, happend, Keyed.keys_append, h.numbered hlive,
      Keyed.keys_cons, Keyed.keys_nil]
    rw [hnext, numbersTo_add_one hlast]
  · have hcounted := h.counted hlive
    simp only [ChatRecord.addMessage, happend, List.length_append, List.length_singleton]
    omega
  · simp [ChatRecord.addMessage, hlive]
  · simp only [ChatRecord.addMessage, happend, List.mem_append, List.mem_singleton]
    rintro entry (hentry | rfl)
    · exact h.bodies entry hentry
    · exact hbody

theorem Shape.post (h : Shape s) (hchat : Keyed.get? record s.chats = some chat)
    (hlive : chat.deleted = false) (hnext : next = chat.chat.lastMessageNumber + 1)
    (hcount : count = chat.chat.messagesCount + 1) (hbody : Text.isBlank body = false) :
    Shape (s.post m record chat.chat next count body) where
  tokens := h.tokens
  records := by simpa [State.post, State.takeId, State.updateChat] using h.records
  application token found hfound := by
    have hsound := h.application token found hfound
    refine { hsound with linked := fun number record' hlink => ?_ }
    obtain ⟨before, hbefore, hnumber, hhome, hlive⟩ := hsound.linked number record' hlink
    obtain ⟨after, hafter, hhome', hnumber', hlive'⟩ := get?_chats_post_of_some hbefore
    exact ⟨after, hafter, hnumber'.trans hnumber, hhome'.trans hhome, hlive'.trans hlive⟩
  chat record' chat' hchat' := by
    obtain ⟨rfl, rfl⟩ | ⟨-, hchat'⟩ := posted_cases hchat hchat'
    · exact (h.chat _ chat hchat).addMessage hlive hnext hcount hbody
    · exact (h.chat record' chat' hchat').of_applications extends_post fun _ found hfound =>
        ⟨found, hfound, rfl, Int.le_refl _⟩
  homes record₁ record₂ chat₁ chat₂ hchat₁ hchat₂ hhome hsame := by
    obtain ⟨before₁, hbefore₁, hhome₁, hnumber₁⟩ := posted_before hchat hchat₁
    obtain ⟨before₂, hbefore₂, hhome₂, hnumber₂⟩ := posted_before hchat hchat₂
    exact h.homes record₁ record₂ before₁ before₂ hbefore₁ hbefore₂
      (hhome₁.trans (hhome.trans hhome₂.symm)) (hnumber₁.trans (hsame.trans hnumber₂.symm))

theorem Numbers.post (h : Numbers s helds) (hshape : Shape s) (hids : Ids s helds)
    (hheld : helds[n]? = some (.found token number record))
    (hbacked : Backed s (.found token number record))
    (hchat : Keyed.get? record s.chats = some chat)
    (hnext : next = chat.chat.lastMessageNumber + 1) :
    Numbers (s.post m record chat.chat next count body)
      (helds.set n (.numbered (.chat token number) next)) := by
  obtain ⟨found, chat', hfound, hchat', hhome, hnumber⟩ := hbacked
  obtain rfl : chat = chat' := Option.some.inj (hchat.symm.trans hchat')
  have hnone : ∀ scope, (Holding.found token number record).numberWithin scope = none :=
    fun _ => rfl
  constructor
  case chats =>
    intro token' found' hfound'
    exact (heldNumbers_numbered_of_ne hheld hnone (by simp)).trans (h.chats token' found' hfound')
  case noChats =>
    intro token' hnone'
    exact heldNumbers_numbered_eq_nil hheld hnone (by simp) (h.noChats token' hnone')
  case messages =>
    intro token' found' record' chat' hfound' hchat'' hhome'
    obtain ⟨rfl, rfl⟩ | ⟨hrecord, hchat''⟩ := posted_cases hchat hchat''
    · have htoken : token' = token := hids.token_eq hfound' hfound (hhome'.symm.trans hhome)
      subst htoken
      simp only [ChatRecord.addMessage, hnumber, hnext,
        numbersTo_add_one (hshape.chat _ chat hchat).last_nonneg]
      exact (heldNumbers_numbered hheld hnone).trans
        ((hnumber ▸ h.messages token' found _ chat hfound hchat hhome).append_right _)
    · refine (heldNumbers_numbered_of_ne hheld hnone fun hscope => hrecord ?_).trans
        (h.messages token' found' record' chat' hfound' hchat'' hhome')
      obtain ⟨rfl, hsame⟩ := (Scope.chat.injEq ..).mp hscope
      obtain rfl : found = found' := Option.some.inj (hfound.symm.trans hfound')
      exact hshape.homes record' record chat' chat hchat'' hchat (hhome'.trans hhome.symm)
        (hsame.trans hnumber.symm)
  case noMessages =>
    intro token' number' hfree
    have hscope : Scope.chat token' number' ≠ .chat token number := by
      rintro hscope
      obtain ⟨rfl, rfl⟩ := (Scope.chat.injEq ..).mp hscope
      obtain ⟨after, hafter, hhome', hnumber', -⟩ := get?_chats_post_of_some hchat
      exact hfree found record after hfound hafter (hhome'.trans hhome) (hnumber'.trans hnumber)
    refine heldNumbers_numbered_eq_nil hheld hnone hscope
      (h.noMessages token' number' fun found' record' before hfound' hbefore => ?_)
    obtain ⟨after, hafter, hhome', hnumber', -⟩ := get?_chats_post_of_some hbefore
    exact fun hhome => hnumber' ▸ hfree found' record' after hfound' hafter (hhome'.trans hhome)

theorem Inv.post (h : Inv s helds) (hheld : helds[n]? = some (.found token number record))
    (hchat : Keyed.get? record s.chats = some chat) (hlive : chat.deleted = false)
    (hnext : next = chat.chat.lastMessageNumber + 1)
    (hcount : count = chat.chat.messagesCount + 1) (hbody : Text.isBlank body = false)
    (hfew : s.ids + 1 < 16 ^ 24) :
    Inv (s.post m record chat.chat next count body)
      (helds.set n (.numbered (.chat token number) next)) where
  ids := by
    refine h.ids.of_perm_cons ?_ rfl hfew
    have hmade := madeIds_set hheld (.numbered (.chat token number) next)
    simp only [Holding.madeId, Option.toList_none, List.append_nil] at hmade
    have hlt := (h.shape.chat record chat hchat).lt_next hlive hnext
    exact (storedIds_post_perm h.shape.records hchat hlt).append hmade
  shape := h.shape.post hchat hlive hnext hcount hbody
  backed := h.backed_set extends_post trivial
  numbers := h.numbers.post h.shape h.ids hheld (h.backed _ (List.mem_of_getElem? hheld)) hchat
    hnext

end Post

/-! ## every move -/

theorem ids_le_of_move (h : Move held m s s' held') : s.ids ≤ s'.ids := by
  cases h <;> first | exact Nat.le_refl _ | exact Nat.le_succ _

/-- **Every move keeps the invariant**, as long as ids do not run out. -/
theorem Inv.of_move (h : Inv s helds) (hheld : helds[n]? = some held)
    (hmove : Move held m s s' held') (hfew : s'.ids < 16 ^ 24) : Inv s' (helds.set n held') := by
  cases hmove with
  | look => exact h.keep hheld rfl (fun _ => rfl) (fun _ => rfl) trivial
  | make hname => exact h.make hheld hname hfew
  | refuse => exact h.keep hheld rfl (fun _ => rfl) (fun _ => rfl) trivial
  | store hfree => exact h.store hheld hfree
  | link hfound hnumber hcount =>
      exact h.link hheld hfound (Store.nextAfter_eq_ok hnumber).2
        (CounterUpdate.apply_eq_ok hcount).1 hfew
  | unlink hfound hlink hcount =>
      exact h.unlink hheld hfound hlink (CounterUpdate.apply_eq_ok hcount).1
  | mark => exact h.mark hheld
  | find hfound hlink =>
      obtain ⟨chat, hchat, hnumber, hhome, -⟩ :=
        (h.shape.application _ _ hfound).linked _ _ hlink
      exact h.keep hheld rfl (fun _ => rfl) (fun _ => rfl) ⟨_, chat, hfound, hchat, hhome, hnumber⟩
  | letGo => exact h.keep hheld rfl (fun _ => rfl) (fun _ => rfl) trivial
  | waste => exact h.waste hheld fun _ => rfl
  | post hbody hchat hlive hnumber hcount =>
      exact h.post hheld hchat hlive (Store.nextAfter_eq_ok hnumber).2
        (CounterUpdate.apply_eq_ok hcount).1 hbody hfew

end ChatService.Memory
