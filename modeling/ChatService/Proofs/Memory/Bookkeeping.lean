import ChatService.Proofs.Memory.Invariant

/-!
# What changes with a move, and what never does

The facts that several moves share: how the ids and the numbers that a pool holds change when one
call goes on, how lookups and stored ids change with the state, and what every later state keeps of
an earlier one (`Extends`).
-/

namespace ChatService.Memory

open Store (Application Message Operation Answer CounterUpdate Scope)

attribute [local irreducible] idText

variable {m : Moment} {s s' : State} {helds : List Holding} {n : Nat} {held held' : Holding}

/-! ## what a pool collects -/

/-- Replacing one element exchanges what is collected from it. -/
theorem filterMap_set_perm {γ δ : Type*} {f : γ → Option δ} {xs : List γ} {x : γ} {n : Nat}
    (h : xs[n]? = some x) (y : γ) :
    ((xs.set n y).filterMap f ++ (f x).toList).Perm (xs.filterMap f ++ (f y).toList) := by
  induction xs generalizing n with
  | nil => simp at h
  | cons z xs ih =>
      cases n with
      | zero =>
          obtain rfl : z = x := by simpa using h
          have hcollect : ∀ w, (w :: xs).filterMap f = (f w).toList ++ xs.filterMap f := fun w => by
            cases hw : f w <;> simp [hw]
          rw [List.set_cons_zero, hcollect, hcollect, List.append_assoc, List.append_assoc]
          exact (List.perm_append_comm.append_left _).trans
            (List.perm_append_comm.trans (by simp))
      | succ n =>
          have ih := ih (by simpa using h)
          cases hz : f z <;> simpa [hz] using ih

/-- Replacing one element by one that gives the same leaves what is collected. -/
theorem filterMap_set_perm_of_eq {γ δ : Type*} {f : γ → Option δ} {xs : List γ} {x y : γ} {n : Nat}
    (h : xs[n]? = some x) (heq : f y = f x) :
    ((xs.set n y).filterMap f).Perm (xs.filterMap f) := by
  have hperm := filterMap_set_perm (f := f) h y
  rwa [heq, List.perm_append_right_iff] at hperm

theorem heldNumbers_set_of_none {scope : Scope} (hheld : helds[n]? = some held)
    (hnone : held.numberWithin scope = none) (hnone' : held'.numberWithin scope = none) :
    (heldNumbers scope (helds.set n held')).Perm (heldNumbers scope helds) :=
  filterMap_set_perm_of_eq hheld (hnone'.trans hnone.symm)

section Numbered

variable {scope scope' : Scope} {number : Int} (hheld : helds[n]? = some held)
  (hnone : ∀ scope, held.numberWithin scope = none)
include hheld hnone

/-- A number that is handed out is held by its call, -/
theorem heldNumbers_numbered :
    (heldNumbers scope (helds.set n (.numbered scope number))).Perm
      (heldNumbers scope helds ++ [number]) := by
  have hperm := filterMap_set_perm (f := Holding.numberWithin scope) hheld (.numbered scope number)
  rw [hnone, Option.toList_none, List.append_nil] at hperm
  simpa [heldNumbers, Holding.numberWithin] using hperm

/-- and only within its parent. -/
theorem heldNumbers_numbered_of_ne (hne : scope' ≠ scope) :
    (heldNumbers scope' (helds.set n (.numbered scope number))).Perm (heldNumbers scope' helds) :=
  heldNumbers_set_of_none hheld (hnone scope') (by simp [Holding.numberWithin, hne.symm])

theorem heldNumbers_numbered_eq_nil (hne : scope' ≠ scope)
    (hempty : heldNumbers scope' helds = []) :
    heldNumbers scope' (helds.set n (.numbered scope number)) = [] :=
  List.perm_nil.mp (hempty ▸ heldNumbers_numbered_of_ne hheld hnone hne)

end Numbered

theorem Numbers.of_perm (h : Numbers s helds) {helds' : List Holding}
    (hperm : ∀ scope, (heldNumbers scope helds').Perm (heldNumbers scope helds)) :
    Numbers s helds' where
  chats token found hfound := (hperm _).trans (h.chats token found hfound)
  noChats token hnone := List.perm_nil.mp (h.noChats token hnone ▸ hperm _)
  messages token found record chat hfound hchat hhome :=
    (hperm _).trans (h.messages token found record chat hfound hchat hhome)
  noMessages token number hnone := List.perm_nil.mp (h.noMessages token number hnone ▸ hperm _)

/-! ## ids -/

/-- No id is new. -/
theorem Ids.of_subperm (h : Ids s helds) {helds' : List Holding}
    (hids : (allIds s' helds').Subperm (allIds s helds)) (hle : s.ids ≤ s'.ids) :
    Ids s' helds' where
  used id hid := by
    obtain ⟨k, hk, hk', rfl⟩ := h.used id (hids.subset hid)
    exact ⟨k, hk, by omega, rfl⟩
  nodup := by
    obtain ⟨ids, hperm, hsub⟩ := hids
    exact hperm.nodup_iff.mp (h.nodup.sublist hsub)

/-- One id is new, the next one. -/
theorem Ids.of_perm_cons (h : Ids s helds) {helds' : List Holding}
    (hids : (allIds s' helds').Perm (idText (s.ids + 1) :: allIds s helds))
    (hnext : s'.ids = s.ids + 1) (hfew : s'.ids < 16 ^ 24) : Ids s' helds' where
  used id hid := by
    obtain rfl | hid := List.mem_cons.mp (hids.subset hid)
    · exact ⟨s.ids + 1, by omega, by omega, rfl⟩
    · obtain ⟨k, hk, hk', rfl⟩ := h.used id hid
      exact ⟨k, hk, by omega, rfl⟩
  nodup := by
    refine hids.nodup_iff.mpr (List.nodup_cons.mpr ⟨fun hid => ?_, h.nodup⟩)
    obtain ⟨k, -, hk, heq⟩ := h.used _ hid
    have : s.ids + 1 = k := (idText_inj (by omega) (by omega)).mp heq
    omega

theorem madeIds_set (hheld : helds[n]? = some held) (held' : Holding) :
    ((helds.set n held').filterMap Holding.madeId ++ held.madeId.toList).Perm
      (helds.filterMap Holding.madeId ++ held'.madeId.toList) :=
  filterMap_set_perm hheld held'

/-- A holding without an id takes the place of another one. -/
theorem allIds_set_subperm (hheld : helds[n]? = some held) (hnone : held'.madeId = none) :
    (allIds s (helds.set n held')).Subperm (allIds s helds) := by
  have hperm := madeIds_set hheld held'
  rw [hnone, Option.toList_none, List.append_nil] at hperm
  exact (List.subperm_append_left _).mpr
    ((List.sublist_append_left _ _).subperm.trans hperm.subperm)

/-! ## lookups after a move -/

section Lookups

variable {token token' body : String} {application : Application} {number count : Int}
  {record record' : Nat} {chat : Store.Chat}

theorem get?_applications_store :
    Keyed.get? token (s.store application).applications =
      if application.token = token then some ⟨application, []⟩
      else Keyed.get? token s.applications := Keyed.get?_put ..

/-- An application that was stored before is not the new one. -/
theorem get?_applications_store_of_stored
    (hfree : Keyed.get? application.token s.applications = none) {token : String}
    {found : ApplicationRecord} (hfound : Keyed.get? token s.applications = some found) :
    Keyed.get? token (s.store application).applications = some found := by
  rw [get?_applications_store, if_neg]
  · exact hfound
  · rintro rfl
    simp [hfree] at hfound

theorem get?_applications_link :
    Keyed.get? token' (s.link m token application number count).applications =
      if token = token' then
        (Keyed.get? token' s.applications).map (.addLink m number count (s.ids + 1))
      else Keyed.get? token' s.applications := Keyed.get?_update ..

theorem get?_chats_link :
    Keyed.get? record (s.link m token application number count).chats =
      if s.ids + 1 = record then some ⟨newChat m (s.ids + 1) application number, [], false⟩
      else Keyed.get? record s.chats := Keyed.get?_put ..

theorem get?_applications_unlink :
    Keyed.get? token' (s.unlink m token number count).applications =
      if token = token' then (Keyed.get? token' s.applications).map (.removeLink m number count)
      else Keyed.get? token' s.applications := Keyed.get?_update ..

theorem get?_chats_mark :
    Keyed.get? record' (s.mark record).chats =
      if record = record' then (Keyed.get? record' s.chats).map .mark
      else Keyed.get? record' s.chats := Keyed.get?_update ..

theorem get?_chats_post :
    Keyed.get? record' (s.post m record chat number count body).chats =
      if record = record' then
        (Keyed.get? record' s.chats).map
          (.addMessage m number count (newMessage m (s.ids + 1) chat number body))
      else Keyed.get? record' s.chats := Keyed.get?_update ..

end Lookups

/-! ## what is there after a move -/

section Cases

variable {token token' body : String} {application : Application} {number next count : Int}
  {record record' : Nat} {found found' : ApplicationRecord} {chat chat' : ChatRecord}

/-- Whatever is stored is the new application or was stored before. -/
theorem stored_cases (hfound : Keyed.get? token (s.store application).applications = some found) :
    (token = application.token ∧ found = ⟨application, []⟩) ∨
      Keyed.get? token s.applications = some found := by
  rw [get?_applications_store] at hfound
  split at hfound
  · next htoken => exact .inl ⟨htoken.symm, (Option.some.inj hfound).symm⟩
  · exact .inr hfound

/-- An application after a new link: the one that has it, or another one. -/
theorem linked_cases (hfound : Keyed.get? token s.applications = some found)
    (hfound' : Keyed.get? token' (s.link m token application number count).applications =
      some found') :
    (token' = token ∧ found' = found.addLink m number count (s.ids + 1)) ∨
      (token' ≠ token ∧ Keyed.get? token' s.applications = some found') := by
  rw [get?_applications_link] at hfound'
  split at hfound'
  · next htoken =>
      subst htoken
      rw [hfound] at hfound'
      exact .inl ⟨rfl, (Option.some.inj hfound').symm⟩
  · next htoken => exact .inr ⟨fun heq => htoken heq.symm, hfound'⟩

/-- A chat record after a new link: the one that came with it, or one that was there before. -/
theorem chats_link_cases
    (hchat : Keyed.get? record (s.link m token application number count).chats = some chat) :
    (record = s.ids + 1 ∧ chat = ⟨newChat m (s.ids + 1) application number, [], false⟩) ∨
      Keyed.get? record s.chats = some chat := by
  rw [get?_chats_link] at hchat
  split at hchat
  · next hrecord => exact .inl ⟨hrecord.symm, (Option.some.inj hchat).symm⟩
  · exact .inr hchat

/-- An application after a link was taken away: the one that had it, or another one. -/
theorem unlinked_cases (hfound : Keyed.get? token s.applications = some found)
    (hfound' : Keyed.get? token' (s.unlink m token number count).applications = some found') :
    (token' = token ∧ found' = found.removeLink m number count) ∨
      (token' ≠ token ∧ Keyed.get? token' s.applications = some found') := by
  rw [get?_applications_unlink] at hfound'
  split at hfound'
  · next htoken =>
      subst htoken
      rw [hfound] at hfound'
      exact .inl ⟨rfl, (Option.some.inj hfound').symm⟩
  · next htoken => exact .inr ⟨fun heq => htoken heq.symm, hfound'⟩

/-- A chat record was there before, and keeps everything but its messages. -/
theorem marked_cases (hchat' : Keyed.get? record' (s.mark record).chats = some chat') :
    ∃ chat, Keyed.get? record' s.chats = some chat ∧
      ((record' = record ∧ chat' = chat.mark) ∨ (record' ≠ record ∧ chat' = chat)) := by
  rw [get?_chats_mark] at hchat'
  split at hchat'
  · next hrecord =>
      obtain ⟨chat, hchat, rfl⟩ := Option.map_eq_some_iff.mp hchat'
      exact ⟨chat, hchat, .inl ⟨hrecord.symm, rfl⟩⟩
  · next hrecord => exact ⟨chat', hchat', .inr ⟨fun heq => hrecord heq.symm, rfl⟩⟩

/-- A chat record was there before; the one that got the message is known. -/
theorem posted_cases (hchat : Keyed.get? record s.chats = some chat)
    (hchat' : Keyed.get? record' (s.post m record chat.chat next count body).chats = some chat') :
    (record' = record ∧
        chat' = chat.addMessage m next count (newMessage m (s.ids + 1) chat.chat next body)) ∨
      (record' ≠ record ∧ Keyed.get? record' s.chats = some chat') := by
  rw [get?_chats_post] at hchat'
  split at hchat'
  · next hrecord =>
      subst hrecord
      rw [hchat] at hchat'
      exact .inl ⟨rfl, (Option.some.inj hchat').symm⟩
  · next hrecord => exact .inr ⟨fun heq => hrecord heq.symm, hchat'⟩

end Cases

/-! ## stored ids after a move -/

section StoredIds

variable {token body : String} {application : Application} {number count : Int} {record : Nat}
  {chat : ChatRecord}

theorem storedIds_store_perm (hfree : Keyed.get? application.token s.applications = none) :
    (storedIds (s.store application)).Perm (application.id :: storedIds s) := by
  simp only [storedIds, State.store, Keyed.put_eq_append hfree, List.map_append, List.map_cons,
    List.map_nil, List.append_assoc, List.singleton_append]
  exact List.perm_middle

theorem ids_applications_update {token : String} {f : ApplicationRecord → ApplicationRecord}
    (h : ∀ found, (f found).application.id = found.application.id) :
    (Keyed.update token f s.applications).map (·.2.application.id) =
      s.applications.map (·.2.application.id) := Keyed.map_update token s.applications h

theorem storedIds_link_perm (hfree : Keyed.get? (s.ids + 1) s.chats = none) :
    (storedIds (s.link m token application number count)).Perm
      (idText (s.ids + 1) :: storedIds s) := by
  simp only [storedIds, State.link, State.updateApplication]
  rw [ids_applications_update (f := .addLink m number count (s.ids + 1)) fun _ => rfl,
    Keyed.put_eq_append hfree]
  simp only [List.flatMap_append, List.flatMap_cons, List.flatMap_nil, List.append_nil, recordIds,
    List.map_nil, newChat]
  rw [← List.append_assoc]
  exact List.perm_append_singleton _ _

theorem storedIds_unlink : storedIds (s.unlink m token number count) = storedIds s := by
  simp only [storedIds, State.unlink, State.updateApplication]
  rw [ids_applications_update (f := .removeLink m number count) fun _ => rfl]

theorem storedIds_mark_sublist : (storedIds (s.mark record)).Sublist (storedIds s) := by
  simp only [storedIds, State.mark, State.updateChat]
  refine (List.Sublist.refl _).append (Keyed.flatMap_update_sublist fun chat => ?_)
  exact (List.nil_sublist _).cons_cons chat.chat.id

theorem storedIds_post_perm (hrecords : (Keyed.keys s.chats).Nodup)
    (hchat : Keyed.get? record s.chats = some chat)
    (hnew : ∀ other ∈ Keyed.keys chat.messages, other < number) :
    (storedIds (s.post m record chat.chat number count body)).Perm
      (idText (s.ids + 1) :: storedIds s) := by
  simp only [storedIds, State.post, State.takeId, State.updateChat]
  refine ((Keyed.flatMap_update_perm [idText (s.ids + 1)] hrecords hchat ?_).append_left _).trans ?_
  · simp only [recordIds, ChatRecord.addMessage, Keyed.putAscending_eq_append hnew,
      List.map_append, List.map_cons, List.map_nil, newMessage, List.singleton_append]
    rw [← List.cons_append]
    exact List.perm_append_singleton _ _
  · rw [List.singleton_append]
    exact List.perm_middle

end StoredIds

/-! ## what no move takes away -/

/-- What a later state keeps of an earlier one: records with their homes, and no new link to an old
record. -/
structure Extends (s s' : State) : Prop where
  ids : s.ids ≤ s'.ids
  application : ∀ token found, Keyed.get? token s.applications = some found →
    ∃ found', Keyed.get? token s'.applications = some found' ∧
      found'.application.id = found.application.id
  chat : ∀ record chat, Keyed.get? record s.chats = some chat →
    ∃ chat', Keyed.get? record s'.chats = some chat' ∧
      chat'.chat.applicationId = chat.chat.applicationId ∧ chat'.chat.number = chat.chat.number
  link : ∀ token found' number record, Keyed.get? token s'.applications = some found' →
    Keyed.get? number found'.chats = some record → record ≤ s.ids →
      ∃ found, Keyed.get? token s.applications = some found ∧
        Keyed.get? number found.chats = some record

theorem Backed.of_extends (hextends : Extends s s') (h : Backed s held) : Backed s' held := by
  cases held with
  | idle => trivial
  | made application => exact h
  | found token number record =>
      obtain ⟨found, chat, hfound, hchat, hhome, hnumber⟩ := h
      obtain ⟨found', hfound', hid⟩ := hextends.application token found hfound
      obtain ⟨chat', hchat', hhome', hnumber'⟩ := hextends.chat record chat hchat
      exact ⟨found', chat', hfound', hchat', by rw [hhome', hhome, hid], by rw [hnumber', hnumber]⟩
  | unlinked token number record =>
      refine ⟨Nat.le_trans h.1 hextends.ids, fun token found' number hfound' hlink => ?_⟩
      obtain ⟨found, hfound, hlink⟩ := hextends.link token found' number record hfound' hlink h.1
      exact h.2 token found number hfound hlink
  | numbered scope number => trivial
  | deleted token number => trivial

theorem Inv.backed_set (h : Inv s helds) (hextends : Extends s s') (hheld' : Backed s' held') :
    ∀ other ∈ helds.set n held', Backed s' other := by
  intro other hother
  obtain hmem | rfl := List.mem_or_eq_of_mem_set hother
  · exact (h.backed other hmem).of_extends hextends
  · exact hheld'

/-! ## what the ids say -/

/-- Applications with one id are one application. -/
theorem Ids.token_eq (h : Ids s helds) {token token' : String} {found found' : ApplicationRecord}
    (hfound : Keyed.get? token s.applications = some found)
    (hfound' : Keyed.get? token' s.applications = some found')
    (hid : found.application.id = found'.application.id) : token = token' := by
  have hnodup : (s.applications.map (·.2.application.id)).Nodup :=
    h.nodup.of_append_left.of_append_left
  have := List.inj_on_of_nodup_map hnodup (Keyed.mem_of_get?_eq_some hfound)
    (Keyed.mem_of_get?_eq_some hfound') hid
  exact congrArg Prod.fst this

/-- The id of an application that is not stored yet belongs to no application that is. -/
theorem Ids.ne_of_made (h : Ids s helds) {application : Application} {token : String}
    {found : ApplicationRecord} (hmade : .made application ∈ helds)
    (hfound : Keyed.get? token s.applications = some found) :
    found.application.id ≠ application.id := by
  intro hid
  have hstored : found.application.id ∈ storedIds s :=
    List.mem_append_left _
      (List.mem_map_of_mem (f := (·.2.application.id)) (Keyed.mem_of_get?_eq_some hfound))
  have hheld : application.id ∈ helds.filterMap Holding.madeId :=
    List.mem_filterMap.mpr ⟨_, hmade, rfl⟩
  exact List.disjoint_of_nodup_append h.nodup hstored (hid ▸ hheld)

end ChatService.Memory
