import ChatService.Proofs.Memory.Bookkeeping

/-!
# Moves on applications keep the invariant

Storing an application, linking a new chat and unlinking one.  Each changes one application record,
and the chat records stay as they are, but for the one that comes with a new link.
-/

namespace ChatService.Memory

open Store (Application Message Operation Answer CounterUpdate Scope)

attribute [local irreducible] idText

variable {m : Moment} {s s' : State} {helds : List Holding} {n : Nat} {held held' : Holding}

/-! ## storing an application -/

section Store

variable {application : Application}

theorem extends_store (hfree : Keyed.get? application.token s.applications = none) :
    Extends s (s.store application) where
  ids := Nat.le_refl _
  application token found hfound :=
    ⟨found, get?_applications_store_of_stored hfree hfound, rfl⟩
  chat _ chat hchat := ⟨chat, hchat, rfl, rfl⟩
  link token found number record hfound hlink _ := by
    obtain ⟨-, rfl⟩ | hold := stored_cases hfound
    · simp [Keyed.get?] at hlink
    · exact ⟨found, hold, hlink⟩

theorem Shape.store (h : Shape s)
    (hfree : Keyed.get? application.token s.applications = none)
    (hname : Text.isBlank application.name = false) (hcount : application.chatsCount = 0)
    (hlast : application.lastChatNumber = 0)
    (hnew : ∀ token found, Keyed.get? token s.applications = some found →
      found.application.id ≠ application.id) : Shape (s.store application) where
  tokens := by
    simp only [State.store, Keyed.put_eq_append hfree, Keyed.keys_append, Keyed.keys_cons,
      Keyed.keys_nil]
    exact h.tokens.append (List.nodup_singleton _)
      (List.disjoint_singleton.mpr (Keyed.get?_eq_none_iff.mp hfree))
  records := h.records
  application token found hfound := by
    obtain ⟨-, rfl⟩ | hold := stored_cases hfound
    · exact
        { name := hname, last_nonneg := by simp [hlast], counted := by simp [hcount]
          ascending := .nil, linked := by simp [Keyed.get?] }
    · exact { h.application token found hold with }
  chat record chat hchat := by
    have hsound := h.chat record chat hchat
    obtain ⟨token, found, hfound, hid⟩ := hsound.home
    refine
      { hsound with
        home := ⟨token, found, get?_applications_store_of_stored hfree hfound, hid⟩
        inHome := fun token' found' hfound' hid' => ?_ }
    obtain ⟨-, rfl⟩ | hold := stored_cases hfound'
    · exact absurd (hid.trans hid'.symm) (hnew token found hfound)
    · exact hsound.inHome token' found' hold hid'
  homes := h.homes

theorem Numbers.store (h : Numbers s helds) (hshape : Shape s)
    (hfree : Keyed.get? application.token s.applications = none)
    (hlast : application.lastChatNumber = 0)
    (hnew : ∀ token found, Keyed.get? token s.applications = some found →
      found.application.id ≠ application.id) : Numbers (s.store application) helds where
  chats token found hfound := by
    obtain ⟨rfl, rfl⟩ | hold := stored_cases hfound
    · rw [h.noChats _ hfree]
      simp [hlast, numbersTo_zero]
    · exact h.chats token found hold
  noChats token hnone := h.noChats token <| by
    by_contra hsome
    obtain ⟨found, hfound⟩ := Option.ne_none_iff_exists'.mp hsome
    simp [get?_applications_store_of_stored hfree hfound] at hnone
  messages token found record chat hfound hchat hhome := by
    obtain ⟨-, rfl⟩ | hold := stored_cases hfound
    · obtain ⟨token', found', hfound', hid⟩ := (hshape.chat record chat hchat).home
      exact absurd (hid.trans hhome) (hnew token' found' hfound')
    · exact h.messages token found record chat hold hchat hhome
  noMessages token number hnone := h.noMessages token number fun found record chat hfound =>
    hnone found record chat (get?_applications_store_of_stored hfree hfound)

theorem Inv.store (h : Inv s helds) (hheld : helds[n]? = some (.made application))
    (hfree : Keyed.get? application.token s.applications = none) :
    Inv (s.store application) (helds.set n .idle) := by
  have hmem : .made application ∈ helds := List.mem_of_getElem? hheld
  obtain ⟨hname, hcount, hlast⟩ := h.backed _ hmem
  have hnew : ∀ token found, Keyed.get? token s.applications = some found →
      found.application.id ≠ application.id := fun _ _ => h.ids.ne_of_made hmem
  have hmade := madeIds_set hheld .idle
  simp only [Holding.madeId, Option.toList_some, Option.toList_none, List.append_nil] at hmade
  have hids : (allIds (s.store application) (helds.set n .idle)).Perm (allIds s helds) := by
    refine ((storedIds_store_perm hfree).append_right _).trans ?_
    refine (List.perm_middle.symm).trans (List.Perm.append_left _ ?_)
    exact (List.perm_append_singleton _ _).symm.trans hmade
  exact
    { ids := h.ids.of_subperm hids.subperm (Nat.le_refl _)
      shape := h.shape.store hfree hname hcount hlast hnew
      backed := h.backed_set (extends_store hfree) trivial
      numbers :=
        (h.numbers.of_perm fun _ => heldNumbers_set_of_none hheld rfl rfl).store
          h.shape hfree hlast hnew }

end Store

/-! ## records after a change of one application -/

/-- A chat record stays sound when its home keeps its id and its last number does not fall. -/
theorem SoundChat.of_applications {record : Nat} {chat : ChatRecord} (h : SoundChat s record chat)
    (hextends : Extends s s')
    (hback : ∀ token found', Keyed.get? token s'.applications = some found' →
      ∃ found, Keyed.get? token s.applications = some found ∧
        found.application.id = found'.application.id ∧
        found.application.lastChatNumber ≤ found'.application.lastChatNumber) :
    SoundChat s' record chat :=
  { h with
    given := Nat.le_trans h.given hextends.ids
    home := by
      obtain ⟨token, found, hfound, hid⟩ := h.home
      obtain ⟨found', hfound', hid'⟩ := hextends.application token found hfound
      exact ⟨token, found', hfound', hid'.trans hid⟩
    inHome := fun token found' hfound' hid' => by
      obtain ⟨found, hfound, hid, hlast⟩ := hback token found' hfound'
      obtain ⟨hlow, hhigh⟩ := h.inHome token found hfound (hid.trans hid')
      exact ⟨hlow, by omega⟩ }

/-- Every link of an application is below its last number. -/
theorem Shape.link_le (h : Shape s) {token : String} {found : ApplicationRecord}
    (hfound : Keyed.get? token s.applications = some found) {number : Int}
    (hnumber : number ∈ Keyed.keys found.chats) :
    number ≤ found.application.lastChatNumber := by
  have hsound := h.application token found hfound
  obtain ⟨⟨_, record⟩, hentry, rfl⟩ := List.mem_map.mp hnumber
  have hnodup : (Keyed.keys found.chats).Nodup := hsound.ascending.imp fun hlt => Int.ne_of_lt hlt
  obtain ⟨chat, hchat, rfl, hhome, -⟩ :=
    hsound.linked _ record ((Keyed.get?_eq_some_iff_mem hnodup).mpr hentry)
  exact ((h.chat record chat hchat).inHome token found hfound hhome.symm).2

/-- The record that the next chat will have is free. -/
theorem Shape.next_free (h : Shape s) : Keyed.get? (s.ids + 1) s.chats = none := by
  by_contra hsome
  obtain ⟨chat, hchat⟩ := Option.ne_none_iff_exists'.mp hsome
  have := (h.chat _ chat hchat).given
  omega

/-! ## linking a chat -/

section Link

variable {token : String} {found : ApplicationRecord} {number count : Int}

theorem Shape.given (h : Shape s) {record : Nat} {chat : ChatRecord}
    (hchat : Keyed.get? record s.chats = some chat) : record ≤ s.ids :=
  (h.chat record chat hchat).given

theorem get?_chats_link_of_some {application : Application} {record : Nat}
    {chat : ChatRecord} (hgiven : record ≤ s.ids)
    (hchat : Keyed.get? record s.chats = some chat) :
    Keyed.get? record (s.link m token application number count).chats = some chat := by
  rw [get?_chats_link, if_neg (by omega), hchat]

theorem extends_link
    (hgiven : ∀ record chat, Keyed.get? record s.chats = some chat → record ≤ s.ids)
    (hfound : Keyed.get? token s.applications = some found) :
    Extends s (s.link m token found.application number count) where
  ids := Nat.le_succ _
  application token' found' hfound' := by
    rw [get?_applications_link]
    split
    · exact ⟨found'.addLink m number count (s.ids + 1), by rw [hfound', Option.map_some], rfl⟩
    · exact ⟨found', hfound', rfl⟩
  chat record chat hchat :=
    ⟨chat, get?_chats_link_of_some (hgiven record chat hchat) hchat, rfl, rfl⟩
  link token' found' number' record hfound' hlink hold := by
    obtain ⟨rfl, rfl⟩ | ⟨-, hfound'⟩ := linked_cases hfound hfound'
    · simp only [ApplicationRecord.addLink, Keyed.get?_putAscending] at hlink
      split at hlink
      · have := Option.some.inj hlink
        omega
      · exact ⟨found, hfound, hlink⟩
    · exact ⟨found', hfound', hlink⟩

theorem SoundApplication.addLink (h : Shape s)
    (hfound : Keyed.get? token s.applications = some found)
    (hnumber : number = found.application.lastChatNumber + 1)
    (hcount : count = found.application.chatsCount + 1) :
    SoundApplication (s.link m token found.application number count)
      (found.addLink m number count (s.ids + 1)) := by
  have hsound := h.application token found hfound
  have hlt : ∀ other ∈ Keyed.keys found.chats, other < number := fun other hother => by
    have := h.link_le hfound hother
    omega
  have hlast := hsound.last_nonneg
  refine
    { name := hsound.name, last_nonneg := by simp only [ApplicationRecord.addLink]; omega
      counted := ?_, ascending := ?_, linked := fun number' record hlink => ?_ }
  · simp only [ApplicationRecord.addLink, Keyed.putAscending_eq_append hlt, hcount,
      hsound.counted, List.length_append, List.length_singleton]
    omega
  · simp only [ApplicationRecord.addLink, Keyed.putAscending_eq_append hlt, Keyed.keys_append]
    refine List.pairwise_append.mpr ⟨hsound.ascending, List.pairwise_singleton _ _, ?_⟩
    simpa using hlt
  · simp only [ApplicationRecord.addLink, Keyed.get?_putAscending] at hlink
    split at hlink
    · next hnumber' =>
        obtain rfl := Option.some.inj hlink
        exact ⟨_, by rw [get?_chats_link, if_pos rfl], hnumber', rfl, rfl⟩
    · obtain ⟨chat, hchat, hsame⟩ := hsound.linked number' record hlink
      exact ⟨chat, get?_chats_link_of_some (h.given hchat) hchat, hsame⟩

theorem Shape.link (h : Shape s) (hids : Ids s helds)
    (hfound : Keyed.get? token s.applications = some found)
    (hnumber : number = found.application.lastChatNumber + 1)
    (hcount : count = found.application.chatsCount + 1) :
    Shape (s.link m token found.application number count) where
  tokens := by simpa [State.link, State.updateApplication] using h.tokens
  records := by
    simp only [State.link, Keyed.put_eq_append h.next_free, Keyed.keys_append, Keyed.keys_cons,
      Keyed.keys_nil]
    exact h.records.append (List.nodup_singleton _)
      (List.disjoint_singleton.mpr (Keyed.get?_eq_none_iff.mp h.next_free))
  application token' found' hfound' := by
    obtain ⟨rfl, rfl⟩ | ⟨-, hfound'⟩ := linked_cases hfound hfound'
    · exact .addLink h hfound hnumber hcount
    · have hsound := h.application token' found' hfound'
      refine { hsound with linked := fun number' record hlink => ?_ }
      obtain ⟨chat, hchat, hsame⟩ := hsound.linked number' record hlink
      exact ⟨chat, get?_chats_link_of_some (h.given hchat) hchat, hsame⟩
  chat record chat hchat := by
    have hlast := (h.application token found hfound).last_nonneg
    obtain ⟨rfl, rfl⟩ | hchat := chats_link_cases hchat
    · have hlinked : Keyed.get? token
          (s.link m token found.application number count).applications =
            some (found.addLink m number count (s.ids + 1)) := by
        rw [get?_applications_link, if_pos rfl, hfound, Option.map_some]
      refine
        { given := Nat.le_refl _, home := ⟨token, _, hlinked, rfl⟩
          inHome := fun token' found' hfound' hid => ?_, last_nonneg := Int.le_refl 0
          numbered := fun _ => rfl, counted := fun _ => rfl, emptied := fun _ => rfl
          bodies := by simp }
      obtain ⟨rfl, rfl⟩ | ⟨hother, hfound'⟩ := linked_cases hfound hfound'
      · simp only [newChat, ApplicationRecord.addLink]
        omega
      · exact absurd (hids.token_eq hfound' hfound hid) hother
    · refine (h.chat record chat hchat).of_applications
        (extends_link (fun _ _ => h.given) hfound) ?_
      intro token' found' hfound'
      obtain ⟨rfl, rfl⟩ | ⟨-, hfound'⟩ := linked_cases hfound hfound'
      · exact ⟨found, hfound, rfl, by simp only [ApplicationRecord.addLink]; omega⟩
      · exact ⟨found', hfound', rfl, Int.le_refl _⟩
  homes record record' chat chat' hchat hchat' hhome hsame := by
    -- The number of the new chat is above those of all chats that were in its home.
    have hold : ∀ record chat, Keyed.get? record s.chats = some chat →
        found.application.id = chat.chat.applicationId → chat.chat.number ≠ number := by
      intro record chat hchat hid
      have := ((h.chat record chat hchat).inHome token found hfound hid).2
      omega
    rcases chats_link_cases hchat with ⟨rfl, rfl⟩ | hchat <;>
      obtain ⟨rfl, rfl⟩ | hchat' := chats_link_cases hchat'
    · rfl
    · exact absurd hsame.symm (hold record' chat' hchat' hhome)
    · exact absurd hsame (hold record chat hchat hhome.symm)
    · exact h.homes record record' chat chat' hchat hchat' hhome hsame

/-- An application keeps its id when it is given a link. -/
theorem linked_before (hfound : Keyed.get? token s.applications = some found) {token' : String}
    {found' : ApplicationRecord}
    (hfound' : Keyed.get? token' (s.link m token found.application number count).applications =
      some found') :
    ∃ before, Keyed.get? token' s.applications = some before ∧
      before.application.id = found'.application.id := by
  obtain ⟨rfl, rfl⟩ | ⟨-, hfound'⟩ := linked_cases hfound hfound'
  · exact ⟨found, hfound, rfl⟩
  · exact ⟨found', hfound', rfl⟩

theorem Numbers.link (h : Numbers s helds) (hshape : Shape s) (hids : Ids s helds)
    (hfound : Keyed.get? token s.applications = some found)
    (hnumber : number = found.application.lastChatNumber + 1)
    (hheld : helds[n]? = some .idle) :
    Numbers (s.link m token found.application number count)
      (helds.set n (.numbered (.application token) number)) := by
  have hidle : ∀ scope, Holding.idle.numberWithin scope = none := fun _ => rfl
  constructor
  case chats =>
    intro token' found' hfound'
    obtain ⟨rfl, rfl⟩ | ⟨htoken, hfound'⟩ := linked_cases hfound hfound'
    · refine (heldNumbers_numbered hheld hidle).trans ?_
      simp only [ApplicationRecord.addLink, hnumber,
        numbersTo_add_one (hshape.application _ found hfound).last_nonneg]
      exact (h.chats _ found hfound).append_right _
    · exact (heldNumbers_numbered_of_ne hheld hidle (by simpa using htoken)).trans
        (h.chats token' found' hfound')
  case noChats =>
    intro token' hnone'
    rw [get?_applications_link] at hnone'
    split at hnone'
    · next htoken => simp [← htoken, hfound] at hnone'
    · next htoken =>
        exact heldNumbers_numbered_eq_nil hheld hidle (by simpa using fun heq => htoken heq.symm)
          (h.noChats _ hnone')
  case messages =>
    intro token' found' record chat hfound' hchat hhome
    obtain ⟨before, hbefore, hid⟩ := linked_before hfound hfound'
    obtain ⟨rfl, rfl⟩ | hchat := chats_link_cases hchat
    · have htoken : token' = token := hids.token_eq hbefore hfound (hid.trans hhome.symm)
      subst htoken
      have hempty : heldNumbers (.chat token' number) helds = [] := by
        refine h.noMessages token' number fun found' record chat hfound' hchat hhome => ?_
        obtain rfl : found = found' := Option.some.inj (hfound.symm.trans hfound')
        have := ((hshape.chat record chat hchat).inHome token' _ hfound hhome.symm).2
        omega
      exact .of_eq (heldNumbers_numbered_eq_nil hheld hidle (by simp) hempty)
    · exact (heldNumbers_numbered_of_ne hheld hidle (by simp)).trans
        (h.messages token' before record chat hbefore hchat (hhome.trans hid.symm))
  case noMessages =>
    intro token' number' hfree
    refine heldNumbers_numbered_eq_nil hheld hidle (by simp)
      (h.noMessages token' number' fun before record chat hbefore hchat => ?_)
    obtain ⟨after, hafter, hid⟩ :=
      (extends_link (m := m) (fun _ _ => hshape.given) hfound).application token' before hbefore
    exact fun hhome => hfree after record chat hafter
      (get?_chats_link_of_some (hshape.given hchat) hchat) (hhome.trans hid.symm)

theorem Inv.link (h : Inv s helds) (hheld : helds[n]? = some .idle)
    (hfound : Keyed.get? token s.applications = some found)
    (hnumber : number = found.application.lastChatNumber + 1)
    (hcount : count = found.application.chatsCount + 1) (hfew : s.ids + 1 < 16 ^ 24) :
    Inv (s.link m token found.application number count)
      (helds.set n (.numbered (.application token) number)) where
  ids := by
    refine h.ids.of_perm_cons ?_ rfl hfew
    have hmade := madeIds_set hheld (.numbered (.application token) number)
    simp only [Holding.madeId, Option.toList_none, List.append_nil] at hmade
    exact (storedIds_link_perm h.shape.next_free).append hmade
  shape := h.shape.link h.ids hfound hnumber hcount
  backed := h.backed_set (extends_link (fun _ _ => h.shape.given) hfound) trivial
  numbers := h.numbers.link h.shape h.ids hfound hnumber hheld

end Link

/-! ## unlinking a chat -/

section Unlink

variable {token : String} {found : ApplicationRecord} {number count : Int} {record : Nat}

/-- An application keeps its id and its last number. -/
theorem unlinked_before (hfound : Keyed.get? token s.applications = some found) {token' : String}
    {found' : ApplicationRecord}
    (hfound' : Keyed.get? token' (s.unlink m token number count).applications = some found') :
    ∃ before, Keyed.get? token' s.applications = some before ∧
      before.application.id = found'.application.id ∧
      before.application.lastChatNumber = found'.application.lastChatNumber := by
  obtain ⟨rfl, rfl⟩ | ⟨-, hfound'⟩ := unlinked_cases hfound hfound'
  · exact ⟨found, hfound, rfl, rfl⟩
  · exact ⟨found', hfound', rfl, rfl⟩

theorem extends_unlink (hfound : Keyed.get? token s.applications = some found) :
    Extends s (s.unlink m token number count) where
  ids := Nat.le_refl _
  application token' found' hfound' := by
    rw [get?_applications_unlink]
    split
    · exact ⟨found'.removeLink m number count, by rw [hfound', Option.map_some], rfl⟩
    · exact ⟨found', hfound', rfl⟩
  chat _ chat hchat := ⟨chat, hchat, rfl, rfl⟩
  link token' found' number' record hfound' hlink _ := by
    obtain ⟨rfl, rfl⟩ | ⟨-, hfound'⟩ := unlinked_cases hfound hfound'
    · simp only [ApplicationRecord.removeLink, Keyed.get?_erase] at hlink
      split at hlink
      · contradiction
      · exact ⟨found, hfound, hlink⟩
    · exact ⟨found', hfound', hlink⟩

theorem SoundApplication.removeLink (h : SoundApplication s found)
    (hlink : Keyed.get? number found.chats = some record)
    (hcount : count = found.application.chatsCount - 1) :
    SoundApplication (s.unlink m token number count) (found.removeLink m number count) where
  name := h.name
  last_nonneg := h.last_nonneg
  counted := by
    have hlength := Keyed.length_erase_add_one (h.ascending.imp fun hlt => Int.ne_of_lt hlt) hlink
    have hcounted := h.counted
    simp only [ApplicationRecord.removeLink]
    omega
  ascending := h.ascending.sublist (Keyed.keys_erase_sublist _ _)
  linked number' record' hlink' := by
    simp only [ApplicationRecord.removeLink, Keyed.get?_erase] at hlink'
    split at hlink'
    · contradiction
    · exact h.linked number' record' hlink'

theorem Shape.unlink (h : Shape s) (hfound : Keyed.get? token s.applications = some found)
    (hlink : Keyed.get? number found.chats = some record)
    (hcount : count = found.application.chatsCount - 1) :
    Shape (s.unlink m token number count) where
  tokens := by simpa [State.unlink, State.updateApplication] using h.tokens
  records := h.records
  application token' found' hfound' := by
    obtain ⟨rfl, rfl⟩ | ⟨-, hfound'⟩ := unlinked_cases hfound hfound'
    · exact (h.application _ found hfound).removeLink hlink hcount
    · exact { h.application token' found' hfound' with }
  chat record chat hchat := by
    refine (h.chat record chat hchat).of_applications (extends_unlink hfound) ?_
    intro token' found' hfound'
    obtain ⟨before, hbefore, hid, hlast⟩ := unlinked_before hfound hfound'
    exact ⟨before, hbefore, hid, by omega⟩
  homes := h.homes

theorem Numbers.unlink (h : Numbers s helds)
    (hfound : Keyed.get? token s.applications = some found) :
    Numbers (s.unlink m token number count) helds where
  chats token' found' hfound' := by
    obtain ⟨before, hbefore, -, hlast⟩ := unlinked_before hfound hfound'
    exact hlast ▸ h.chats token' before hbefore
  noChats token' hnone := h.noChats token' <| by
    rw [get?_applications_unlink] at hnone
    split at hnone
    · exact Option.map_eq_none_iff.mp hnone
    · exact hnone
  messages token' found' record chat hfound' hchat hhome := by
    obtain ⟨before, hbefore, hid, -⟩ := unlinked_before hfound hfound'
    exact h.messages token' before record chat hbefore hchat (hhome.trans hid.symm)
  noMessages token' number' hfree :=
    h.noMessages token' number' fun before record chat hbefore hchat hhome => by
      obtain ⟨after, hafter, hid⟩ :=
        (extends_unlink hfound).application token' before hbefore
      exact hfree after record chat hafter hchat (hhome.trans hid.symm)

/-- No link leads to the record whose link was taken away. -/
theorem Inv.backed_unlinked (h : Inv s helds)
    (hfound : Keyed.get? token s.applications = some found)
    (hlink : Keyed.get? number found.chats = some record) :
    Backed (s.unlink m token number count) (.unlinked token number record) := by
  obtain ⟨chat, hchat, hnumber, hhome, -⟩ :=
    (h.shape.application token found hfound).linked number record hlink
  refine ⟨(h.shape.chat record chat hchat).given, fun token' found' number' hfound' hlink' => ?_⟩
  obtain ⟨rfl, rfl⟩ | ⟨hother, hfound'⟩ := unlinked_cases hfound hfound'
  · simp only [ApplicationRecord.removeLink, Keyed.get?_erase] at hlink'
    split at hlink'
    · contradiction
    · next hne =>
        obtain ⟨chat', hchat', hnumber', -⟩ :=
          (h.shape.application _ found hfound).linked number' record hlink'
        obtain rfl : chat = chat' := Option.some.inj (hchat.symm.trans hchat')
        exact hne (hnumber.symm.trans hnumber')
  · obtain ⟨chat', hchat', -, hhome', -⟩ :=
      (h.shape.application token' found' hfound').linked number' record hlink'
    obtain rfl : chat = chat' := Option.some.inj (hchat.symm.trans hchat')
    exact hother (h.ids.token_eq hfound' hfound (hhome'.symm.trans hhome))

theorem Inv.unlink (h : Inv s helds) (hheld : helds[n]? = some .idle)
    (hfound : Keyed.get? token s.applications = some found)
    (hlink : Keyed.get? number found.chats = some record)
    (hcount : count = found.application.chatsCount - 1) :
    Inv (s.unlink m token number count) (helds.set n (.unlinked token number record)) where
  ids := by
    refine h.ids.of_subperm ?_ (Nat.le_refl _)
    have hids : (allIds s (helds.set n (.unlinked token number record))).Subperm (allIds s helds) :=
      allIds_set_subperm hheld rfl
    unfold allIds at hids ⊢
    rwa [storedIds_unlink]
  shape := h.shape.unlink hfound hlink hcount
  backed := h.backed_set (extends_unlink hfound) (h.backed_unlinked hfound hlink)
  numbers := (h.numbers.of_perm fun _ => heldNumbers_set_of_none hheld rfl rfl).unlink hfound

end Unlink

end ChatService.Memory
