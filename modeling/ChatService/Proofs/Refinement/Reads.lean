import ChatService.Proofs.Database.Windows
import ChatService.Proofs.Refinement.Relation
import ChatService.Proofs.Sorting

/-!
# Operations that look, in both stores

Counts and listings of the database select from a flat collection what memory keeps together, and
sort what memory keeps in order.  Both come to the same, and a page is cut out of it alike.
-/

namespace ChatService.Refinement

open Database (Listing ObjectId Record Reading Script)
open Database.Server (recordsOf isMatch inOrder)
open Memory (ApplicationRecord ChatRecord Moment Settled Used perform)
open Store (Application Message Operation RetryPolicy)

section Sorted

variable {ids : Nat → ObjectId} {s : Memory.State} {t : Database.Server.State × Nat}
  {token : String} {found : ApplicationRecord} {record : Nat} {chat : ChatRecord}

theorem filter_isMatch_nil (records : List Record) : records.filter (isMatch []) = records :=
  List.filter_eq_self.mpr fun _ _ => rfl

theorem Paired.sorted_applications (h : Paired ids s t) :
    ((recordsOf Database.applications t.1.records).filter (isMatch [])).mergeSort
        (inOrder Database.newestFirst) =
      (s.allApplications.mergeSort Memory.newestFirst).map
        fun a => (applicationRow ids a).toRecord := by
  have hlisted : recordsOf Database.applications t.1.records =
      s.allApplications.map fun a => (applicationRow ids a).toRecord := by
    rw [h.applications, Memory.State.allApplications, List.map_map]
    rfl
  rw [filter_isMatch_nil, hlisted]
  refine (List.map_mergeSort fun a ha b hb => ?_).symm
  obtain ⟨entry, hentry, rfl⟩ := List.mem_map.mp ha
  obtain ⟨entry', hentry', rfl⟩ := List.mem_map.mp hb
  have happlication := h.get?_application hentry
  have happlication' := h.get?_application hentry'
  exact (inOrder_rows_eq_newestFirst h.increasing h.ids_lt (used_application h.settled happlication)
    (used_application h.settled happlication') (h.settled.tidy.application _ _ happlication).created
    (h.settled.tidy.application _ _ happlication').created).symm

theorem chatsOf_ascending (h : Settled s) (hfound : Keyed.get? token s.applications = some found) :
    (s.chatsOf found).Pairwise fun a b => a.number < b.number := by
  have hascending := List.pairwise_map.mp (h.shape.application token found hfound).ascending
  refine List.pairwise_map.mpr (hascending.imp_of_mem fun ha hb hlt => ?_)
  obtain ⟨-, -, hnumber, -⟩ := chatAt_of_link h hfound ha
  obtain ⟨-, -, hnumber', -⟩ := chatAt_of_link h hfound hb
  rw [hnumber, hnumber']
  exact hlt

/-- The chats of an application are those that its links lead to. -/
theorem Paired.chatsOf_perm (h : Paired ids s t)
    (hfound : Keyed.get? token s.applications = some found) :
    (((liveChats s).filter fun entry =>
        decide (entry.2.chat.applicationId = found.application.id)).map (·.2.chat)).Perm
      (s.chatsOf found) := by
  have hlinked : s.chatsOf found =
      (found.chats.map fun link => (link.2, s.chatAt link.2)).map (·.2.chat) := by
    rw [List.map_map]
    rfl
  have hnumbers := chatsOf_ascending h.settled hfound
  rw [hlinked] at hnumbers ⊢
  have hdistinct : ((found.chats.map fun link => (link.2, s.chatAt link.2)).map (·.2.chat)).Nodup :=
    hnumbers.imp fun hlt heq => by
      rw [heq] at hlt
      exact Int.lt_irrefl _ hlt
  have hnodup := List.Nodup.of_map _ hdistinct
  have hnodup' : (liveChats s).Nodup := List.Nodup.of_map _ h.keys_liveChats
  refine ((List.perm_ext_iff_of_nodup (hnodup'.filter _) hnodup).mpr fun entry => ?_).map _
  simp only [List.mem_filter, List.mem_map, decide_eq_true_eq]
  constructor
  · rintro ⟨hentry, hhome⟩
    obtain ⟨hchat, hlive⟩ := h.get?_chat hentry
    have hlink := (linked_iff h.settled hfound hchat hlive).mp ⟨hhome, rfl⟩
    refine ⟨_, Keyed.mem_of_get?_eq_some hlink, ?_⟩
    rw [Memory.State.chatAt, hchat, Option.getD_some]
  · rintro ⟨link, hlink, rfl⟩
    obtain ⟨hchat, hlive, -, hhome⟩ := chatAt_of_link h.settled hfound hlink
    exact ⟨Keyed.mem_of_get?_eq_some (h.get?_liveChats hchat hlive), hhome⟩

theorem Paired.sorted_chats (h : Paired ids s t)
    (hfound : Keyed.get? token s.applications = some found) :
    ((recordsOf Database.chats t.1.records).filter
        (isMatch (Database.inApplication (objectId ids found.application.id)))).mergeSort
          (inOrder Database.byNumber) =
      (s.chatsOf found).map fun c => (chatRow ids c).toRecord := by
  rw [h.chats, List.filter_map]
  have hfilter : (liveChats s).filter
      (isMatch (Database.inApplication (objectId ids found.application.id)) ∘ chatRecord ids) =
        (liveChats s).filter fun entry =>
          decide (entry.2.chat.applicationId = found.application.id) :=
    List.filter_congr (h.isMatch_inApplication hfound)
  have hmap : ∀ entries : Keyed Nat ChatRecord, entries.map (chatRecord ids) =
      (entries.map (·.2.chat)).map fun c => (chatRow ids c).toRecord := fun entries => by
    rw [List.map_map]
    rfl
  rw [hfilter, hmap, ← List.map_mergeSort fun a _ b _ => (inOrder_byNumber_chat a b).symm,
    mergeSort_eq_of_perm (h.chatsOf_perm hfound) (chatsOf_ascending h.settled hfound)]

theorem messagesOf_ascending (h : Settled s) (hchat : Keyed.get? record s.chats = some chat)
    (hlive : chat.deleted = false) :
    (messagesOf (record, chat)).Pairwise fun a b => a.number < b.number := by
  have hkeys : (Keyed.keys chat.messages).Pairwise (· < ·) := by
    rw [(h.shape.chat record chat hchat).numbered hlive]
    exact Memory.numbersTo_ascending _
  refine List.pairwise_map.mpr ((List.pairwise_map.mp hkeys).imp_of_mem fun ha hb hlt => ?_)
  have htidy := h.tidy.chat record chat hchat
  rw [(htidy.message _ ha).number, (htidy.message _ hb).number]
  exact hlt

theorem Paired.sorted_messages (h : Paired ids s t)
    (hchat : Keyed.get? record s.chats = some chat) (hlive : chat.deleted = false) :
    ((recordsOf Database.messages t.1.records).filter
        (isMatch (Database.inChat (objectId ids chat.chat.id)))).mergeSort
          (inOrder Database.byNumber) =
      (messagesOf (record, chat)).map (messageRecord ids) := by
  obtain ⟨posted, hposted, hperm⟩ := h.messages
  have hnumbers := messagesOf_ascending h.settled hchat hlive
  have hfilter : (s.chats.flatMap messagesOf).filter
      (isMatch (Database.inChat (objectId ids chat.chat.id)) ∘ messageRecord ids) =
        messagesOf (record, chat) :=
    Keyed.filter_flatMap h.settled.shape.records hchat (h.isMatch_inChat hchat)
  rw [hposted, List.filter_map]
  refine (List.map_mergeSort fun a _ b _ => (inOrder_byNumber_message a b).symm).symm.trans ?_
  rw [mergeSort_eq_of_perm (hfilter ▸ hperm.filter _) hnumbers]
  rfl

end Sorted

/-! ## pages -/

section Pages

variable {r : Reading} {t : Database.Server.State × Nat} {collection : String}
  {filter : Database.Filter} {sort : List Database.SortKey} {offset limit : Nat}

theorem exec_count {listed : List Record}
    (hsorted : ((recordsOf collection t.1.records).filter (isMatch filter)).mergeSort
      (inOrder sort) = listed) :
    (Script.send none (.count collection filter)).exec r t = (.ok listed.length, t) := by
  rw [← hsorted, List.length_mergeSort]
  rfl

/-- A page of a listing is read row by row. -/
theorem exec_listing {γ ρ μ : Type} (l : Listing ρ μ) {items : List γ} {row : γ → ρ}
    {rename : γ → μ}
    (hsorted : ((recordsOf l.collection t.1.records).filter (isMatch l.filter)).mergeSort
      (inOrder l.sort) = items.map fun item => l.toRecord (row item))
    (hmodel : ∀ item ∈ items, l.toModel (row item) = rename item)
    (hlength : (items.length : Int) ≤ Word.maxInt64) (hlimit : 1 ≤ limit) :
    (l.script offset limit).exec r t = (.ok ((Page.slice offset limit items).map rename), t) := by
  have hread : l.read ((Page.slice offset limit items).map fun item => l.toRecord (row item)) =
      .ok (((Page.slice offset limit items).map row).map l.toModel) :=
    Listing.read_of_holds <| List.forall₂_map_left_iff.mpr <| List.forall₂_map_right_iff.mpr <|
      List.forall₂_same.mpr fun _ _ => l.holds_toRecord _
  rw [l.exec_script r hsorted (by simpa using hlength), Database.reach_of_ne_zero (by omega),
    Memory.slice_map, hread, List.map_map]
  refine congrArg (fun models => (Except.ok models, t)) (List.map_congr_left fun item hitem => ?_)
  exact hmodel item (List.mem_of_mem_drop (List.mem_of_mem_take hitem))

end Pages

/-! ## the operations -/

/-- What the clock and the source of tokens show memory. -/
def moment (r : Reading) : Moment := ⟨Database.timeOfMillis r.ms, r.token⟩

/-- **Both stores answer an operation alike**, up to internal ids, and stay alike. -/
structure Agree {α : Type} (policy : RetryPolicy) (r : Reading) (operation : Operation α)
    (s : Memory.State) (t : Database.Server.State × Nat) : Prop where
  answer : ((Database.program policy operation).exec r t).1 =
    (perform (moment r) operation s).2.map (Store.renamed (renamedId r.ids) operation)
  simulates : Simulates r.ids (perform (moment r) operation s).1
    ((Database.program policy operation).exec r t).2

section Looks

variable {α : Type} {policy : RetryPolicy} {r : Reading} {s : Memory.State}
  {t : Database.Server.State × Nat} {operation : Operation α} {offset limit : Nat}

theorem agree_of_exec {answer : Store.Answer α} {s' : Memory.State}
    {t' : Database.Server.State × Nat} (hmemory : perform (moment r) operation s = (s', answer))
    (hdatabase : (Database.script policy operation).exec r t =
      (answer.map (Store.renamed (renamedId r.ids) operation), t'))
    (h : Simulates r.ids s' t') : Agree policy r operation s t := by
  have hdatabase : (Database.program policy operation).exec r t = _ := hdatabase
  exact ⟨by rw [hdatabase, hmemory], by rw [hdatabase, hmemory]; exact h⟩

/-- An operation that looks needs only to give the same answer. -/
theorem agree_of_look {answer : Store.Answer α} (h : Paired r.ids s t)
    (hmemory : perform (moment r) operation s = (s, answer))
    (hdatabase : (Database.script policy operation).exec r t =
      (answer.map (Store.renamed (renamedId r.ids) operation), t)) :
    Agree policy r operation s t := agree_of_exec hmemory hdatabase h.toSimulates

theorem Paired.agree_ping (h : Paired r.ids s t) : Agree policy r .ping s t :=
  agree_of_look h Memory.perform_ping rfl

theorem Paired.agree_countApplications (h : Paired r.ids s t) :
    Agree policy r .countApplications s t := by
  refine agree_of_look h Memory.perform_countApplications ?_
  refine (exec_count h.sorted_applications).trans ?_
  rw [List.length_map, List.length_mergeSort, Memory.State.allApplications, List.length_map]
  rfl

theorem Paired.agree_listApplications (h : Paired r.ids s t) (hlimit : 1 ≤ limit) :
    Agree policy r (.listApplications offset limit) s t := by
  refine agree_of_look h h.settled.perform_listApplications ?_
  refine exec_listing Database.applicationListing h.sorted_applications ?_ ?_ hlimit
  · intro a ha
    obtain ⟨entry, hentry, rfl⟩ := List.mem_map.mp (List.mem_mergeSort.mp ha)
    have htidy := h.settled.tidy.application _ _ (h.get?_application hentry)
    exact toModel_applicationRow htidy.created htidy.updated
  · have hstored := length_storedIds_le h.settled
    have hfew := h.few
    simp only [Memory.storedIds, List.length_append, List.length_map] at hstored
    rw [List.length_mergeSort, Memory.State.allApplications, List.length_map]
    omega

theorem Paired.agree_findApplication (h : Paired r.ids s t) (token : String) :
    Agree policy r (.findApplication token) s t := by
  refine agree_of_look h Memory.perform_findApplication ?_
  refine (h.exec_applicationRow_bind (fun found =>
    found.application.renamed (renamedId r.ids)) fun found hfound => ?_).trans ?_
  · have htidy := h.settled.tidy.application _ _ hfound
    rw [Script.exec_pure, toModel_applicationRow htidy.created htidy.updated]
  · cases s.lookupApplication token <;> rfl

theorem Paired.agree_findChat (h : Paired r.ids s t) (token : String) (number : Int) :
    Agree policy r (.findChat token number) s t := by
  refine agree_of_look h h.settled.connected.perform_findChat ?_
  refine (h.exec_chatRow_bind (fun record =>
    (s.chatAt record).chat.renamed (renamedId r.ids)) fun record hrecord => ?_).trans ?_
  · have htidy := h.settled.tidy.chat _ _ (h.settled.get?_chats hrecord).1
    rw [Script.exec_pure, toModel_chatRow htidy.created htidy.updated]
  · cases s.lookupChat token number <;> rfl

theorem Paired.agree_countChats (h : Paired r.ids s t) (token : String) :
    Agree policy r (.countChats token) s t := by
  refine agree_of_look h Memory.perform_countChats ?_
  refine (h.exec_applicationRow_bind (fun found => found.chats.length)
    fun found hfound => ?_).trans ?_
  · refine (exec_count (h.sorted_chats hfound)).trans ?_
    rw [List.length_map, Memory.State.chatsOf, List.length_map]
  · cases s.lookupApplication token <;> rfl

theorem Paired.agree_listChats (h : Paired r.ids s t) (token : String) (hlimit : 1 ≤ limit) :
    Agree policy r (.listChats token offset limit) s t := by
  refine agree_of_look h h.settled.perform_listChats ?_
  refine (h.exec_applicationRow_bind (fun found =>
    (Page.slice offset limit (s.chatsOf found)).map (·.renamed (renamedId r.ids)))
    fun found hfound => ?_).trans ?_
  · refine exec_listing (Database.chatListing _) (h.sorted_chats hfound) ?_ ?_ hlimit
    · intro c hc
      obtain ⟨link, hlink, rfl⟩ := List.mem_map.mp hc
      have htidy := h.settled.tidy.chat _ _ (chatAt_of_link h.settled hfound hlink).1
      exact toModel_chatRow htidy.created htidy.updated
    · have hcounted := (h.settled.shape.application _ _ hfound).counted
      obtain ⟨-, hle, hlast⟩ := h.settled.application_in_range h.few hfound
      rw [Memory.State.chatsOf, List.length_map]
      omega
  · cases s.lookupApplication token <;> rfl

theorem Paired.agree_countMessages (h : Paired r.ids s t) (token : String) (number : Int) :
    Agree policy r (.countMessages token number) s t := by
  refine agree_of_look h h.settled.connected.perform_countMessages ?_
  refine (h.exec_chatRow_bind (fun record => (s.chatAt record).messages.length)
    fun record hrecord => ?_).trans ?_
  · obtain ⟨hchat, hlive⟩ := h.settled.get?_chats hrecord
    refine (exec_count (h.sorted_messages hchat hlive)).trans ?_
    rw [List.length_map, messagesOf, List.length_map]
  · cases s.lookupChat token number <;> rfl

theorem Paired.agree_listMessages (h : Paired r.ids s t) (token : String) (number : Int)
    (hlimit : 1 ≤ limit) : Agree policy r (.listMessages token number offset limit) s t := by
  refine agree_of_look h h.settled.connected.perform_listMessages ?_
  refine (h.exec_chatRow_bind (fun record =>
    (Page.slice offset limit ((s.chatAt record).messages.map (·.2))).map
      (·.renamed (renamedId r.ids))) fun record hrecord => ?_).trans ?_
  · obtain ⟨hchat, hlive⟩ := h.settled.get?_chats hrecord
    refine exec_listing (Database.messageListing _) (h.sorted_messages hchat hlive) ?_ ?_ hlimit
    · intro message hmessage
      obtain ⟨entry, hentry, rfl⟩ := List.mem_map.mp hmessage
      have htidy := (h.settled.tidy.chat _ _ hchat).message entry hentry
      exact toModel_messageRow htidy.created htidy.updated
    · have hcounted := (h.settled.shape.chat _ _ hchat).counted hlive
      obtain ⟨-, hequal, hlast⟩ := h.settled.chat_in_range h.few hchat hlive
      rw [List.length_map]
      omega
  · cases s.lookupChat token number <;> rfl

end Looks

end ChatService.Refinement
