import ChatService.Proofs.Memory.Preservation

/-!
# What becomes of the chats

A number that an application handed out is linked there until a call takes it away.  From the
section that unlinks the chat on, this call holds the number: first as that of a chat which it has
yet to mark, then as that of a chat which it deleted.  So nothing is lost between the two sections,
and once no call stands between them, the records that are not deleted are those with a link.
-/

namespace ChatService.Memory

open Store (Application Message CounterUpdate)

variable {m : Moment} {s s' : State} {helds : List Holding} {n : Nat} {held held' : Holding}
  {token : String} {number count : Int} {record : Nat} {found : ApplicationRecord}

/-- Some application links a record under a number. -/
def Linked (s : State) (number : Int) (record : Nat) : Prop :=
  ∃ token found, Keyed.get? token s.applications = some found ∧
    Keyed.get? number found.chats = some record

/-- Some call unlinked a record and has yet to mark it. -/
def Unmarked (helds : List Holding) (record : Nat) : Prop :=
  ∃ token number, .unlinked token number record ∈ helds

/-- The number that a call took from an application, whether its chat is marked yet or not. -/
def Holding.takenFrom (token : String) : Holding → Option Int
  | .unlinked token' number _ | .deleted token' number =>
    if token' = token then some number else none
  | _ => none

/-- The numbers that calls took from an application. -/
def takenNumbers (token : String) (helds : List Holding) : List Int :=
  helds.filterMap (Holding.takenFrom token)

/-- Chats are linked until a call takes them away, and numbers until a call holds them. -/
structure Removals (s : State) (helds : List Holding) : Prop where
  live : ∀ record chat, Keyed.get? record s.chats = some chat → chat.deleted = false →
    Linked s chat.chat.number record ∨ Unmarked helds record
  taken : ∀ token found, Keyed.get? token s.applications = some found →
    (takenNumbers token helds ++ Keyed.keys found.chats).Perm
      (numbersTo found.application.lastChatNumber)
  untaken : ∀ token, Keyed.get? token s.applications = none → takenNumbers token helds = []

theorem removals_empty (h : ∀ held ∈ helds, held = .idle) : Removals .empty helds where
  live := by simp [State.empty, Keyed.get?]
  taken := by simp [State.empty, Keyed.get?]
  untaken _ _ := List.filterMap_eq_nil_iff.mpr fun held hheld => by rw [h held hheld]; rfl

/-! ## what a pool holds -/

/-- A record stays unmarked while the call that unlinked it does nothing. -/
theorem Unmarked.set (h : Unmarked helds record) (hheld : helds[n]? = some held)
    (hother : ∀ token number, held ≠ .unlinked token number record) (held' : Holding) :
    Unmarked (helds.set n held') record := by
  obtain ⟨token, number, hmem⟩ := h
  obtain ⟨k, hk⟩ := List.mem_iff_getElem?.mp hmem
  have hne : n ≠ k := by
    rintro rfl
    exact hother token number (Option.some.inj (hheld.symm.trans hk))
  exact ⟨token, number, List.mem_of_getElem? ((List.getElem?_set_ne hne).trans hk)⟩

theorem unmarked_set (hheld : helds[n]? = some held) :
    Unmarked (helds.set n (.unlinked token number record)) record := by
  have hn : n < helds.length := (List.getElem?_eq_some_iff.mp hheld).1
  exact ⟨token, number, List.mem_of_getElem? (List.getElem?_set_self hn)⟩

theorem takenNumbers_set_of_eq (hheld : helds[n]? = some held)
    (heq : held'.takenFrom token = held.takenFrom token) :
    (takenNumbers token (helds.set n held')).Perm (takenNumbers token helds) :=
  filterMap_set_perm_of_eq hheld heq

/-! ## moves that leave all links -/

/-- Links stay, and so do the numbers taken; a record that is still live was live before. -/
theorem Removals.keep (h : Removals s helds) (hheld : helds[n]? = some held)
    (htaken : ∀ token, held'.takenFrom token = held.takenFrom token)
    (happlications : s'.applications = s.applications)
    (hlive : ∀ record chat', Keyed.get? record s'.chats = some chat' → chat'.deleted = false →
      (∃ chat, Keyed.get? record s.chats = some chat ∧ chat.deleted = false ∧
        chat.chat.number = chat'.chat.number) ∧
      ∀ token number, held ≠ .unlinked token number record) :
    Removals s' (helds.set n held') where
  live record chat' hchat' hlive' := by
    obtain ⟨⟨chat, hchat, hbefore, hnumber⟩, hother⟩ := hlive record chat' hchat' hlive'
    rw [Linked, happlications, ← hnumber]
    exact (h.live record chat hchat hbefore).imp_right fun hunmarked =>
      hunmarked.set hheld hother held'
  taken token found hfound := by
    rw [happlications] at hfound
    exact ((takenNumbers_set_of_eq hheld (htaken token)).append_right _).trans
      (h.taken token found hfound)
  untaken token hnone := by
    rw [happlications] at hnone
    exact List.perm_nil.mp (h.untaken token hnone ▸ takenNumbers_set_of_eq hheld (htaken token))

/-- The call neither unlinked a chat nor goes on to. -/
theorem Removals.look (h : Removals s helds) (hheld : helds[n]? = some held)
    (hnone : ∀ token, held.takenFrom token = none) (hnone' : ∀ token, held'.takenFrom token = none)
    (happlications : s'.applications = s.applications) (hchats : s'.chats = s.chats) :
    Removals s' (helds.set n held') :=
  h.keep hheld (fun token => (hnone' token).trans (hnone token).symm) happlications
    fun record chat hchat hlive => by
      refine ⟨⟨chat, hchats ▸ hchat, hlive, rfl⟩, ?_⟩
      rintro token number rfl
      simpa [Holding.takenFrom] using hnone token

/-- The record that is marked is live no longer. -/
theorem Removals.mark (h : Removals s helds)
    (hheld : helds[n]? = some (.unlinked token number record)) :
    Removals (s.mark record) (helds.set n (.deleted token number)) := by
  refine h.keep hheld (fun _ => rfl) rfl fun record' chat' hchat' hlive => ?_
  obtain ⟨chat, hchat, ⟨-, rfl⟩ | ⟨hne, rfl⟩⟩ := marked_cases hchat'
  · simp [ChatRecord.mark] at hlive
  · refine ⟨⟨chat', hchat, hlive, rfl⟩, fun token' number' heq => hne ?_⟩
    exact ((Holding.unlinked.injEq ..).mp heq).2.2.symm

theorem Removals.post {next : Int} {body : String} {chat : ChatRecord} (h : Removals s helds)
    (hheld : helds[n]? = some (.found token number record))
    (hchat : Keyed.get? record s.chats = some chat) (hlive : chat.deleted = false) :
    Removals (s.post m record chat.chat next count body)
      (helds.set n (.numbered (.chat token number) next)) := by
  refine h.keep hheld (fun _ => rfl) rfl fun record' chat' hchat' hlive' => ⟨?_, by simp⟩
  obtain ⟨rfl, rfl⟩ | ⟨-, hchat'⟩ := posted_cases hchat hchat'
  · exact ⟨chat, hchat, hlive, rfl⟩
  · exact ⟨chat', hchat', hlive', rfl⟩

/-! ## moves on applications -/

theorem Removals.store {application : Application} (h : Removals s helds)
    (hheld : helds[n]? = some (.made application))
    (hfree : Keyed.get? application.token s.applications = none)
    (hlast : application.lastChatNumber = 0) :
    Removals (s.store application) (helds.set n .idle) := by
  have h : Removals s (helds.set n .idle) := h.look hheld (fun _ => rfl) (fun _ => rfl) rfl rfl
  exact
    { live := fun record chat hchat hlive => by
        refine (h.live record chat hchat hlive).imp_left fun ⟨token, found, hfound, hlink⟩ => ?_
        exact ⟨token, found, get?_applications_store_of_stored hfree hfound, hlink⟩
      taken := fun token found hfound => by
        obtain ⟨rfl, rfl⟩ | hold := stored_cases hfound
        · rw [h.untaken _ hfree]
          simp [hlast, numbersTo_zero]
        · exact h.taken token found hold
      untaken := fun token hnone => h.untaken token <| by
        by_contra hsome
        obtain ⟨found, hfound⟩ := Option.ne_none_iff_exists'.mp hsome
        simp [get?_applications_store_of_stored hfree hfound] at hnone }

/-- The number that a new chat gets is no other chat's. -/
theorem Shape.number_ne_next (h : Shape s) (hfound : Keyed.get? token s.applications = some found)
    (hlink : Keyed.get? number found.chats = some record) :
    number ≠ found.application.lastChatNumber + 1 := by
  obtain ⟨chat, hchat, hnumber, hhome, -⟩ :=
    (h.application token found hfound).linked number record hlink
  have hrange := (h.chat record chat hchat).inHome token found hfound hhome.symm
  omega

/-- A new link takes the place of none. -/
theorem Linked.link (h : Linked s number record) (hshape : Shape s) {next : Int}
    (hfound : Keyed.get? token s.applications = some found)
    (hnext : next = found.application.lastChatNumber + 1) :
    Linked (s.link m token found.application next count) number record := by
  obtain ⟨token', found', hfound', hlink⟩ := h
  by_cases htoken : token = token'
  · subst htoken
    obtain rfl := Option.some.inj (hfound.symm.trans hfound')
    have hne : next ≠ number := fun heq => hshape.number_ne_next hfound hlink (heq ▸ hnext)
    refine ⟨token, found.addLink m next count (s.ids + 1), ?_,
      (Keyed.get?_putAscending ..).trans ((if_neg hne).trans hlink)⟩
    rw [get?_applications_link, if_pos rfl, hfound, Option.map_some]
  · refine ⟨token', found', ?_, hlink⟩
    rw [get?_applications_link, if_neg htoken, hfound']

theorem Removals.link (h : Removals s helds) (hshape : Shape s) (hheld : helds[n]? = some .idle)
    (hfound : Keyed.get? token s.applications = some found)
    (hnumber : number = found.application.lastChatNumber + 1) :
    Removals (s.link m token found.application number count)
      (helds.set n (.numbered (.application token) number)) := by
  have h : Removals s (helds.set n (.numbered (.application token) number)) :=
    h.look hheld (fun _ => rfl) (fun _ => rfl) rfl rfl
  constructor
  case live =>
    intro record chat hchat hlive
    obtain ⟨rfl, rfl⟩ | hchat := chats_link_cases hchat
    · refine .inl ⟨token, found.addLink m number count (s.ids + 1), ?_,
        (Keyed.get?_putAscending ..).trans (if_pos rfl)⟩
      rw [get?_applications_link, if_pos rfl, hfound, Option.map_some]
    · exact (h.live record chat hchat hlive).imp_left fun hlinked =>
        hlinked.link hshape hfound hnumber
  case taken =>
    intro token' found' hfound'
    obtain ⟨rfl, rfl⟩ | ⟨-, hfound'⟩ := linked_cases hfound hfound'
    · have hlt : ∀ other ∈ Keyed.keys found.chats, other < number := fun other hother => by
        have := hshape.link_le hfound hother
        omega
      have hlast := (hshape.application token' found hfound).last_nonneg
      have hnumbers : numbersTo number =
          numbersTo found.application.lastChatNumber ++ [number] := by
        rw [hnumber, numbersTo_add_one hlast]
      simp only [ApplicationRecord.addLink, Keyed.putAscending_eq_append hlt, Keyed.keys_append,
        Keyed.keys_cons, Keyed.keys_nil, hnumbers]
      rw [← List.append_assoc]
      exact (h.taken token' found hfound).append_right _
    · exact h.taken token' found' hfound'
  case untaken =>
    intro token' hnone
    refine h.untaken token' ?_
    rw [get?_applications_link] at hnone
    split at hnone
    · exact Option.map_eq_none_iff.mp hnone
    · exact hnone

/-- Another record keeps its link. -/
theorem Linked.unlink {number' : Int} {record' : Nat} (h : Linked s number' record')
    (hfound : Keyed.get? token s.applications = some found)
    (hlink : Keyed.get? number found.chats = some record) (hne : record' ≠ record) :
    Linked (s.unlink m token number count) number' record' := by
  obtain ⟨token', found', hfound', hlink'⟩ := h
  by_cases htoken : token = token'
  · subst htoken
    obtain rfl := Option.some.inj (hfound.symm.trans hfound')
    refine ⟨token, found.removeLink m number count, ?_,
      (Keyed.get?_erase ..).trans ((if_neg ?_).trans hlink')⟩
    · rw [get?_applications_unlink, if_pos rfl, hfound, Option.map_some]
    · rintro rfl
      exact hne (Option.some.inj (hlink'.symm.trans hlink))
  · refine ⟨token', found', ?_, hlink'⟩
    rw [get?_applications_unlink, if_neg htoken, hfound']

/-- The number goes from the links of its application to what the call holds. -/
theorem Removals.unlink (h : Removals s helds) (hshape : Shape s) (hheld : helds[n]? = some .idle)
    (hfound : Keyed.get? token s.applications = some found)
    (hlink : Keyed.get? number found.chats = some record) :
    Removals (s.unlink m token number count) (helds.set n (.unlinked token number record)) := by
  have hother : ∀ token', token' ≠ token →
      (takenNumbers token' (helds.set n (.unlinked token number record))).Perm
        (takenNumbers token' helds) := fun token' htoken =>
    takenNumbers_set_of_eq hheld (by simp [Holding.takenFrom, htoken.symm])
  constructor
  case live =>
    intro record' chat hchat hlive
    by_cases hrecord : record' = record
    · exact .inr (hrecord ▸ unmarked_set hheld)
    · refine (h.live record' chat hchat hlive).imp (fun hlinked => ?_) fun hunmarked => ?_
      · exact hlinked.unlink hfound hlink hrecord
      · exact hunmarked.set hheld (by simp) _
  case taken =>
    intro token' found' hfound'
    obtain ⟨rfl, rfl⟩ | ⟨htoken, hfound'⟩ := unlinked_cases hfound hfound'
    · have htaken := filterMap_set_perm (f := Holding.takenFrom token') hheld
        (.unlinked token' number record)
      simp only [Holding.takenFrom, if_pos, Option.toList_none, Option.toList_some,
        List.append_nil] at htaken
      have hnodup : (Keyed.keys found.chats).Nodup :=
        (hshape.application token' found hfound).ascending.imp fun hlt => Int.ne_of_lt hlt
      have hkeys := (Keyed.perm_cons_erase hnodup hlink).map (·.1)
      refine (htaken.append_right _).trans (.trans ?_ (h.taken token' found hfound))
      rw [List.append_assoc]
      exact hkeys.symm.append_left _
    · exact ((hother _ htoken).append_right _).trans (h.taken token' found' hfound')
  case untaken =>
    intro token' hnone
    have hbefore : Keyed.get? token' s.applications = none := by
      rw [get?_applications_unlink] at hnone
      split at hnone
      · exact Option.map_eq_none_iff.mp hnone
      · exact hnone
    have htoken : token' ≠ token := by
      rintro rfl
      simp [hfound] at hbefore
    exact List.perm_nil.mp (h.untaken token' hbefore ▸ hother token' htoken)

/-! ## the invariant -/

/-- The invariant, with every chat accounted for. -/
structure Accounted (s : State) (helds : List Holding) : Prop extends Inv s helds where
  removals : Removals s helds

theorem accounted_empty (h : ∀ held ∈ helds, held = .idle) : Accounted .empty helds :=
  ⟨inv_empty h, removals_empty h⟩

theorem Removals.of_move (h : Removals s helds) (hinv : Inv s helds) (hheld : helds[n]? = some held)
    (hmove : Move held m s s' held') : Removals s' (helds.set n held') := by
  cases hmove with
  | look | make | refuse | find | letGo | waste =>
      exact h.look hheld (fun _ => rfl) (fun _ => rfl) rfl rfl
  | store hfree =>
      have hbacked := hinv.backed _ (List.mem_of_getElem? hheld)
      exact h.store hheld hfree hbacked.2.2
  | link hfound hnumber hcount =>
      exact h.link hinv.shape hheld hfound (Store.nextAfter_eq_ok hnumber).2
  | unlink hfound hlink hcount => exact h.unlink hinv.shape hheld hfound hlink
  | mark => exact h.mark hheld
  | post hbody hchat hlive hnumber hcount => exact h.post hheld hchat hlive

theorem Accounted.of_move (h : Accounted s helds) (hheld : helds[n]? = some held)
    (hmove : Move held m s s' held') (hfew : s'.ids < 16 ^ 24) :
    Accounted s' (helds.set n held') :=
  ⟨h.toInv.of_move hheld hmove hfew, h.removals.of_move h.toInv hheld hmove⟩

/-! ## finished calls -/

/-- A finished call has marked the chat that it unlinked. -/
theorem settled_ne_unlinked (outcome : Store.Outcome) (token : String) (number : Int)
    (record : Nat) : Holding.settled outcome ≠ .unlinked token number record := by
  obtain ⟨operation, answer⟩ := outcome
  cases answer with
  | error e => simp [Holding.settled, Holding.answered]
  | ok value => cases operation <;> simp [Holding.settled, Holding.answered, Holding.after]

theorem settled_takenFrom (token : String) (outcome : Store.Outcome) :
    (Holding.settled outcome).takenFrom token = (Holding.settled outcome).deletedWithin token := by
  cases hheld : Holding.settled outcome with
  | unlinked token number record => exact absurd hheld (settled_ne_unlinked outcome _ _ _)
  | _ => rfl

end ChatService.Memory
