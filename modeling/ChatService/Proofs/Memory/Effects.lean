import ChatService.Proofs.Memory.Linkage

/-!
# What an operation does and answers

An operation that runs from end to end reads, or is refused and uses up an id at most, or makes the
one change that it was asked for and says so in its answer.  `Effect` lists these outcomes with what
each of them needs, for any number of records.  What all later states keep is proved from this list,
one case for each outcome.
-/

namespace ChatService.Memory

open Store (Application Message Operation Answer CounterUpdate)

attribute [local irreducible] idText

variable {m : Moment} {s : State}

/-- What an operation does to the store and what it answers. -/
inductive Effect (m : Moment) (s : State) : {α : Type} → Operation α → State × Answer α → Prop where
  | read {α : Type} {operation : Operation α} (hread : IsRead operation) (answer : Answer α) :
      Effect m s operation (s, answer)
  | refused {α : Type} {operation : Operation α} (e : StoreError) :
      Effect m s operation (s, .error e)
  /-- Refused after an id was taken. -/
  | wasted {α : Type} {operation : Operation α} (e : StoreError) :
      Effect m s operation (s.takeId, .error e)
  | stored {given : Option String} {name : String} (hname : Store.validateName given = .ok name)
      (hfree : Keyed.get? m.token s.applications = none) :
      Effect m s (.createApplication given)
        (s.takeId.store (newApplication m (s.ids + 1) name),
          .ok (newApplication m (s.ids + 1) name))
  | linked {token : String} {found : ApplicationRecord} {number count : Int}
      (hfound : Keyed.get? token s.applications = some found)
      (hnumber : Store.nextAfter found.application.lastChatNumber = .ok number)
      (hcount : (CounterUpdate.increment .chats).apply found.application.chatsCount = .ok count) :
      Effect m s (.createChat token)
        (s.link m token found.application number count,
          .ok (newChat m (s.ids + 1) found.application number))
  | removed {token : String} {number count : Int} {found : ApplicationRecord} {record : Nat}
      (hfound : Keyed.get? token s.applications = some found)
      (hlink : Keyed.get? number found.chats = some record)
      (hcount : (CounterUpdate.decrement .chats).apply found.application.chatsCount = .ok count) :
      Effect m s (.deleteChat token number)
        ((s.unlink m token number count).mark record, .ok ())
  | posted {token : String} {number next count : Int} {given : Option String} {body : String}
      {record : Nat} {chat : ChatRecord} (hbody : Store.validateBody given = .ok body)
      (hlink : LinkedAt s token number record) (hchat : Keyed.get? record s.chats = some chat)
      (hlive : chat.deleted = false)
      (hnumber : Store.nextAfter chat.chat.lastMessageNumber = .ok next)
      (hcount : (CounterUpdate.increment .messages).apply chat.chat.messagesCount = .ok count) :
      Effect m s (.createMessage token number given)
        (s.post m record chat.chat next count body,
          .ok (newMessage m (s.ids + 1) chat.chat next body))

/-! ## the operations that write -/

/-- An application is created under a token that is free. -/
theorem perform_createApplication (hfree : Keyed.get? m.token s.applications = none)
    (name : Option String) :
    perform m (.createApplication name) s =
      match Store.validateName name with
      | .error e => (s, .error e)
      | .ok name =>
        (s.takeId.store (newApplication m (s.ids + 1) name),
          .ok (newApplication m (s.ids + 1) name)) := by
  show (createApplication name).run m s = _
  unfold createApplication orRefuse
  cases Store.validateName name with
  | error e => rfl
  | ok name =>
      have htoken : Keyed.get? (newApplication m (s.ids + 1) name).token s.applications = none :=
        hfree
      simp only [Call.run_atomic, htoken]
      rfl

theorem effect_createApplication (given : Option String) :
    Effect m s (.createApplication given) (perform m (.createApplication given) s) := by
  cases hfree : Keyed.get? m.token s.applications with
  | none =>
      rw [perform_createApplication hfree]
      cases hname : Store.validateName given with
      | error e => exact .refused e
      | ok name => exact .stored hname hfree
  | some found =>
      show Effect m s _ ((createApplication given).run m s)
      unfold createApplication orRefuse
      cases hname : Store.validateName given with
      | error e => exact .refused e
      | ok name =>
          have htaken : Keyed.get? (newApplication m (s.ids + 1) name).token s.applications =
              some found := hfree
          simp only [Call.run_atomic, htaken, run_refuse]
          exact .wasted _

theorem effect_createChat (token : String) :
    Effect m s (.createChat token) (perform m (.createChat token) s) := by
  show Effect m s _ ((withApplication token _).run m s)
  rw [run_withApplication]
  cases hfound : s.lookupApplication token with
  | error e => exact .refused e
  | ok found =>
      dsimp only
      split
      · exact .refused _
      · next hallocated =>
          obtain ⟨hnumber, hcount⟩ := allocated_eq_ok hallocated
          exact .linked (lookupApplication_eq_ok.mp hfound) hnumber hcount

theorem effect_deleteChat (token : String) (number : Int) :
    Effect m s (.deleteChat token number) (perform m (.deleteChat token number) s) := by
  show Effect m s _ ((withApplication token _).run m s)
  rw [run_withApplication]
  cases hfound : s.lookupApplication token with
  | error e => exact .refused e
  | ok found =>
      cases hlink : Keyed.get? number found.chats with
      | none => simpa only [hlink] using .refused _
      | some record =>
          cases hcount : (CounterUpdate.decrement .chats).apply found.application.chatsCount with
          | error e => simpa only [hlink, hcount] using .refused _
          | ok count =>
              simpa only [hlink, hcount] using
                .removed (lookupApplication_eq_ok.mp hfound) hlink hcount

theorem Connected.effect_createMessage (h : Connected s) (token : String) (number : Int)
    (given : Option String) :
    Effect m s (.createMessage token number given)
      (perform m (.createMessage token number given) s) := by
  show Effect m s _ ((createMessage token number given).run m s)
  unfold createMessage orRefuse
  cases hbody : Store.validateBody given with
  | error e => exact .refused e
  | ok body =>
      dsimp only
      rw [h.run_withChat]
      cases hrecord : s.lookupChat token number with
      | error e => exact .refused e
      | ok record =>
          obtain ⟨hchat, hlive⟩ := h token number record hrecord
          dsimp only
          split
          · exact .wasted _
          · next hallocated =>
              obtain ⟨hnumber, hcount⟩ := allocated_eq_ok hallocated
              exact .posted hbody (lookupChat_eq_ok.mp hrecord) hchat hlive hnumber hcount

/-- **Every operation has one of these effects.** -/
theorem Connected.effect (h : Connected s) {α : Type} (operation : Operation α) :
    Effect m s operation (perform m operation s) := by
  have hread : IsRead operation → Effect m s operation (perform m operation s) := fun hread => by
    rw [← Prod.eta (perform m operation s), perform_of_isRead hread]
    exact .read hread _
  cases operation with
  | createApplication given => exact effect_createApplication given
  | createChat token => exact effect_createChat token
  | deleteChat token number => exact effect_deleteChat token number
  | createMessage token number given => exact h.effect_createMessage token number given
  | countApplications | listApplications | findApplication | findChat | countChats | listChats
  | countMessages | listMessages | ping => exact hread trivial

/-! ## creations -/

/-- A refusal, which may have used up an id. -/
def Refused {α : Type} (s : State) (result : State × Answer α) : Prop :=
  ∃ e, result = (s, .error e) ∨ result = (s.takeId, .error e)

/-- What a creation does and answers, read off the operation. -/
def Creates (m : Moment) (s : State) : {α : Type} → Operation α → State × Answer α → Prop
  | _, .createApplication given, result =>
    Refused s result ∨ ∃ name, Store.validateName given = .ok name ∧
      Keyed.get? m.token s.applications = none ∧
      result = (s.takeId.store (newApplication m (s.ids + 1) name),
        .ok (newApplication m (s.ids + 1) name))
  | _, .createChat token, result =>
    Refused s result ∨ ∃ found number count,
      Keyed.get? token s.applications = some found ∧
      Store.nextAfter found.application.lastChatNumber = .ok number ∧
      (CounterUpdate.increment .chats).apply found.application.chatsCount = .ok count ∧
      result = (s.link m token found.application number count,
        .ok (newChat m (s.ids + 1) found.application number))
  | _, .createMessage token number given, result =>
    Refused s result ∨ ∃ body record chat next count, Store.validateBody given = .ok body ∧
      LinkedAt s token number record ∧ Keyed.get? record s.chats = some chat ∧
      Store.nextAfter chat.chat.lastMessageNumber = .ok next ∧
      (CounterUpdate.increment .messages).apply chat.chat.messagesCount = .ok count ∧
      result = (s.post m record chat.chat next count body,
        .ok (newMessage m (s.ids + 1) chat.chat next body))
  | _, _, _ => True

theorem Effect.creates {α : Type} {operation : Operation α} {result : State × Answer α}
    (heffect : Effect m s operation result) : Creates m s operation result := by
  cases heffect with
  | read hread answer => cases operation <;> first | exact hread.elim | trivial
  | refused e => cases operation <;> first | exact .inl ⟨e, .inl rfl⟩ | trivial
  | wasted e => cases operation <;> first | exact .inl ⟨e, .inr rfl⟩ | trivial
  | stored hname hfree => exact .inr ⟨_, hname, hfree, rfl⟩
  | linked hfound hnumber hcount => exact .inr ⟨_, _, _, hfound, hnumber, hcount, rfl⟩
  | removed hfound hlink hcount => trivial
  | posted hbody hlink hchat hlive hnumber hcount =>
      exact .inr ⟨_, _, _, _, _, hbody, hlink, hchat, hnumber, hcount, rfl⟩

end ChatService.Memory
