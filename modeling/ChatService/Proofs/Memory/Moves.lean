import ChatService.Memory.Store
import ChatService.Proofs.Interleaving
import ChatService.Proofs.Store.Outcome

/-!
# What sections of the in-memory store do

Whatever the operation, a section does one of a few things: it looks, takes an id, stores an
application, links a new chat, unlinks a chat, marks an unlinked chat as deleted, or adds a message.
`Move` lists them together with what the call holds before and after, and `call_follows` shows that
no call ever does anything else.  Everything that holds under every interleaving is proved from this
list alone; no later proof looks into the calls.
-/

namespace ChatService.Memory

open Store (Application Message Operation Answer CounterUpdate Outcome Scope)

/-! ## calls -/

/-- A call whose answer says which operation it belongs to. -/
abbrev OutcomeCall : Type 1 := Call State Moment Lock Outcome

/-- An operation of any kind. -/
abbrev Request : Type 1 := (α : Type) × Operation α

/-- The calls for several operations, none of which has begun. -/
def start (requests : List Request) : List OutcomeCall :=
  requests.map fun request => (call request.2).map (.of request.2)

/-- The number that a finished call handed out within a parent. -/
def numberWithin (scope : Scope) (call : OutcomeCall) : Option Int :=
  (call.answer?.bind Outcome.handedOut).bind fun handed =>
    if handed.1 = scope then some handed.2 else none

/-- The numbers that the finished calls handed out within a parent. -/
def numbersWithin (scope : Scope) (calls : List OutcomeCall) : List Int :=
  calls.filterMap (numberWithin scope)

/-- The number of the chat that a finished call deleted in an application. -/
def deletedWithin (token : String) (call : OutcomeCall) : Option Int :=
  (call.answer?.bind Outcome.deleted).bind fun deleted =>
    if deleted.1 = token then some deleted.2 else none

/-- The numbers of the chats that the finished calls deleted in an application. -/
def numbersDeleted (token : String) (calls : List OutcomeCall) : List Int :=
  calls.filterMap (deletedWithin token)

/-! ## what a call holds -/

/-- What a call holds between two of its sections. -/
inductive Holding where
  | idle
  /-- An application with an id of its own, not stored yet. -/
  | made (application : Application)
  /-- The record of a chat that was linked when it was looked up. -/
  | found (token : String) (number : Int) (record : Nat)
  /-- The record of a chat that this call unlinked and has yet to mark. -/
  | unlinked (token : String) (number : Int) (record : Nat)
  /-- A number that this call handed out. -/
  | numbered (scope : Scope) (number : Int)
  /-- The number of a chat that this call deleted. -/
  | deleted (token : String) (number : Int)

namespace Holding

/-- What a call holds once it has succeeded. -/
def after : {α : Type} → Operation α → α → Holding
  | _, .createChat token, chat => .numbered (.application token) chat.number
  | _, .createMessage token number _, message => .numbered (.chat token number) message.number
  | _, .deleteChat token number, _ => .deleted token number
  | _, _, _ => .idle

/-- What a call holds once it is answered, by what it holds after a success. -/
def answered {α : Type} (after : α → Holding) : Answer α → Holding
  | .ok value => after value
  | .error _ => .idle

/-- What a finished call holds. -/
def settled : Outcome → Holding
  | .of operation answer => answered (after operation) answer

/-- The number that is held within a parent. -/
def numberWithin (scope : Scope) : Holding → Option Int
  | .numbered scope' number => if scope' = scope then some number else none
  | _ => none

/-- The number of a chat that was deleted in an application. -/
def deletedWithin (token : String) : Holding → Option Int
  | .deleted token' number => if token' = token then some number else none
  | _ => none

end Holding

/-! ## what a section does -/

/-- An application with one more link. -/
def ApplicationRecord.addLink (m : Moment) (number count : Int) (record : Nat)
    (found : ApplicationRecord) : ApplicationRecord :=
  { application :=
      { found.application with lastChatNumber := number, chatsCount := count, updatedAt := m.now }
    chats := Keyed.putAscending number record found.chats }

/-- An application without one of its links. -/
def ApplicationRecord.removeLink (m : Moment) (number count : Int) (found : ApplicationRecord) :
    ApplicationRecord :=
  { application := { found.application with chatsCount := count, updatedAt := m.now }
    chats := Keyed.erase number found.chats }

/-- A chat record that is marked as deleted and emptied. -/
def ChatRecord.mark (chat : ChatRecord) : ChatRecord :=
  { chat with messages := [], deleted := true }

/-- A chat record with one more message. -/
def ChatRecord.addMessage (m : Moment) (number count : Int) (message : Message)
    (chat : ChatRecord) : ChatRecord :=
  { chat with
    chat :=
      { chat.chat with lastMessageNumber := number, messagesCount := count, updatedAt := m.now }
    messages := Keyed.putAscending number message chat.messages }

namespace State

/-- Counts one more id. -/
def takeId (s : State) : State := { s with ids := s.ids + 1 }

/-- Stores an application. -/
def store (s : State) (application : Application) : State :=
  { s with applications := Keyed.put application.token ⟨application, []⟩ s.applications }

/-- Links a new chat under a number. -/
def link (s : State) (m : Moment) (token : String) (application : Application)
    (number count : Int) : State :=
  let s' := s.updateApplication token (.addLink m number count (s.ids + 1))
  let chat := newChat m (s.ids + 1) application number
  { s' with chats := Keyed.put (s.ids + 1) ⟨chat, [], false⟩ s.chats, ids := s.ids + 1 }

/-- Takes the link of a chat away. -/
def unlink (s : State) (m : Moment) (token : String) (number count : Int) : State :=
  s.updateApplication token (.removeLink m number count)

/-- Marks a chat record as deleted and empties it. -/
def mark (s : State) (record : Nat) : State := s.updateChat record .mark

/-- Adds a message to a chat record. -/
def post (s : State) (m : Moment) (record : Nat) (chat : Store.Chat) (number count : Int)
    (body : String) : State :=
  s.takeId.updateChat record
    (.addMessage m number count (newMessage m (s.ids + 1) chat number body))

end State

/-- Everything that one section of a call does, by what the call holds before and after. -/
inductive Move : Holding → Moment → State → State → Holding → Prop where
  | look {m : Moment} {s : State} : Move .idle m s s .idle
  | make {m : Moment} {s : State} {name : String} (hname : Text.isBlank name = false) :
      Move .idle m s s.takeId (.made (newApplication m (s.ids + 1) name))
  | refuse {m : Moment} {s : State} {application : Application} :
      Move (.made application) m s s .idle
  | store {m : Moment} {s : State} {application : Application}
      (hfree : Keyed.get? application.token s.applications = none) :
      Move (.made application) m s (s.store application) .idle
  | link {m : Moment} {s : State} {token : String} {found : ApplicationRecord}
      {number count : Int} (hfound : Keyed.get? token s.applications = some found)
      (hnumber : Store.nextAfter found.application.lastChatNumber = .ok number)
      (hcount : (CounterUpdate.increment .chats).apply found.application.chatsCount = .ok count) :
      Move .idle m s (s.link m token found.application number count)
        (.numbered (.application token) number)
  | unlink {m : Moment} {s : State} {token : String} {found : ApplicationRecord}
      {number count : Int} {record : Nat}
      (hfound : Keyed.get? token s.applications = some found)
      (hlink : Keyed.get? number found.chats = some record)
      (hcount : (CounterUpdate.decrement .chats).apply found.application.chatsCount = .ok count) :
      Move .idle m s (s.unlink m token number count) (.unlinked token number record)
  | mark {m : Moment} {s : State} {token : String} {number : Int} {record : Nat} :
      Move (.unlinked token number record) m s (s.mark record) (.deleted token number)
  | find {m : Moment} {s : State} {token : String} {found : ApplicationRecord} {number : Int}
      {record : Nat} (hfound : Keyed.get? token s.applications = some found)
      (hlink : Keyed.get? number found.chats = some record) :
      Move .idle m s s (.found token number record)
  | letGo {m : Moment} {s : State} {token : String} {number : Int} {record : Nat} :
      Move (.found token number record) m s s .idle
  | waste {m : Moment} {s : State} {token : String} {number : Int} {record : Nat} :
      Move (.found token number record) m s s.takeId .idle
  | post {m : Moment} {s : State} {token body : String} {number next count : Int} {record : Nat}
      {chat : ChatRecord} (hbody : Text.isBlank body = false)
      (hchat : Keyed.get? record s.chats = some chat) (hlive : chat.deleted = false)
      (hnumber : Store.nextAfter chat.chat.lastMessageNumber = .ok next)
      (hcount : (CounterUpdate.increment .messages).apply chat.chat.messagesCount = .ok count) :
      Move (.found token number record) m s (s.post m record chat.chat next count body)
        (.numbered (.chat token number) next)

/-! ## every call makes moves only -/

section Follows

variable {α : Type} {after : α → Holding}

/-- A call that makes moves only, and ends holding what its answer says. -/
def Moves (after : α → Holding) (held : Holding) (call : StoreCall α) : Prop :=
  call.Follows Move (fun held answer => held = .answered after answer) held

theorem moves_reply {answer : α} (h : after answer = .idle) :
    Moves after .idle (reply answer) := h.symm

theorem moves_refuse (e : StoreError) : Moves after .idle (refuse e) := rfl

/-- A text that was required is the one that was given, and not blank. -/
theorem requireText_eq_ok {name text : String} {given : Option String} :
    Store.requireText name given = .ok text ↔ given = some text ∧ Text.isBlank text = false := by
  cases given with
  | none => simp [Store.requireText]
  | some given =>
      cases hblank : Text.isBlank given with
      | true => simp only [Store.requireText, hblank, if_true, reduceCtorEq, false_iff]; grind
      | false => simp only [Store.requireText, hblank]; grind

theorem isBlank_of_requireText {name text : String} {given : Option String}
    (h : Store.requireText name given = .ok text) : Text.isBlank text = false :=
  (requireText_eq_ok.mp h).2

theorem moves_look {body : State → StoreCall α} (h : ∀ s, Moves after .idle (body s)) :
    Moves after .idle (.look body) := fun _ s => ⟨.idle, .look, h s⟩

theorem moves_lookLocked {lock : Lock} {body : State → StoreCall α}
    (h : ∀ s, Moves after .idle (body s)) : Moves after .idle (.lookLocked lock body) :=
  fun _ s => ⟨.idle, .look, h s⟩

theorem moves_locked {lock : Lock} {held : Holding} {body : Moment → State → State × StoreCall α}
    (h : ∀ m s, ∃ held', Move held m s (body m s).1 held' ∧ Moves after held' (body m s).2) :
    Moves after held (.locked lock body) := h

theorem moves_atomic {held : Holding} {body : Moment → State → State × StoreCall α}
    (h : ∀ m s, ∃ held', Move held m s (body m s).1 held' ∧ Moves after held' (body m s).2) :
    Moves after held (.atomic body) := h

theorem moves_withApplication {token : String}
    {body : Moment → State → ApplicationRecord → State × StoreCall α}
    (h : ∀ m s found, Keyed.get? token s.applications = some found →
      ∃ held, Move .idle m s (body m s found).1 held ∧ Moves after held (body m s found).2) :
    Moves after .idle (withApplication token body) := by
  refine moves_look fun s => ?_
  cases Keyed.get? token s.applications with
  | none => exact moves_refuse _
  | some _ =>
      refine moves_locked fun m s => ?_
      cases hfound : Keyed.get? token s.applications with
      | none => exact ⟨.idle, .look, moves_refuse _⟩
      | some found => exact h m s found hfound

theorem moves_withChat {token : String} {number : Int}
    {body : Moment → State → Nat → ChatRecord → State × StoreCall α}
    (h : ∀ m s record chat, Keyed.get? record s.chats = some chat → chat.deleted = false →
      ∃ held, Move (.found token number record) m s (body m s record chat).1 held ∧
        Moves after held (body m s record chat).2) :
    Moves after .idle (withChat token number body) := by
  refine moves_withApplication fun m s found hfound => ?_
  cases hlink : Keyed.get? number found.chats with
  | none => exact ⟨.idle, .look, moves_refuse _⟩
  | some record =>
      refine ⟨.found token number record, .find hfound hlink, moves_locked fun m s => ?_⟩
      cases hchat : Keyed.get? record s.chats with
      | none => exact ⟨.idle, .letGo, moves_refuse _⟩
      | some chat =>
          cases hdeleted : chat.deleted with
          | true => exact ⟨.idle, by simpa [hdeleted] using .letGo,
              by simpa [hdeleted] using moves_refuse _⟩
          | false => simpa [hdeleted] using h m s record chat hchat hdeleted

/-- Reading a chat under its lock lets go of it. -/
theorem moves_readChat {token : String} {number : Int}
    {read : ChatRecord → α} (h : ∀ chat, after (read chat) = .idle) :
    Moves after .idle (withChat token number fun _ s _ chat => (s, reply (read chat))) :=
  moves_withChat fun _ _ _ chat _ _ => ⟨.idle, .letGo, moves_reply (h chat)⟩

/-! ### the operations -/

theorem moves_storeApplication {name : Option String} (application : Application) :
    Moves (Holding.after (.createApplication name)) (.made application)
      (.atomic fun _ s =>
        match Keyed.get? application.token s.applications with
        | some _ => (s, refuse (.constraintViolation "token already taken"))
        | none => (s.store application, reply application)) := by
  refine moves_atomic fun _ s => ?_
  cases hfree : Keyed.get? application.token s.applications with
  | some _ => exact ⟨.idle, .refuse, moves_refuse _⟩
  | none => exact ⟨.idle, .store hfree, moves_reply rfl⟩

theorem moves_createApplication (name : Option String) :
    Moves (Holding.after (.createApplication name)) .idle (createApplication name) := by
  unfold createApplication orRefuse
  cases hvalid : Store.validateName name with
  | error e => exact moves_refuse e
  | ok name =>
      exact moves_atomic fun m s =>
        ⟨_, .make (isBlank_of_requireText hvalid), moves_storeApplication _⟩

theorem moves_readApplications {finish : List Application → StoreCall (List Application)}
    {after : List Application → Holding}
    (h : ∀ applications, Moves after .idle (finish applications)) (tokens : List String)
    (read : List Application) : Moves after .idle (readApplications finish tokens read) := by
  induction tokens generalizing read with
  | nil => exact h _
  | cons token tokens ih =>
      refine moves_lookLocked fun s => ?_
      cases Keyed.get? token s.applications with
      | none => exact ih read
      | some found => exact ih _

/-- A number and a count that were allocated together. -/
theorem allocated_eq_ok {last current number count : Int} {u : CounterUpdate}
    (h : (do
      let number ← Store.nextAfter last
      let count ← u.apply current
      pure (number, count) : Answer (Int × Int)) = .ok (number, count)) :
    Store.nextAfter last = .ok number ∧ u.apply current = .ok count := by
  cases hnumber : Store.nextAfter last with
  | error e => simp [hnumber, bind, Except.bind] at h
  | ok number' =>
      cases hcount : u.apply current with
      | error e => simp [hnumber, hcount, bind, Except.bind] at h
      | ok count' => simpa [hnumber, hcount, bind, Except.bind, pure, Except.pure] using h

theorem moves_createChat (token : String) :
    Moves (Holding.after (.createChat token)) .idle (createChat token) := by
  refine moves_withApplication fun m s found hfound => ?_
  dsimp only
  split
  · exact ⟨.idle, .look, moves_refuse _⟩
  · next hallocated =>
      obtain ⟨hnumber, hcount⟩ := allocated_eq_ok hallocated
      exact ⟨_, .link hfound hnumber hcount, rfl⟩

theorem moves_readChats {after : List Store.Chat → Holding}
    (h : ∀ chats, after chats = .idle) (records : List Nat) (read : List Store.Chat) :
    Moves after .idle (readChats records read) := by
  induction records generalizing read with
  | nil => exact moves_reply (h _)
  | cons record records ih =>
      refine moves_lookLocked fun s => ?_
      cases Keyed.get? record s.chats with
      | none => exact ih read
      | some chat => exact ih _

theorem moves_deleteChat (token : String) (number : Int) :
    Moves (Holding.after (.deleteChat token number)) .idle (deleteChat token number) := by
  refine moves_withApplication fun m s found hfound => ?_
  cases hlink : Keyed.get? number found.chats with
  | none => exact ⟨.idle, .look, moves_refuse _⟩
  | some record =>
      cases hcount : (CounterUpdate.decrement .chats).apply found.application.chatsCount with
      | error e => exact ⟨.idle, .look, moves_refuse e⟩
      | ok count =>
          exact ⟨_, .unlink hfound hlink hcount,
            moves_locked fun _ s => ⟨_, .mark, rfl⟩⟩

theorem moves_createMessage (token : String) (number : Int) (body : Option String) :
    Moves (Holding.after (.createMessage token number body)) .idle
      (createMessage token number body) := by
  unfold createMessage orRefuse
  cases hvalid : Store.validateBody body with
  | error e => exact moves_refuse e
  | ok body =>
      refine moves_withChat fun m s record chat hchat hlive => ?_
      dsimp only
      split
      · exact ⟨.idle, .waste, moves_refuse _⟩
      · next hallocated =>
          obtain ⟨hnumber, hcount⟩ := allocated_eq_ok hallocated
          exact ⟨_, .post (isBlank_of_requireText hvalid) hchat hlive hnumber hcount, rfl⟩

/-- **No call does anything but make moves.** -/
theorem moves_call {α : Type} (operation : Operation α) :
    Moves (Holding.after operation) .idle (call operation) := by
  cases operation with
  | createApplication name => exact moves_createApplication name
  | countApplications => exact moves_look fun _ => moves_reply rfl
  | listApplications offset limit =>
      exact moves_look fun _ => moves_readApplications (fun _ => moves_reply rfl) _ _
  | findApplication token =>
      exact moves_withApplication fun _ _ _ _ => ⟨.idle, .look, moves_reply rfl⟩
  | createChat token => exact moves_createChat token
  | findChat token number => exact moves_readChat fun _ => rfl
  | countChats token =>
      exact moves_withApplication fun _ _ _ _ => ⟨.idle, .look, moves_reply rfl⟩
  | listChats token offset limit =>
      exact moves_withApplication fun _ _ _ _ =>
        ⟨.idle, .look, moves_readChats (fun _ => rfl) _ _⟩
  | deleteChat token number => exact moves_deleteChat token number
  | createMessage token number body => exact moves_createMessage token number body
  | countMessages token number => exact moves_readChat fun _ => rfl
  | listMessages token number offset limit => exact moves_readChat fun _ => rfl
  | ping => exact moves_reply rfl

end Follows

/-! ## the numbers of a pool of calls -/

/-- Calls whose holdings are known. -/
def Hold (helds : List Holding) (calls : List OutcomeCall) : Prop :=
  AllFollow Move (fun held outcome => held = .settled outcome) helds calls

theorem hold_start (requests : List Request) :
    Hold (requests.map fun _ => .idle) (start requests) := by
  induction requests with
  | nil => exact .nil
  | cons request requests ih => exact .cons (Call.follows_map (moves_call request.2)) ih

theorem settled_numberWithin (scope : Scope) (outcome : Outcome) :
    (Holding.settled outcome).numberWithin scope =
      outcome.handedOut.bind fun handed => if handed.1 = scope then some handed.2 else none := by
  obtain ⟨operation, answer⟩ := outcome
  cases answer with
  | error e => rfl
  | ok value => cases operation <;> rfl

theorem settled_deletedWithin (token : String) (outcome : Outcome) :
    (Holding.settled outcome).deletedWithin token =
      outcome.deleted.bind fun deleted => if deleted.1 = token then some deleted.2 else none := by
  obtain ⟨operation, answer⟩ := outcome
  cases answer with
  | error e => cases operation <;> rfl
  | ok value => cases operation <;> rfl

/-- What a call that has yet to run a section holds is not what finished calls hold. -/
theorem unsettled {held : Holding} {lock : Option Lock}
    {effect : Moment → State → State} {next : Moment → State → OutcomeCall}
    (h : Call.Follows Move (fun held outcome => held = .settled outcome) held
      (.step lock effect next)) :
    (∀ scope, held.numberWithin scope = none) ∧ ∀ token, held.deletedWithin token = none := by
  obtain ⟨held', hmove, -⟩ := h ⟨.epoch, ""⟩ .empty
  cases held with
  | numbered scope number => cases hmove
  | deleted token number => cases hmove
  | _ => exact ⟨fun _ => rfl, fun _ => rfl⟩

/-- A call holds the number that its answer handed out, and no other. -/
theorem numberWithin_of_follows {held : Holding} {call : OutcomeCall} (scope : Scope)
    (h : call.Follows Move (fun held outcome => held = .settled outcome) held) :
    numberWithin scope call = held.numberWithin scope := by
  cases call with
  | done outcome =>
      obtain rfl : held = .settled outcome := h
      exact (settled_numberWithin scope outcome).symm
  | step lock effect next => exact ((unsettled h).1 scope).symm

/-- A call holds the number of the chat that it deleted, and no other. -/
theorem deletedWithin_of_follows {held : Holding} {call : OutcomeCall} (token : String)
    (h : call.Follows Move (fun held outcome => held = .settled outcome) held) :
    deletedWithin token call = held.deletedWithin token := by
  cases call with
  | done outcome =>
      obtain rfl : held = .settled outcome := h
      exact (settled_deletedWithin token outcome).symm
  | step lock effect next => exact ((unsettled h).2 token).symm

/-- What is read off each call can be read off what the calls hold. -/
theorem filterMap_of_hold {β : Type} {f : OutcomeCall → Option β} {g : Holding → Option β}
    {helds : List Holding} {calls : List OutcomeCall} (h : Hold helds calls)
    (hfg : ∀ {held : Holding} {call : OutcomeCall},
      call.Follows Move (fun held outcome => held = .settled outcome) held → f call = g held) :
    calls.filterMap f = helds.filterMap g := by
  induction h with
  | nil => rfl
  | cons hhead htail ih => simp only [List.filterMap_cons, hfg hhead, ih]

/-- Once all calls are finished, what they hold is what their answers say. -/
theorem settled_of_hold {helds : List Holding} {calls : List OutcomeCall} (h : Hold helds calls)
    (hdone : ∀ call ∈ calls, call.answer?.isSome) :
    ∀ held ∈ helds, ∃ outcome, held = .settled outcome := by
  induction h with
  | nil => simp
  | @cons held call helds calls hhead htail ih =>
      intro other hother
      obtain rfl | hother := List.mem_cons.mp hother
      · cases call with
        | done outcome => exact ⟨outcome, hhead⟩
        | step lock effect next => simpa [Call.answer?] using hdone _ List.mem_cons_self
      · exact ih (fun call hcall => hdone call (List.mem_cons_of_mem _ hcall)) other hother

end ChatService.Memory
