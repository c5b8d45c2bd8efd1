import ChatService.Proofs.Memory.Contents

/-!
# When calls of the in-memory store take effect

Every call takes effect in one of its sections, in which its answer is settled: a call that looks an
application up takes effect under the lock of the application, and so does a deletion, when it takes
the link of the chat away.  A call that has found the record of a chat takes effect under the lock
of the chat: what it does to the record is what it does to the chat while the chat can still be
seen, and what it would have done just before the deletion if the link is gone.  `Acts` lists the
sections with what they do to the contents, and `plays_call` shows that no call does anything else.
-/

namespace ChatService.Memory

open Store (Application Message Operation Answer CounterUpdate Outcome)

attribute [local irreducible] idText

variable {m : Moment} {s s' : State} {token : String} {number count : Int} {record : Nat}
  {found : ApplicationRecord} {chat : ChatRecord}

/-! ## stages -/

/-- The request that an outcome belongs to. -/
def requestOf : Outcome → Request
  | .of operation _ => ⟨_, operation⟩

/-- Whether a chat is to be deleted. -/
def isDeletion : Request → Bool
  | ⟨_, .deleteChat ..⟩ => true
  | _ => false

/-- How far a call has come. -/
inductive Stage where
  | todo
  /-- An application was seen, and its lock is waited for. -/
  | waiting
  /-- An application has its token, and is not stored yet. -/
  | made (application : Application)
  /-- The record of a chat was found. -/
  | found (token : String) (number : Int) (record : Nat)
  /-- The link of a chat was taken away, and its record is not marked yet. -/
  | unlinked (token : String) (number : Int) (record : Nat)
  | finished (outcome : Outcome)

namespace Stage

/-- What a call holds at a stage. -/
def holding : Stage → Holding
  | .todo | .waiting => .idle
  | .made application => .made application
  | .found token number record => .found token number record
  | .unlinked token number record => .unlinked token number record
  | .finished outcome => .settled outcome

/-- The outcome of a call that has taken effect. -/
def effect? : Stage → Option Outcome
  | .unlinked token number _ => some (.of (.deleteChat token number) (.ok ()))
  | .finished outcome => some outcome
  | _ => none

/-- What a call waits for at a stage: only who has found the record of a chat, or is about to mark
it, waits for the lock of a chat. -/
def Waits (request : Request) : Stage → Option Lock → Prop
  | .found _ _ record, lock =>
    lock = some (.chat record) ∧ isDeletion request = false
  | .unlinked token number record, lock =>
    lock = some (.chat record) ∧ request = ⟨_, .deleteChat token number⟩
  | .finished _, _ => False
  | _, lock => ∀ record, lock ≠ some (.chat record)

end Stage

/-! ## sections -/

/-- One chat record has changed at most. -/
structure Revised (record : Nat) (chat : ChatRecord) (s s' : State) : Prop where
  applications : s'.applications = s.applications
  here : s'.chatAt record = chat
  others : ∀ other, other ≠ record → s'.chatAt other = s.chatAt other

/-- What one section does, by the stages before and after it. -/
inductive Acts (m : Moment) (s : State) : Stage → State → Stage → Prop where
  | wait : Acts m s .todo s .waiting
  | make {name : String} (hname : Text.isBlank name = false) :
      Acts m s .todo s.takeId (.made (newApplication m (s.ids + 1) name))
  | enter {application : Application} {s' : State} {outcome : Outcome}
      (hmove : Move (.made application) m s s' (.settled outcome))
      (hdoes : Does application.token s.contents outcome s'.contents) :
      Acts m s (.made application) s' (.finished outcome)
  | answer {stage : Stage} {s' : State} {outcome : Outcome}
      (hstage : stage = .todo ∨ stage = .waiting) (hmove : Move .idle m s s' (.settled outcome))
      (hdoes : Linkage s → ∀ fresh, Does fresh s.contents outcome s'.contents) :
      Acts m s stage s' (.finished outcome)
  | find {token : String} {number : Int} {record : Nat} {found : ApplicationRecord}
      (hfound : Keyed.get? token s.applications = some found)
      (hlink : Keyed.get? number found.chats = some record) :
      Acts m s .waiting s (.found token number record)
  | miss {token : String} {number : Int} {record : Nat} {outcome : Outcome}
      (hmove : Move (.found token number record) m s s (.settled outcome))
      (hgone : ∀ chat, Keyed.get? record s.chats = some chat → chat.deleted = true)
      (hdoes : Linkage s → (∃ found, Keyed.get? token s.applications = some found) →
        s.contents.chat? token number = none → ∀ fresh, Does fresh s.contents outcome s.contents) :
      Acts m s (.found token number record) s (.finished outcome)
  | visit {token : String} {number : Int} {record : Nat} {chat chat' : ChatRecord} {s' : State}
      {outcome : Outcome} (hmove : Move (.found token number record) m s s' (.settled outcome))
      (hchat : Keyed.get? record s.chats = some chat) (hlive : chat.deleted = false)
      (hrevised : Revised record chat' s s')
      (hdoes : ∀ fresh c, c.chat? token number = some chat.contents →
        Does fresh c outcome (c.setChat token number chat'.contents)) :
      Acts m s (.found token number record) s' (.finished outcome)
  | unlink {token : String} {number count : Int} {record : Nat} {found : ApplicationRecord}
      (hfound : Keyed.get? token s.applications = some found)
      (hlink : Keyed.get? number found.chats = some record)
      (hcount : (CounterUpdate.decrement .chats).apply found.application.chatsCount = .ok count) :
      Acts m s .waiting (s.unlink m token number count) (.unlinked token number record)
  | mark {token : String} {number : Int} {record : Nat} :
      Acts m s (.unlinked token number record) (s.mark record)
        (.finished (.of (.deleteChat token number) (.ok ())))

theorem Acts.move {stage stage' : Stage} (h : Acts m s stage s' stage') :
    Move stage.holding m s s' stage'.holding := by
  cases h with
  | wait => exact .look
  | make hname => exact .make hname
  | enter hmove hdoes => exact hmove
  | answer hstage hmove hdoes => obtain rfl | rfl := hstage <;> exact hmove
  | find hfound hlink => exact .find hfound hlink
  | miss hmove hgone hdoes => exact hmove
  | visit hmove hchat hlive hrevised hdoes => exact hmove
  | unlink hfound hlink hcount => exact .unlink hfound hlink hcount
  | mark => exact .mark

theorem Acts.ne_todo {stage stage' : Stage} (h : Acts m s stage s' stage') : stage' ≠ .todo := by
  cases h <;> simp

/-- An application is made with the token of the moment. -/
theorem Acts.made_token {stage : Stage} {application : Application}
    (h : Acts m s stage s' (.made application)) : application.token = m.token := by
  cases h
  rfl

/-- A record is found where it is linked. -/
theorem Acts.found_linked {stage : Stage} (h : Acts m s stage s' (.found token number record)) :
    s' = s ∧ LinkedAt s token number record := by
  cases h with
  | find hfound hlink => exact ⟨rfl, _, hfound, hlink⟩

/-- The outcome of a call that ends at a stage.  A call that ends before its first section might as
well have been answered in a section. -/
def Stage.Ends (request : Request) (stage : Stage) (outcome : Outcome) : Prop :=
  requestOf outcome = request ∧
    match stage with
    | .finished outcome' => outcome' = outcome
    | .todo => ∀ m s, Acts m s .todo s (.finished outcome)
    | _ => False

/-- The sections of a call act one after the other, and the call ends as it should. -/
def PlaysTo {β : Type*} (request : Request) (ends : Stage → β → Prop) :
    Stage → Call State Moment Lock β → Prop
  | stage, .done answer => ends stage answer
  | stage, .step lock effect next =>
    stage.Waits request lock ∧
      ∀ m s, ∃ stage', Acts m s stage (effect m s) stage' ∧ PlaysTo request ends stage' (next m s)

theorem playsTo_map {β γ : Type*} {request : Request} {ends : Stage → γ → Prop} {f : β → γ}
    {stage : Stage} {call : Call State Moment Lock β}
    (h : PlaysTo request (fun stage answer => ends stage (f answer)) stage call) :
    PlaysTo request ends stage (call.map f) := by
  induction call generalizing stage with
  | done answer => exact h
  | step lock effect next ih =>
      refine ⟨h.1, fun m s => ?_⟩
      obtain ⟨stage', hacts, hnext⟩ := h.2 m s
      exact ⟨stage', hacts, ih m s hnext⟩

/-! ## calls -/

section Calls

variable {α : Type} {operation : Operation α}

/-- A call for an operation. -/
def Plays (operation : Operation α) : Stage → StoreCall α → Prop :=
  PlaysTo ⟨α, operation⟩ fun stage answer => stage.Ends ⟨α, operation⟩ (.of operation answer)

theorem plays_finished (answer : Answer α) :
    Plays operation (.finished (.of operation answer)) (.done answer) := ⟨rfl, rfl⟩

/-- A call that is answered before its first section. -/
theorem plays_done {answer : Answer α} (hidle : Holding.settled (.of operation answer) = .idle)
    (hdoes : ∀ fresh c, Does fresh c (.of operation answer) c) :
    Plays operation .todo (.done answer) :=
  ⟨rfl, fun _ _ => .answer (.inl rfl) (hidle ▸ .look) fun _ fresh => hdoes fresh _⟩

/-- What an operation does that looks an application up. -/
def OnApplication (operation : Operation α) (token : String)
    (body : ApplicationContents → ApplicationContents × Answer α) : Prop :=
  ∀ fresh c, Contents.perform fresh operation c = some (c.withApplication token body)

theorem plays_look {body : State → StoreCall α}
    (h : ∀ m s, ∃ stage, Acts m s .todo s stage ∧ Plays operation stage (body s)) :
    Plays operation .todo (.look body) := ⟨nofun, h⟩

theorem plays_atomic {stage : Stage} {body : Moment → State → State × StoreCall α}
    (hwaits : stage.Waits ⟨α, operation⟩ none)
    (h : ∀ m s, ∃ stage', Acts m s stage (body m s).1 stage' ∧
      Plays operation stage' (body m s).2) :
    Plays operation stage (.atomic body) := ⟨hwaits, h⟩

theorem plays_locked {stage : Stage} {lock : Lock} {body : Moment → State → State × StoreCall α}
    (hwaits : stage.Waits ⟨α, operation⟩ (some lock))
    (h : ∀ m s, ∃ stage', Acts m s stage (body m s).1 stage' ∧
      Plays operation stage' (body m s).2) :
    Plays operation stage (.locked lock body) := ⟨hwaits, h⟩

theorem acts_missing {body : ApplicationContents → ApplicationContents × Answer α} {stage : Stage}
    (hstage : stage = .todo ∨ stage = .waiting) (hoperation : OnApplication operation token body)
    (hnone : Keyed.get? token s.applications = none) :
    Acts m s stage s (.finished (.of operation (.error (.applicationNotFound token)))) := by
  refine .answer hstage .look fun _ fresh => ?_
  have hcontents : Keyed.get? token s.contents = none := by rw [get?_contents, hnone]; rfl
  show Contents.perform fresh operation s.contents = _
  rw [hoperation, Contents.withApplication_of_none hcontents]
  rfl

/-- An application that was looked up is changed as the operation says. -/
theorem does_change {body : ApplicationContents → ApplicationContents × Answer α}
    {found' : ApplicationContents} {answer : Answer α} (fresh : String)
    (hoperation : OnApplication operation token body)
    (hfound : Keyed.get? token s.applications = some found)
    (hbody : body (found.contents s.chatAt) = (found', answer.map (Store.bare operation)))
    (hcontents : s'.contents = Keyed.update token (fun _ => found') s.contents) :
    Does fresh s.contents (.of operation answer) s'.contents := by
  show Contents.perform fresh operation s.contents = _
  rw [hoperation, Contents.withApplication_of_some (get?_contents_of_some hfound), hbody, hcontents]

/-- An application that was looked up is left as it is. -/
theorem acts_readApplication {body : ApplicationContents → ApplicationContents × Answer α}
    (hoperation : OnApplication operation token body)
    (hfound : Keyed.get? token s.applications = some found) (answer : Answer α)
    (hidle : Holding.settled (.of operation answer) = .idle)
    (hbody : body (found.contents s.chatAt) =
      (found.contents s.chatAt, answer.map (Store.bare operation))) :
    Acts m s .waiting s (.finished (.of operation answer)) := by
  have hmove : Move .idle m s s (.settled (.of operation answer)) := hidle ▸ .look
  refine .answer (.inr rfl) hmove fun h fresh => does_change fresh hoperation hfound hbody ?_
  have hnodup : (Keyed.keys s.contents).Nodup := keys_contents ▸ h.tokens
  exact (Keyed.update_of_get? hnodup (get?_contents_of_some hfound)).symm

/-- The chat is deleted for those who look when its link is taken away. -/
theorem does_unlink (fresh : String) (hfound : Keyed.get? token s.applications = some found)
    (hlink : Keyed.get? number found.chats = some record)
    (hcount : (CounterUpdate.decrement .chats).apply found.application.chatsCount = .ok count)
    (h : Linkage s) :
    Does fresh s.contents (.of (.deleteChat token number) (.ok ()))
      (s.unlink m token number count).contents := by
  have hoperation : OnApplication (.deleteChat token number) token
      (ApplicationContents.deleteChat token number) := fun _ _ => rfl
  have hbody : (found.contents s.chatAt).deleteChat token number =
      ((found.contents s.chatAt).removeChat number count, .ok ()) := by
    have hcount' : (CounterUpdate.decrement .chats).apply
      (found.contents s.chatAt).application.chatsCount = .ok count := hcount
    simp [ApplicationContents.deleteChat, get?_contents_chats, hlink, hcount']
  have hnodup : (Keyed.keys s.contents).Nodup := keys_contents ▸ h.tokens
  exact does_change fresh hoperation hfound hbody
    (contents_unlink.trans (Keyed.update_congr hnodup (get?_contents_of_some hfound) rfl))

/-- An application is looked up twice, and the second time under its lock. -/
theorem plays_withApplication {body : ApplicationContents → ApplicationContents × Answer α}
    (hoperation : OnApplication operation token body)
    {inside : Moment → State → ApplicationRecord → State × StoreCall α}
    (h : ∀ m s found, Keyed.get? token s.applications = some found →
      ∃ stage, Acts m s .waiting (inside m s found).1 stage ∧
        Plays operation stage (inside m s found).2) :
    Plays operation .todo (withApplication token inside) := by
  refine plays_look fun m s => ?_
  cases hfirst : Keyed.get? token s.applications with
  | none => exact ⟨_, acts_missing (.inl rfl) hoperation hfirst, plays_finished _⟩
  | some first =>
      refine ⟨.waiting, .wait, plays_locked nofun fun m s => ?_⟩
      cases hfound : Keyed.get? token s.applications with
      | none => exact ⟨_, acts_missing (.inr rfl) hoperation hfound, plays_finished _⟩
      | some found => exact h m s found hfound

/-- What an operation does that looks a chat up. -/
def OnChat (operation : Operation α) (token : String) (number : Int)
    (body : ChatContents → ChatContents × Answer α) : Prop :=
  ∀ fresh c, Contents.perform fresh operation c = some (c.withChat token number body)

variable {body : ChatContents → ChatContents × Answer α}

theorem does_chatNotFound (hoperation : OnChat operation token number body) (h : Linkage s)
    (hfound : Keyed.get? token s.applications = some found)
    (hnone : s.contents.chat? token number = none) (fresh : String) :
    Does fresh s.contents (.of operation (.error (.chatNotFound token number))) s.contents := by
  have hcontents := get?_contents_of_some hfound
  have hchat : Keyed.get? number (found.contents s.chatAt).chats = none := by
    simpa [Contents.chat?, hcontents] using hnone
  have hnodup : (Keyed.keys s.contents).Nodup := keys_contents ▸ h.tokens
  show Contents.perform fresh operation s.contents = _
  rw [hoperation, Contents.withChat_of_none hnodup hcontents hchat]
  rfl

theorem acts_miss (hoperation : OnChat operation token number body)
    (hgone : ∀ chat, Keyed.get? record s.chats = some chat → chat.deleted = true) :
    Acts m s (.found token number record) s
      (.finished (.of operation (.error (.chatNotFound token number)))) :=
  .miss .letGo hgone fun h ⟨_, hfound⟩ hnone => does_chatNotFound hoperation h hfound hnone

/-- The record of a chat is looked up under the lock of the application, and the chat itself under
its own lock. -/
theorem plays_withChat (hoperation : OnChat operation token number body)
    (hdeletion : isDeletion ⟨α, operation⟩ = false)
    {inside : Moment → State → Nat → ChatRecord → State × StoreCall α}
    (h : ∀ m s record chat, Keyed.get? record s.chats = some chat → chat.deleted = false →
      ∃ answer chat', (inside m s record chat).2 = .done answer ∧
        Move (.found token number record) m s (inside m s record chat).1
          (.settled (.of operation answer)) ∧
        Revised record chat' s (inside m s record chat).1 ∧
        body chat.contents = (chat'.contents, answer.map (Store.bare operation))) :
    Plays operation .todo (withChat token number inside) := by
  refine plays_withApplication hoperation fun m s found hfound => ?_
  cases hlink : Keyed.get? number found.chats with
  | none =>
      refine ⟨_, .answer (.inr rfl) .look fun h fresh => ?_, plays_finished _⟩
      refine does_chatNotFound hoperation h hfound (chat?_contents_of_none ?_) fresh
      rintro record ⟨found', hfound', hlink'⟩
      rw [hfound] at hfound'
      cases hfound'
      rw [hlink] at hlink'
      contradiction
  | some record =>
      refine ⟨_, .find hfound hlink, plays_locked ⟨rfl, hdeletion⟩ fun m s => ?_⟩
      cases hchat : Keyed.get? record s.chats with
      | none =>
          have hgone : ∀ chat, Keyed.get? record s.chats = some chat → chat.deleted = true := by
            simp [hchat]
          exact ⟨_, acts_miss hoperation hgone, plays_finished _⟩
      | some chat =>
          cases hdeleted : chat.deleted with
          | true =>
              have hgone : ∀ chat, Keyed.get? record s.chats = some chat → chat.deleted = true := by
                simp [hchat, hdeleted]
              simp only [hdeleted, if_true]
              exact ⟨_, acts_miss hoperation hgone, plays_finished _⟩
          | false =>
              obtain ⟨answer, chat', hdone, hmove, hrevised, hbody⟩ :=
                h m s record chat hchat hdeleted
              simp only [hdeleted, Bool.false_eq_true, if_false]
              rw [hdone]
              refine ⟨_, .visit hmove hchat hdeleted hrevised fun fresh c hc => ?_,
                plays_finished _⟩
              show Contents.perform fresh operation c = _
              rw [hoperation, Contents.withChat_of_some hc, hbody]

/-! ### the operations -/

theorem plays_storeApplication {name : Option String} {text : String}
    (hvalid : Store.validateName name = .ok text) (application : Application)
    (hnew : application.bare = ⟨"", application.token, text, 0, 0, .epoch, .epoch⟩) :
    Plays (.createApplication name) (.made application)
      (.atomic fun _ s =>
        match Keyed.get? application.token s.applications with
        | some _ => (s, refuse (.constraintViolation "token already taken"))
        | none => (s.store application, reply application)) := by
  refine plays_atomic nofun fun m s => ?_
  have hget : Keyed.get? application.token s.contents =
      (Keyed.get? application.token s.applications).map (·.contents s.chatAt) := get?_contents
  cases hfree : Keyed.get? application.token s.applications with
  | some other =>
      refine ⟨_, .enter .refuse ?_, plays_finished _⟩
      simp [Does, Contents.perform, hvalid, hget, hfree, Except.map]
  | none =>
      refine ⟨_, .enter (.store hfree) ?_, plays_finished _⟩
      simp [Does, Contents.perform, hvalid, hget, hfree, Except.map, contents_store, hnew,
        Store.bare]

theorem plays_createApplication (name : Option String) :
    Plays (.createApplication name) .todo (createApplication name) := by
  unfold createApplication orRefuse
  cases hvalid : Store.validateName name with
  | error e =>
      refine plays_done rfl fun fresh c => ?_
      simp [Does, Contents.perform, hvalid, Except.map]
  | ok text =>
      refine plays_atomic nofun fun m s => ⟨_, .make (isBlank_of_requireText hvalid), ?_⟩
      exact plays_storeApplication hvalid _ rfl

/-- An application is read under its lock. -/
theorem plays_readApplication {read : ApplicationRecord → α}
    {see : ApplicationContents → ApplicationContents × Answer α}
    (hoperation : OnApplication operation token see)
    (hsettled : ∀ a, Holding.settled (.of operation (.ok a)) = .idle)
    (hsee : ∀ (found : ApplicationRecord) chatAt, see (found.contents chatAt) =
      (found.contents chatAt, .ok (Store.bare operation (read found)))) :
    Plays operation .todo (withApplication token fun _ s found => (s, reply (read found))) := by
  refine plays_withApplication hoperation fun m s found hfound => ?_
  exact ⟨_, acts_readApplication hoperation hfound (.ok (read found)) (hsettled _)
    (hsee found s.chatAt), plays_finished _⟩

theorem plays_createChat (token : String) :
    Plays (.createChat token) .todo (createChat token) := by
  have hoperation : OnApplication (.createChat token) token ApplicationContents.createChat :=
    fun _ _ => rfl
  refine plays_withApplication hoperation fun m s found hfound => ?_
  dsimp only
  split
  · next e hallocated =>
      have hbody : (found.contents s.chatAt).createChat = (found.contents s.chatAt, .error e) := by
        unfold ApplicationContents.createChat
        dsimp only [ApplicationRecord.contents, Application.bare]
        rw [hallocated]
      exact ⟨_, acts_readApplication hoperation hfound (.error e) rfl hbody, plays_finished _⟩
  · next number count hallocated =>
      obtain ⟨hnumber, hcount⟩ := allocated_eq_ok hallocated
      refine ⟨_, .answer (.inr rfl) (.link hfound hnumber hcount) fun h fresh => ?_,
        plays_finished _⟩
      have hbody : (found.contents s.chatAt).createChat =
          ((found.contents s.chatAt).addChat number count,
            .ok ⟨"", "", number, 0, 0, .epoch, .epoch⟩) := by
        unfold ApplicationContents.createChat
        dsimp only [ApplicationRecord.contents, Application.bare]
        rw [hallocated]
      have hnodup : (Keyed.keys s.contents).Nodup := keys_contents ▸ h.tokens
      exact does_change fresh hoperation hfound hbody
        (h.contents_link.trans (Keyed.update_congr hnodup (get?_contents_of_some hfound) rfl))

theorem plays_deleteChat (token : String) (number : Int) :
    Plays (.deleteChat token number) .todo (deleteChat token number) := by
  have hoperation : OnApplication (.deleteChat token number) token
      (ApplicationContents.deleteChat token number) := fun _ _ => rfl
  refine plays_withApplication hoperation fun m s found hfound => ?_
  cases hlink : Keyed.get? number found.chats with
  | none =>
      have hbody : (found.contents s.chatAt).deleteChat token number =
          (found.contents s.chatAt, .error (.chatNotFound token number)) := by
        simp [ApplicationContents.deleteChat, get?_contents_chats, hlink]
      exact ⟨_, acts_readApplication hoperation hfound (.error (.chatNotFound token number)) rfl
        hbody, plays_finished _⟩
  | some record =>
      cases hcount : (CounterUpdate.decrement .chats).apply found.application.chatsCount with
      | error e =>
          have hbody : (found.contents s.chatAt).deleteChat token number =
              (found.contents s.chatAt, .error e) := by
            have hcount' : (CounterUpdate.decrement .chats).apply
              (found.contents s.chatAt).application.chatsCount = .error e := hcount
            simp [ApplicationContents.deleteChat, get?_contents_chats, hlink, hcount']
          exact ⟨_, acts_readApplication hoperation hfound (.error e) rfl hbody, plays_finished _⟩
      | ok count =>
          exact ⟨_, .unlink hfound hlink hcount,
            plays_locked ⟨rfl, rfl⟩ fun _ _ => ⟨_, .mark, plays_finished _⟩⟩

/-- A chat that was found is read under its lock. -/
theorem plays_readChat {read : ChatRecord → α} {see : ChatContents → ChatContents × Answer α}
    (hoperation : OnChat operation token number see)
    (hdeletion : isDeletion ⟨α, operation⟩ = false)
    (hsettled : ∀ a, Holding.settled (.of operation (.ok a)) = .idle)
    (hsee : ∀ chat : ChatRecord, see chat.contents =
      (chat.contents, .ok (Store.bare operation (read chat)))) :
    Plays operation .todo (withChat token number fun _ s _ chat => (s, reply (read chat))) := by
  refine plays_withChat hoperation hdeletion fun m s record chat hchat hlive => ?_
  have hat : s.chatAt record = chat := by rw [State.chatAt, hchat, Option.getD_some]
  refine ⟨.ok (read chat), chat, rfl, ?_, ⟨rfl, hat, fun _ _ => rfl⟩, hsee chat⟩
  rw [hsettled]
  exact .letGo

theorem revised_post {chat' : Store.Chat} {next : Int} {body : String}
    (hchat : Keyed.get? record s.chats = some chat) :
    Revised record (chat.addMessage m next count (newMessage m (s.ids + 1) chat' next body)) s
      (s.post m record chat' next count body) where
  applications := rfl
  here := by
    unfold State.chatAt
    rw [get?_chats_post, if_pos rfl, hchat]
    rfl
  others other hother := by
    unfold State.chatAt
    rw [get?_chats_post, if_neg (Ne.symm hother)]

theorem plays_createMessage (token : String) (number : Int) (body : Option String) :
    Plays (.createMessage token number body) .todo (createMessage token number body) := by
  unfold createMessage orRefuse
  cases hvalid : Store.validateBody body with
  | error e =>
      refine plays_done rfl fun fresh c => ?_
      simp [Does, Contents.perform, hvalid, Except.map]
  | ok text =>
      have hoperation : OnChat (.createMessage token number body) token number
          (ChatContents.post text) := fun fresh c => by simp [Contents.perform, hvalid]
      refine plays_withChat hoperation rfl fun m s record chat hchat hlive => ?_
      dsimp only
      split
      · next e hallocated =>
          have hat : s.chatAt record = chat := by rw [State.chatAt, hchat, Option.getD_some]
          refine ⟨.error e, chat, rfl, .waste, ⟨rfl, hat, fun _ _ => rfl⟩, ?_⟩
          unfold ChatContents.post
          dsimp only [ChatRecord.contents, Store.Chat.bare]
          rw [hallocated]
          rfl
      · next next count hallocated =>
          obtain ⟨hnumber, hcount⟩ := allocated_eq_ok hallocated
          refine ⟨.ok (newMessage m (s.ids + 1) chat.chat next text), _, rfl,
            .post (isBlank_of_requireText hvalid) hchat hlive hnumber hcount, revised_post hchat,
            ?_⟩
          unfold ChatContents.post
          dsimp only [ChatRecord.contents, Store.Chat.bare]
          rw [hallocated]
          simp only [ChatRecord.addMessage, Keyed.mapValues_putAscending]
          rfl

/-- Operations that take effect at once; listings of applications and of chats take several
looks. -/
def TakesEffectAtOnce : {α : Type} → Operation α → Prop
  | _, .listApplications .. | _, .listChats .. => False
  | _, _ => True

/-- **No call does anything else.** -/
theorem plays_call {operation : Operation α} (h : TakesEffectAtOnce operation) :
    Plays operation .todo (call operation) := by
  cases operation with
  | listApplications offset limit => exact h.elim
  | listChats token offset limit => exact h.elim
  | createApplication name => exact plays_createApplication name
  | countApplications =>
      refine plays_look fun m s => ⟨_, .answer (.inl rfl) .look fun _ _ => ?_, plays_finished _⟩
      show some (s.contents, Except.ok s.contents.length) = _
      rw [State.contents, Keyed.length_mapValues]
      rfl
  | findApplication token =>
      exact plays_readApplication (fun _ _ => rfl) (fun _ => rfl) fun _ _ => rfl
  | createChat token => exact plays_createChat token
  | findChat token number =>
      exact plays_readChat (fun _ _ => rfl) rfl (fun _ => rfl) fun _ => rfl
  | countChats token =>
      refine plays_readApplication (fun _ _ => rfl) (fun _ => rfl) fun found chatAt => ?_
      simp [ApplicationRecord.contents, Store.bare]
  | deleteChat token number => exact plays_deleteChat token number
  | createMessage token number body => exact plays_createMessage token number body
  | countMessages token number =>
      refine plays_readChat (fun _ _ => rfl) rfl (fun _ => rfl) fun chat => ?_
      simp [ChatRecord.contents, Store.bare]
  | listMessages token number offset limit =>
      refine plays_readChat (fun _ _ => rfl) rfl (fun _ => rfl) fun chat => ?_
      simp [ChatRecord.contents, Store.bare, Page.slice, Keyed.mapValues, Function.comp_def]
  | ping => exact plays_done rfl fun _ _ => rfl

end Calls
end ChatService.Memory
