import ChatService.Memory.Locking
import ChatService.Proofs.Locking
import ChatService.Proofs.Memory.Ownership

/-!
# No deadlock in the in-memory store

Every operation takes its locks one at a time and releases what it holds before it takes the next
or ends, so no call ever waits for a lock while it holds another (`DeadlockFree`).  And the locks
that it takes are those of the application that it names and of the chats that it finds there: a
call may wait for calls on the same application or the same chat only, listings of all applications
aside.  Without the steps that take and release locks, the tasks are the calls of the store.
-/

namespace ChatService.Memory.Locking

open Store (Application Message Operation Answer CounterUpdate Outcome)

variable {α β : Type} {token : String} {number : Int}

/-! ## the calls of the store -/

theorem sections_underApplication
    (body : Moment → State → ApplicationRecord → State × Answer α) :
    (underApplication token body).sections none =
      withApplication token fun m s record => ((body m s record).1, .done (body m s record).2) := by
  unfold underApplication withApplication
  rw [Task.sections_look_bind]
  congr 1
  funext s
  cases Keyed.get? token s.applications with
  | none => rfl
  | some found =>
      dsimp only
      rw [Task.sections_guarded]
      congr 1
      funext m s
      cases Keyed.get? token s.applications <;> rfl

/-- A scope under the lock of an application, and what follows a success. -/
theorem sections_underApplication_bind
    (body : Moment → State → ApplicationRecord → State × Answer α) (next : α → StoreTask β) :
    ((underApplication token body).bind (orEnd next)).sections none =
      withApplication token fun m s record =>
        ((body m s record).1, (orEnd next (body m s record).2).sections none) := by
  unfold underApplication withApplication
  rw [Task.bind_bind, Task.sections_look_bind]
  congr 1
  funext s
  cases Keyed.get? token s.applications with
  | none => rfl
  | some found =>
      dsimp only
      rw [Task.sections_guarded_bind]
      congr 1
      funext m s
      cases Keyed.get? token s.applications <;> rfl

theorem sections_underChat (body : Moment → State → Nat → ChatRecord → State × Answer α) :
    (underChat token number body).sections none =
      withChat token number fun m s id record =>
        ((body m s id record).1, .done (body m s id record).2) := by
  unfold underChat linkOf withChat
  rw [sections_underApplication_bind]
  congr 1
  funext m s record
  cases Keyed.get? number record.chats with
  | none => rfl
  | some id =>
      dsimp only [orEnd]
      rw [Task.sections_guarded]
      congr 2
      funext m s
      cases Keyed.get? id s.chats with
      | none => rfl
      | some chat => cases hdeleted : chat.deleted <;> simp [hdeleted, refuse]

theorem sections_readApplications (finish : List Application → StoreTask (List Application))
    (tokens : List String) (read : List Application) :
    ((readApplications tokens read).bind finish).sections none =
      Memory.readApplications (fun applications => (finish applications).sections none) tokens
        read := by
  induction tokens generalizing read with
  | nil => rfl
  | cons token tokens ih =>
      unfold readApplications Memory.readApplications
      rw [Task.bind_bind, Task.sections_guarded_look_bind]
      congr 1
      funext s
      cases Keyed.get? token s.applications <;> exact ih _

theorem sections_readChats (ids : List Nat) (read : List Store.Chat) :
    (readChats ids read).sections none = Memory.readChats ids read := by
  induction ids generalizing read with
  | nil => rfl
  | cons id ids ih =>
      unfold readChats Memory.readChats
      rw [Task.sections_guarded_look_bind]
      congr 1
      funext s
      cases Keyed.get? id s.chats <;> exact ih _

theorem sections_storeApplication (application : Application) :
    (storeApplication application).sections none = .atomic fun _ s =>
      match Keyed.get? application.token s.applications with
      | some _ => (s, refuse (.constraintViolation "token already taken"))
      | none =>
        let applications := Keyed.put application.token ⟨application, []⟩ s.applications
        ({ s with applications }, reply application) := by
  unfold storeApplication Task.now Call.atomic
  dsimp only [Task.sections]
  congr 1
  · funext m s
    cases Keyed.get? application.token s.applications <;> rfl
  · funext m s
    cases Keyed.get? application.token s.applications <;> rfl

theorem sections_createApplication (name : Option String) :
    (createApplication name).sections none = Memory.createApplication name := by
  unfold createApplication Memory.createApplication orRefuse
  cases Store.validateName name with
  | error e => rfl
  | ok name =>
      exact congrArg (Call.step _ _)
        (funext fun m => funext fun s => sections_storeApplication _)

theorem sections_createChat (token : String) :
    (createChat token).sections none = Memory.createChat token := by
  unfold createChat Memory.createChat
  rw [sections_underApplication]
  congr 1
  funext m s found
  dsimp only
  cases Store.nextAfter found.application.lastChatNumber with
  | error e => rfl
  | ok number =>
      cases (CounterUpdate.increment .chats).apply found.application.chatsCount <;> rfl

theorem sections_listChats (token : String) (offset limit : Nat) :
    (listChats token offset limit).sections none = Memory.listChats token offset limit := by
  unfold listChats Memory.listChats
  rw [sections_underApplication_bind]
  congr 1
  funext m s found
  exact congrArg (Prod.mk s) (sections_readChats _ _)

theorem sections_deleteChat (token : String) (number : Int) :
    (deleteChat token number).sections none = Memory.deleteChat token number := by
  unfold deleteChat unlink Memory.deleteChat
  rw [sections_underApplication_bind]
  congr 1
  funext m s found
  cases Keyed.get? number found.chats with
  | none => rfl
  | some id =>
      dsimp only
      cases (CounterUpdate.decrement .chats).apply found.application.chatsCount <;> rfl

theorem sections_createMessage (token : String) (number : Int) (body : Option String) :
    (createMessage token number body).sections none = Memory.createMessage token number body := by
  unfold createMessage Memory.createMessage orRefuse
  cases Store.validateBody body with
  | error e => rfl
  | ok body =>
      refine (sections_underChat _).trans ?_
      congr 1
      funext m s record found
      dsimp only
      cases Store.nextAfter found.chat.lastMessageNumber with
      | error e => rfl
      | ok next =>
          cases (CounterUpdate.increment .messages).apply found.chat.messagesCount <;> rfl

/-- **Without the steps that take and release locks, a task is the call of its operation.** -/
theorem sections_task (operation : Operation α) :
    (task operation).sections none = Memory.call operation := by
  cases operation with
  | createApplication name => exact sections_createApplication name
  | countApplications => rfl
  | listApplications offset limit =>
      exact congrArg Call.look (funext fun s => sections_readApplications _ _ _)
  | findApplication token => exact sections_underApplication _
  | createChat token => exact sections_createChat token
  | findChat token number => exact sections_underChat _
  | countChats token => exact sections_underApplication _
  | listChats token offset limit => exact sections_listChats token offset limit
  | deleteChat token number => exact sections_deleteChat token number
  | createMessage token number body => exact sections_createMessage token number body
  | countMessages token number => exact sections_underChat _
  | listMessages token number offset limit => exact sections_underChat _
  | ping => rfl

/-! ## one lock at a time -/

section Brackets

open ChatService.Task (Brackets brackets_bind brackets_done brackets_now brackets_look
  brackets_guarded)

theorem brackets_underApplication
    (body : Moment → State → ApplicationRecord → State × Answer α) :
    (underApplication token body).Brackets none none := by
  refine brackets_bind (brackets_look none _) fun found => ?_
  cases found with
  | none => exact brackets_done none _
  | some found => exact brackets_guarded (brackets_now _ _)

theorem brackets_orEnd {next : α → StoreTask β} (h : ∀ a, (next a).Brackets none none)
    (answer : Answer α) : (orEnd next answer).Brackets none none := by
  cases answer with
  | error e => exact brackets_done none _
  | ok a => exact h a

theorem brackets_underChat (body : Moment → State → Nat → ChatRecord → State × Answer α) :
    (underChat token number body).Brackets none none :=
  brackets_bind (brackets_underApplication _) <|
    brackets_orEnd fun _ => brackets_guarded (brackets_now _ _)

theorem brackets_readApplications (tokens : List String) (read : List Application) :
    (readApplications tokens read).Brackets none none := by
  induction tokens generalizing read with
  | nil => exact brackets_done none _
  | cons token tokens ih =>
      refine brackets_bind (brackets_guarded (brackets_look _ _)) fun found => ?_
      cases found with
      | none => exact ih read
      | some found => exact ih _

theorem brackets_readChats (ids : List Nat) (read : List Store.Chat) :
    (readChats ids read).Brackets none none := by
  induction ids generalizing read with
  | nil => exact brackets_done none _
  | cons id ids ih =>
      refine brackets_bind (brackets_guarded (brackets_look _ _)) fun found => ?_
      cases found with
      | none => exact ih read
      | some found => exact ih _

/-- **Every operation holds one lock at most**, from none to none. -/
theorem brackets_task (operation : Operation α) : (task operation).Brackets none none := by
  cases operation with
  | createApplication name =>
      exact brackets_orEnd (fun name =>
        brackets_bind (brackets_now none _) fun _ => brackets_now none _) _
  | countApplications => exact brackets_look none _
  | listApplications offset limit =>
      exact brackets_bind (brackets_look none _) fun tokens =>
        Task.brackets_map (brackets_readApplications tokens [])
  | findApplication token => exact brackets_underApplication _
  | createChat token => exact brackets_underApplication _
  | findChat token number => exact brackets_underChat _
  | countChats token => exact brackets_underApplication _
  | listChats token offset limit =>
      exact brackets_bind (brackets_underApplication _) <|
        brackets_orEnd fun page => brackets_readChats page []
  | deleteChat token number =>
      exact brackets_bind (brackets_underApplication _) <|
        brackets_orEnd fun _ => brackets_guarded (brackets_now _ _)
  | createMessage token number body => exact brackets_orEnd (fun _ => brackets_underChat _) _
  | countMessages token number => exact brackets_underChat _
  | listMessages token number offset limit => exact brackets_underChat _
  | ping => exact brackets_done none _

end Brackets

/-! ## whose locks -/

/-- The lock of an application, or of a chat that belongs to it under one of some numbers. -/
def Within (token : String) (numbers : Int → Prop) (s : State) : Lock → Prop
  | .application token' => token' = token
  | .chat record => ∃ number, numbers number ∧ Owned s token number record

/-- The locks that an operation may wait for: those of the application that it names, and of the
chat that it names or, for a listing, of the chats of the application. -/
def MayAwait : {α : Type} → Operation α → State → Lock → Prop
  | _, .createApplication _ | _, .countApplications | _, .ping => fun _ _ => False
  | _, .listApplications _ _ => fun _ _ => True
  | _, .findApplication token | _, .createChat token | _, .countChats token =>
    Within token fun _ => False
  | _, .listChats token _ _ => Within token fun _ => True
  | _, .findChat token number | _, .deleteChat token number | _, .createMessage token number _
  | _, .countMessages token number | _, .listMessages token number _ _ =>
    Within token fun number' => number' = number

/-- A state that running calls have led to. -/
structure Onward (s s' : State) : Prop extends Extends s s' where
  linkage : Linkage s
  homed : Homed s'

theorem Onward.trans {s s' s'' : State} (h : Onward s s') (h' : Onward s' s'') : Onward s s'' where
  ids := Nat.le_trans h.ids h'.ids
  application token found hfound := by
    obtain ⟨found', hfound', hid⟩ := h.application token found hfound
    obtain ⟨found'', hfound'', hid'⟩ := h'.application token found' hfound'
    exact ⟨found'', hfound'', hid'.trans hid⟩
  chat record chat hchat := by
    obtain ⟨chat', hchat', hhome, hnumber⟩ := h.chat record chat hchat
    obtain ⟨chat'', hchat'', hhome', hnumber'⟩ := h'.chat record chat' hchat'
    exact ⟨chat'', hchat'', hhome'.trans hhome, hnumber'.trans hnumber⟩
  link token found'' number record hfound'' hlink'' hgiven := by
    obtain ⟨found', hfound', hlink'⟩ :=
      h'.link token found'' number record hfound'' hlink'' (Nat.le_trans hgiven h.ids)
    exact h.link token found' number record hfound' hlink' hgiven
  linkage := h.linkage
  homed := h'.homed

theorem Within.onward {numbers : Int → Prop} {s s' : State} {lock : Lock} (h : Onward s s')
    (hwithin : Within token numbers s lock) : Within token numbers s' lock := by
  cases lock with
  | application token' => exact hwithin
  | chat record =>
      obtain ⟨number, hnumber, howned⟩ := hwithin
      exact ⟨number, hnumber, howned.of_extends h.linkage h.toExtends⟩

theorem MayAwait.onward {operation : Operation α} {s s' : State} {lock : Lock} (h : Onward s s')
    (hmay : MayAwait operation s lock) : MayAwait operation s' lock := by
  cases operation <;> first | exact hmay | exact Within.onward h hmay

section Awaits

open ChatService.Task (awaitsOnly_bind awaitsOnly_guarded awaitsOnly_look awaitsOnly_now)

variable {numbers : Int → Prop} {s : State} {allowed : State → Lock → Prop}

/-- A task of which nothing but its locks is said. -/
abbrev Awaits (allowed : State → Lock → Prop) (s : State) (task : StoreTask α) : Prop :=
  task.AwaitsOnly Onward allowed (fun _ _ => True) s

theorem awaits_look {body : State → α} :
    (Task.look body : Task State Moment Lock α).AwaitsOnly Onward allowed (fun _ _ => True) s :=
  fun _ _ _ => trivial

/-- What a success may be. -/
abbrev Succeeds (post : State → α → Prop) (s : State) (answer : Answer α) : Prop :=
  ∀ a, answer = .ok a → post s a

theorem awaits_orEnd (post : State → α → Prop) {next : α → StoreTask β} {answer : Answer α}
    (h : ∀ a, post s a → Awaits allowed s (next a)) (hpost : Succeeds post s answer) :
    Awaits allowed s (orEnd next answer) := by
  cases answer with
  | error e => trivial
  | ok a => exact h a (hpost a rfl)

/-- A scope under the lock of the application waits for that lock alone; what it answers is true of
the record that it finds. -/
theorem awaitsOnly_underApplication (post : State → α → Prop)
    {body : Moment → State → ApplicationRecord → State × Answer α}
    (hbody : ∀ m s found, Homed s → Keyed.get? token s.applications = some found →
      Succeeds post s (body m s found).2) :
    (underApplication token body).AwaitsOnly Onward (Within token numbers) (Succeeds post) s := by
  refine awaitsOnly_bind awaits_look ?_
  intro s found _
  cases found with
  | none =>
      intro a ha
      cases ha
  | some found =>
      refine awaitsOnly_guarded rfl (awaitsOnly_now fun m s honward => ?_)
      cases hfound : Keyed.get? token s.applications with
      | none =>
          intro a ha
          cases ha
      | some found => exact hbody m s found honward.homed hfound

theorem awaits_underApplication (body : Moment → State → ApplicationRecord → State × Answer α) :
    Awaits (Within token numbers) s (underApplication token body) :=
  (awaitsOnly_underApplication (fun _ _ => True) fun _ _ _ _ _ _ _ => trivial).mono
    (fun _ _ hlock => hlock) fun _ _ _ => trivial

/-- A chat that is looked up belongs to the application under its number. -/
theorem awaitsOnly_linkOf : (linkOf token number).AwaitsOnly Onward
    (Within token fun number' => number' = number)
    (Succeeds fun s record => Owned s token number record) s := by
  refine awaitsOnly_underApplication _ fun m s found hhomed hfound record hrecord => ?_
  cases hlink : Keyed.get? number found.chats with
  | none => simp [hlink] at hrecord
  | some id =>
      obtain rfl : id = record := by simpa [hlink] using hrecord
      exact hhomed.owned token number id ⟨found, hfound, hlink⟩

theorem awaits_underChat (body : Moment → State → Nat → ChatRecord → State × Answer α) :
    Awaits (Within token fun number' => number' = number) s (underChat token number body) :=
  awaitsOnly_bind awaitsOnly_linkOf fun _ _ => awaits_orEnd _ fun _ howned =>
    awaitsOnly_guarded ⟨number, rfl, howned⟩ (awaitsOnly_now fun _ _ _ => trivial)

theorem awaits_deleteChat :
    Awaits (Within token fun number' => number' = number) s (deleteChat token number) := by
  have hunlink : (unlink token number).AwaitsOnly Onward
      (Within token fun number' => number' = number)
      (Succeeds fun s record => Owned s token number record) s := by
    refine awaitsOnly_underApplication _ fun m s found hhomed hfound record hrecord => ?_
    cases hlink : Keyed.get? number found.chats with
    | none => simp [hlink] at hrecord
    | some id =>
        have howned := hhomed.owned token number id ⟨found, hfound, hlink⟩
        cases hcount : (CounterUpdate.decrement .chats).apply found.application.chatsCount with
        | error e => simp [hlink, hcount] at hrecord
        | ok count =>
            obtain rfl : id = record := by simpa [hlink, hcount] using hrecord
            exact howned
  exact awaitsOnly_bind hunlink fun _ _ => awaits_orEnd _ fun _ howned =>
    awaitsOnly_guarded ⟨number, rfl, howned⟩ (awaitsOnly_now fun _ _ _ => trivial)

/-- Chats that belong to the application still do when it is their turn to be read. -/
theorem awaits_readChats {ids : List Nat} {read : List Store.Chat}
    (h : ∀ id ∈ ids, Within token numbers s (.chat id)) :
    Awaits (Within token numbers) s (readChats ids read) := by
  induction ids generalizing read s with
  | nil => trivial
  | cons id ids ih =>
      obtain ⟨hid, hids⟩ := List.forall_mem_cons.mp h
      refine awaitsOnly_bind (awaitsOnly_guarded hid
        (awaitsOnly_look (fun s _ => ∀ id ∈ ids, Within token numbers s (.chat id))
          fun s' honward id hmem => (hids id hmem).onward honward)) fun s found hids => ?_
      cases found with
      | none => exact ih hids
      | some found => exact ih hids

theorem awaits_listChats (offset limit : Nat) :
    Awaits (Within token fun _ => True) s (listChats token offset limit) := by
  refine awaitsOnly_bind (awaitsOnly_underApplication
    (fun s page => ∀ id ∈ page, Within token (fun _ => True) s (.chat id)) ?_)
    fun _ _ => awaits_orEnd _ fun _ hpage => awaits_readChats hpage
  rintro m s found hhomed hfound page hpage id hid
  obtain rfl : (Page.slice offset limit found.chats).map (·.2) = page := Except.ok.inj hpage
  obtain ⟨⟨number, record⟩, hentry, rfl⟩ := List.mem_map.mp hid
  have hmem : (number, record) ∈ found.chats := List.mem_of_mem_drop (List.mem_of_mem_take hentry)
  exact ⟨number, trivial,
    hhomed.owned token number record ((hhomed.mem_chats_iff hfound).mp hmem)⟩

theorem awaits_readApplications (tokens : List String) (read : List Application) :
    (readApplications tokens read).AwaitsOnly Onward (fun _ _ => True) (fun _ _ => True) s := by
  induction tokens generalizing read s with
  | nil => trivial
  | cons token tokens ih =>
      refine awaitsOnly_bind (awaitsOnly_guarded trivial awaits_look) fun s found _ => ?_
      cases found with
      | none => exact ih read
      | some found => exact ih _

/-- **An operation waits for no locks but its own**, from any state on. -/
theorem awaits_task (operation : Operation α) : Awaits (MayAwait operation) s (task operation) := by
  cases operation with
  | createApplication name =>
      exact awaits_orEnd (fun _ _ => True) (fun name _ _ _ _ _ _ _ => trivial) fun _ _ => trivial
  | countApplications => exact fun _ _ _ => trivial
  | listApplications offset limit =>
      exact awaitsOnly_bind awaits_look fun _ tokens _ =>
        awaitsOnly_bind (awaits_readApplications tokens []) fun _ _ _ => trivial
  | findApplication token => exact awaits_underApplication _
  | createChat token => exact awaits_underApplication _
  | findChat token number => exact awaits_underChat _
  | countChats token => exact awaits_underApplication _
  | listChats token offset limit => exact awaits_listChats offset limit
  | deleteChat token number => exact awaits_deleteChat
  | createMessage token number body =>
      exact awaits_orEnd (fun _ _ => True) (fun _ _ => awaits_underChat _) fun _ _ => trivial
  | countMessages token number => exact awaits_underChat _
  | listMessages token number offset limit => exact awaits_underChat _
  | ping => trivial

end Awaits

/-! ## any number of calls -/

/-- Workers on the store. -/
abbrev StoreWorker : Type 1 := Worker State Moment Lock Outcome

/-- Workers for several operations, none of which has begun. -/
def begin (requests : List Request) : List StoreWorker :=
  requests.map fun request => { task := (task request.2).map (.of request.2) }

theorem calls_begin (requests : List Request) :
    (begin requests).map Worker.call = start requests := by
  rw [begin, start, List.map_map]
  refine List.map_congr_left fun request _ => ?_
  have hcall : ((task request.2).map (Outcome.of request.2)).sections none =
      (call request.2).map (.of request.2) := by
    rw [Task.sections_map, sections_task]
  exact hcall

/-- A worker that takes only locks that its operation may wait for. -/
def AwaitsOwn (s : State) (request : Request) (worker : StoreWorker) : Prop :=
  worker.task.AwaitsOnly Onward (MayAwait request.2) (fun _ _ => True) s

/-- What holds of workers on the store at any time. -/
structure Sound (requests : List Request) (s : State) (workers : List StoreWorker) : Prop where
  brackets : ∀ worker ∈ workers, worker.Brackets
  grounded : ∃ helds, Hold helds (workers.map Worker.call) ∧ Grounded s helds
  homed : Homed s
  awaits : List.Forall₂ (AwaitsOwn s) requests workers

theorem sound_begin (requests : List Request) : Sound requests .empty (begin requests) where
  brackets worker hworker := by
    obtain ⟨request, -, rfl⟩ := List.mem_map.mp hworker
    exact ⟨none, rfl, Task.brackets_map (brackets_task request.2)⟩
  grounded := by
    refine ⟨_, calls_begin requests ▸ hold_start requests, grounded_of_idle linkage_empty ?_⟩
    simp
  homed := homed_empty
  awaits := by
    refine List.forall₂_map_right_iff.mpr (List.forall₂_same.mpr fun request _ => ?_)
    exact Task.awaitsOnly_bind (awaits_task request.2) fun _ _ _ => trivial

section Steps

variable {requests : List Request} {s : State} {workers : List StoreWorker} {n : Nat}
  {worker : StoreWorker} {i : Moment}

/-- A step of a worker leads onward, and what the calls hold is still grounded. -/
theorem Sound.onward (h : Sound requests s workers) (hworker : workers[n]? = some worker) :
    Onward s (worker.step i s).1 ∧
      ∃ helds, Hold helds ((workers.set n (worker.step i s).2).map Worker.call) ∧
        Grounded (worker.step i s).1 helds := by
  obtain ⟨helds, hhold, hgrounded⟩ := h.grounded
  have hhere : Onward s s := ⟨extends_refl, h.homed.toLinkage, h.homed⟩
  obtain ⟨hstate, hcalls⟩ | hturn := step_sections (s := s) h.brackets hworker i
  · rw [hstate, hcalls]
    exact ⟨hhere, helds, hhold, hgrounded⟩
  · have hrun := Turn.run_follows ⟨n, i⟩ s hhold
    rw [← hturn] at hrun
    obtain hidle | ⟨held, held', hheld, hmove, hhold'⟩ := hrun
    · obtain ⟨hstate, hcalls⟩ := Prod.mk.inj hidle
      rw [hstate, hcalls]
      exact ⟨hhere, helds, hhold, hgrounded⟩
    · have hgrounded' := hgrounded.of_move hheld hmove
      exact ⟨⟨extends_of_move hgrounded.toLinkage hmove, hgrounded.toLinkage,
        h.homed.of_move hgrounded'.toLinkage hmove⟩, _, hhold', hgrounded'⟩

theorem Sound.step (h : Sound requests s workers) (hworker : workers[n]? = some worker) :
    Sound requests (worker.step i s).1 (workers.set n (worker.step i s).2) := by
  obtain ⟨honward, hgrounded⟩ := h.onward (i := i) hworker
  have hhere : Onward s s := ⟨extends_refl, h.homed.toLinkage, h.homed⟩
  obtain ⟨request, hrequest, hawaits⟩ := exists_of_forall₂_getElem? h.awaits hworker
  have hothers : List.Forall₂ (AwaitsOwn (worker.step i s).1) requests workers :=
    h.awaits.imp fun _ _ hother => hother.stays Onward.trans MayAwait.onward honward
  have hself : AwaitsOwn (worker.step i s).1 request (worker.step i s).2 :=
    (Worker.awaitsOnly_step hawaits hhere).stays Onward.trans MayAwait.onward honward
  have hset := forall₂_set (n := n) hothers hself
  obtain ⟨hn, hget⟩ := List.getElem?_eq_some_iff.mp hrequest
  rw [← hget, List.set_getElem_self] at hset
  exact ⟨brackets_set h.brackets hworker, hgrounded, honward.homed, hset⟩

end Steps

/-- What holds of concurrent calls at any time: -/
structure DeadlockFree (requests : List Request) (s : State) (workers : List StoreWorker) :
    Prop where
  /-- a call that waits for a lock holds none, -/
  alone : ∀ worker ∈ workers, ∀ lock, worker.awaits? = some lock → worker.held = []
  /-- a call that is not finished can go on, or waits for one that can, -/
  waits : ∀ worker ∈ workers, worker.isFinished = false →
    worker.canStep workers ∨ ∃ lock, worker.awaits? = some lock ∧
      ∃ other ∈ workers, lock ∈ other.held ∧ other.canStep workers
  /-- so some call can go on until all are finished, -/
  progress : (∃ worker ∈ workers, worker.isFinished = false) →
    ∃ worker ∈ workers, worker.canStep workers
  /-- and a call waits for locks of its own application and chat only, listings of all applications
  aside. -/
  own : List.Forall₂
    (fun request worker => ∀ lock, worker.awaits? = some lock → MayAwait request.2 s lock)
    requests workers

/-- **No deadlock**, whatever operations run at once and however their steps are interleaved. -/
theorem runWorkers_deadlockFree (requests : List Request) (schedule : List (Turn Moment)) :
    DeadlockFree requests (runWorkers schedule .empty (begin requests)).1
      (runWorkers schedule .empty (begin requests)).2 := by
  have hsound : Sound requests (runWorkers schedule .empty (begin requests)).1
      (runWorkers schedule .empty (begin requests)).2 :=
    runWorkers_induct (Sound requests) (fun i h hworker _ => h.step hworker) schedule
      (sound_begin requests)
  have hwaits := fun worker (_ : worker ∈ (runWorkers schedule .empty (begin requests)).2)
    (hunfinished : worker.isFinished = false) => exists_canStep hsound.brackets hunfinished
  exact {
    alone := fun worker hworker lock hawaits =>
      (hsound.brackets worker hworker).held_eq_nil hawaits
    waits := hwaits
    progress := by
      rintro ⟨worker, hworker, hunfinished⟩
      obtain hstep | ⟨_, _, other, hother, _, hstep⟩ := hwaits worker hworker hunfinished
      · exact ⟨worker, hworker, hstep⟩
      · exact ⟨other, hother, hstep⟩
    own := hsound.awaits.imp fun request worker hawaits lock hlock =>
      Worker.allowed_of_awaits hawaits hlock }

/-- Of two calls that create chats in one application, the second one waits while the first one
holds the lock. -/
example :
    let requests : List Request :=
      [⟨_, .createApplication (some "a")⟩, ⟨_, .createChat "t"⟩, ⟨_, .createChat "t"⟩]
    let schedule := [0, 0, 1, 1, 2, 2].map fun n => ⟨n, ⟨.epoch, "t"⟩⟩
    let workers := (runWorkers schedule .empty (begin requests)).2
    workers.map (·.canStep workers) = [false, true, false] ∧
      workers.map (·.awaits?) = [none, none, some (.application "t")] := by
  decide +kernel

end ChatService.Memory.Locking
