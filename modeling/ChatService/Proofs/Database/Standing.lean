import ChatService.Proofs.Database.Atomicity
import ChatService.Proofs.Database.Snapshots

/-!
# One call among others

What one call sees of a server that others use, too: its own transaction, whose snapshot may be any
accepted state of the records.  Under this rule a unit of work runs as it would run alone from its
snapshot, so a call commits only what its operation should do, and begins no transaction once one
may have been applied.
-/

namespace ChatService.Database.Concurrent

open Server (State Records recordsOf execute openFor serve)
open Store (Operation Answer RetryPolicy Scope)

/-- How far a call has come with its newest transaction. -/
inductive Standing where
  | idle
  | begun (session : Session)
  | active (session : Session) (snapshot view : Records)
  | applied (session : Session) (snapshot view : Records) (heard : Bool)
  | gone (session : Session)
  /-- The call asked for something that it should not ask for. -/
  | spoiled

namespace Standing

def session? : Standing → Option Session
  | .begun session | .active session _ _ | .applied session _ _ _ | .gone session => some session
  | .idle | .spoiled => none

/-- Nothing is applied, and nothing can be any more. -/
def Clear : Standing → Prop
  | .idle | .gone _ => True
  | _ => False

def status : Standing → Status
  | .applied _ _ _ _ => .applied
  | .gone _ => .gone
  | _ => .opened

def abort : Standing → Standing
  | .begun session | .active session _ _ => .gone session
  | standing => standing

/-- Where an answer to a commit leads. -/
def settle (answer : Except Failure Unit) : Standing → Status → Standing
  | .active session snapshot view, .applied => .applied session snapshot view answer.toBool
  | .active session _ _, .gone => .gone session
  | .applied session snapshot view heard, _ =>
    .applied session snapshot view (heard || answer.toBool)
  | standing, _ => standing

/-- The transaction of a call, which its first command opens. -/
def Sees (accepted : Records → Prop) (session : Session) (snapshot view : Records)
    (standing : Standing) : Prop :=
  standing = .active session snapshot view ∨
    standing = .begun session ∧ accepted snapshot ∧ view = snapshot

variable {α : Type}

/-- What a transaction must have done before it may be committed. -/
def MayCommit (operation : Operation α) : Standing → Prop
  | .active _ snapshot view => ∃ value, Done operation snapshot view value
  | .applied _ _ _ _ | .gone _ => True
  | _ => False

/-- What a call may ask for. -/
def Proper (operation : Operation α) (standing : Standing) : (β : Type) → Ask β → Prop
  | _, .begin => standing.Clear
  | _, .send (some session) .commit =>
    standing.session? = some session ∧ standing.MayCommit operation
  | _, .send (some session) _ => standing.session? = some session
  | _, .send none command => (Ask.send none command).Looks _ ∧ standing ≠ .spoiled
  | _, _ => standing ≠ .spoiled

end Standing

section Rule

variable (accepted : Records → Prop) (unique : Keyed String (List (List String))) {α : Type}
  (operation : Operation α)

/-- How a call may be answered. -/
def Admits : Rule Standing := fun standing exchange standing' =>
  match exchange with
  | ⟨.begin, .error _⟩ => standing' = standing
  | ⟨.begin, .ok session⟩ => standing' = .begun session
  | ⟨.send (some _) .commit, answer⟩ =>
    ∃ status, Commits standing.status answer status ∧ standing' = standing.settle answer status
  | ⟨.send (some _) .abort, _⟩ => standing' = standing.abort
  | ⟨.send (some session) command, answer⟩ =>
    (∃ snapshot view view', standing.Sees accepted session snapshot view ∧
      execute (begun ⟨snapshot, unique, none⟩ session view) command =
        (begun ⟨snapshot, unique, none⟩ session view', answer) ∧
      standing' = .active session snapshot view') ∨
    (∃ f, answer = .error f) ∧ (standing' = standing ∨ standing' = standing.abort)
  | ⟨.send none command, answer⟩ =>
    standing' = standing ∧
      ((∃ records, accepted records ∧ answer = (execute ⟨records, unique, none⟩ command).2) ∨
        ∃ f, answer = .error f)
  | _ => standing' = standing

/-- The answers that one call may get; it is spoiled if it asks for what it should not ask for. -/
def Alone : Rule Standing := fun standing exchange standing' =>
  standing.Proper operation _ exchange.request ∧
      Admits accepted unique standing exchange standing' ∨
    ¬standing.Proper operation _ exchange.request ∧ standing' = .spoiled

end Rule

variable {accepted : Records → Prop} {unique : Keyed String (List (List String))} {α β : Type}
  {operation : Operation α} {standing standing' : Standing} {session : Session}
  {snapshot view : Records}

theorem Alone.admits {exchange : Exchange}
    (h : Alone accepted unique operation standing exchange standing')
    (hproper : standing.Proper operation _ exchange.request) :
    Admits accepted unique standing exchange standing' := by
  obtain ⟨-, hadmits⟩ | ⟨himproper, -⟩ := h
  · exact hadmits
  · exact absurd hproper himproper

/-! ## calls that ask for what they may ask for -/

theorem not_proper_spoiled (request : Ask β) :
    ¬Standing.spoiled.Proper operation β request := by
  cases request with
  | send used command =>
      cases used with
      | none => exact fun h => h.2 rfl
      | some session => cases command <;> simp [Standing.Proper, Standing.session?]
  | begin => exact id
  | _ => exact fun h => h rfl

/-- Whatever is asked for, something can be answered. -/
theorem Ask.nonempty_answer : {β : Type} → Ask β → Nonempty β
  | _, .clock => ⟨0⟩
  | _, .freshId => ⟨.ofNat 0⟩
  | _, .freshToken => ⟨""⟩
  | _, .pause _ => ⟨()⟩
  | _, .begin | _, .send _ _ => ⟨.error { cause := .other }⟩

/-- A spoiled call stays so to its end. -/
theorem exists_of_ensures_spoiled {p : Program β} {post : Standing → β → Prop}
    (h : p.Ensures (Alone accepted unique operation) post .spoiled) :
    ∃ answer, post .spoiled answer := by
  induction p with
  | done answer => exact ⟨answer, h⟩
  | ask request next ih =>
      obtain ⟨answer⟩ := Ask.nonempty_answer request
      exact ih answer (h answer .spoiled (.inr ⟨not_proper_spoiled request, rfl⟩))

/-- A program that does not end spoiled asks only for what it may ask for. -/
theorem proper_of_ensures {γ : Type} {request : Ask γ} {next : γ → Program β}
    {post : Standing → β → Prop}
    (h : (Program.ask request next).Ensures (Alone accepted unique operation) post standing)
    (hpost : ∀ answer, ¬post .spoiled answer) : standing.Proper operation _ request := by
  by_contra himproper
  obtain ⟨answer⟩ := Ask.nonempty_answer request
  obtain ⟨final, hfinal⟩ := exists_of_ensures_spoiled (h answer .spoiled (.inr ⟨himproper, rfl⟩))
  exact hpost final hfinal

/-! ## units of work -/

/-- Where a unit of work asks for something that is no command of its transaction, nothing
happens. -/
theorem proper_of_isWithin {request : Ask β} (hwithin : request.IsWithin session β)
    (hsession : standing.session? = some session) : standing.Proper operation β request := by
  have hspoiled : standing ≠ .spoiled := by
    rintro rfl
    contradiction
  cases request with
  | begin => exact hwithin.elim
  | send used command =>
      cases used with
      | none => cases command <;> simp [Ask.IsWithin] at hwithin
      | some session' =>
          cases command with
          | commit => exact hwithin.elim
          | abort => exact hwithin.elim
          | _ =>
              obtain rfl := Option.some.inj hwithin
              exact hsession
  | _ => exact hspoiled

/-- On a server of its own, the command of a unit of work may be refused, too. -/
theorem faulted_refused {used : Option Session} {command : Command β}
    (hwithin : (Ask.send used command).IsWithin session _) (f : Failure) (s : State) :
    Faulted s ⟨.send used command, .error f⟩ s := by
  cases command with
  | commit => exact hwithin.elim
  | abort => exact hwithin.elim
  | _ => exact .inr ⟨rfl, f, rfl⟩

/-- It does there what it does to the view of a transaction. -/
theorem faulted_executed {command : Command β} {answer : Except Failure β} {s s' : State}
    (hwithin : (Ask.send (some session) command).IsWithin session _)
    (hexecute : execute (openFor session s) command = (s', answer)) :
    Faulted s ⟨.send (some session) command, answer⟩ s' := by
  cases command with
  | commit => exact hwithin.elim
  | abort => exact hwithin.elim
  | _ => exact .inl hexecute.symm

/-- What a unit of work may be answered: nothing happens, its transaction is undone, or a command
does what it does on a server of its own. -/
theorem Admits.within {request : Ask β} {answer : β} (hwithin : request.IsWithin session β)
    (h : Admits accepted unique standing ⟨request, answer⟩ standing') :
    (standing' = standing ∨ standing' = standing.abort) ∧
        (∀ s, Faulted s ⟨request, answer⟩ s) ∨
      ∃ snapshot view view', standing.Sees accepted session snapshot view ∧
        standing' = .active session snapshot view' ∧
        ∀ s, openFor session s = begun ⟨snapshot, unique, none⟩ session view →
          Faulted s ⟨request, answer⟩ (begun ⟨snapshot, unique, none⟩ session view') := by
  cases request with
  | begin => exact hwithin.elim
  | send used command =>
      have hcarried : (∃ snapshot view view', standing.Sees accepted session snapshot view ∧
            execute (begun ⟨snapshot, unique, none⟩ session view) command =
              (begun ⟨snapshot, unique, none⟩ session view', answer) ∧
            standing' = .active session snapshot view') ∨
          (∃ f, answer = .error f) ∧ (standing' = standing ∨ standing' = standing.abort) := by
        cases used with
        | none => cases command <;> simp [Ask.IsWithin] at hwithin
        | some session' =>
            cases command with
            | commit => exact hwithin.elim
            | abort => exact hwithin.elim
            | _ =>
                obtain rfl := Option.some.inj hwithin
                exact h
      obtain ⟨snapshot, view, view', hsees, hexecute, rfl⟩ | ⟨⟨f, rfl⟩, hsame⟩ := hcarried
      · have hused : used = some session := by
          cases command with
          | commit => exact hwithin.elim
          | abort => exact hwithin.elim
          | _ => exact hwithin
        subst hused
        exact .inr ⟨snapshot, view, view', hsees, rfl, fun s hopen =>
          faulted_executed hwithin (hopen ▸ hexecute)⟩
      · exact .inl ⟨hsame, faulted_refused hwithin f⟩
  | _ => exact .inl ⟨.inl h, fun s => rfl⟩

/-- A unit of work whose transaction is undone does nothing any more. -/
theorem ensures_of_gone {p : Program β} (hwithin : p.Asks (Ask.IsWithin session)) :
    p.Ensures (Alone accepted unique operation) (fun standing _ => standing = .gone session)
      (.gone session) := by
  induction p with
  | done answer => rfl
  | ask request next ih =>
      intro answer standing' halone
      have hadmits := halone.admits (proper_of_isWithin hwithin.1 rfl)
      obtain ⟨hsame, -⟩ | ⟨snapshot, view, view', hsees, -⟩ := hadmits.within hwithin.1
      · obtain rfl : standing' = .gone session := hsame.elim id id
        exact ih answer (hwithin.2 answer)
      · obtain hactive | ⟨hbegun, -⟩ := hsees <;> contradiction

/-- **A unit of work runs on its view as on a server of its own**, unless its transaction is
undone. -/
theorem ensures_of_active {p : Program β} {post : State → β → Prop}
    (hwithin : p.Asks (Ask.IsWithin session))
    (h : p.Ensures Faulted post (begun ⟨snapshot, unique, none⟩ session view)) :
    p.Ensures (Alone accepted unique operation)
      (fun standing result => standing = .gone session ∨
        ∃ view', standing = .active session snapshot view' ∧
          post (begun ⟨snapshot, unique, none⟩ session view') result)
      (.active session snapshot view) := by
  induction p generalizing view with
  | done answer => exact .inr ⟨view, rfl, h⟩
  | ask request next ih =>
      intro answer standing' halone
      have hadmits := halone.admits (proper_of_isWithin hwithin.1 rfl)
      obtain ⟨rfl | rfl, hfaulted⟩ | ⟨snapshot', view₀, view', hsees, rfl, hfaulted⟩ :=
        hadmits.within hwithin.1
      · exact ih answer (hwithin.2 answer) (h answer _ (hfaulted _))
      · exact (ensures_of_gone (hwithin.2 answer)).imp fun _ _ hgone => .inl hgone
      · obtain hactive | ⟨hbegun, -⟩ := hsees
        · obtain ⟨-, rfl, rfl⟩ := Standing.active.inj hactive
          exact ih answer (hwithin.2 answer) (h answer _ (hfaulted _ (by simp [openFor, begun])))
        · contradiction

/-- **A unit of work runs as it does alone**, on whatever accepted state its first command finds. -/
theorem ensures_of_begun {p : Program β} {post : Records → State → β → Prop}
    (hwithin : p.Asks (Ask.IsWithin session))
    (h : ∀ snapshot, accepted snapshot →
      p.Ensures Faulted (post snapshot) ⟨snapshot, unique, none⟩) :
    p.Ensures (Alone accepted unique operation)
      (fun standing result => standing = .gone session ∨
        (standing = .begun session ∧
          ∀ snapshot, accepted snapshot → post snapshot ⟨snapshot, unique, none⟩ result) ∨
        ∃ snapshot view, accepted snapshot ∧ standing = .active session snapshot view ∧
          post snapshot (begun ⟨snapshot, unique, none⟩ session view) result)
      (.begun session) := by
  induction p with
  | done answer => exact .inr (.inl ⟨rfl, h⟩)
  | ask request next ih =>
      intro answer standing' halone
      have hadmits := halone.admits (proper_of_isWithin hwithin.1 rfl)
      obtain ⟨rfl | rfl, hfaulted⟩ | ⟨snapshot, view₀, view, hsees, rfl, hfaulted⟩ :=
        hadmits.within hwithin.1
      · exact ih answer (hwithin.2 answer) fun snapshot haccepted =>
          h snapshot haccepted answer _ (hfaulted _)
      · exact (ensures_of_gone (hwithin.2 answer)).imp fun _ _ hgone => .inl hgone
      · obtain hactive | ⟨-, haccepted, rfl⟩ := hsees
        · contradiction
        · have hnext := h view₀ haccepted answer _ (hfaulted ⟨view₀, unique, none⟩ rfl)
          refine (ensures_of_active (hwithin.2 answer) hnext).imp ?_
          rintro standing result (hgone | ⟨view', rfl, hpost⟩)
          · exact .inl hgone
          · exact .inr (.inr ⟨view₀, view', haccepted, rfl, hpost⟩)

/-! ## commits -/

/-- A transaction of which the client has not heard that it is applied. -/
def Standing.Unheard (session : Session) (snapshot view : Records) (standing : Standing) : Prop :=
  standing = .active session snapshot view ∨ standing = .applied session snapshot view false ∨
    standing = .gone session

/-- What the last answer to a commit says. -/
def Standing.Settled (session : Session) (snapshot view : Records) (standing : Standing) :
    Except Failure Unit → Prop
  | .ok () => standing = .applied session snapshot view true
  | .error f =>
    standing.Unheard session snapshot view ∧ (f.InDoubt ∨ standing = .gone session)

theorem send_commit_alone (hdone : ∃ value, Done operation snapshot view value)
    (hunheard : standing.Unheard session snapshot view) :
    (Program.asking (.send (some session) .commit)).Ensures (Alone accepted unique operation)
      (Standing.Settled session snapshot view) standing := by
  refine Program.ensures_asking fun answer standing' halone => ?_
  obtain rfl | rfl | rfl := hunheard
  · obtain ⟨status, hcommits, rfl⟩ := halone.admits ⟨rfl, hdone⟩
    cases hcommits with
    | applied => rfl
    | unheard hdoubt => exact ⟨.inr (.inl rfl), .inl hdoubt⟩
    | undecided hdoubt => exact ⟨.inl rfl, .inl hdoubt⟩
    | refused => exact ⟨.inr (.inr rfl), .inr rfl⟩
  · obtain ⟨status, hcommits, rfl⟩ := halone.admits ⟨rfl, trivial⟩
    cases hcommits with
    | again => rfl
    | stillUnheard hdoubt => exact ⟨.inr (.inl rfl), .inl hdoubt⟩
  · obtain ⟨status, hcommits, rfl⟩ := halone.admits ⟨rfl, trivial⟩
    cases hcommits with
    | lost => exact ⟨.inr (.inr rfl), .inr rfl⟩

/-- However often a commit is sent, its last answer says what became of the transaction. -/
theorem commit_alone (hdone : ∃ value, Done operation snapshot view value) (left : Nat)
    (hunheard : standing.Unheard session snapshot view) :
    (commit session left).Ensures (Alone accepted unique operation)
      (Standing.Settled session snapshot view) standing := by
  induction left generalizing standing with
  | zero => exact send_commit_alone hdone hunheard
  | succ left ih =>
      refine Program.ensures_bind ((send_commit_alone hdone hunheard).imp ?_)
      rintro standing' (f | answer) hsettled
      · dsimp only
        split
        · exact ih hsettled.1
        · exact hsettled
      · exact hsettled

/-- A transaction that is undone is not committed. -/
theorem commit_gone (left : Nat) :
    (commit session left).Ensures (Alone accepted unique operation)
      (fun standing answer => standing = .gone session ∧ ∃ f, answer = .error f)
      (.gone session) := by
  have hsend : (Program.asking (.send (some session) .commit)).Ensures
      (Alone accepted unique operation)
      (fun standing answer => standing = .gone session ∧ ∃ f, answer = .error f)
      (.gone session) := by
    refine Program.ensures_asking fun answer standing' halone => ?_
    obtain ⟨status, hcommits, rfl⟩ := halone.admits ⟨rfl, trivial⟩
    cases hcommits with
    | lost => exact ⟨rfl, _, rfl⟩
  induction left with
  | zero => exact hsend
  | succ left ih =>
      refine Program.ensures_bind (hsend.imp ?_)
      rintro standing' answer ⟨rfl, f, rfl⟩
      dsimp only
      split
      · exact ih
      · exact ⟨rfl, f, rfl⟩

/-! ## attempts -/

/-- How an attempt may end: applied as answered, or not heard to be applied; and after a conflict
nothing is applied, so that the work may be run again. -/
def Standing.Attempted (operation : Operation α) (standing : Standing) :
    Except StoreError α → Prop
  | .ok value => ∃ session snapshot view, standing = .applied session snapshot view true ∧
      Done operation snapshot view value
  | .error e => standing.Clear ∨ (∀ detail, e ≠ .writeConflict detail) ∧
      ∃ session snapshot view, standing.Unheard session snapshot view

section Attempts

variable {policy : RetryPolicy} {result : Except StoreError α}

theorem finish_ok_alone {value : α} (hdone : Done operation snapshot view value)
    (hunheard : standing.Unheard session snapshot view) :
    (finish policy session (.ok value)).Ensures (Alone accepted unique operation)
      (Standing.Attempted operation) standing := by
  refine Program.ensures_bind ((commit_alone ⟨value, hdone⟩ _ hunheard).imp ?_)
  rintro standing' (f | answer) hsettled
  · obtain ⟨hunheard', hdoubt | rfl⟩ := hsettled
    · refine .inr ⟨fun detail => ?_, session, snapshot, view, hunheard'⟩
      rw [hdoubt.toStoreError]
      exact StoreError.noConfusion
    · exact .inl trivial
  · exact ⟨session, snapshot, view, hsettled, hdone⟩

theorem finish_error_alone {e : StoreError} (hsession : standing.session? = some session)
    (hopened : standing.status ≠ .applied) :
    (finish policy session (.error e)).Ensures (Alone accepted unique operation)
      (Standing.Attempted operation) standing := by
  refine Program.ensures_bind (Program.ensures_asking fun answer standing' halone => ?_)
  obtain rfl : standing' = standing.abort := halone.admits hsession
  refine .inl ?_
  cases standing with
  | begun | active | gone => trivial
  | applied => exact absurd rfl hopened
  | idle | spoiled => contradiction

theorem finish_gone (hsession : standing = .gone session) :
    (finish policy session result).Ensures (Alone accepted unique operation)
      (Standing.Attempted operation) standing := by
  subst hsession
  cases result with
  | error e => exact finish_error_alone rfl (by simp [Standing.status])
  | ok value =>
      refine Program.ensures_bind ((commit_gone _).imp ?_)
      rintro standing answer ⟨rfl, f, rfl⟩
      exact .inl trivial

variable {work : Session → Script α}

/-- What is known of a unit of work: whatever accepted state it begins with, it does what its
operation should do, or fails. -/
def Performs (accepted : Records → Prop) (unique : Keyed String (List (List String)))
    (operation : Operation α) (work : Session → Script α) : Prop :=
  ∀ session, (work session).run.Asks (Ask.IsWithin session) ∧
    ∀ snapshot, accepted snapshot →
      (work session).Ensures Faulted
        (Pending ⟨snapshot, unique, none⟩ session (Done operation snapshot))
        ⟨snapshot, unique, none⟩

theorem once_alone (hexists : ∃ records, accepted records)
    (hwork : Performs accepted unique operation work) (hclear : standing.Clear) :
    (once policy work).Ensures (Alone accepted unique operation) (Standing.Attempted operation)
      standing := by
  refine Program.ensures_bind (Program.ensures_asking fun answer standing' halone => ?_)
  cases answer with
  | error f =>
      obtain rfl : standing' = standing := halone.admits hclear
      exact .inl hclear
  | ok session =>
      obtain rfl : standing' = .begun session := halone.admits hclear
      refine Program.ensures_bind ((ensures_of_begun (hwork session).1 (hwork session).2).imp ?_)
      rintro standing result (rfl | ⟨rfl, hpending⟩ | ⟨snapshot, view, -, rfl, hpending⟩)
      · exact finish_gone rfl
      · cases result with
        | error e => exact finish_error_alone rfl (by simp [Standing.status])
        | ok value =>
            -- It cannot have succeeded without a command.
            obtain ⟨records, haccepted⟩ := hexists
            obtain ⟨_, hbegun, -⟩ := hpending records haccepted
            simp [begun] at hbegun
      · cases result with
        | error e => exact finish_error_alone rfl (by simp [Standing.status])
        | ok value =>
            obtain ⟨records, hbegun, hdone⟩ := hpending
            obtain rfl : view = records := congrArg State.records hbegun
            exact finish_ok_alone hdone (.inl rfl)

/-- **A call may run its work again only while nothing of it is applied.** -/
theorem inTransaction_alone (hexists : ∃ records, accepted records)
    (hwork : Performs accepted unique operation work) (scope : Scope) (hclear : standing.Clear) :
    Script.Ensures (Alone accepted unique operation) (Standing.Attempted operation)
      (inTransaction policy scope work) standing := by
  refine ensures_attemptFrom Standing.Clear (fun s => once_alone hexists hwork) ?_ ?_ ?_ _ _ hclear
  · rintro standing detail (hclear | ⟨hconflict, -⟩)
    · exact hclear
    · exact absurd rfl (hconflict detail)
  · intro standing length standing' hclear halone
    have hspoiled : standing ≠ .spoiled := by
      rintro rfl
      exact hclear
    obtain rfl : standing' = standing := halone.admits hspoiled
    exact hclear
  · exact fun standing attempt hclear => .inl hclear

end Attempts

/-! ## the three operations -/

section Operations

variable {policy : RetryPolicy} {start : Records}

/-- States that a serial history may lead to, as far as one call needs to know: sound records, with
the applications that were there at the start. -/
structure Descends (start records : Records) : Prop where
  sound : Sound records
  ids : Identified records
  kept : (accounts records).Perm (accounts start)

/-- An application of the start is still there. -/
theorem Descends.exists_application {records : Records} (h : Descends start records)
    {row : ApplicationRow} (hrow : (row.id, row.token) ∈ accounts start) :
    ∃ application, HasApplication records application ∧ application.id = row.id ∧
      application.token = row.token := by
  obtain ⟨application, hmem, heq⟩ := List.mem_map.mp (h.kept.mem_iff.mpr hrow)
  obtain ⟨record, hrecord, hholds⟩ :=
    exists_of_mem_rows h.sound.applications ApplicationRow.ofRecord?_of_holds hmem
  exact ⟨application, ⟨record, hrecord, hholds⟩, (Prod.mk.inj heq).1, (Prod.mk.inj heq).2⟩

theorem Descends.mem_accounts {records : Records} (h : Descends start records)
    {row : ApplicationRow} (hrow : HasApplication records row) :
    (row.id, row.token) ∈ accounts start := by
  obtain ⟨record, hrecord, hholds⟩ := hrow
  refine h.kept.mem_iff.mp (List.mem_map.mpr ⟨row, ?_, rfl⟩)
  exact List.mem_filterMap.mpr ⟨record, hrecord, ApplicationRow.ofRecord?_of_holds hholds⟩

/-- Looking for an application finds one of the start. -/
theorem applicationRow_alone (token : String) (hspoiled : standing ≠ .spoiled) :
    (applicationRow token).Ensures (Alone (Descends start) unique operation)
      (fun standing' result => standing' = standing ∧
        ∀ row, result = .ok row → (row.id, row.token) ∈ accounts start ∧ row.token = token)
      standing := by
  refine Script.ensures_bind (Script.ensures_send fun answer standing' halone => ?_)
  obtain ⟨rfl, ⟨records, hrecords, rfl⟩ | ⟨f, rfl⟩⟩ := halone.admits ⟨trivial, hspoiled⟩
  · refine Script.ensures_ofExcept ⟨rfl, fun row hrow => ?_⟩
    -- The same answer is one that a server of one client may give.
    have hstored : Stored (State.mk records unique none).records := hrecords.sound.toStored
    obtain ⟨-, hfound⟩ := applicationRow_atomic hstored token _ _ (.inl rfl)
    obtain ⟨happlication, htoken⟩ := hfound row hrow
    exact ⟨hrecords.mem_accounts happlication, htoken⟩
  · exact ⟨rfl, by simp⟩

theorem insertChat_performs (token : String) :
    Performs (Descends start) unique (.createChat token) (insertChat token) := fun session =>
  ⟨UnitOf.createChat.within session, fun _ h =>
    insertChat_pending h.sound.toStored rfl token session⟩

theorem removeChat_performs {row : ApplicationRow} (hrow : (row.id, row.token) ∈ accounts start)
    (number : Int) :
    Performs (Descends start) unique (.deleteChat row.token number)
      (removeChat row.id row.token number) := by
  intro session
  have hunit : UnitOf (.deleteChat row.token number) _ := .deleteChat row.id
  refine ⟨hunit.within session, fun snapshot h => ?_⟩
  obtain ⟨application, happlication, hid, htoken⟩ := h.exists_application hrow
  rw [← hid, ← htoken]
  exact removeChat_pending h.sound.toStored rfl happlication number session

theorem insertMessage_performs {row : ApplicationRow}
    (hrow : (row.id, row.token) ∈ accounts start) (number : Int) {body : Option String}
    {text : String} (hbody : Store.validateBody body = .ok text) :
    Performs (Descends start) unique (.createMessage row.token number body)
      (insertMessage row.id row.token number text) := by
  intro session
  have hunit : UnitOf (.createMessage row.token number body) _ := .createMessage row.id hbody
  refine ⟨hunit.within session, fun snapshot h => ?_⟩
  obtain ⟨application, happlication, hid, htoken⟩ := h.exists_application hrow
  rw [← hid, ← htoken]
  exact insertMessage_pending h.sound.toStored rfl happlication hbody number session

/-- How a call may end: it answers what was committed, or has not heard that anything was. -/
def Standing.Concluded (operation : Operation α) (standing : Standing) : Answer α → Prop
  | .ok value => ∃ session snapshot view, standing = .applied session snapshot view true ∧
      Done operation snapshot view value
  | .error _ => standing ≠ .spoiled ∧
      ∀ session snapshot view, standing ≠ .applied session snapshot view true

theorem Standing.Attempted.concluded {answer : Answer α}
    (h : standing.Attempted operation answer) : standing.Concluded operation answer := by
  cases answer with
  | ok value => exact h
  | error e =>
      obtain hclear | ⟨-, session, snapshot, view, rfl | rfl | rfl⟩ := h
      · cases standing with
        | idle | gone => simp [Standing.Concluded]
        | begun | active | applied | spoiled => exact hclear.elim
      · simp [Standing.Concluded]
      · simp [Standing.Concluded]
      · simp [Standing.Concluded]

/-- **What one call does among others**, whatever the server answers: it asks only for what it may
ask for, and commits what its operation should do. -/
theorem program_alone (hstart : Descends start start) (hunit : runsUnit operation = true) :
    (program policy operation).Ensures (Alone (Descends start) unique operation)
      (Standing.Concluded operation) .idle := by
  have hexists : ∃ records, Descends start records := ⟨start, hstart⟩
  refine Program.Ensures.imp ?_ fun standing answer => Standing.Attempted.concluded
  cases operation with
  | createChat token => exact inTransaction_alone hexists (insertChat_performs token) _ trivial
  | deleteChat token number =>
      refine Script.ensures_bind ((applicationRow_alone token (by simp)).imp ?_)
      rintro standing (e | row) ⟨rfl, hfound⟩
      · exact .inl trivial
      · obtain ⟨hrow, rfl⟩ := hfound row rfl
        exact inTransaction_alone hexists (removeChat_performs hrow number) _ trivial
  | createMessage token number body =>
      refine Script.ensures_bind (Script.ensures_ofExcept ?_)
      cases hbody : Store.validateBody body with
      | error e => exact .inl trivial
      | ok text =>
          refine Script.ensures_bind ((applicationRow_alone token (by simp)).imp ?_)
          rintro standing (e | row) ⟨rfl, hfound⟩
          · exact .inl trivial
          · obtain ⟨hrow, rfl⟩ := hfound row rfl
            exact inTransaction_alone hexists (insertMessage_performs hrow number hbody) _ trivial
  | _ => contradiction

end Operations

end ChatService.Database.Concurrent
