import ChatService.Proofs.Database.Isolation

/-!
# Concurrent calls are a serial history

Each call keeps its standing, which its program was proved to end well from, and the server keeps a
serial history of what was committed.  One lemma says what a step of one call needs to leave for
both to stay right; the steps themselves are the answers that the server may give.
-/

namespace ChatService.Database.Concurrent

open Server (Records recordsOf execute)
open Store (Operation Answer RetryPolicy Scope)

/-! ## what a call has handed out -/

/-- The number that a unit of work leaves in the records. -/
def handedIn : {α : Type} → Operation α → Records → Option (Scope × Int)
  | _, .createChat token, records =>
    ((recordsOf chats records).getLast?.bind ChatRow.ofRecord?).map fun row =>
      (.application token, row.number)
  | _, .createMessage token number _, records =>
    ((recordsOf messages records).getLast?.bind MessageRow.ofRecord?).map fun row =>
      (.chat token number, row.number)
  | _, _, _ => none

theorem handedIn_of_done {α : Type} {operation : Operation α} {records records' : Records}
    {value : α} (hdone : Done operation records records' value)
    (hunit : runsUnit operation = true) :
    handedIn operation records' = Store.numberOf operation value := by
  cases hdone with
  | look hlooks => cases operation <;> contradiction
  | createApplication => contradiction
  | createChat _ _ _ _ _ hadded =>
      simp [handedIn, hadded, ChatRow.ofRecord?_of_holds (ChatRow.holds_toRecord _),
        Store.numberOf, newChatRow, ChatRow.toModel]
  | createMessage _ _ _ _ _ _ _ _ hadded =>
      simp [handedIn, hadded, MessageRow.ofRecord?_of_holds (MessageRow.holds_toRecord _),
        Store.numberOf, newMessageRow, MessageRow.toModel]
  | deleteChat => rfl

namespace Standing

/-- The number that a call has handed out, heard or not. -/
def given {α : Type} (operation : Operation α) : Standing → Option (Scope × Int)
  | .applied _ _ view _ => handedIn operation view
  | _ => none

/-- A transaction is applied, and the call does not know. -/
def unheard : Standing → Bool
  | .applied _ _ _ heard => !heard
  | _ => false

/-- The server has the transaction of a call as the call has it. -/
def Matches (s : Shared) : Standing → Prop
  | .idle => True
  | .begun session => s.phase session = .begun
  | .active session snapshot view =>
    ∃ t, s.phase session = .active t ∧ t.snapshot = snapshot ∧ t.view = view
  | .applied session _ _ _ => s.phase session = .applied
  | .gone session => s.phase session = .gone
  | .spoiled => False

variable {s s' : Shared} {standing : Standing} {session : Session}

theorem Matches.phase_ne_unused (h : standing.Matches s)
    (hsession : standing.session? = some session) : s.phase session ≠ .unused := by
  cases standing with
  | idle | spoiled => contradiction
  | begun | applied | gone =>
      obtain rfl := Option.some.inj hsession
      rw [show s.phase _ = _ from h]
      exact Phase.noConfusion
  | active =>
      obtain rfl := Option.some.inj hsession
      obtain ⟨t, ht, -⟩ := h
      rw [ht]
      exact Phase.noConfusion

/-- A call does not see that its documents are overtaken. -/
theorem Matches.of_phase (h : standing.Matches s)
    (hphase : ∀ session, standing.session? = some session →
      s'.phase session = s.phase session ∨
        ∃ written, s'.phase session = (s.phase session).overtake written) :
    standing.Matches s' := by
  cases standing with
  | idle => trivial
  | spoiled => exact h
  | begun | applied | gone =>
      have h : s.phase _ = _ := h
      obtain heq | ⟨written, heq⟩ := hphase _ rfl <;> rw [h] at heq <;> exact heq
  | active =>
      obtain ⟨t, ht, rfl, rfl⟩ := h
      obtain heq | ⟨written, heq⟩ := hphase _ rfl <;> rw [ht] at heq <;> exact ⟨_, heq, rfl, rfl⟩

end Standing

/-! ## the invariant -/

/-- A call with its standing. -/
structure Caller : Type 1 where
  call : Running
  standing : Standing

/-- The number that a call has handed out within a parent. -/
def numberGiven (scope : Scope) (caller : Caller) : Option Int :=
  (caller.standing.given caller.call.operation).bind (within scope)

/-- A call will end well, whatever it is answered. -/
def Caller.Ensured (start : Records) (unique : Keyed String (List (List String)))
    (caller : Caller) : Prop :=
  runsUnit caller.call.operation = true ∧
    caller.call.rest.Ensures (Alone (Descends start) unique caller.call.operation)
      (Standing.Concluded caller.call.operation) caller.standing

structure Inv (start : Records) (unique : Keyed String (List (List String))) (s : Shared)
    (callers : List Caller) : Prop where
  sane : Sane start s
  serial : ∃ effects, Serial start effects s.records ∧
    ∀ scope, (numbersWithin scope effects).Perm (callers.filterMap (numberGiven scope))
  placed : ∀ caller ∈ callers, caller.standing.Matches s
  sessions : (callers.filterMap (·.standing.session?)).Nodup
  ensured : ∀ caller ∈ callers, caller.Ensured start unique
  doubts : callers.countP (·.standing.unheard) ≤ s.doubts

theorem perm_filterMap_middle {ρ : Type*} {κ : Type} (f : ρ → Option κ) (before after : List ρ)
    (x : ρ) : ((before ++ x :: after).filterMap f).Perm
      ((f x).toList ++ (before ++ after).filterMap f) := by
  refine (List.perm_middle.filterMap f).trans (.of_eq ?_)
  cases h : f x <;> simp [h]

section Move

variable {start : Records} {unique : Keyed String (List (List String))} {s s' : Shared}
  {before after : List Caller} {α : Type} {operation : Operation α}
  {rest rest' : Program (Answer α)} {standing standing' : Standing}

/-- What one step of a call does to the committed records: nothing, or one unit of work. -/
def Contributes (operation : Operation α) (s s' : Shared) (standing standing' : Standing) : Prop :=
  s'.records = s.records ∧ standing'.given operation = standing.given operation ∨
    standing.given operation = none ∧ ∃ records value, Done operation s.records records value ∧
      Alike records s'.records ∧ standing'.given operation = Store.numberOf operation value

variable (h : Inv start unique s (before ++ ⟨⟨operation, rest⟩, standing⟩ :: after))
include h

/-- A call keeps its session or is given one that nobody has had. -/
theorem Inv.nodup_sessions
    (hsession : standing'.session? = standing.session? ∨
      ∃ session, standing'.session? = some session ∧ s.phase session = .unused) :
    (standing'.session?.toList ++ (before ++ after).filterMap (·.standing.session?)).Nodup := by
  have hold := (perm_filterMap_middle (·.standing.session?) before after _).nodup_iff.mp h.sessions
  obtain hsame | ⟨session, hnew, hunused⟩ := hsession
  · rw [hsame]
    exact hold
  · rw [hnew]
    refine List.nodup_cons.mpr ⟨fun hmem => ?_, hold.of_append_right⟩
    obtain ⟨other, hother, hused⟩ := List.mem_filterMap.mp hmem
    have hplaced := h.placed other (List.perm_middle.mem_iff.mpr (List.mem_cons_of_mem _ hother))
    exact hplaced.phase_ne_unused hused hunused

/-- The numbers that are handed out are those of the units of work that are committed. -/
theorem Inv.serial_move (rest' : Program (Answer α))
    (hcommits : Contributes operation s s' standing standing') :
    ∃ effects, Serial start effects s'.records ∧ ∀ scope, (numbersWithin scope effects).Perm
      ((before ++ ⟨⟨operation, rest'⟩, standing'⟩ :: after).filterMap (numberGiven scope)) := by
  have hunit := (h.ensured ⟨⟨operation, rest⟩, standing⟩ (by simp)).1
  obtain ⟨effects, hserial, hnumbers⟩ := h.serial
  have hold (scope : Scope) := (hnumbers scope).trans (perm_filterMap_middle _ before after _)
  have hnew (scope : Scope) := perm_filterMap_middle (numberGiven scope) before after
    ⟨⟨operation, rest'⟩, standing'⟩
  obtain ⟨hrecords, hgiven⟩ | ⟨hnone, records, value, hdone, halike, hgiven⟩ := hcommits
  · refine ⟨effects, hrecords ▸ hserial,
      fun scope => (hold scope).trans ((hnew scope).trans ?_).symm⟩
    simp only [numberGiven, hgiven]
    exact .refl _
  · refine ⟨_, hserial.snoc hunit hdone halike, fun scope => ?_⟩
    rw [numbersWithin_snoc]
    refine (((hold scope).append_right _).trans List.perm_append_comm).trans
      ((hnew scope).trans ?_).symm
    simp only [numberGiven, hgiven, hnone]
    exact .refl _

/-- **One call moves on.**  The others do not notice. -/
theorem Inv.move (hsane : Sane start s')
    (hothers : ∀ other, standing'.session? ≠ some other →
      s'.phase other = s.phase other ∨
        ∃ written, s'.phase other = (s.phase other).overtake written)
    (hplaced : standing'.Matches s')
    (hsession : standing'.session? = standing.session? ∨
      ∃ session, standing'.session? = some session ∧ s.phase session = .unused)
    (hcommits : Contributes operation s s' standing standing')
    (hdoubts : standing'.unheard.toNat + s.doubts ≤ standing.unheard.toNat + s'.doubts)
    (hensured : rest'.Ensures (Alone (Descends start) unique operation)
      (Standing.Concluded operation) standing') :
    Inv start unique s' (before ++ ⟨⟨operation, rest'⟩, standing'⟩ :: after) := by
  have hkept : ∀ other ∈ before ++ after,
      other ∈ before ++ ⟨⟨operation, rest⟩, standing⟩ :: after :=
    fun other hother => List.perm_middle.mem_iff.mpr (List.mem_cons_of_mem _ hother)
  have hcases : ∀ other ∈ before ++ ⟨⟨operation, rest'⟩, standing'⟩ :: after,
      other = ⟨⟨operation, rest'⟩, standing'⟩ ∨ other ∈ before ++ after :=
    fun other hother => List.mem_cons.mp (List.perm_middle.mem_iff.mp hother)
  have hsessions := h.nodup_sessions hsession
  constructor
  case sane => exact hsane
  case serial => exact h.serial_move rest' hcommits
  case placed =>
    intro other hother
    obtain rfl | hother := hcases other hother
    · exact hplaced
    · refine (h.placed other (hkept other hother)).of_phase fun session hused => hothers session ?_
      intro hsame
      rw [hsame] at hsessions
      exact (List.nodup_cons.mp hsessions).1 (List.mem_filterMap.mpr ⟨other, hother, hused⟩)
  case sessions =>
    exact (perm_filterMap_middle (·.standing.session?) before after
      ⟨⟨operation, rest'⟩, standing'⟩).nodup_iff.mpr hsessions
  case ensured =>
    intro other hother
    obtain rfl | hother := hcases other hother
    · exact ⟨(h.ensured ⟨⟨operation, rest⟩, standing⟩ (by simp)).1, hensured⟩
    · exact h.ensured other (hkept other hother)
  case doubts =>
    have hold := h.doubts
    have hcount : ∀ b : Bool, (if b = true then 1 else 0) = b.toNat := by decide
    simp only [List.countP_append, List.countP_cons, hcount] at hold ⊢
    omega

end Move

/-! ## the steps of a call -/

section Steps

variable {start : Records} {unique : Keyed String (List (List String))} {s s' : Shared} {α β : Type}
  {operation : Operation α} {standing : Standing} {session : Session}

/-- What the step of a call leaves right, with its own standing after it. -/
structure Stepped (start : Records) (unique : Keyed String (List (List String)))
    (operation : Operation α) (s s' : Shared) (standing : Standing) (exchange : Exchange)
    (standing' : Standing) : Prop where
  admits : Admits (Descends start) unique standing exchange standing'
  sane : Sane start s'
  others : ∀ other, standing'.session? ≠ some other →
    s'.phase other = s.phase other ∨
      ∃ written, s'.phase other = (s.phase other).overtake written
  placed : standing'.Matches s'
  session : standing'.session? = standing.session? ∨
    ∃ session, standing'.session? = some session ∧ s.phase session = .unused
  commits : Contributes operation s s' standing standing'
  doubts : standing'.unheard.toNat + s.doubts ≤ standing.unheard.toNat + s'.doubts

/-- Nothing happens. -/
theorem Stepped.still {exchange : Exchange} (hsane : Sane start s) (hplaced : standing.Matches s)
    (hadmits : Admits (Descends start) unique standing exchange standing) :
    Stepped start unique operation s s standing exchange standing where
  admits := hadmits
  sane := hsane
  others _ _ := .inl rfl
  placed := hplaced
  session := .inl rfl
  commits := .inl ⟨rfl, rfl⟩
  doubts := Nat.le_refl _

/-- Only the session of the call changes, and nothing is committed. -/
theorem Stepped.own {exchange : Exchange} {standing' : Standing}
    (hsession : standing.session? = some session) (hsession' : standing'.session? = some session)
    (hrecords : s'.records = s.records) (hphase : ∀ other ≠ session, s'.phase other = s.phase other)
    (hsane : Sane start s') (hplaced : standing'.Matches s')
    (hgiven : standing'.given operation = standing.given operation)
    (hdoubts : standing'.unheard.toNat + s.doubts ≤ standing.unheard.toNat + s'.doubts)
    (hadmits : Admits (Descends start) unique standing exchange standing') :
    Stepped start unique operation s s' standing exchange standing' where
  admits := hadmits
  sane := hsane
  others other hother :=
    .inl (hphase other fun hsame => hother (hsession'.trans (congrArg some hsame.symm)))
  placed := hplaced
  session := .inl (hsession'.trans hsession.symm)
  commits := .inl ⟨hrecords, hgiven⟩
  doubts := hdoubts

theorem Phase.abort_ne_active (phase : Phase) (t : Open) : phase.abort ≠ .active t := by
  cases phase <;> exact Phase.noConfusion

/-- The transaction of the call is undone, unless it is applied. -/
theorem Stepped.abort {exchange : Exchange} (hsane : Sane start s) (hplaced : standing.Matches s)
    (hsession : standing.session? = some session)
    (hadmits : Admits (Descends start) unique standing exchange standing.abort) :
    Stepped start unique operation s (s.set session (s.phase session).abort) standing exchange
      standing.abort := by
  refine .own hsession ?_ rfl (fun other hne => set_phase_of_ne _ _ hne)
    (hsane.set_inactive _ (Phase.abort_ne_active _)) ?_ ?_ ?_ hadmits
  case refine_1 => cases standing <;> exact hsession
  case refine_2 =>
    cases standing with
    | idle | spoiled => contradiction
    | begun | applied | gone =>
        obtain rfl := Option.some.inj hsession
        have hphase : s.phase _ = _ := hplaced
        simp [Standing.abort, Standing.Matches, hphase, Phase.abort]
    | active =>
        obtain rfl := Option.some.inj hsession
        obtain ⟨t, ht, -⟩ := hplaced
        simp [Standing.abort, Standing.Matches, ht, Phase.abort]
  case refine_3 => cases standing <;> rfl
  case refine_4 => cases standing <;> exact Nat.le_refl _

/-- A call whose transaction carries out commands sees it. -/
theorem Standing.Matches.sees (hplaced : standing.Matches s) (hs : Descends start s.records)
    (hsession : standing.session? = some session) {t : Open}
    (ht : s.transaction? session = some t) :
    standing.Sees (Descends start) session t.snapshot t.view := by
  unfold Shared.transaction? at ht
  cases standing with
  | idle | spoiled => contradiction
  | begun =>
      obtain rfl := Option.some.inj hsession
      rw [show s.phase _ = _ from hplaced] at ht
      obtain rfl := Option.some.inj ht
      exact .inr ⟨rfl, hs, rfl⟩
  | active =>
      obtain rfl := Option.some.inj hsession
      obtain ⟨t', ht', rfl, rfl⟩ := hplaced
      rw [ht'] at ht
      obtain rfl := Option.some.inj ht
      exact .inl rfl
  | applied | gone =>
      obtain rfl := Option.some.inj hsession
      rw [show s.phase _ = _ from hplaced] at ht
      contradiction

theorem Standing.Sees.nothing {snapshot view : Records}
    (h : standing.Sees (Descends start) session snapshot view) (operation : Operation α) :
    standing.given operation = none ∧ standing.unheard = false ∧
      standing.abort = .gone session := by
  obtain rfl | ⟨rfl, -⟩ := h <;> exact ⟨rfl, rfl, rfl⟩

/-- A command within a transaction. -/
theorem Carries.stepped {command : Command β} {answer : Except Failure β}
    (h : Carries unique s session command answer s') (hends : command.ends = false)
    (hsane : Sane start s) (hplaced : standing.Matches s)
    (hsession : standing.session? = some session) :
    ∃ standing', Stepped start unique operation s s' standing ⟨.send (some session) command, answer⟩
      standing' := by
  have hadmits : ∀ standing',
      ((∃ snapshot view view', standing.Sees (Descends start) session snapshot view ∧
          execute (begun ⟨snapshot, unique, none⟩ session view) command =
            (begun ⟨snapshot, unique, none⟩ session view', answer) ∧
          standing' = .active session snapshot view') ∨
        (∃ f, answer = .error f) ∧ (standing' = standing ∨ standing' = standing.abort)) →
      Admits (Descends start) unique standing ⟨.send (some session) command, answer⟩ standing' := by
    intro standing' h
    cases command with
    | commit | abort => contradiction
    | _ => exact h
  cases h with
  | @done t view _ ht hexecutes hfree =>
      have hsees := hplaced.sees hsane.descends hsession ht
      obtain ⟨hgiven, hunheard, -⟩ := hsees.nothing operation
      refine ⟨.active session t.snapshot view, .own hsession rfl rfl
        (fun other hne => set_phase_of_ne _ _ hne) (hsane.carried ht hfree)
        ⟨_, set_phase_self .., rfl, rfl⟩ hgiven.symm (by rw [hunheard]; exact Nat.le_refl _) ?_⟩
      exact hadmits _ (.inl ⟨t.snapshot, t.view, view, hsees, hexecutes, rfl⟩)
  | conflict hconflict htransient =>
      obtain ⟨t, -, -, ht, -⟩ := hconflict
      have hsees := hplaced.sees hsane.descends hsession ht
      have hphase : (s.phase session).abort = .gone := by
        unfold Shared.transaction? at ht
        cases hphase : s.phase session <;> simp [hphase, Phase.abort] at ht ⊢
      have hstepped : Stepped start unique operation s _ standing _ _ :=
        .abort hsane hplaced hsession (hadmits _ (.inr ⟨⟨_, rfl⟩, .inr rfl⟩))
      rw [hphase] at hstepped
      exact ⟨_, hstepped⟩
  | refused hfree hphase =>
      obtain rfl | rfl := hphase
      · rw [set_phase]
        exact ⟨standing, .still hsane hplaced (hadmits _ (.inr ⟨⟨_, rfl⟩, .inl rfl⟩))⟩
      · exact ⟨_, .abort hsane hplaced hsession (hadmits _ (.inr ⟨⟨_, rfl⟩, .inr rfl⟩))⟩

theorem doubts_le_noted (s : Shared) (answer : Except Failure Unit) :
    s.doubts ≤ (s.noted answer).doubts := by
  unfold Shared.noted
  split
  · exact Nat.le_refl _
  · split
    · exact Nat.le_succ _
    · exact Nat.le_refl _

theorem Standing.Matches.status (hplaced : standing.Matches s)
    (hsession : standing.session? = some session) : (s.phase session).status = standing.status := by
  cases standing with
  | idle | spoiled => contradiction
  | begun | applied | gone =>
      obtain rfl := Option.some.inj hsession
      rw [show s.phase _ = _ from hplaced]
      rfl
  | active =>
      obtain rfl := Option.some.inj hsession
      obtain ⟨t, ht, -⟩ := hplaced
      rw [ht]
      rfl

/-- A transaction is applied, whether or not the call gets to know. -/
theorem Stepped.apply {answer : Except Failure Unit} {records : Records} {t : Open}
    (hsane : Sane start s) (hunit : runsUnit operation = true)
    (hphase : s.phase session = .active t) (hmay : ∃ value, Done operation t.snapshot t.view value)
    (hcommits : Commits .opened answer .applied) (hmerged : t.Merged s.records records) :
    Stepped start unique operation s ((s.publish session t records).noted answer)
      (.active session t.snapshot t.view) ⟨.send (some session) .commit, answer⟩
      (.applied session t.snapshot t.view answer.toBool) := by
  obtain ⟨value, hdone⟩ := hmay
  have hlive := hsane.live session t hphase
  obtain ⟨records', hdone', halike⟩ := hlive.done hsane.descends hdone hunit hmerged
  have hdescends : Descends start records :=
    { sound := halike.sound (hdone'.sound hsane.descends.sound)
      ids := hmerged.ids
      kept := by
        have hkept := hsane.descends.kept
        rw [← hdone'.accounts_eq hunit] at hkept
        exact (halike.applicationRows.map _).symm.trans hkept }
  constructor
  case admits => exact ⟨.applied, hcommits, rfl⟩
  case sane => exact (hsane.publish hphase hdone hunit hmerged hdescends).noted answer
  case others =>
    intro other hother
    rw [noted_phase]
    have hne : other ≠ session := fun hsame => hother (congrArg some hsame.symm)
    exact .inr ⟨t.written, publish_phase_of_ne _ _ _ hne⟩
  case placed =>
    show ((s.publish session t records).noted answer).phase session = .applied
    rw [noted_phase, publish_phase_self]
  case session => exact .inl rfl
  case commits =>
    refine .inr ⟨rfl, records', value, hdone', ?_, handedIn_of_done hdone hunit⟩
    rw [noted_records]
    exact halike
  case doubts =>
    cases hcommits with
    | applied => exact Nat.le_refl _
    | unheard hdoubt =>
        show 1 + s.doubts ≤ 0 + _
        simp [Shared.noted, Shared.publish, hdoubt.1]
        omega

/-- A commit applies nothing: the transaction stays as it was, or is gone. -/
theorem Stepped.settle {answer : Except Failure Unit} {phase : Phase} {standing' : Standing}
    (hsane : Sane start s) (hphase : phase = s.phase session ∨ phase = .gone)
    (hcommits : Commits standing.status answer phase.status)
    (hsettled : standing' = standing.settle answer phase.status)
    (hsession : standing.session? = some session) (hsession' : standing'.session? = some session)
    (hplaced : standing'.Matches ((s.set session phase).noted answer))
    (hgiven : standing'.given operation = standing.given operation)
    (hunheard : standing'.unheard.toNat ≤ standing.unheard.toNat) :
    Stepped start unique operation s ((s.set session phase).noted answer) standing
      ⟨.send (some session) .commit, answer⟩ standing' := by
  have hset : ∀ other ≠ session,
      ((s.set session phase).noted answer).phase other = s.phase other := fun other hne => by
    rw [noted_phase, set_phase_of_ne _ _ hne]
  have hdoubts : s.doubts ≤ ((s.set session phase).noted answer).doubts :=
    doubts_le_noted (s.set session phase) answer
  have hsane' : Sane start ((s.set session phase).noted answer) := by
    obtain rfl | rfl := hphase
    · rw [set_phase]
      exact hsane.noted answer
    · exact (hsane.set_inactive session fun t => Phase.noConfusion).noted answer
  exact .own hsession hsession' (by rw [noted_records, set_records]) hset hsane' hplaced hgiven
    (by omega) ⟨_, hcommits, hsettled⟩

/-- A commit. -/
theorem Settles.stepped {answer : Except Failure Unit} (h : Settles s session answer s')
    (hsane : Sane start s) (hplaced : standing.Matches s) (hunit : runsUnit operation = true)
    (hsession : standing.session? = some session) (hmay : standing.MayCommit operation) :
    ∃ standing', Stepped start unique operation s s' standing ⟨.send (some session) .commit, answer⟩
      standing' := by
  cases h with
  | @applied t records ht hcommits hmerged =>
      obtain rfl | ⟨rfl, -⟩ := hplaced.sees hsane.descends hsession ht
      · obtain ⟨t', ht', -⟩ := hplaced
        obtain rfl : t' = t := by
          simpa [Shared.transaction?, ht'] using ht
        exact ⟨_, .apply hsane hunit ht' hmay hcommits hmerged⟩
      · exact hmay.elim
  | @unchanged phase hcommits hphase =>
      rw [hplaced.status hsession] at hcommits
      have hphase' : ((s.set session phase).noted answer).phase session = phase := by
        rw [noted_phase, set_phase_self]
      cases standing with
      | idle | spoiled => contradiction
      | begun => exact hmay.elim
      | active =>
          obtain rfl := Option.some.inj hsession
          obtain ⟨t, ht, rfl, rfl⟩ := hplaced
          obtain rfl | rfl := hphase
          · exact ⟨.active _ _ _, .settle hsane (.inl rfl) hcommits (by rw [ht]; rfl) rfl rfl
              ⟨t, hphase'.trans ht, rfl, rfl⟩ rfl (Nat.le_refl _)⟩
          · exact ⟨.gone _, .settle hsane (.inr rfl) hcommits rfl rfl rfl hphase' rfl
              (Nat.le_refl _)⟩
      | applied _ _ _ heard =>
          obtain rfl := Option.some.inj hsession
          obtain rfl | rfl := hphase
          · have hheard : (!(heard || answer.toBool)).toNat ≤ (!heard).toNat := by
              cases heard <;> cases answer.toBool <;> decide
            exact ⟨.applied _ _ _ (heard || answer.toBool), .settle hsane (.inl rfl) hcommits rfl
              rfl rfl (hphase'.trans hplaced) rfl hheard⟩
          · cases hcommits
      | gone =>
          obtain rfl := Option.some.inj hsession
          have hgone : phase = .gone := hphase.elim (fun hsame => hsame.trans hplaced) id
          subst hgone
          exact ⟨.gone _, .settle hsane (.inr rfl) hcommits rfl rfl rfl hphase' rfl
            (Nat.le_refl _)⟩

/-- A call begins a transaction while none of it is applied. -/
theorem Stepped.begin (hsane : Sane start s) (hunused : s.phase session = .unused)
    (hclear : standing.Clear) :
    Stepped start unique operation s (s.set session .begun) standing
      ⟨.begin, .ok session⟩ (.begun session) where
  admits := rfl
  sane := hsane.set_inactive session fun t => Phase.noConfusion
  others other hother :=
    .inl (set_phase_of_ne _ _ fun hsame => hother (congrArg some hsame.symm))
  placed := set_phase_self ..
  session := .inr ⟨session, rfl, hunused⟩
  commits := .inl ⟨rfl, by cases standing <;> first | rfl | exact hclear.elim⟩
  doubts := by cases standing <;> first | exact hclear.elim | exact Nat.le_refl _

/-- **Whatever a call asks for and is answered**, it has a standing afterwards. -/
theorem Serves.stepped {request : Ask β} {answer : β}
    (hserves : Serves unique s ⟨request, answer⟩ s') (hsane : Sane start s)
    (hplaced : standing.Matches s) (hunit : runsUnit operation = true)
    (hproper : standing.Proper operation _ request) :
    ∃ standing', Stepped start unique operation s s' standing ⟨request, answer⟩ standing' := by
  cases request with
  | begin =>
      cases answer with
      | error f =>
          obtain rfl : s' = s := hserves
          exact ⟨standing, .still hsane hplaced rfl⟩
      | ok session =>
          obtain ⟨hunused, rfl⟩ := hserves
          exact ⟨.begun session, .begin hsane hunused hproper⟩
  | send used command =>
      cases used with
      | none =>
          obtain ⟨-, rfl, hanswer⟩ := hserves
          refine ⟨standing, .still hsane hplaced ⟨rfl, hanswer.imp_left fun hfound => ?_⟩⟩
          exact ⟨s'.records, hsane.descends, hfound⟩
      | some session =>
          cases command with
          | commit => exact hserves.stepped hsane hplaced hunit hproper.1 hproper.2
          | abort =>
              obtain rfl : s' = s.set session (s.phase session).abort := hserves
              exact ⟨_, .abort hsane hplaced hproper rfl⟩
          | _ => exact Carries.stepped hserves rfl hsane hplaced hproper
  | _ =>
      obtain rfl : s' = s := hserves
      exact ⟨standing, .still hsane hplaced rfl⟩

end Steps

/-! ## whole runs -/

section Runs

variable {start : Records} {unique : Keyed String (List (List String))} {policy : RetryPolicy}

theorem not_concluded_spoiled {α : Type} {operation : Operation α} (answer : Answer α) :
    ¬Standing.Concluded operation .spoiled answer := by
  cases answer with
  | ok value => simp [Standing.Concluded]
  | error e => exact fun h => h.1 rfl

/-- A step of the server is a step of one call. -/
theorem Inv.step {s s' : Shared} {callers : List Caller} {before after : List Running}
    {α β : Type} {operation : Operation α} {request : Ask β} {next : β → Program (Answer α)}
    {answer : β} (h : Inv start unique s callers)
    (hcalls : callers.map (·.call) = before ++ ⟨operation, .ask request next⟩ :: after)
    (hserves : Serves unique s ⟨request, answer⟩ s') :
    ∃ callers', callers'.map (·.call) = before ++ ⟨operation, next answer⟩ :: after ∧
      Inv start unique s' callers' := by
  obtain ⟨callersBefore, callersRest, rfl, rfl, hrest⟩ := List.map_eq_append_iff.mp hcalls
  obtain ⟨caller, callersAfter, rfl, hcaller, rfl⟩ := List.map_eq_cons_iff.mp hrest
  obtain ⟨call, standing⟩ := caller
  obtain rfl : call = ⟨operation, .ask request next⟩ := hcaller
  have hmem : (⟨⟨operation, .ask request next⟩, standing⟩ : Caller) ∈
    callersBefore ++ ⟨⟨operation, .ask request next⟩, standing⟩ :: callersAfter := by simp
  obtain ⟨hunit, hensured⟩ := h.ensured _ hmem
  have hproper := proper_of_ensures hensured not_concluded_spoiled
  obtain ⟨standing', hstepped⟩ := hserves.stepped h.sane (h.placed _ hmem) hunit hproper
  refine ⟨callersBefore ++ ⟨⟨operation, next answer⟩, standing'⟩ :: callersAfter, by simp, ?_⟩
  exact h.move hstepped.sane hstepped.others hstepped.placed hstepped.session hstepped.commits
    hstepped.doubts (hensured answer standing' (.inl ⟨hproper, hstepped.admits⟩))

theorem inv_launch (policy : RetryPolicy) (hstart : Descends start start)
    {requests : List ((α : Type) × Operation α)}
    (hunits : ∀ request ∈ requests, runsUnit request.2 = true) :
    Inv start unique (.init start)
      (requests.map fun request => ⟨.start policy request.2, .idle⟩) where
  sane :=
    { descends := hstart
      live := fun session t ht => Phase.noConfusion ht
      apart := fun session t session' t' ht => Phase.noConfusion ht }
  serial := by
    refine ⟨[], .nil, fun scope => .of_eq ?_⟩
    rw [List.filterMap_map]
    exact (List.filterMap_eq_nil_iff.mpr fun request _ => rfl).symm
  placed caller hcaller := by
    obtain ⟨request, -, rfl⟩ := List.mem_map.mp hcaller
    trivial
  sessions := by
    rw [List.filterMap_map]
    exact (List.filterMap_eq_nil_iff.mpr fun request _ => rfl) ▸ List.nodup_nil
  ensured caller hcaller := by
    obtain ⟨request, hrequest, rfl⟩ := List.mem_map.mp hcaller
    exact ⟨hunits request hrequest, program_alone hstart (hunits request hrequest)⟩
  doubts := by
    refine Nat.le_of_eq (List.countP_eq_zero.mpr fun caller hcaller => ?_)
    obtain ⟨request, -, rfl⟩ := List.mem_map.mp hcaller
    exact Bool.false_ne_true

/-- The calls for several operations, none of which has asked for anything. -/
def launch (policy : RetryPolicy) (requests : List ((α : Type) × Operation α)) : List Running :=
  requests.map fun request => .start policy request.2

/-- **The invariant holds after every interleaving.** -/
theorem inv_of_interleaved (hstart : Descends start start)
    {requests : List ((α : Type) × Operation α)}
    (hunits : ∀ request ∈ requests, runsUnit request.2 = true) {system : System}
    (h : Interleaved unique ⟨.init start, launch policy requests⟩ system) :
    ∃ callers, callers.map (·.call) = system.calls ∧ Inv start unique system.server callers := by
  induction h with
  | start => exact ⟨_, by simp [launch], inv_launch policy hstart hunits⟩
  | step answer h hserves ih =>
      obtain ⟨callers, hcalls, hinv⟩ := ih
      exact hinv.step hcalls hserves

end Runs

/-! ## numbers -/

section Numbers

variable {start : Records} {unique : Keyed String (List (List String))} {s : Shared}
  {callers : List Caller} {caller : Caller} {scope : Scope} {number : Int}

/-- What a finished call has answered and what its standing is. -/
theorem Caller.Ensured.concluded (h : caller.Ensured start unique)
    {answer : Answer caller.call.α} (hanswer : caller.call.answer? = some answer) :
    Standing.Concluded caller.call.operation caller.standing answer := by
  obtain ⟨⟨operation, rest⟩, standing⟩ := caller
  cases rest with
  | done final =>
      obtain rfl := Option.some.inj hanswer
      exact h.2
  | ask => contradiction

/-- The number that a call has answered is the one that it has handed out. -/
theorem numberGiven_of_answered (h : caller.Ensured start unique)
    (hnumber : numberAnswered scope caller.call = some number) :
    numberGiven scope caller = some number := by
  unfold numberAnswered at hnumber
  split at hnumber
  · next value hanswer =>
      obtain ⟨session, snapshot, view, hstanding, hdone⟩ := h.concluded hanswer
      rw [numberGiven, hstanding]
      exact (congrArg (Option.bind · (within scope)) (handedIn_of_done hdone h.1)).trans hnumber
  · contradiction

/-- A finished call that has handed out a number without answering it has not heard of it. -/
theorem unheard_of_given (h : caller.Ensured start unique)
    (hfinished : caller.call.answer?.isSome)
    (hnone : numberAnswered scope caller.call = none)
    (hgiven : numberGiven scope caller = some number) : caller.standing.unheard = true := by
  obtain ⟨answer, hanswer⟩ := Option.isSome_iff_exists.mp hfinished
  have hconcluded := h.concluded hanswer
  cases answer with
  | ok value =>
      obtain ⟨session, snapshot, view, hstanding, hdone⟩ := hconcluded
      have hanswered : numberAnswered scope caller.call = some number := by
        rw [numberGiven, hstanding] at hgiven
        simp only [numberAnswered, hanswer]
        exact (congrArg (Option.bind · (within scope)) (handedIn_of_done hdone h.1)).symm.trans
          hgiven
      rw [hnone] at hanswered
      contradiction
  | error e =>
      cases hstanding : caller.standing with
      | applied session snapshot view heard =>
          cases heard with
          | false => rfl
          | true => exact absurd hstanding (hconcluded.2 session snapshot view)
      | _ =>
          rw [numberGiven, hstanding] at hgiven
          contradiction

/-- Of the values that one function gives, those that another one gives, too, and the others. -/
theorem filterMap_perm_append {ρ : Type*} {κ : Type} {f g : ρ → Option κ} {xs : List ρ}
    (h : ∀ x ∈ xs, ∀ y, f x = some y → g x = some y) :
    (xs.filterMap g).Perm
      (xs.filterMap f ++ xs.filterMap fun x => if (f x).isSome then none else g x) := by
  induction xs with
  | nil => exact .refl _
  | cons x xs ih =>
      have ih := ih fun y hy => h y (List.mem_cons_of_mem _ hy)
      cases hf : f x with
      | some y => simpa [hf, h x (by simp) y hf] using ih
      | none =>
          cases hg : g x with
          | none => simpa [hf, hg] using ih
          | some y => simpa [hf, hg] using (ih.cons y).trans List.perm_middle.symm

theorem length_filterMap_le_countP {ρ : Type*} {κ : Type} {f : ρ → Option κ} {p : ρ → Bool}
    {xs : List ρ} (h : ∀ x ∈ xs, ∀ y, f x = some y → p x = true) :
    (xs.filterMap f).length ≤ xs.countP p := by
  induction xs with
  | nil => exact Nat.le_refl _
  | cons x xs ih =>
      have ih := ih fun y hy => h y (List.mem_cons_of_mem _ hy)
      cases hf : f x with
      | none =>
          rw [List.filterMap_cons_none hf, List.countP_cons]
          omega
      | some y =>
          rw [List.filterMap_cons_some hf, List.countP_cons_of_pos (h x (by simp) y hf)]
          exact Nat.succ_le_succ ih

/-- The number that a call has handed out and not answered. -/
def numberUnheard (scope : Scope) (caller : Caller) : Option Int :=
  if (numberAnswered scope caller.call).isSome then none else numberGiven scope caller

/-- The numbers that were answered, with those that were not heard of. -/
theorem Inv.numbers (h : Inv start unique s callers) (hsound : Sound start)
    (htokens : ((applicationRows start).map (·.token)).Nodup) (scope : Scope) :
    ∃ unheard count, ((numbersAnswered scope (callers.map (·.call))) ++ unheard).Perm
        (numbersAfter (lastNumber start scope) count) ∧
      ((∀ caller ∈ callers, caller.call.answer?.isSome) → unheard.length ≤ s.doubts) := by
  obtain ⟨effects, hserial, hnumbers⟩ := h.serial
  have hsplit := filterMap_perm_append (f := fun caller => numberAnswered scope caller.call)
    fun caller hcaller number => numberGiven_of_answered (h.ensured caller hcaller)
  have hperm := ((hnumbers scope).trans hsplit).symm
  rw [hserial.numbersWithin_eq hsound htokens scope] at hperm
  refine ⟨callers.filterMap (numberUnheard scope), (numbersWithin scope effects).length, ?_,
    fun hfinished => ?_⟩
  · rw [numbersAnswered, List.filterMap_map]
    exact hperm
  · refine Nat.le_trans (length_filterMap_le_countP fun caller hcaller number hgiven => ?_) h.doubts
    unfold numberUnheard at hgiven
    split at hgiven
    · contradiction
    · next hnone =>
        exact unheard_of_given (h.ensured caller hcaller) (hfinished caller hcaller)
          (Option.not_isSome_iff_eq_none.mp hnone) hgiven

end Numbers

/-! ## the guarantee -/

/-- **Concurrent transactions keep the database consistent.**  From records on which counters and
numbers agree, under ids and tokens that stand once: however calls that create chats, create
messages and delete chats are interleaved, and whatever the server refuses, at every moment counters
and numbers agree with the committed records; the numbers that calls have answered within a parent
are distinct; and once all calls have returned, these numbers continue the number that the parent
began with, where at most as many are left out as there were commits answered in doubt. -/
theorem interleaved_consistent {start : Records} {unique : Keyed String (List (List String))}
    {policy : RetryPolicy} {requests : List ((α : Type) × Operation α)} {system : System}
    (hsound : Sound start) (hids : Identified start)
    (htokens : ((applicationRows start).map (·.token)).Nodup)
    (hunits : ∀ request ∈ requests, runsUnit request.2 = true)
    (hrun : Interleaved unique ⟨.init start, launch policy requests⟩ system) :
    Sound system.server.records ∧
      ∀ scope, (numbersAnswered scope system.calls).Nodup ∧
        ((∀ call ∈ system.calls, call.answer?.isSome) →
          ∃ unheard count, unheard.length ≤ system.server.doubts ∧
            (numbersAnswered scope system.calls ++ unheard).Perm
              (numbersAfter (lastNumber start scope) count)) := by
  obtain ⟨callers, hcalls, hinv⟩ := inv_of_interleaved ⟨hsound, hids, .refl _⟩ hunits hrun
  refine ⟨hinv.sane.descends.sound, fun scope => ?_⟩
  obtain ⟨unheard, count, hperm, hunheard⟩ := hinv.numbers hsound htokens scope
  rw [hcalls] at hperm
  refine ⟨?_, fun hfinished => ⟨unheard, count, hunheard fun caller hcaller => ?_, hperm⟩⟩
  · have hnodup := hperm.nodup_iff.mpr (nodup_numbersAfter _ _)
    exact hnodup.of_append_left
  · exact hfinished _ (hcalls ▸ List.mem_map_of_mem hcaller)

/-! ## two calls that collide -/

section Collision

variable {unique : Keyed String (List (List String))} {start : System} {s s' : Shared}
  {session session' : Session} {t : Open} {α β : Type} {operation : Operation α} {request : Ask β}
  {next : β → Program (Answer α)} {other : Running}

/-- No other transaction is open. -/
def Shared.Alone (s : Shared) (session : Session) : Prop :=
  ∀ other t, other ≠ session → s.phase other ≠ .active t

namespace Shared.Alone

theorem own (h : s.Alone session) (phase : Phase) : (s.set session phase).Alone session := by
  intro other t hne
  rw [set_phase_of_ne _ _ hne]
  exact h other t hne

theorem inactive (h : s.Alone session) (session' : Session) {phase : Phase}
    (hphase : ∀ t, phase ≠ .active t) : (s.set session' phase).Alone session := by
  intro other t hne
  by_cases hother : other = session'
  · subst hother
    rw [set_phase_self]
    exact hphase t
  · rw [set_phase_of_ne _ _ hother]
    exact h other t hne

/-- After the commit of the only transaction none is open. -/
theorem published (h : s.Alone session) (t : Open) (records : Records) (session' : Session) :
    (s.publish session t records).Alone session' := by
  intro other t' _
  by_cases hother : other = session
  · subst hother
    rw [publish_phase_self]
    exact Phase.noConfusion
  · rw [publish_phase_of_ne _ _ _ hother]
    cases hphase : s.phase other with
    | active t₀ => exact absurd hphase (h other t₀ hother)
    | _ => exact Phase.noConfusion

/-- A command meets no conflict. -/
theorem carries (h : s.Alone session) (view : Records) {command : Command β}
    {answer : Except Failure β} (ht : s.transaction? session = some t)
    (hcurrent : ∀ key, ¬t.overtaken key)
    (hexecutes : Executes unique session t command view answer) :
    Carries unique s session command answer (s.set session (.active
      { t with view, written := fun key => t.written key ∨ Changed t.view view key })) := by
  refine .done ht hexecutes fun key _ => ?_
  rintro (hovertaken | ⟨other, t', hne, ht', -⟩)
  · exact hcurrent key hovertaken
  · exact h other t' hne ht'

end Shared.Alone

/-- Where nothing else was committed, a transaction leaves what it sees. -/
theorem Open.merged_view (hids : Identified t.view)
    (hwritten : ∀ key, Changed t.snapshot t.view key → t.written key) :
    t.Merged t.snapshot t.view where
  ids := hids
  written _ _ := rfl
  others key hkey := not_not.mp (mt (hwritten key) hkey)

/-- What two calls lead to while no transaction is open but that of one session. -/
structure Led (unique : Keyed String (List (List String))) (start : System) (session : Session)
    (s : Shared) (calls : List Running) : Prop where
  run : Interleaved unique start ⟨s, calls⟩
  alone : s.Alone session

theorem Led.first (answer : β)
    (h : Led unique start session s [⟨operation, .ask request next⟩, other])
    (hserves : Serves unique s ⟨request, answer⟩ s')
    (halone : s.Alone session → s'.Alone session') :
    Led unique start session' s' [⟨operation, next answer⟩, other] :=
  ⟨@Interleaved.step _ _ s s' [] [other] α β operation request next answer h.run hserves,
    halone h.alone⟩

theorem Led.second (answer : β)
    (h : Led unique start session s [other, ⟨operation, .ask request next⟩])
    (hserves : Serves unique s ⟨request, answer⟩ s')
    (halone : s.Alone session → s'.Alone session') :
    Led unique start session' s' [other, ⟨operation, next answer⟩] :=
  ⟨@Interleaved.step _ _ s s' [other] [] α β operation request next answer h.run hserves,
    halone h.alone⟩

/-- An application with some chats that have no messages. -/
def contentsWith (last : Nat) (chatRows : List ChatRow) : Records :=
  [(applications, [parent.toRecord]), (chats, chatRows.map ChatRow.toRecord), (messages, [])]
where
  parent : ApplicationRow := ⟨.ofNat 1, "t", "a", last, last, 0, 0⟩

theorem sound_contentsWith : Sound (contentsWith 0 []) where
  applications record hrecord := by
    obtain rfl : record = _ := List.mem_singleton.mp hrecord
    exact ⟨_, ApplicationRow.holds_toRecord _⟩
  chats record hrecord := nomatch hrecord
  ids := List.nodup_singleton _
  messages record hrecord := nomatch hrecord
  chatsCounted := Counted.empty.addParent (by simp) rfl rfl
  messagesCounted := .empty

theorem identified_contentsWith (last : Nat) {chatRows : List ChatRow}
    (hids : (chatRows.map fun row => some (Value.objectId row.id)).Nodup) :
    Identified (contentsWith last chatRows) := by
  intro collection
  unfold contentsWith recordsOf Identifies
  simp only [Keyed.get?]
  split
  · exact List.nodup_singleton _
  · split
    · simpa [ChatRow.toRecord, Keyed.get?, Function.comp_def] using hids
    · split <;> exact .nil

/-- The chats that the calls below create. -/
def firstChat : ChatRow := newChatRow (.ofNat 2) (.ofNat 1) 1 0

@[inherit_doc firstChat]
def secondChat : ChatRow := newChatRow (.ofNat 3) (.ofNat 1) 2 0

/-- Two calls for new chats of one application. -/
def colliding : List ((α : Type) × Operation α) := [⟨_, .createChat "t"⟩, ⟨_, .createChat "t"⟩]

@[inherit_doc firstChat]
def created : List Running :=
  [⟨.createChat "t", .done (.ok firstChat.toModel)⟩,
    ⟨.createChat "t", .done (.ok secondChat.toModel)⟩]

/-- The second call finds its application written by the first one, whose transaction is still
open.  It is run again, and takes its new snapshot after the commit of the first. -/
theorem colliding_created :
    ∃ s, Interleaved [] ⟨.init (contentsWith 0 []), launch ⟨2, .zero⟩ colliding⟩ ⟨s, created⟩ ∧
      s.records = contentsWith 2 [firstChat, secondChat] ∧ s.doubts = 0 := by
  have hraised : Changed (contentsWith 0 []) (contentsWith 1 [])
      ⟨applications, some (.objectId (.ofNat 1))⟩ := by
    unfold Changed
    decide
  generalize hstart : System.mk _ _ = start
  have h : Led [] start ⟨0⟩ (.init (contentsWith 0 [])) (launch ⟨2, .zero⟩ colliding) :=
    ⟨hstart ▸ .start, fun _ _ _ => Phase.noConfusion⟩
  simp only [launch, colliding, List.map, Running.start, program, script, createChat, inTransaction,
    RetryPolicy.allocate, RetryPolicy.retry, RetryPolicy.attemptFrom] at h
  have h := h.first (β := Except Failure Session) (.ok ⟨0⟩) ⟨rfl, rfl⟩ (·.own _)
  have h := h.second (β := Except Failure Session) (.ok ⟨1⟩) ⟨rfl, rfl⟩
    (·.inactive _ fun _ => Phase.noConfusion)
  have h := h.first (β := Int) 0 rfl id
  have h := h.first (β := Except Failure (Option Record))
    (.ok (some (contentsWith.parent 0).toRecord))
    (h.alone.carries (contentsWith 1 []) rfl (fun _ => id) rfl) (·.own _)
  have h := h.second (β := Int) 0 rfl id
  have h := h.second (β := Except Failure (Option Record))
    (.error { cause := .command 112, transient := true })
    (.conflict ⟨_, contentsWith 1 [], _, rfl, rfl, _, hraised,
      .inr ⟨⟨0⟩, _, by decide, rfl, .inr hraised⟩⟩ rfl) (·.inactive _ fun _ => Phase.noConfusion)
  have h := h.second (β := Except Failure Unit) (.ok ()) rfl
    (·.inactive _ fun _ => Phase.noConfusion)
  have h := h.second (β := Except Failure Session) (.ok ⟨2⟩) ⟨rfl, rfl⟩
    (·.inactive _ fun _ => Phase.noConfusion)
  have h := h.first (β := Int) 0 rfl id
  have h := h.first (β := ObjectId) firstChat.id rfl id
  have h := h.first (β := Except Failure Unit) (.ok ())
    (h.alone.carries (contentsWith 1 [firstChat]) rfl (fun _ => id) rfl) (·.own _)
  have h := h.first (β := Except Failure Unit) (.ok ())
    (.applied rfl .applied (Open.merged_view (identified_contentsWith _ (by decide))
      fun key hchanged => (hchanged.split _).imp .inr id)) (·.published _ _ ⟨2⟩)
  have h := h.second (β := Int) 0 rfl id
  have h := h.second (β := Except Failure (Option Record))
    (.ok (some (contentsWith.parent 1).toRecord))
    (h.alone.carries (contentsWith 2 [firstChat]) rfl (fun _ => id) rfl) (·.own _)
  have h := h.second (β := Int) 0 rfl id
  have h := h.second (β := ObjectId) secondChat.id rfl id
  have h := h.second (β := Except Failure Unit) (.ok ())
    (h.alone.carries (contentsWith 2 [firstChat, secondChat]) rfl (fun _ => id) rfl) (·.own _)
  have h := h.second (β := Except Failure Unit) (.ok ())
    (.applied rfl .applied (Open.merged_view (identified_contentsWith _ (by decide))
      fun key hchanged => (hchanged.split _).imp .inr id)) (·.published _ _ ⟨2⟩)
  exact ⟨_, h.run, rfl, rfl⟩

theorem interleaved_collision :
    ∃ s, Interleaved [] ⟨.init (contentsWith 0 []), launch ⟨2, .zero⟩ colliding⟩ ⟨s, created⟩ ∧
      s.records = contentsWith 2 [firstChat, secondChat] ∧ Sound s.records ∧
      numbersAnswered (.application "t") created = [1, 2] ∧
      ∀ scope, (numbersAnswered scope created).Nodup ∧
        ∃ unheard count, unheard.length ≤ 0 ∧
          (numbersAnswered scope created ++ unheard).Perm
            (numbersAfter (lastNumber (contentsWith 0 []) scope) count) := by
  obtain ⟨s, hrun, hrecords, hdoubts⟩ := colliding_created
  have hunits : ∀ request ∈ colliding, runsUnit request.2 = true := by simp [colliding, runsUnit]
  have hfinished : ∀ call ∈ created, call.answer?.isSome := by simp [created, Running.answer?]
  obtain ⟨hsound, hnumbers⟩ := interleaved_consistent sound_contentsWith
    (identified_contentsWith 0 .nil) (List.nodup_singleton _) hunits hrun
  refine ⟨s, hrun, hrecords, hsound, by decide, fun scope => ⟨(hnumbers scope).1, ?_⟩⟩
  obtain ⟨unheard, count, hunheard, hperm⟩ := (hnumbers scope).2 hfinished
  exact ⟨unheard, count, hdoubts ▸ hunheard, hperm⟩

end Collision

end ChatService.Database.Concurrent
