import ChatService.Proofs.Memory.Removals
import ChatService.Proofs.Memory.Stages
import ChatService.Proofs.RealTime

/-!
# Pools of calls by their stages

A player is a call of the in-memory store with the stage that it has come to.  What is said here of
a pool of players holds at every point of its run: no record other than the one that was found takes
its place, one call at most is to mark a record, and who takes the lock of a chat has found its
record or is to mark it.
-/

namespace ChatService.Memory

open Store (Application Message Operation Answer CounterUpdate Outcome)

attribute [local irreducible] idText

/-! ## several calls -/

/-- A call in a pool: what it was asked to do, and how far it has come. -/
structure Player where
  request : Request
  stage : Stage

/-- A player plays a call. -/
def Player.Plays (player : Player) (call : OutcomeCall) : Prop :=
  PlaysTo player.request (fun stage outcome => stage.Ends player.request outcome) player.stage call

variable {m : Moment} {s s' s₀ : State} {token : String} {number : Int} {record : Nat}
  {held held' : Holding} {k : Nat} {turn : Turn Moment} {p : List (Turn Moment)}
  {players : List Player} {player : Player} {stage : Stage} {calls : List OutcomeCall}
  {requests : List Request}

theorem plays_start {requests : List Request}
    (h : ∀ request ∈ requests, TakesEffectAtOnce request.2) :
    List.Forall₂ Player.Plays (requests.map (⟨·, .todo⟩)) (start requests) := by
  induction requests with
  | nil => exact .nil
  | cons request requests ih =>
      exact .cons (playsTo_map (plays_call (h request List.mem_cons_self)))
        (ih fun other hother => h other (List.mem_cons_of_mem _ hother))

/-- Who takes the lock of a chat has found its record, or is about to mark it. -/
theorem Player.Plays.stage_of_nextLock? {call : OutcomeCall} (h : player.Plays call)
    (hlock : call.nextLock? = some (.chat record)) :
    (isDeletion player.request = false →
      ∃ token number, player.stage = .found token number record) ∧
    (isDeletion player.request = true →
      ∃ token number, player.stage = .unlinked token number record) := by
  obtain ⟨request, stage⟩ := player
  cases call with
  | done outcome => simp [Call.nextLock?] at hlock
  | step lock effect next =>
      obtain rfl : lock = some (.chat record) := hlock
      have hwaits := h.1
      cases stage with
      | todo => exact absurd rfl (hwaits record)
      | waiting => exact absurd rfl (hwaits record)
      | made application => exact absurd rfl (hwaits record)
      | found token number record' =>
          obtain ⟨heq, hdeletion⟩ := hwaits
          cases heq
          exact ⟨fun _ => ⟨token, number, rfl⟩, by simp [hdeletion]⟩
      | unlinked token number record' =>
          obtain ⟨heq, rfl⟩ := hwaits
          cases heq
          exact ⟨by simp [isDeletion], fun _ => ⟨token, number, rfl⟩⟩
      | finished outcome => exact hwaits.elim

/-- The outcome that a player has brought about is one of its request. -/
theorem Player.Plays.requestOf_effect {call : OutcomeCall} {outcome : Outcome}
    (h : player.Plays call) (heffect : player.stage.effect? = some outcome) :
    requestOf outcome = player.request := by
  obtain ⟨request, stage⟩ := player
  cases stage with
  | unlinked token number record =>
      cases call with
      | done outcome' => exact h.2.elim
      | step lock effect next =>
          cases heffect
          exact h.1.2.symm
  | finished outcome' =>
      cases call with
      | done outcome'' =>
          obtain ⟨hrequest, rfl⟩ := h
          cases heffect
          exact hrequest
      | step lock effect next => exact h.1.elim
  | _ => simp [Stage.effect?] at heffect

/-- A player acts in its turn, unless it is finished. -/
theorem run_plays (turn : Turn Moment) (s : State)
    (h : List.Forall₂ Player.Plays players calls) :
    (turn.run s calls = (s, calls) ∧
      ∀ player, players[turn.call]? = some player → ∃ outcome, player.stage = .finished outcome) ∨
    ∃ player stage, players[turn.call]? = some player ∧
      Acts turn.input s player.stage (turn.run s calls).1 stage ∧
      List.Forall₂ Player.Plays (players.set turn.call ⟨player.request, stage⟩)
        (turn.run s calls).2 := by
  unfold Turn.run
  cases hcall : calls[turn.call]? with
  | none =>
      have hlength : players.length ≤ turn.call := by
        rw [h.length_eq]
        exact List.getElem?_eq_none_iff.mp hcall
      exact .inl ⟨rfl, by simp [List.getElem?_eq_none hlength]⟩
  | some call =>
      obtain ⟨⟨request, stage⟩, hplayer, hplays⟩ := exists_of_forall₂_getElem? h hcall
      cases call with
      | step lock effect next =>
          obtain ⟨stage', hacts, hnext⟩ := hplays.2 turn.input s
          exact .inr ⟨⟨request, stage⟩, stage', hplayer, hacts, forall₂_set h hnext⟩
      | done outcome =>
          have hset : calls.set turn.call (.done outcome) = calls := by
            obtain ⟨hlt, hget⟩ := List.getElem?_eq_some_iff.mp hcall
            rw [← hget]
            exact List.set_getElem_self hlt
          simp only [Call.advance, hset]
          cases stage with
          | todo =>
              refine .inr ⟨_, _, hplayer, hplays.2 turn.input s, ?_⟩
              rw [← hset]
              exact forall₂_set h ⟨hplays.1, rfl⟩
          | finished outcome' =>
              refine .inl ⟨trivial, fun player hother => ⟨outcome', ?_⟩⟩
              rw [hplayer] at hother
              cases hother
              rfl
          | _ => exact hplays.2.elim

/-! ## what moves leave alone -/

/-- A chat that was once seen under a token and a number: no other record is linked there, now or
later. -/
structure Claimed (s : State) (token : String) (number : Int) (record : Nat) : Prop where
  known : ∃ found, Keyed.get? token s.applications = some found ∧
    number ≤ found.application.lastChatNumber
  only : ∀ other, LinkedAt s token number other → other = record

theorem Linkage.claimed (h : Linkage s) (hlink : LinkedAt s token number record) :
    Claimed s token number record := by
  have hunique : ∀ other, LinkedAt s token number other → other = record :=
    fun other hother => hother.unique hlink
  obtain ⟨found, hfound, hget⟩ := hlink
  have hkey := Keyed.mem_keys_of_mem (Keyed.mem_of_get?_eq_some hget)
  exact ⟨⟨found, hfound, (h.chats token found hfound).2 number hkey⟩, hunique⟩

theorem Claimed.of_move (h : Claimed s token number record) (hlinkage : Linkage s)
    (hmove : Move held m s s' held') : Claimed s' token number record := by
  obtain ⟨⟨found, hfound, hle⟩, honly⟩ := h
  cases hmove with
  | store hfree =>
      exact ⟨⟨found, get?_applications_store_of_stored hfree hfound, hle⟩,
        fun other hother => honly other ((linkedAt_store hfree).mp hother)⟩
  | @link _ _ token' found' number' count hfound' hnumber hcount =>
      have hnext := (Store.nextAfter_eq_ok hnumber).2
      refine ⟨?_, fun other hother => ?_⟩
      · rw [get?_applications_link]
        split
        · next heq =>
            subst heq
            rw [hfound] at hfound'
            cases hfound'
            rw [hfound]
            exact ⟨_, rfl, show number ≤ number' by omega⟩
        · exact ⟨found, hfound, hle⟩
      · obtain hold | ⟨rfl, rfl, -⟩ := (hlinkage.linkedAt_next hfound' hnext).mp hother
        · exact honly other hold
        · rw [hfound] at hfound'
          cases hfound'
          omega
  | unlink hfound' hlink hcount =>
      refine ⟨?_, fun other hother => honly other ((linkedAt_unlink hfound').mp hother).1⟩
      rw [get?_applications_unlink, hfound]
      split
      · exact ⟨_, rfl, hle⟩
      · exact ⟨found, rfl, hle⟩
  | _ => exact ⟨⟨found, hfound, hle⟩, honly⟩

/-- A record is changed only by a call that has found it or is to mark it. -/
theorem chatAt_of_move (hmove : Move held m s s' held') (hgiven : record ≤ s.ids)
    (hfound : ∀ token number, held ≠ .found token number record)
    (hunlinked : ∀ token number, held ≠ .unlinked token number record) :
    s'.chatAt record = s.chatAt record := by
  unfold State.chatAt
  cases hmove with
  | link hfound' hnumber hcount => rw [get?_chats_link, if_neg (by omega)]
  | @mark _ _ token number record' =>
      have hne : record' ≠ record := fun heq => hunlinked token number (heq ▸ rfl)
      rw [get?_chats_mark, if_neg hne]
  | @post _ _ token body number next count record' chat hbody hchat hlive hnumber hcount =>
      have hne : record' ≠ record := fun heq => hfound token number (heq ▸ rfl)
      rw [get?_chats_post, if_neg hne]
  | _ => rfl

theorem Acts.chatAt_eq {stage' : Stage} (h : Acts m s stage s' stage') (hgiven : record ≤ s.ids)
    (hfound : ∀ token number, stage ≠ .found token number record)
    (hunlinked : ∀ token number, stage ≠ .unlinked token number record) :
    s'.chatAt record = s.chatAt record := by
  have hheld : (∀ token number, stage.holding ≠ .found token number record) ∧
      ∀ token number, stage.holding ≠ .unlinked token number record := by
    cases stage with
    | finished outcome => cases h with | answer hstage hmove hdoes => simp at hstage
    | _ => simp_all [Stage.holding]
  exact chatAt_of_move h.move hgiven hheld.1 hheld.2

/-! ## pools of players -/

/-- How far calls have come, and by when. -/
structure Scheduled (p : List (Turn Moment)) (players : List Player) : Prop where
  begun : ∀ k player, players[k]? = some player → (player.stage = .todo ↔ ¬Begun p k)
  made : ∀ k player application, players[k]? = some player → player.stage = .made application →
    ∃ turn ∈ p, turn.call = k ∧ turn.input.token = application.token

theorem Scheduled.rest (h : Scheduled p players)
    (hrest : ∀ player, players[turn.call]? = some player → player.stage ≠ .todo) :
    Scheduled (p ++ [turn]) players where
  begun k player hplayer := by
    have hold := h.begun k player hplayer
    rw [begun_append_singleton]
    by_cases hturn : turn.call = k
    · subst hturn
      simp [hrest player hplayer]
    · simpa [hturn] using hold
  made k player application hplayer hstage := by
    obtain ⟨turn', hmem, hturn⟩ := h.made k player application hplayer hstage
    exact ⟨turn', List.mem_append_left _ hmem, hturn⟩

theorem Scheduled.acts (h : Scheduled p players)
    (hacts : Acts turn.input s player.stage s' stage) :
    Scheduled (p ++ [turn]) (players.set turn.call ⟨player.request, stage⟩) where
  begun k player' hplayer := by
    rw [begun_append_singleton]
    obtain ⟨rfl, rfl⟩ | ⟨hne, hplayer⟩ := getElem?_set_cases hplayer
    · simp [hacts.ne_todo]
    · simpa [Ne.symm hne] using h.begun k player' hplayer
  made k player' application hplayer hstage := by
    obtain ⟨rfl, rfl⟩ | ⟨hne, hplayer⟩ := getElem?_set_cases hplayer
    · obtain rfl : stage = .made application := hstage
      exact ⟨turn, by simp, rfl, hacts.made_token.symm⟩
    · obtain ⟨turn', hmem, hturn⟩ := h.made k player' application hplayer hstage
      exact ⟨turn', List.mem_append_left _ hmem, hturn⟩

/-- A pool of calls at some point of its run. -/
structure Pooled (s₀ : State) (requests : List Request) (p : List (Turn Moment)) (s : State)
    (calls : List OutcomeCall) (players : List Player) : Prop where
  run : runSchedule p s₀ (start requests) = (s, calls)
  asked : players.map (·.request) = requests
  plays : List.Forall₂ Player.Plays players calls
  grounded : Grounded s (players.map (·.stage.holding))
  claimed : ∀ player ∈ players, ∀ token number record,
    player.stage = .found token number record → Claimed s token number record
  scheduled : Scheduled p players

theorem stage_start (hplayer : player ∈ requests.map fun request => Player.mk request .todo) :
    player.stage = .todo := by
  obtain ⟨request, -, rfl⟩ := List.mem_map.mp hplayer
  rfl

theorem pooled_start (h : Linkage s₀) (hplain : ∀ request ∈ requests, TakesEffectAtOnce request.2) :
    Pooled s₀ requests [] s₀ (start requests) (requests.map (⟨·, .todo⟩)) where
  run := rfl
  asked := by simp [Function.comp_def]
  plays := plays_start hplain
  grounded := grounded_of_idle h fun held hheld => by
    obtain ⟨player, hplayer, rfl⟩ := List.mem_map.mp hheld
    rw [stage_start hplayer]
    rfl
  claimed player hplayer token number record hstage := by simp [stage_start hplayer] at hstage
  scheduled :=
    ⟨fun k player hplayer => by simp [stage_start (List.mem_of_getElem? hplayer), Begun],
      fun k player application hplayer => by simp [stage_start (List.mem_of_getElem? hplayer)]⟩

theorem Pooled.acts (h : Pooled s₀ requests p s calls players)
    (hplayer : players[turn.call]? = some player)
    (hacts : Acts turn.input s player.stage (turn.run s calls).1 stage)
    (hplays : List.Forall₂ Player.Plays (players.set turn.call ⟨player.request, stage⟩)
      (turn.run s calls).2) :
    Pooled s₀ requests (p ++ [turn]) (turn.run s calls).1 (turn.run s calls).2
      (players.set turn.call ⟨player.request, stage⟩) where
  run := by rw [runSchedule_append_singleton, h.run]
  asked := by
    have hrequest : requests[turn.call]? = some player.request := by
      rw [← h.asked, List.getElem?_map, hplayer]
      rfl
    obtain ⟨hlt, hget⟩ := List.getElem?_eq_some_iff.mp hrequest
    rw [List.map_set, h.asked, ← hget]
    exact List.set_getElem_self hlt
  plays := hplays
  grounded := by
    rw [List.map_set]
    have hheld : (players.map (·.stage.holding))[turn.call]? = some player.stage.holding := by
      rw [List.getElem?_map, hplayer]
      rfl
    exact h.grounded.of_move hheld hacts.move
  claimed player' hmem token number record hstage := by
    obtain hmem | rfl := List.mem_or_eq_of_mem_set hmem
    · exact (h.claimed player' hmem token number record hstage).of_move h.grounded.toLinkage
        hacts.move
    · obtain rfl : stage = .found token number record := hstage
      obtain ⟨hsame, hlink⟩ := hacts.found_linked
      rw [hsame]
      exact h.grounded.toLinkage.claimed hlink
  scheduled := h.scheduled.acts hacts

theorem Pooled.rest (h : Pooled s₀ requests p s calls players)
    (hrun : turn.run s calls = (s, calls))
    (hrest : ∀ player, players[turn.call]? = some player →
      ∃ outcome, player.stage = .finished outcome) :
    Pooled s₀ requests (p ++ [turn]) s calls players where
  run := by rw [runSchedule_append_singleton, h.run, hrun]
  asked := h.asked
  plays := h.plays
  grounded := h.grounded
  claimed := h.claimed
  scheduled := h.scheduled.rest fun player hplayer => by
    obtain ⟨outcome, hstage⟩ := hrest player hplayer
    simp [hstage]

/-- A call that has yet to finish has not returned. -/
theorem Pooled.not_returned (h : Pooled s₀ requests p s calls players)
    (hplayer : players[k]? = some player)
    (hunfinished : ∀ outcome, player.stage ≠ .finished outcome) :
    ¬Returned s₀ (start requests) p k := by
  intro ⟨hbegun, outcome, hdone⟩
  rw [h.run] at hdone
  obtain ⟨player', hplayer', hplays⟩ := exists_of_forall₂_getElem? h.plays hdone
  rw [hplayer] at hplayer'
  cases hplayer'
  have hends := hplays.2
  cases hstage : player.stage with
  | todo => exact (h.scheduled.begun k player hplayer).mp hstage hbegun
  | finished outcome' => exact hunfinished outcome' hstage
  | _ => simp [hstage] at hends

/-! ## calls that overtake deletions -/

/-- The next section of a call takes some lock. -/
def Takes (calls : List OutcomeCall) (k : Nat) (lock : Lock) : Prop :=
  (calls[k]?.bind Call.nextLock?) = some lock

instance (calls : List OutcomeCall) (k : Nat) (lock : Lock) : Decidable (Takes calls k lock) :=
  inferInstanceAs (Decidable ((calls[k]?.bind Call.nextLock?) = some lock))

/-- A call takes the lock of a chat, in which it creates or reads messages or looks at the chat,
while a deletion is yet to take the same lock, in which it marks the chat that it has unlinked. -/
structure Overtakes (s₀ : State) (requests : List Request) (schedule : List (Turn Moment))
    (visitor deleter : Nat) : Prop where
  visits : ∃ request, requests[visitor]? = some request ∧ isDeletion request = false
  deletes : ∃ request, requests[deleter]? = some request ∧ isDeletion request = true
  between : ∃ earlier turn record, earlier ++ [turn] <+: schedule ∧ turn.call = visitor ∧
    Takes (runSchedule earlier s₀ (start requests)).2 visitor (.chat record) ∧
    Takes (runSchedule earlier s₀ (start requests)).2 deleter (.chat record)

theorem Pooled.holding (_ : Pooled s₀ requests p s calls players)
    (hplayer : players[k]? = some player) :
    (players.map (·.stage.holding))[k]? = some player.stage.holding := by
  rw [List.getElem?_map, hplayer]
  rfl

/-- One call at most is to mark a record. -/
theorem Pooled.sole (h : Pooled s₀ requests p s calls players) {k k' : Nat}
    {player player' : Player} {token token' : String} {number number' : Int} {record : Nat}
    (hplayer : players[k]? = some player) (hstage : player.stage = .unlinked token number record)
    (hplayer' : players[k']? = some player')
    (hstage' : player'.stage = .unlinked token' number' record) : k = k' := by
  have hheld := h.holding hplayer
  have hheld' := h.holding hplayer'
  rw [hstage] at hheld
  rw [hstage'] at hheld'
  exact h.grounded.sole k k' token number token' number' record hheld hheld'

/-- The record that a call is to mark is not marked yet, and no link leads to it. -/
theorem Pooled.unlinked (h : Pooled s₀ requests p s calls players)
    (hplayer : players[k]? = some player) (hstage : player.stage = .unlinked token number record) :
    HasRecord s record false ∧ ∀ token' number', ¬LinkedAt s token' number' record := by
  have hheld := h.holding hplayer
  rw [hstage] at hheld
  exact h.grounded.unlinked token number record (List.mem_of_getElem? hheld)

/-- A record that was found has its link, or is marked, or is to be marked by some call. -/
theorem Pooled.fate (h : Pooled s₀ requests p s calls players)
    (hplayer : players[k]? = some player) (hstage : player.stage = .found token number record) :
    LinkedAt s token number record ∨ HasRecord s record true ∨
      ∃ (k' : Nat) (other : Player), players[k']? = some other ∧
        other.stage = .unlinked token number record := by
  have hheld := h.holding hplayer
  rw [hstage] at hheld
  refine (h.grounded.found token number record (List.mem_of_getElem? hheld)).fate.imp id
    (Or.imp id fun hunlinked => ?_)
  obtain ⟨k', hk'⟩ := List.mem_iff_getElem?.mp hunlinked
  rw [List.getElem?_map] at hk'
  obtain ⟨other, hother, hstage'⟩ := Option.map_eq_some_iff.mp hk'
  refine ⟨k', other, hother, ?_⟩
  cases hcase : other.stage with
  | unlinked token' number' record' =>
      rw [hcase] at hstage'
      obtain ⟨rfl, rfl, rfl⟩ := Holding.unlinked.inj hstage'
      rfl
  | finished outcome =>
      rw [hcase] at hstage'
      exact absurd hstage' (settled_ne_unlinked outcome token number record)
  | _ => simp [hcase, Stage.holding] at hstage'

/-- A call that takes the lock of a chat is a player that has found its record, or is to mark it. -/
theorem Pooled.takes (h : Pooled s₀ requests p s calls players) {request : Request}
    (hrequest : requests[k]? = some request) (htakes : Takes calls k (.chat record)) :
    ∃ player, players[k]? = some player ∧
      (isDeletion request = false → ∃ token number, player.stage = .found token number record) ∧
      (isDeletion request = true →
        ∃ token number, player.stage = .unlinked token number record) := by
  obtain ⟨call, hcall, hlock⟩ := Option.bind_eq_some_iff.mp htakes
  obtain ⟨player, hplayer, hplays⟩ := exists_of_forall₂_getElem? h.plays hcall
  obtain rfl : player.request = request := by
    rw [← h.asked, List.getElem?_map, hplayer] at hrequest
    exact Option.some.inj hrequest
  exact ⟨player, hplayer, hplays.stage_of_nextLock? hlock⟩

/-- A deletion is overtaken in the last turn or was before. -/
theorem Pooled.overtakes_cases (h : Pooled s₀ requests p s calls players) {visitor deleter : Nat}
    (hovertakes : Overtakes s₀ requests (p ++ [turn]) visitor deleter) :
    Overtakes s₀ requests p visitor deleter ∨
      turn.call = visitor ∧ ∃ player other token number token' number' record,
        players[turn.call]? = some player ∧ player.stage = .found token number record ∧
        players[deleter]? = some other ∧ other.stage = .unlinked token' number' record := by
  obtain ⟨⟨visit, hvisit, hvisits⟩, ⟨deletion, hdeletion, hdeletes⟩, hbetween⟩ := hovertakes
  obtain ⟨earlier, turn', record, hearlier, hturn, htakes, htakes'⟩ := hbetween
  obtain heq | hearlier := List.prefix_concat_iff.mp hearlier
  · obtain ⟨rfl, rfl⟩ := List.append_singleton_inj.mp heq
    rw [h.run] at htakes htakes'
    obtain ⟨player, hplayer, hfound, -⟩ := h.takes hvisit htakes
    obtain ⟨other, hother, -, hunlinked⟩ := h.takes hdeletion htakes'
    obtain ⟨token, number, hstage⟩ := hfound hvisits
    obtain ⟨token', number', hstage'⟩ := hunlinked hdeletes
    exact .inr ⟨hturn, player, other, token, number, token', number', record, hturn ▸ hplayer,
      hstage, hother, hstage'⟩
  · exact .inl ⟨⟨visit, hvisit, hvisits⟩, ⟨deletion, hdeletion, hdeletes⟩,
      earlier, turn', record, hearlier, hturn, htakes, htakes'⟩

/-- A call does not hold a record that has lost its link and is not marked yet. -/
def Undisturbing (players : List Player) (player : Player) : Prop :=
  ∀ token number record, player.stage = .found token number record →
    ∀ (k : Nat) (other : Player) token' number', players[k]? = some other →
      other.stage ≠ .unlinked token' number' record

theorem undisturbing_of_ne (h : ∀ token number record, player.stage ≠ .found token number record) :
    Undisturbing players player :=
  fun token number record hstage => absurd hstage (h token number record)

/-- A record that is linked is not about to be marked, nor is one that is marked already. -/
theorem Pooled.undisturbing (h : Pooled s₀ requests p s calls players)
    (hstage : player.stage = .found token number record)
    (hrecord : LinkedAt s token number record ∨ ¬HasRecord s record false) :
    Undisturbing players player := by
  intro token' number' record' hstage' k other token'' number'' hother hunlinked
  rw [hstage] at hstage'
  obtain ⟨rfl, rfl, rfl⟩ := Stage.found.inj hstage'
  obtain ⟨hlive, hgone⟩ := h.unlinked hother hunlinked
  obtain hlink | hnone := hrecord
  · exact hgone token number hlink
  · exact hnone hlive

/-- A call that has found a record does not find it anew: what is linked there now is the same. -/
theorem Pooled.chat?_of_gone (h : Pooled s₀ requests p s calls players)
    (hplayer : players[k]? = some player) (hstage : player.stage = .found token number record)
    (hgone : ∀ chat, Keyed.get? record s.chats = some chat → chat.deleted = true) :
    s.contents.chat? token number = none := by
  have hclaimed := h.claimed player (List.mem_of_getElem? hplayer) token number record hstage
  refine chat?_contents_of_none fun other hlink => ?_
  obtain ⟨chat, hchat, hlive, -⟩ := h.grounded.live token number other hlink
  rw [hclaimed.only other hlink] at hchat
  simp [hgone chat hchat] at hlive


end ChatService.Memory
