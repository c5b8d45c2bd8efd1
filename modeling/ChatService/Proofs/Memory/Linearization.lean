import ChatService.Proofs.Memory.Consistency
import ChatService.Proofs.Memory.Entries

/-!
# One order for all calls

Every call that has taken effect has an entry in an order in which calls run from end to end give
the same answers.  A call is entered at the end, in the turn in which it takes effect; only a call
that visits a chat whose link is gone already is entered further back, right before the deletion
that took the link.  There it does to the chat what it has done to the record, and the deletion
makes nothing of it.

Entries carry points in time.  A visitor of an unlinked chat shares the point of the deletion: it
had found the record by then, so it had begun.
-/

namespace ChatService.Memory

open Store (Application Message Operation Answer CounterUpdate Outcome)

attribute [local irreducible] idText

variable {s s' s₀ : State} {token : String} {number : Int} {record : Nat} {k : Nat}
  {turn : Turn Moment} {p : List (Turn Moment)} {players : List Player} {player : Player}
  {stage : Stage} {calls : List OutcomeCall} {requests : List Request} {c' : Contents}
  {entries entries' : List Entry} {entry : Entry}

/-! ## deletions that can be overtaken -/

/-- Whoever has found a record had begun before some point in time. -/
def FoundBefore (p : List (Turn Moment)) (players : List Player) (time : Nat) (token : String)
    (number : Int) (record : Nat) : Prop :=
  ∀ k player, players[k]? = some player → player.stage = .found token number record →
    Begun (p.take time) k

theorem FoundBefore.acts {request : Request} {time : Nat}
    (h : FoundBefore p players time token number record) (hpassed : time ≤ p.length)
    (hstage : stage ≠ .found token number record) :
    FoundBefore (p ++ [turn]) (players.set turn.call ⟨request, stage⟩) time token number
      record := by
  intro k player hplayer hfound
  rw [List.take_append_of_le_length hpassed]
  obtain ⟨rfl, rfl⟩ | ⟨-, hplayer⟩ := getElem?_set_cases hplayer
  · exact absurd hfound hstage
  · exact h k player hplayer hfound

/-- What holds of a deletion whose record is not marked yet: the chat was as its record is now, and
whoever has found the record had begun by then. -/
def Open (p : List (Turn Moment)) (s : State) (players : List Player) (entries : List Entry)
    (k : Nat) (token : String) (number : Int) (record : Nat) : Prop :=
  ∃ entry ∈ entries, entry.call = k ∧
    entry.before.chat? token number = some (s.chatAt record).contents ∧
    FoundBefore p players entry.time token number record

/-- All calls that have taken effect, in the order in which they do so from end to end. -/
structure Linearized (s₀ : State) (requests : List Request) (p : List (Turn Moment)) (s : State)
    (calls : List OutcomeCall) (players : List Player) (entries : List Entry) : Prop extends
    Pooled s₀ requests p s calls players where
  placed : Placed s₀ requests p players (entries.map Entry.toPoint)
  chained : Chained s₀.contents entries s.contents
  opened : ∀ k player token number record, players[k]? = some player →
    player.stage = .unlinked token number record → Open p s players entries k token number record
  overtaken : ∀ visitor deleter, Overtakes s₀ requests p visitor deleter →
    [visitor, deleter].Sublist (entries.map (·.call))

/-! ## turns -/

theorem Open.mono (h : Open p s players entries k token number record)
    (hpassed : ∀ entry ∈ entries, entry.time < p.length)
    (hacts : Acts turn.input s player.stage s' stage)
    (hentries : ∀ entry ∈ entries, entry ∈ entries')
    (hchat : s'.chatAt record = s.chatAt record)
    (hgone : ¬LinkedAt s token number record) :
    Open (p ++ [turn]) s' (players.set turn.call ⟨player.request, stage⟩) entries' k token number
      record := by
  obtain ⟨entry, hentry, hcall, hbefore, hguests⟩ := h
  refine ⟨entry, hentries entry hentry, hcall, hchat ▸ hbefore,
    hguests.acts (Nat.le_of_lt (hpassed entry hentry)) ?_⟩
  rintro rfl
  exact hgone hacts.found_linked.2

section Acts

variable (h : Linearized s₀ requests p s calls players entries)
  (hplayer : players[turn.call]? = some player)
  (hacts : Acts turn.input s player.stage (turn.run s calls).1 stage)
  (hplays : List.Forall₂ Player.Plays (players.set turn.call ⟨player.request, stage⟩)
    (turn.run s calls).2)
  (hquiet : Undisturbing players player)
include h hplayer hacts hquiet

theorem Linearized.opened_acts (hentries : ∀ entry ∈ entries, entry ∈ entries')
    (hnew : ∀ token number record, stage = .unlinked token number record →
      Open (p ++ [turn]) (turn.run s calls).1 (players.set turn.call ⟨player.request, stage⟩)
        entries' turn.call token number record) :
    ∀ k player' token number record,
      (players.set turn.call ⟨player.request, stage⟩)[k]? = some player' →
      player'.stage = .unlinked token number record →
      Open (p ++ [turn]) (turn.run s calls).1 (players.set turn.call ⟨player.request, stage⟩)
        entries' k token number record := by
  intro k player' token number record hplayer' hstage
  obtain ⟨rfl, rfl⟩ | ⟨hne, hplayer'⟩ := getElem?_set_cases hplayer'
  · exact hnew token number record hstage
  · obtain ⟨⟨chat, hchat, -⟩, hgone⟩ := h.unlinked hplayer' hstage
    refine (h.opened k player' token number record hplayer' hstage).mono ?_ hacts hentries ?_
      (hgone token number)
    · exact fun entry hentry => (h.placed.during _ (List.mem_map_of_mem hentry)).passed
    · refine hacts.chatAt_eq (h.grounded.given record chat hchat) ?_ ?_
      · intro token' number' hfound
        exact hquiet token' number' record hfound k player' token number hplayer' hstage
      · intro token' number' hsame
        exact hne (h.sole hplayer' hstage hplayer hsame)

omit hacts in
theorem Linearized.overtaken_acts
    (hentries : (entries.map (·.call)).Sublist (entries'.map (·.call))) (visitor deleter : Nat)
    (hovertakes : Overtakes s₀ requests (p ++ [turn]) visitor deleter) :
    [visitor, deleter].Sublist (entries'.map (·.call)) := by
  obtain hold | ⟨rfl, player', other, token, number, token', number', record, hplayer', hstage,
    hother, hstage'⟩ := h.toPooled.overtakes_cases hovertakes
  · exact (h.overtaken visitor deleter hold).trans hentries
  · rw [hplayer] at hplayer'
    cases hplayer'
    exact absurd hstage' (hquiet token number record hstage deleter other token' number' hother)

include hplays

/-- A turn in which no call takes effect. -/
theorem Linearized.quiet (hsame : stage.effect? = player.stage.effect?)
    (hnew : ∀ token number record, stage ≠ .unlinked token number record)
    (hcontents : (turn.run s calls).1.contents = s.contents) :
    Linearized s₀ requests (p ++ [turn]) (turn.run s calls).1 (turn.run s calls).2
      (players.set turn.call ⟨player.request, stage⟩) entries where
  toPooled := h.toPooled.acts hplayer hacts hplays
  placed := h.placed.quiet hplayer hsame
  chained := hcontents ▸ h.chained
  opened := h.opened_acts hplayer hacts hquiet (fun _ hentry => hentry)
    fun token number record heq => absurd heq (hnew token number record)
  overtaken := h.overtaken_acts hplayer hquiet (List.Sublist.refl _)

/-- A turn in which a call takes effect on the contents as they are. -/
theorem Linearized.append {outcome : Outcome} {moment : Moment}
    (hnone : player.stage.effect? = none) (hsome : stage.effect? = some outcome)
    (hread : ⟨turn.call, moment⟩ ∈ p ++ [turn])
    (hdoes : Does moment.token s.contents outcome (turn.run s calls).1.contents)
    (hnew : ∀ token number record, stage = .unlinked token number record →
      LinkedAt s token number record ∧ (turn.run s calls).1.chatAt record = s.chatAt record) :
    Linearized s₀ requests (p ++ [turn]) (turn.run s calls).1 (turn.run s calls).2
      (players.set turn.call ⟨player.request, stage⟩)
      (entries ++ [⟨⟨turn.call, moment, outcome, p.length⟩, s.contents⟩]) where
  toPooled := h.toPooled.acts hplayer hacts hplays
  placed := by
    have hpending : ¬Returned s₀ (start requests) p turn.call :=
      h.not_returned hplayer fun outcome heq => by simp [heq, Stage.effect?] at hnone
    have hplaced : Placed s₀ requests p players (entries.map Entry.toPoint ++ []) := by
      simpa using h.placed
    rw [List.map_append]
    refine hplaced.insert hplayer hnone rfl hsome hread ?_ (by simp) (during_last hpending)
    exact fun other hother => Nat.le_of_lt (h.placed.during other hother).passed
  chained := h.chained.append hdoes
  opened := by
    refine h.opened_acts hplayer hacts hquiet (fun _ hentry => List.mem_append_left _ hentry) ?_
    intro token number record hstage
    obtain ⟨hlink, hchat⟩ := hnew token number record hstage
    refine ⟨_, List.mem_append_right _ (List.mem_singleton.mpr rfl), rfl, ?_, ?_⟩
    · rw [hchat]
      exact chat?_contents_of_link hlink
    · intro k' player' hplayer' hfound
      rw [List.take_left' rfl]
      obtain ⟨rfl, rfl⟩ | ⟨-, hplayer'⟩ := getElem?_set_cases hplayer'
      · simp [hstage] at hfound
      · by_contra hbegun
        have htodo := (h.scheduled.begun k' player' hplayer').mpr hbegun
        simp [hfound] at htodo
  overtaken := h.overtaken_acts hplayer hquiet (by simp)

end Acts

section Insert

variable {before after : List Entry} {chat chat' : ChatRecord} {outcome : Outcome} {deleter : Nat}
  {other : Player} (h : Linearized s₀ requests p s calls players (before ++ entry :: after))
  (hplayer : players[turn.call]? = some player)
  (hstage : player.stage = .found token number record)
  (hrevised : Revised record chat' s s') (hother : players[deleter]? = some other)
  (hunlinked : other.stage = .unlinked token number record) (hcall : entry.call = deleter)
include h hother hunlinked hcall

theorem Linearized.outcome_of_unlinked :
    entry.outcome = .of (.deleteChat token number) (.ok ()) := by
  have hpoint : entry.toPoint ∈ (before ++ entry :: after).map Entry.toPoint :=
    List.mem_map_of_mem (by simp)
  have heffect := (h.placed.effects deleter other entry.outcome hother).mpr ⟨_, hpoint, hcall, rfl⟩
  rw [hunlinked] at heffect
  exact (Option.some.inj heffect).symm

include hrevised in
/-- After a visit, the deletion is open to further visits, and others are as they were. -/
theorem Linearized.opened_insert
    (hbefore : entry.before.chat? token number = some (s.chatAt record).contents)
    (hguests : FoundBefore p players entry.time token number record) (request : Request) :
    ∀ k player token' number' record',
      (players.set turn.call ⟨request, .finished outcome⟩)[k]? = some player →
      player.stage = .unlinked token' number' record' →
      Open (p ++ [turn]) s' (players.set turn.call ⟨request, .finished outcome⟩)
        (before ++ entry.visitor turn outcome :: entry.visited token number chat'.contents :: after)
        k token' number' record' := by
  intro k player token' number' record' hplayer hstage
  obtain ⟨rfl, rfl⟩ | ⟨-, hplayer⟩ := getElem?_set_cases hplayer
  · simp at hstage
  by_cases hk : k = deleter
  · subst hk
    rw [hother] at hplayer
    cases hplayer
    rw [hunlinked] at hstage
    obtain ⟨rfl, rfl, rfl⟩ := Stage.unlinked.inj hstage
    have hpassed := (h.placed.during _ (List.mem_map_of_mem (by simp : entry ∈ _))).passed
    refine ⟨entry.visited token number chat'.contents, by simp, hcall, ?_,
      hguests.acts (Nat.le_of_lt hpassed) (by simp)⟩
    rw [hrevised.here]
    exact Contents.chat?_setChat hbefore chat'.contents
  · obtain ⟨entry', hentry', hcall', hbefore', hguests'⟩ :=
      h.opened k player token' number' record' hplayer hstage
    have hpassed := (h.placed.during _ (List.mem_map_of_mem hentry')).passed
    have hrecord : record' ≠ record := fun heq =>
      hk (h.sole hplayer (heq ▸ hstage) hother hunlinked)
    have hne : entry' ≠ entry := fun heq => hk (hcall'.symm.trans (heq ▸ hcall))
    refine ⟨entry', ?_, hcall', ?_, hguests'.acts (Nat.le_of_lt hpassed) (by simp)⟩
    · have hentry' : entry' ∈ before ∨ entry' ∈ after := by simpa [hne] using hentry'
      simp only [List.mem_append, List.mem_cons]
      tauto
    · rw [hrevised.others record' hrecord]
      exact hbefore'

include hplayer hstage in
theorem Linearized.overtaken_insert {chat : ChatContents} (visitor deleter' : Nat)
    (hovertakes : Overtakes s₀ requests (p ++ [turn]) visitor deleter') :
    [visitor, deleter'].Sublist ((before ++ entry.visitor turn outcome ::
      entry.visited token number chat :: after).map (·.call)) := by
  obtain hold | ⟨rfl, player', other', token₁, number₁, token₂, number₂, record', hplayer',
    hstage₁, hother', hstage₂⟩ := h.toPooled.overtakes_cases hovertakes
  · refine (h.overtaken visitor deleter' hold).trans ?_
    simp [Entry.visited]
  · rw [hplayer] at hplayer'
    cases hplayer'
    rw [hstage] at hstage₁
    obtain ⟨rfl, rfl, rfl⟩ := Stage.found.inj hstage₁
    obtain rfl := h.sole hother hunlinked hother' hstage₂
    rw [← hcall]
    simp [Entry.visitor, Entry.visited]

end Insert

/-- A turn in which a call takes effect that has found the record of a chat whose link is gone: it
is entered before the deletion that took the link. -/
theorem Linearized.insert {chat chat' : ChatRecord} {outcome : Outcome} {deleter : Nat}
    {other : Player} (h : Linearized s₀ requests p s calls players entries)
    (hplayer : players[turn.call]? = some player)
    (hacts : Acts turn.input s player.stage (turn.run s calls).1 (.finished outcome))
    (hplays : List.Forall₂ Player.Plays (players.set turn.call ⟨player.request, .finished outcome⟩)
      (turn.run s calls).2)
    (hstage : player.stage = .found token number record)
    (hchat : Keyed.get? record s.chats = some chat)
    (hrevised : Revised record chat' s (turn.run s calls).1)
    (hdoes : ∀ fresh c, c.chat? token number = some chat.contents →
      Does fresh c outcome (c.setChat token number chat'.contents))
    (hother : players[deleter]? = some other)
    (hunlinked : other.stage = .unlinked token number record) :
    ∃ entries', Linearized s₀ requests (p ++ [turn]) (turn.run s calls).1 (turn.run s calls).2
      (players.set turn.call ⟨player.request, .finished outcome⟩) entries' := by
  obtain ⟨entry, hentry, hcall, hbefore, hguests⟩ :=
    h.opened deleter other token number record hother hunlinked
  have hduring := h.placed.during _ (List.mem_map_of_mem hentry)
  have hpending : ¬Returned s₀ (start requests) p turn.call :=
    h.not_returned hplayer fun outcome heq => by simp [hstage] at heq
  have hbegun : Begun (p.take entry.time) turn.call := hguests turn.call player hplayer hstage
  obtain ⟨before, after, rfl⟩ := List.append_of_mem hentry
  refine ⟨before ++ entry.visitor turn outcome ::
      entry.visited token number chat'.contents :: after,
    { toPooled := h.toPooled.acts hplayer hacts hplays
      placed := h.placed.insertBefore hplayer (by simp [hstage, Stage.effect?])
        (during_earlier hduring.passed hbegun hpending).append_singleton
      chained := ?_
      opened := h.opened_insert hrevised hother hunlinked hcall hbefore hguests player.request
      overtaken := h.overtaken_insert hplayer hstage hother hunlinked hcall }⟩
  have hat : s.chatAt record = chat := by rw [State.chatAt, hchat, Option.getD_some]
  have hcontents : (turn.run s calls).1.contents = s.contents :=
    h.grounded.toLinkage.contents_of_unlinked hrevised.applications hrevised.others
      (h.unlinked hother hunlinked).2
  rw [hcontents]
  exact h.chained.insert (h.outcome_of_unlinked hother hunlinked hcall) hbefore
    (hdoes _ _ (hat ▸ hbefore))

/-- A turn in which nothing happens. -/
theorem Linearized.rest (h : Linearized s₀ requests p s calls players entries)
    (hrun : turn.run s calls = (s, calls))
    (hrest : ∀ player, players[turn.call]? = some player →
      ∃ outcome, player.stage = .finished outcome) :
    Linearized s₀ requests (p ++ [turn]) s calls players entries where
  toPooled := h.toPooled.rest hrun hrest
  placed := h.placed.rest
  chained := h.chained
  opened k player token number record hplayer hstage := by
    obtain ⟨entry, hentry, hcall, hbefore, hguests⟩ :=
      h.opened k player token number record hplayer hstage
    have hpassed := (h.placed.during _ (List.mem_map_of_mem hentry)).passed
    refine ⟨entry, hentry, hcall, hbefore, fun k' player' hplayer' hfound => ?_⟩
    rw [List.take_append_of_le_length (Nat.le_of_lt hpassed)]
    exact hguests k' player' hplayer' hfound
  overtaken visitor deleter hovertakes := by
    obtain hold | ⟨-, player, other, token, number, token', number', record, hplayer, hstage, -⟩ :=
      h.toPooled.overtakes_cases hovertakes
    · exact h.overtaken visitor deleter hold
    · obtain ⟨outcome, hfinished⟩ := hrest player hplayer
      simp [hfinished] at hstage

section Found

variable {outcome : Outcome} (h : Linearized s₀ requests p s calls players entries)
  (hplayer : players[turn.call]? = some player)
  (hstage : player.stage = .found token number record)
  (hacts : Acts turn.input s player.stage (turn.run s calls).1 (.finished outcome))
  (hplays : List.Forall₂ Player.Plays (players.set turn.call ⟨player.request, .finished outcome⟩)
    (turn.run s calls).2)
include h hplayer hstage hacts hplays

/-- A turn in which a call finds the chat deleted whose record it had found. -/
theorem Linearized.miss (hsame : (turn.run s calls).1 = s)
    (hgone : ∀ chat, Keyed.get? record s.chats = some chat → chat.deleted = true)
    (hdoes : Linkage s → (∃ found, Keyed.get? token s.applications = some found) →
      s.contents.chat? token number = none → ∀ fresh, Does fresh s.contents outcome s.contents) :
    ∃ entries', Linearized s₀ requests (p ++ [turn]) (turn.run s calls).1 (turn.run s calls).2
      (players.set turn.call ⟨player.request, .finished outcome⟩) entries' := by
  have hclaimed := h.claimed player (List.mem_of_getElem? hplayer) token number record hstage
  obtain ⟨found, hfound, -⟩ := hclaimed.known
  have hmarked : ¬HasRecord s record false := by
    rintro ⟨chat, hchat, hlive⟩
    simp [hgone chat hchat] at hlive
  refine ⟨_, h.append hplayer hacts hplays (h.toPooled.undisturbing hstage (.inr hmarked))
    (by simp [hstage, Stage.effect?]) rfl List.mem_concat_self ?_ (by simp)⟩
  rw [hsame]
  exact hdoes h.grounded.toLinkage ⟨found, hfound⟩ (h.chat?_of_gone hplayer hstage hgone) _

/-- A turn in which a call takes effect on a chat whose record it had found: it comes last if the
chat is still linked, and before the deletion otherwise. -/
theorem Linearized.visit {chat chat' : ChatRecord} (hchat : Keyed.get? record s.chats = some chat)
    (hlive : chat.deleted = false) (hrevised : Revised record chat' s (turn.run s calls).1)
    (hdoes : ∀ fresh c, c.chat? token number = some chat.contents →
      Does fresh c outcome (c.setChat token number chat'.contents)) :
    ∃ entries', Linearized s₀ requests (p ++ [turn]) (turn.run s calls).1 (turn.run s calls).2
      (players.set turn.call ⟨player.request, .finished outcome⟩) entries' := by
  have hat : s.chatAt record = chat := by rw [State.chatAt, hchat, Option.getD_some]
  obtain hlink | ⟨chat'', hchat'', hdeleted⟩ | ⟨deleter, other, hother, hunlinked⟩ :=
    h.fate hplayer hstage
  · refine ⟨_, h.append hplayer hacts hplays (h.toPooled.undisturbing hstage (.inl hlink))
      (by simp [hstage, Stage.effect?]) rfl List.mem_concat_self ?_ (by simp)⟩
    rw [h.grounded.toLinkage.contents_eq_setChat hrevised.applications hrevised.others hlink,
      hrevised.here]
    exact hdoes _ _ (hat ▸ chat?_contents_of_link hlink)
  · rw [hchat] at hchat''
    cases hchat''
    simp [hlive] at hdeleted
  · exact h.insert hplayer hacts hplays hstage hchat hrevised hdoes hother hunlinked

end Found

/-- **A section keeps the order or extends it**, whatever it does. -/
theorem Linearized.acts {stage₀ : Stage} (h : Linearized s₀ requests p s calls players entries)
    (hplayer : players[turn.call]? = some player) (hstage : player.stage = stage₀)
    (hs' : (turn.run s calls).1 = s') (hacts : Acts turn.input s stage₀ s' stage)
    (hplays : List.Forall₂ Player.Plays (players.set turn.call ⟨player.request, stage⟩)
      (turn.run s calls).2) :
    ∃ players' entries', Linearized s₀ requests (p ++ [turn]) (turn.run s calls).1
      (turn.run s calls).2 players' entries' := by
  have hacts' : Acts turn.input s player.stage (turn.run s calls).1 stage := by
    rw [hstage, hs']
    exact hacts
  have hquiet : (∀ token number record, stage₀ ≠ .found token number record) →
      Undisturbing players player := fun hne => undisturbing_of_ne (hstage ▸ hne)
  cases hacts with
  | wait =>
      exact ⟨_, _, h.quiet hplayer hacts' hplays (hquiet (by simp))
        (by simp [hstage, Stage.effect?]) (by simp) (by rw [hs'])⟩
  | make hname =>
      exact ⟨_, _, h.quiet hplayer hacts' hplays (hquiet (by simp))
        (by simp [hstage, Stage.effect?]) (by simp) (by rw [hs']; rfl)⟩
  | find hfound hlink =>
      exact ⟨_, _, h.quiet hplayer hacts' hplays (hquiet (by simp))
        (by simp [hstage, Stage.effect?]) (by simp) (by rw [hs'])⟩
  | @mark token number record =>
      have hgone := (h.unlinked hplayer hstage).2
      refine ⟨_, _, h.quiet hplayer hacts' hplays (hquiet (by simp))
        (by simp [hstage, Stage.effect?]) (by simp) ?_⟩
      rw [hs']
      refine h.grounded.toLinkage.contents_of_unlinked rfl (fun other hother => ?_) hgone
      unfold State.chatAt
      rw [get?_chats_mark, if_neg (Ne.symm hother)]
  | @enter application _ outcome hmove hdoes =>
      obtain ⟨turn', hturn', hcall, htoken⟩ :=
        h.scheduled.made turn.call player application hplayer hstage
      have hread : (⟨turn.call, turn'.input⟩ : Turn Moment) ∈ p ++ [turn] :=
        List.mem_append_left _ (hcall ▸ hturn')
      exact ⟨_, _, h.append hplayer hacts' hplays (hquiet (by simp))
        (by simp [hstage, Stage.effect?]) rfl hread (by rw [hs', htoken]; exact hdoes) (by simp)⟩
  | answer hready hmove hdoes =>
      have hnone : player.stage.effect? = none := by
        obtain rfl | rfl := hready <;> rw [hstage] <;> rfl
      refine ⟨_, _, h.append hplayer hacts' hplays (hquiet ?_) hnone rfl List.mem_concat_self
        (by rw [hs']; exact hdoes h.grounded.toLinkage _) (by simp)⟩
      obtain rfl | rfl := hready <;> simp
  | @unlink token number count record found hfound hlink hcount =>
      refine ⟨_, _, h.append hplayer hacts' hplays (hquiet (by simp))
        (by simp [hstage, Stage.effect?]) rfl List.mem_concat_self ?_ ?_⟩
      · rw [hs']
        exact does_unlink _ hfound hlink hcount h.grounded.toLinkage
      · intro token' number' record' heq
        obtain ⟨rfl, rfl, rfl⟩ := Stage.unlinked.inj heq
        exact ⟨⟨found, hfound, hlink⟩, by rw [hs']; rfl⟩
  | miss hmove hgone hdoes =>
      obtain ⟨entries', hentries'⟩ := h.miss hplayer hstage hacts' hplays hs' hgone hdoes
      exact ⟨_, entries', hentries'⟩
  | visit hmove hchat hlive hrevised hdoes =>
      obtain ⟨entries', hentries'⟩ :=
        h.visit hplayer hstage hacts' hplays hchat hlive (hs' ▸ hrevised) hdoes
      exact ⟨_, entries', hentries'⟩

theorem Linearized.next (h : Linearized s₀ requests p s calls players entries)
    (turn : Turn Moment) :
    ∃ players' entries', Linearized s₀ requests (p ++ [turn]) (turn.run s calls).1
      (turn.run s calls).2 players' entries' := by
  obtain ⟨hrun, hrest⟩ | ⟨player, stage, hplayer, hacts, hplays⟩ := run_plays turn s h.plays
  · rw [hrun]
    exact ⟨players, entries, h.rest hrun hrest⟩
  · exact h.acts hplayer rfl rfl hacts hplays

theorem linearized_start (h : Linkage s₀)
    (hplain : ∀ request ∈ requests, TakesEffectAtOnce request.2) :
    Linearized s₀ requests [] s₀ (start requests) (requests.map (⟨·, .todo⟩)) [] where
  toPooled := pooled_start h hplain
  placed :=
    { once := .nil, known := by simp, read := by simp, sorted := .nil, during := by simp
      effects := fun k player outcome hplayer => by
        simp [stage_start (List.mem_of_getElem? hplayer), Stage.effect?] }
  chained := rfl
  opened k player token number record hplayer hstage := by
    simp [stage_start (List.mem_of_getElem? hplayer)] at hstage
  overtaken visitor deleter hovertakes := by
    obtain ⟨-, -, earlier, turn, record, hearlier, -⟩ := hovertakes
    simp at hearlier

/-- **There is an order for every schedule.** -/
theorem exists_linearized (h : Linkage s₀)
    (hplain : ∀ request ∈ requests, TakesEffectAtOnce request.2) (schedule : List (Turn Moment)) :
    ∃ players entries, Linearized s₀ requests schedule
      (runSchedule schedule s₀ (start requests)).1 (runSchedule schedule s₀ (start requests)).2
      players entries := by
  have hall : ∀ (rest p : List (Turn Moment)) s calls players entries,
      Linearized s₀ requests p s calls players entries →
      ∃ s calls players entries, Linearized s₀ requests (p ++ rest) s calls players entries := by
    intro rest
    induction rest with
    | nil =>
        intro p s calls players entries h
        exact ⟨s, calls, players, entries, by simpa using h⟩
    | cons turn rest ih =>
        intro p s calls players entries h
        obtain ⟨players', entries', hnext⟩ := h.next turn
        simpa using ih _ _ _ _ _ hnext
  obtain ⟨s, calls, players, entries, hlast⟩ := hall schedule _ _ _ _ _ (linearized_start h hplain)
  have hrun : runSchedule schedule s₀ (start requests) = (s, calls) := hlast.run
  rw [hrun]
  exact ⟨players, entries, hlast⟩

/-- A call that has returned has its entry. -/
theorem Linearized.entry_of_done (h : Linearized s₀ requests p s calls players entries)
    {outcome : Outcome} (hdone : calls[k]? = some (.done outcome)) (hbegun : Begun p k) :
    ∃ entry ∈ entries, entry.call = k ∧ entry.outcome = outcome := by
  obtain ⟨player, hplayer, hplays⟩ := exists_of_forall₂_getElem? h.plays hdone
  have heffect : player.stage.effect? = some outcome := by
    have hends := hplays.2
    cases hstage : player.stage with
    | todo => exact absurd hbegun ((h.scheduled.begun k player hplayer).mp hstage)
    | finished outcome' =>
        rw [hstage] at hends
        exact congrArg some hends
    | _ => simp [hstage] at hends
  obtain ⟨point, hpoint, hcall, houtcome⟩ := (h.placed.effects k player outcome hplayer).mp heffect
  obtain ⟨entry, hentry, rfl⟩ := List.mem_map.mp hpoint
  exact ⟨entry, hentry, hcall, houtcome⟩

/-- An entry is one of a request. -/
theorem Linearized.requestOf_entry (h : Linearized s₀ requests p s calls players entries)
    (hentry : entry ∈ entries) : requests[entry.call]? = some (requestOf entry.outcome) := by
  have hpoint : entry.toPoint ∈ entries.map Entry.toPoint := List.mem_map_of_mem hentry
  have hplayer := List.getElem?_eq_getElem (h.placed.known _ hpoint)
  have heffect := (h.placed.effects _ _ entry.outcome hplayer).mpr ⟨_, hpoint, rfl, rfl⟩
  obtain ⟨call, -, hplays⟩ := exists_of_forall₂_getElem? h.plays.flip hplayer
  rw [← h.asked, List.getElem?_map, hplayer, Player.Plays.requestOf_effect hplays heffect]
  rfl

/-! ## calls from end to end -/

section Sequential

variable {α : Type} {operation : Operation α}

/-- **A call that runs from end to end does to the contents what its operation does.** -/
theorem does_perform (h : Linkage s) (hplain : TakesEffectAtOnce operation) (m : Moment) :
    Does m.token s.contents (.of operation (perform m operation s).2)
      (perform m operation s).1.contents := by
  obtain ⟨n, hrun⟩ := ((call operation).map (Outcome.of operation)).exists_runSchedule m s
  rw [Call.run_map] at hrun
  have hone : ∀ request ∈ [(⟨α, operation⟩ : Request)], TakesEffectAtOnce request.2 := by
    simpa using hplain
  obtain ⟨players, entries, hlast⟩ := exists_linearized h hone (List.replicate (n + 1) ⟨0, m⟩)
  have hstart : start [⟨α, operation⟩] = [(call operation).map (Outcome.of operation)] := rfl
  rw [hstart, hrun] at hlast
  have hdone : [Call.done (Outcome.of operation (perform m operation s).2)][0]? =
    some (Call.done (σ := State) (ι := Moment) (κ := Lock) (Outcome.of operation
      (perform m operation s).2)) := rfl
  obtain ⟨entry, hentry, hcall, houtcome⟩ := hlast.entry_of_done hdone ⟨_, List.mem_cons_self, rfl⟩
  have hzero : ∀ other ∈ entries, other.call = 0 := fun other hother => by
    have hknown := (List.getElem?_eq_some_iff.mp (hlast.requestOf_entry hother)).1
    simpa using hknown
  have hmoment : entry.moment = m := by
    have hread := hlast.placed.read _ (List.mem_map_of_mem hentry)
    exact congrArg Turn.input (List.eq_of_mem_replicate hread)
  have hsingle : entries = [entry] := by
    cases entries with
    | nil => contradiction
    | cons first rest =>
        have honce := List.nodup_cons.mp hlast.placed.once
        have hrest : rest = [] := List.eq_nil_iff_forall_not_mem.mpr fun other hother => by
          have hsame : other.call = first.call :=
            (hzero other (by simp [hother])).trans (hzero first (by simp)).symm
          exact honce.1 (List.mem_map.mpr ⟨other.toPoint, List.mem_map_of_mem hother, hsame⟩)
        subst hrest
        rw [List.mem_singleton.mp hentry]
  have hchained := hlast.chained
  rw [hsingle] at hchained
  obtain ⟨-, next, hdoes, hnext⟩ := hchained
  rw [hmoment, houtcome] at hdoes
  exact hnext ▸ hdoes

end Sequential

/-- Performs requests one after the other, each from end to end, in the order of some turns. -/
def performInOrder (requests : List Request) : List (Turn Moment) → State → List (Nat × Outcome)
  | [], _ => []
  | turn :: order, s =>
    match requests[turn.call]? with
    | none => performInOrder requests order s
    | some ⟨_, operation⟩ =>
      let (s', answer) := perform turn.input operation s
      (turn.call, .of operation answer) :: performInOrder requests order s'

/-- The turn that an entry stands for. -/
def Entry.ownTurn (entry : Entry) : Turn Moment := ⟨entry.call, entry.moment⟩

/-- Entries say what calls answer that run from end to end. -/
theorem Chained.performInOrder (h : Chained s.contents entries c') (hlinkage : Linkage s)
    (hplain : ∀ request ∈ requests, TakesEffectAtOnce request.2)
    (hentries : ∀ entry ∈ entries, requests[entry.call]? = some (requestOf entry.outcome)) :
    (performInOrder requests (entries.map Entry.ownTurn) s).map
        (fun done => (done.1, done.2.bare)) =
      entries.map fun entry => (entry.call, entry.outcome.bare) := by
  induction entries generalizing s with
  | nil => rfl
  | cons entry entries ih =>
      obtain ⟨⟨k, moment, ⟨operation, answer⟩, time⟩, before⟩ := entry
      obtain ⟨-, next, hdoes, hrest⟩ := h
      have hrequest : requests[k]? = some ⟨_, operation⟩ := hentries _ List.mem_cons_self
      have hsame :=
        (does_perform hlinkage (hplain _ (List.mem_of_getElem? hrequest)) moment).symm.trans hdoes
      obtain ⟨hcontents, hanswer⟩ := Prod.mk.inj (Option.some.inj hsame)
      rw [← hcontents] at hrest
      have hnext := ih hrest (hlinkage.perform operation) fun entry hentry =>
        hentries entry (List.mem_cons_of_mem _ hentry)
      simp only [List.map_cons, Entry.ownTurn, Memory.performInOrder, hrequest, Outcome.bare,
        hanswer]
      exact congrArg _ hnext

/-- **An order of calls that explains a schedule.**  It has one turn for each call that it contains,
and this is a turn that the call has had; no call comes before one that returned before it began;
and the calls that have returned have answered as they do when all are run from end to end in this
order, up to internal ids and timestamps.  What overtakes the marking of a deleted chat comes before
the deletion. -/
structure Linearizes (requests : List Request) (schedule order : List (Turn Moment)) : Prop where
  once : (order.map (·.call)).Nodup
  own : ∀ turn ∈ order, turn ∈ schedule
  realTime : order.Pairwise fun turn turn' =>
    ¬Precedes .empty (start requests) schedule turn'.call turn.call
  answers : ∀ k outcome, Begun schedule k →
    (runSchedule schedule .empty (start requests)).2[k]? = some (.done outcome) →
    ∃ outcome', (k, outcome') ∈ performInOrder requests order .empty ∧ outcome'.bare = outcome.bare
  overtaken : ∀ visitor deleter, Overtakes .empty requests schedule visitor deleter →
    [visitor, deleter].Sublist (order.map (·.call))

/-- **The store in memory is linearizable.**  However the sections of any calls interleave that take
effect at once, there is one order of the calls that have returned, and of some that have not, that
explains their answers. -/
theorem runSchedule_linearizable (requests : List Request)
    (hplain : ∀ request ∈ requests, TakesEffectAtOnce request.2) (schedule : List (Turn Moment)) :
    ∃ order, Linearizes requests schedule order := by
  obtain ⟨players, entries, h⟩ := exists_linearized linkage_empty hplain schedule
  have hanswers := h.chained.performInOrder linkage_empty hplain fun entry => h.requestOf_entry
  refine ⟨entries.map Entry.ownTurn,
    { once := by simpa [Entry.ownTurn, Function.comp_def] using h.placed.once
      own := ?_
      realTime := ?_
      answers := fun k outcome hbegun hdone => ?_
      overtaken := fun visitor deleter hovertakes => by
        simpa [Entry.ownTurn, Function.comp_def] using h.overtaken visitor deleter hovertakes }⟩
  · intro turn hturn
    obtain ⟨entry, hentry, rfl⟩ := List.mem_map.mp hturn
    exact h.placed.read _ (List.mem_map_of_mem hentry)
  · have hsorted := List.pairwise_map.mp h.placed.sorted
    refine List.pairwise_map.mpr (hsorted.imp_of_mem fun hentry hentry' hle => ?_)
    exact (h.placed.during _ (List.mem_map_of_mem hentry)).not_precedes
      (h.placed.during _ (List.mem_map_of_mem hentry')) hle
  · obtain ⟨entry, hentry, rfl, rfl⟩ := h.entry_of_done hdone hbegun
    have hmem : (entry.call, entry.outcome.bare) ∈
        entries.map fun entry => (entry.call, entry.outcome.bare) :=
      List.mem_map_of_mem (f := fun entry : Entry => (entry.call, entry.outcome.bare)) hentry
    rw [← hanswers] at hmem
    obtain ⟨⟨k, outcome⟩, hdone', heq⟩ := List.mem_map.mp hmem
    obtain ⟨rfl, hbare⟩ := Prod.mk.inj heq
    exact ⟨outcome, hdone', hbare⟩

theorem linearizable_unlinkPostMark :
    (∀ request ∈ postWhileDeleting, TakesEffectAtOnce request.2) ∧
      Overtakes .empty postWhileDeleting unlinkPostMark 3 2 ∧
      ∃ order, Linearizes postWhileDeleting unlinkPostMark order := by
  have hplain : ∀ request ∈ postWhileDeleting, TakesEffectAtOnce request.2 := by
    simp [postWhileDeleting, TakesEffectAtOnce]
  refine ⟨hplain, ⟨⟨_, rfl, rfl⟩, ⟨_, rfl, rfl⟩, unlinkPostMark.take 8, ⟨3, ⟨.epoch, "t"⟩⟩, 2, ?_,
    rfl, by decide +kernel, by decide +kernel⟩, runSchedule_linearizable _ hplain _⟩
  exact ⟨[⟨2, ⟨.epoch, "t"⟩⟩], rfl⟩

end ChatService.Memory