import ChatService.Proofs.Memory.Players

/-!
# Calls in the order in which they take effect

Every call that has taken effect has a point in time, somewhere between its beginning and its end,
and an entry that says on which contents it did so.  A call is entered at the end, or before a
deletion: there it does to the chat what it has done to the record, and the deletion makes nothing
of it.
-/

namespace ChatService.Memory

open Store (Operation Outcome)

attribute [local irreducible] idText

variable {s₀ : State} {token : String} {number : Int} {turn : Turn Moment} {p : List (Turn Moment)}
  {players : List Player} {player : Player} {stage : Stage} {requests : List Request}

/-! ## points in time -/

/-- When a call takes effect, with what outcome, and what it reads then. -/
structure Point where
  call : Nat
  moment : Moment
  outcome : Outcome
  time : Nat

/-- Calls that have taken effect, each at a point in time of its own. -/
structure Placed (s₀ : State) (requests : List Request) (p : List (Turn Moment))
    (players : List Player) (points : List Point) : Prop where
  once : (points.map (·.call)).Nodup
  known : ∀ point ∈ points, point.call < players.length
  effects : ∀ k player outcome, players[k]? = some player →
    (player.stage.effect? = some outcome ↔
      ∃ point ∈ points, point.call = k ∧ point.outcome = outcome)
  read : ∀ point ∈ points, ⟨point.call, point.moment⟩ ∈ p
  sorted : points.Pairwise (·.time ≤ ·.time)
  during : ∀ point ∈ points, During s₀ (start requests) p point.call point.time

variable {points before after : List Point} {point : Point}

theorem Placed.rest (h : Placed s₀ requests p players points) :
    Placed s₀ requests (p ++ [turn]) players points where
  once := h.once
  known := h.known
  effects := h.effects
  read point hpoint := List.mem_append_left _ (h.read point hpoint)
  sorted := h.sorted
  during point hpoint := (h.during point hpoint).append_singleton

theorem Placed.quiet (h : Placed s₀ requests p players points)
    (hplayer : players[turn.call]? = some player) (hsame : stage.effect? = player.stage.effect?) :
    Placed s₀ requests (p ++ [turn]) (players.set turn.call ⟨player.request, stage⟩) points where
  once := h.once
  known := by simpa using h.known
  read := h.rest.read
  sorted := h.sorted
  during := h.rest.during
  effects k player' outcome hplayer' := by
    obtain ⟨rfl, rfl⟩ | ⟨-, hplayer'⟩ := getElem?_set_cases hplayer'
    · simpa only [hsame] using h.effects turn.call player outcome hplayer
    · exact h.effects k player' outcome hplayer'

/-- A call that has taken no effect yet has no point in time. -/
theorem Placed.call_ne (h : Placed s₀ requests p players points)
    (hplayer : players[turn.call]? = some player) (hnone : player.stage.effect? = none)
    (hpoint : point ∈ points) : point.call ≠ turn.call := by
  intro heq
  have heffect := (h.effects turn.call player point.outcome hplayer).mpr ⟨point, hpoint, heq, rfl⟩
  rw [hnone] at heffect
  contradiction

theorem mem_inserted_iff {other : Point} :
    other ∈ before ++ point :: after ↔ other = point ∨ other ∈ before ++ after :=
  List.perm_middle.mem_iff.trans List.mem_cons

section Insert

variable (h : Placed s₀ requests p players (before ++ after))
  (hplayer : players[turn.call]? = some player) (hnone : player.stage.effect? = none)
  (hcall : point.call = turn.call)
include h hplayer hnone hcall

theorem Placed.once_insert : ((before ++ point :: after).map (·.call)).Nodup := by
  have hperm : (before ++ point :: after).Perm (point :: (before ++ after)) := List.perm_middle
  refine (hperm.map (·.call)).nodup_iff.mpr (List.nodup_cons.mpr ⟨fun hin => ?_, h.once⟩)
  obtain ⟨other, hother, heq⟩ := List.mem_map.mp hin
  exact h.call_ne hplayer hnone hother (heq.trans hcall)

theorem Placed.effects_insert (hsome : stage.effect? = some point.outcome) (k : Nat)
    (player' : Player) (outcome : Outcome)
    (hplayer' : (players.set turn.call ⟨player.request, stage⟩)[k]? = some player') :
    player'.stage.effect? = some outcome ↔
      ∃ other ∈ before ++ point :: after, other.call = k ∧ other.outcome = outcome := by
  obtain ⟨rfl, rfl⟩ | ⟨hne, hplayer'⟩ := getElem?_set_cases hplayer'
  · rw [hsome]
    constructor
    · intro heq
      exact ⟨point, mem_inserted_iff.mpr (.inl rfl), hcall, Option.some.inj heq⟩
    · intro ⟨other, hother, heq, houtcome⟩
      obtain rfl | hother := mem_inserted_iff.mp hother
      · rw [houtcome]
      · exact absurd heq (h.call_ne hplayer hnone hother)
  · rw [h.effects k player' outcome hplayer']
    constructor
    · intro ⟨other, hother, heq⟩
      exact ⟨other, mem_inserted_iff.mpr (.inr hother), heq⟩
    · intro ⟨other, hother, heq, houtcome⟩
      obtain rfl | hother := mem_inserted_iff.mp hother
      · exact absurd (heq.symm.trans hcall) hne
      · exact ⟨other, hother, heq, houtcome⟩

/-- A call takes effect, at a point in time that falls in its course. -/
theorem Placed.insert (hsome : stage.effect? = some point.outcome)
    (hread : ⟨point.call, point.moment⟩ ∈ p ++ [turn])
    (hbefore : ∀ other ∈ before, other.time ≤ point.time)
    (hafter : ∀ other ∈ after, point.time ≤ other.time)
    (hduring : During s₀ (start requests) (p ++ [turn]) point.call point.time) :
    Placed s₀ requests (p ++ [turn]) (players.set turn.call ⟨player.request, stage⟩)
      (before ++ point :: after) where
  once := h.once_insert hplayer hnone hcall
  known other hother := by
    rw [List.length_set]
    obtain rfl | hother := mem_inserted_iff.mp hother
    · rw [hcall]
      exact (List.getElem?_eq_some_iff.mp hplayer).1
    · exact h.known other hother
  effects := h.effects_insert hplayer hnone hcall hsome
  read other hother := by
    obtain rfl | hother := mem_inserted_iff.mp hother
    · exact hread
    · exact List.mem_append_left _ (h.read other hother)
  sorted := by
    obtain ⟨hleft, hright, hacross⟩ := List.pairwise_append.mp h.sorted
    refine List.pairwise_append.mpr ⟨hleft, List.pairwise_cons.mpr ⟨hafter, hright⟩, ?_⟩
    intro other hother later hlater
    obtain rfl | hlater := List.mem_cons.mp hlater
    · exact hbefore other hother
    · exact hacross other hother later hlater
  during other hother := by
    obtain rfl | hother := mem_inserted_iff.mp hother
    · exact hduring
    · exact (h.during other hother).append_singleton

end Insert

/-! ## entries -/

/-- A call that has taken effect, with the contents that it takes effect on. -/
structure Entry extends Point where
  before : Contents

/-- Entries lead from contents to contents when each takes effect on what the one before it has
left. -/
def Chained : Contents → List Entry → Contents → Prop
  | c, [], c' => c = c'
  | c, entry :: entries, c' =>
    entry.before = c ∧ ∃ next, Does entry.moment.token c entry.outcome next ∧
      Chained next entries c'

/-- The entry of a call that takes effect right before another one. -/
def Entry.visitor (entry : Entry) (turn : Turn Moment) (outcome : Outcome) : Entry :=
  ⟨⟨turn.call, turn.input, outcome, entry.time⟩, entry.before⟩

/-- The entry of a call that takes effect after a chat has been visited. -/
def Entry.visited (entry : Entry) (token : String) (number : Int) (chat : ChatContents) : Entry :=
  { entry with before := entry.before.setChat token number chat }

variable {c c' : Contents} {entries entries' : List Entry} {entry : Entry}

theorem chained_append : Chained c (entries ++ entries') c' ↔
    ∃ next, Chained c entries next ∧ Chained next entries' c' := by
  induction entries generalizing c with
  | nil => simp [Chained]
  | cons entry entries ih =>
      simp only [List.cons_append, Chained, ih]
      constructor
      · intro ⟨hbefore, next, hdoes, last, hfirst, hlast⟩
        exact ⟨last, ⟨hbefore, next, hdoes, hfirst⟩, hlast⟩
      · intro ⟨last, ⟨hbefore, next, hdoes, hfirst⟩, hlast⟩
        exact ⟨hbefore, next, hdoes, last, hfirst, hlast⟩

theorem Chained.append (h : Chained c entries entry.before)
    (hdoes : Does entry.moment.token entry.before entry.outcome c') :
    Chained c (entries ++ [entry]) c' :=
  chained_append.mpr ⟨_, h, rfl, _, hdoes, rfl⟩

/-- **A chat that is deleted in the end may be changed before.** -/
theorem Chained.insert {rest : List Entry} {outcome : Outcome} {chat chat' : ChatContents}
    (h : Chained c (entries ++ entry :: rest) c')
    (hdeletion : entry.outcome = .of (.deleteChat token number) (.ok ()))
    (hchat : entry.before.chat? token number = some chat)
    (hdoes : Does turn.input.token entry.before outcome
      (entry.before.setChat token number chat')) :
    Chained c (entries ++ entry.visitor turn outcome :: entry.visited token number chat' :: rest)
      c' := by
  obtain ⟨_, hentries, rfl, next, hnext, hrest⟩ := chained_append.mp h
  rw [hdeletion] at hnext
  refine chained_append.mpr ⟨_, hentries, rfl, _, hdoes, rfl, next, ?_, hrest⟩
  show Does entry.moment.token (entry.before.setChat token number chat') entry.outcome next
  rw [hdeletion]
  exact hnext.deleteChat_setChat hchat chat'

/-- A call is entered right before another one, at the same point in time. -/
theorem Placed.insertBefore {before after : List Entry} {outcome : Outcome} {chat : ChatContents}
    (h : Placed s₀ requests p players ((before ++ entry :: after).map Entry.toPoint))
    (hplayer : players[turn.call]? = some player) (hnone : player.stage.effect? = none)
    (hduring : During s₀ (start requests) (p ++ [turn]) turn.call entry.time) :
    Placed s₀ requests (p ++ [turn]) (players.set turn.call ⟨player.request, .finished outcome⟩)
      ((before ++ entry.visitor turn outcome :: entry.visited token number chat :: after).map
        Entry.toPoint) := by
  rw [List.map_append] at h ⊢
  obtain ⟨-, hright, hacross⟩ := List.pairwise_append.mp h.sorted
  have hafter : ∀ other ∈ (entry :: after).map Entry.toPoint, entry.time ≤ other.time := by
    intro other hother
    obtain rfl | hother := List.mem_cons.mp hother
    · exact Nat.le_refl _
    · exact (List.pairwise_cons.mp hright).1 other hother
  exact h.insert hplayer hnone rfl rfl (by simp [Entry.visitor])
    (fun other hother => hacross other hother entry.toPoint (by simp)) hafter hduring

end ChatService.Memory
