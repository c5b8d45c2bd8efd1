import ChatService.Proofs.Cache.Memory
import ChatService.Proofs.RealTime

/-!
# Reads and writes of the cache at the same time

Any calls on the store in memory, their sections interleaved in any way, and a clock that never goes
back.  A read that has found no live entry removes what has expired under its key one section later,
and another call may have put a new entry in between.  The removal compares with the clock that the
read began with, which shows no later time than the clock does now, so it leaves what is live now:
live entries only go when something is written under their key or the store is closed
(`play_live_or_overwritten`).  What a read answers was live at the time that it began with.
-/

namespace ChatService.Cache.Memory

/-! ## the calls -/

/-- What the store is called for. -/
inductive Command where
  | get (key : String)
  | set (key text : String) (lifetime : Duration)
  | close

/-- What a call comes to; a write comes to nothing if the clock cannot show its expiry. -/
inductive Outcome where
  | found (text : Option String)
  | stored (done : Option Unit)
  | closed

/-- Removes all entries in one section. -/
def clearing : StoreCall Unit := .step none (fun _ _ => []) fun _ _ => .done ()

theorem ofCall_clearing : Work.ofCall clearing = clear := rfl

/-- The sections of a call. -/
def Command.call : Command → StoreCall Outcome
  | .get key => (Memory.get key).map .found
  | .set key text lifetime => (Memory.set key text lifetime).map .stored
  | .close => clearing.map fun () => .closed

/-- A read that removes what had expired at the time it began with. -/
def dropping (key : String) (now : Instant) : StoreCall (Option String) :=
  .step (some key) (fun _ s => removeExpired now key s) fun _ _ => .done none

/-- A read that has yet to look its key up. -/
def looking (key : String) (now : Instant) : StoreCall (Option String) :=
  .step (some key) (fun _ s => s) fun _ s =>
    match live? now key s with
    | some text => .done (some text)
    | none => dropping key now

/-- A write that has yet to put its entry. -/
def putting (key : String) (entry : Entry) : StoreCall (Option Unit) :=
  .step (some key) (fun _ s => Keyed.put key entry s) fun _ _ => .done (some ())

/-! ## how far the calls are -/

variable {commands : List Command} {command : Command} {call : StoreCall Outcome}
  {schedule before : List (Turn Instant)} {turn : Turn Instant} {n : Nat} {s s₀ : State}
  {now expires : Instant} {key text : String} {lifetime : Duration} {entry : Entry}

/-- What the store and the calls come to when sections are run as a schedule says. -/
def play (s₀ : State) (commands : List Command) (schedule : List (Turn Instant)) :
    State × List (StoreCall Outcome) := runSchedule schedule s₀ (commands.map Command.call)

/-- The time that a call has read: every call but one that closes the store begins with that. -/
def clockRead? (schedule : List (Turn Instant)) (n : Nat) : Option Instant :=
  (schedule.find? fun turn => turn.call = n).map (·.input)

/-- A read looked its key up, after the clock, and found an entry that was live by that time. -/
def LookedUp (s₀ : State) (commands : List Command) (schedule : List (Turn Instant)) (n : Nat)
    (key text : String) : Prop :=
  ∃ before turn after now expires, schedule = before ++ turn :: after ∧ turn.call = n ∧
    clockRead? before n = some now ∧
    Keyed.get? key (play s₀ commands before).1 = some ⟨text, expires⟩ ∧ now < expires

/-- How far a call is, and what it has seen. -/
inductive Reached (s₀ : State) (commands : List Command) (schedule : List (Turn Instant))
    (n : Nat) : Command → StoreCall Outcome → Prop where
  | waiting {command : Command} (hclock : clockRead? schedule n = none) :
      Reached s₀ commands schedule n command command.call
  | looking {key : String} {now : Instant} (hclock : clockRead? schedule n = some now) :
      Reached s₀ commands schedule n (.get key) ((looking key now).map .found)
  | dropping {key : String} {now : Instant} (hclock : clockRead? schedule n = some now) :
      Reached s₀ commands schedule n (.get key) ((dropping key now).map .found)
  | missed {key : String} : Reached s₀ commands schedule n (.get key) (.done (.found none))
  | found {key text : String} (hfound : LookedUp s₀ commands schedule n key text) :
      Reached s₀ commands schedule n (.get key) (.done (.found (some text)))
  | putting {key text : String} {lifetime : Duration} {expires : Instant} :
      Reached s₀ commands schedule n (.set key text lifetime)
        ((putting key ⟨text, expires⟩).map .stored)
  | stored {key text : String} {lifetime : Duration} {done : Option Unit} :
      Reached s₀ commands schedule n (.set key text lifetime) (.done (.stored done))
  | closed : Reached s₀ commands schedule n .close (.done .closed)

theorem play_append_singleton : play s₀ commands (schedule ++ [turn]) =
    turn.run (play s₀ commands schedule).1 (play s₀ commands schedule).2 :=
  runSchedule_append_singleton

theorem clockRead?_of_append (h : clockRead? schedule n = some now) (rest : List (Turn Instant)) :
    clockRead? (schedule ++ rest) n = some now := by
  obtain ⟨turn, hfind, rfl⟩ := Option.map_eq_some_iff.mp h
  simp [clockRead?, hfind]

theorem clockRead?_append_of_ne (h : turn.call ≠ n) :
    clockRead? (schedule ++ [turn]) n = clockRead? schedule n := by
  simp [clockRead?, List.find?_append, h]

theorem clockRead?_append_self (h : clockRead? schedule turn.call = none) :
    clockRead? (schedule ++ [turn]) turn.call = some turn.input := by
  simp only [clockRead?, Option.map_eq_none_iff] at h
  simp [clockRead?, List.find?_append, h]

theorem LookedUp.append (h : LookedUp s₀ commands schedule n key text)
    (rest : List (Turn Instant)) : LookedUp s₀ commands (schedule ++ rest) n key text := by
  obtain ⟨before, turn, after, now, expires, rfl, hfound⟩ := h
  exact ⟨before, turn, after ++ rest, now, expires, by simp, hfound⟩

/-- The turns of other calls change nothing about a call. -/
theorem Reached.other (h : Reached s₀ commands schedule n command call) (hturn : turn.call ≠ n) :
    Reached s₀ commands (schedule ++ [turn]) n command call := by
  have hclock : clockRead? (schedule ++ [turn]) n = clockRead? schedule n :=
    clockRead?_append_of_ne hturn
  cases h with
  | waiting hnone => exact .waiting (hclock.trans hnone)
  | looking hsome => exact .looking (hclock.trans hsome)
  | dropping hsome => exact .dropping (hclock.trans hsome)
  | missed => exact .missed
  | found hfound => exact .found (hfound.append [turn])
  | putting => exact .putting
  | stored => exact .stored
  | closed => exact .closed

/-- **A turn takes a call one section further.** -/
theorem Reached.advance (h : Reached s₀ commands schedule turn.call command call) :
    Reached s₀ commands (schedule ++ [turn]) turn.call command
      (call.advance turn.input (play s₀ commands schedule).1).2 := by
  cases h with
  | waiting hnone =>
      have hclock := clockRead?_append_self hnone
      cases command with
      | get key => exact .looking hclock
      | set key text lifetime =>
          simp only [Command.call, set, Call.map, Call.advance]
          cases turn.input.after? lifetime with
          | none => exact .stored
          | some expires => exact .putting
      | close => exact .closed
  | @looking key now hsome =>
      simp only [Memory.looking, Call.map, Call.advance]
      cases hlive : live? now key (play s₀ commands schedule).1 with
      | none => exact .dropping (clockRead?_of_append hsome [turn])
      | some text =>
          obtain ⟨expires, hentry, hlt⟩ := live?_eq_some.mp hlive
          exact .found ⟨schedule, turn, [], now, expires, rfl, rfl, hsome, hentry, hlt⟩
  | dropping hsome => exact .missed
  | missed => exact .missed
  | found hfound => exact .found (hfound.append [turn])
  | putting => exact .stored
  | stored => exact .stored
  | closed => exact .closed

/-- **However the calls are interleaved**, each is as far as it says. -/
theorem exists_reached (schedule : List (Turn Instant))
    (hcall : (play s₀ commands schedule).2[n]? = some call) :
    ∃ command, commands[n]? = some command ∧ Reached s₀ commands schedule n command call := by
  refine runSchedule_call_induct (motive := fun schedule call => ∃ command,
    commands[n]? = some command ∧ Reached s₀ commands schedule n command call) ?_ ?_ ?_ hcall
  · intro call hstart
    obtain ⟨command, hcommand, rfl⟩ := by simpa using hstart
    exact ⟨command, hcommand, .waiting rfl⟩
  · rintro schedule turn call rfl - ⟨command, hcommand, hreached⟩
    exact ⟨command, hcommand, hreached.advance⟩
  · rintro schedule turn call hother ⟨command, hcommand, hreached⟩
    exact ⟨command, hcommand, hreached.other hother⟩

/-! ## what a turn takes away -/

/-- The section of a call has put an entry under a key, or removed all entries. -/
inductive Overwrites (key : String) (s' : State) : Command → Prop where
  | set {text : String} {lifetime : Duration} {expires : Instant}
      (hentry : Keyed.get? key s' = some ⟨text, expires⟩) :
      Overwrites key s' (.set key text lifetime)
  | close (hempty : s' = []) : Overwrites key s' .close

/-- What has expired at an earlier time is removed, and nothing that is live now. -/
theorem get?_removeExpired_of_live {other : String} {later : Instant}
    (hentry : Keyed.get? key s = some entry) (hnow : now ≤ later) (hlive : later < entry.expires) :
    Keyed.get? key (removeExpired now other s) = some entry := by
  unfold removeExpired
  split
  · next old hold =>
      split
      · next hexpired =>
          have hkey : other ≠ key := by
            rintro rfl
            obtain rfl : entry = old := Option.some.inj (hentry.symm.trans hold)
            exact absurd (Nat.le_trans hexpired hnow) (Nat.not_le.mpr hlive)
          rw [Keyed.get?_erase, if_neg hkey, hentry]
      · exact hentry
  · exact hentry

/-- **A section leaves what is live**, unless it puts an entry in its place or removes all. -/
theorem Reached.keeps_live (h : Reached s₀ commands schedule n command call)
    (hclock : ∀ now, clockRead? schedule n = some now → now ≤ turn.input)
    (hentry : Keyed.get? key s = some entry) (hlive : turn.input < entry.expires) :
    Keyed.get? key (call.advance turn.input s).1 = some entry ∨
      Overwrites key (call.advance turn.input s).1 command := by
  cases h with
  | waiting =>
      cases command with
      | get | set => exact .inl hentry
      | close => exact .inr (.close rfl)
  | looking => exact .inl hentry
  | dropping hsome => exact .inl (get?_removeExpired_of_live hentry (hclock _ hsome) hlive)
  | @putting other text lifetime expires =>
      have hput : Keyed.get? key (Keyed.put other ⟨text, expires⟩ s) =
          if other = key then some ⟨text, expires⟩ else Keyed.get? key s := Keyed.get?_put ..
      by_cases hkey : other = key
      · subst hkey
        exact .inr (.set (hput.trans (if_pos rfl)))
      · exact .inl (hput.trans ((if_neg hkey).trans hentry))
  | missed | found | stored | closed => exact .inl hentry

/-! ## the law -/

theorem exists_turn_of_clockRead? (h : clockRead? schedule n = some now) :
    ∃ turn ∈ schedule, turn.input = now := by
  obtain ⟨turn, hfind, rfl⟩ := Option.map_eq_some_iff.mp h
  exact ⟨turn, List.mem_of_find?_eq_some hfind, rfl⟩

/-- One turn, after others at which the clock showed no later time. -/
theorem play_keeps_live (hclock : ∀ earlier ∈ before, earlier.input ≤ turn.input)
    (hentry : Keyed.get? key (play s₀ commands before).1 = some entry)
    (hlive : turn.input < entry.expires) :
    Keyed.get? key (play s₀ commands (before ++ [turn])).1 = some entry ∨
      ∃ command, commands[turn.call]? = some command ∧
        Overwrites key (play s₀ commands (before ++ [turn])).1 command := by
  rw [play_append_singleton, Turn.run]
  cases hcall : (play s₀ commands before).2[turn.call]? with
  | none => exact .inl hentry
  | some call =>
      obtain ⟨command, hcommand, hreached⟩ := exists_reached before hcall
      refine (hreached.keeps_live (fun now hread => ?_) hentry hlive).imp_right
        fun hover => ⟨command, hcommand, hover⟩
      obtain ⟨earlier, hearlier, rfl⟩ := exists_turn_of_clockRead? hread
      exact hclock earlier hearlier

/-- **No read loses a live entry.**  Whatever calls are interleaved in whatever way, with a clock
that never goes back: an entry that is live when some call runs a section is there afterwards,
unless the section puts another entry under its key or closes the store.  A text that a read has
answered was under its key, in an entry that expires after the time that the read began with. -/
theorem play_live_or_overwritten (s₀ : State) (commands : List Command)
    (schedule : List (Turn Instant)) (hclock : schedule.Pairwise fun a b => a.input ≤ b.input) :
    (∀ before turn after key entry, schedule = before ++ turn :: after →
      Keyed.get? key (play s₀ commands before).1 = some entry → turn.input < entry.expires →
        Keyed.get? key (play s₀ commands (before ++ [turn])).1 = some entry ∨
          ∃ command, commands[turn.call]? = some command ∧
            Overwrites key (play s₀ commands (before ++ [turn])).1 command) ∧
    ∀ n key text, commands[n]? = some (.get key) →
      (play s₀ commands schedule).2[n]? = some (.done (.found (some text))) →
        LookedUp s₀ commands schedule n key text := by
  constructor
  · rintro before turn after key entry rfl hentry hlive
    have hbefore := (List.pairwise_append.mp hclock).2.2
    exact play_keeps_live (fun earlier hearlier => hbefore earlier hearlier turn (.head _)) hentry
      hlive
  · intro n key text hcommand hanswer
    obtain ⟨command, hcommand', hreached⟩ := exists_reached schedule hanswer
    obtain rfl : .get key = command := Option.some.inj (hcommand.symm.trans hcommand')
    cases hreached with
    | found hfound => exact hfound

/-- A read finds an entry that has expired, a write replaces it, and only then the read comes to
remove what it saw: the new entry stays, and the next read answers it. -/
theorem play_replacedBeforeRemoval :
    let s₀ : State := [("k", ⟨"old", ⟨5⟩⟩)]
    let commands : List Command := [.get "k", .set "k" "new" (.ofSecs 60), .get "k"]
    let replaced : List (Turn Instant) := [⟨0, ⟨10⟩⟩, ⟨0, ⟨10⟩⟩, ⟨1, ⟨11⟩⟩, ⟨1, ⟨11⟩⟩]
    let removal : Turn Instant := ⟨0, ⟨12⟩⟩
    let reading : List (Turn Instant) := [⟨2, ⟨13⟩⟩, ⟨2, ⟨14⟩⟩]
    Keyed.get? "k" (play s₀ commands (replaced ++ [removal])).1 =
        some ⟨"new", ⟨60000000011⟩⟩ ∧
      LookedUp s₀ commands (replaced ++ removal :: reading) 2 "k" "new" := by
  intro s₀ commands replaced removal reading
  obtain ⟨hkept, hread⟩ := play_live_or_overwritten s₀ commands (replaced ++ removal :: reading)
    (by decide)
  refine ⟨?_, hread 2 "k" "new" rfl rfl⟩
  obtain hentry | ⟨command, hcommand, hover⟩ :=
    hkept replaced removal reading "k" ⟨"new", ⟨60000000011⟩⟩ rfl rfl (by decide)
  · exact hentry
  · cases hcommand
    cases hover

end ChatService.Cache.Memory
