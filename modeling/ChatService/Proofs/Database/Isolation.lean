import ChatService.Proofs.Database.Rebase

/-!
# Concurrent transactions are serial histories

Each commit does to the committed records what its unit of work did to its snapshot, so whatever
the interleaving, the committed records are those of a serial history.  Hence counters and numbers
agree with the records at every moment, and the numbers that calls answer are distinct and leave out
none but those of commits whose answer left them in doubt.
-/

namespace ChatService.Database.Concurrent

open Server (Records recordsOf execute)
open Store (Operation Answer RetryPolicy Scope)

/-! ## open transactions -/

/-- What holds of an open transaction beside what is committed. -/
structure Live (start : Records) (t : Open) (records : Records) : Prop where
  descends : Descends start t.snapshot
  written : ∀ key, Changed t.snapshot t.view key → t.written key
  current : ∀ key, ¬t.overtaken key → document records key = document t.snapshot key
  free : ∀ key, t.written key → ¬t.overtaken key
  /-- As long as nobody else has changed a chat, nobody else has changed its messages. -/
  messages : ∀ id, ¬t.overtaken (chatKey id) → ∀ message,
    Keyed.get? "chat_id" message = some (.objectId id) →
      (message ∈ recordsOf messages records ↔ message ∈ recordsOf messages t.snapshot)

/-- No two transactions have written one document. -/
def Open.Apart (t t' : Open) : Prop := ∀ key, t.written key → ¬t'.written key

/-- What holds of the server at every moment. -/
structure Sane (start : Records) (s : Shared) : Prop where
  descends : Descends start s.records
  live : ∀ session t, s.phase session = .active t → Live start t s.records
  apart : ∀ session t session' t', s.phase session = .active t → s.phase session' = .active t' →
    session ≠ session' → t.Apart t'

variable {start : Records} {unique : Keyed String (List (List String))} {s : Shared}
  {session : Session} {t : Open}

@[simp] theorem noted_records (s : Shared) (answer : Except Failure Unit) :
    (s.noted answer).records = s.records := by
  unfold Shared.noted
  split
  · rfl
  · split <;> rfl

@[simp] theorem noted_phase (s : Shared) (answer : Except Failure Unit) :
    (s.noted answer).phase = s.phase := by
  unfold Shared.noted
  split
  · rfl
  · split <;> rfl

@[simp] theorem set_records (s : Shared) (session : Session) (phase : Phase) :
    (s.set session phase).records = s.records := rfl

@[simp] theorem set_phase_self (s : Shared) (session : Session) (phase : Phase) :
    (s.set session phase).phase session = phase := Function.update_self ..

theorem set_phase_of_ne {other : Session} (s : Shared) (phase : Phase) (h : other ≠ session) :
    (s.set session phase).phase other = s.phase other := Function.update_of_ne h ..

theorem set_phase (s : Shared) (session : Session) : s.set session (s.phase session) = s := by
  unfold Shared.set
  rw [Function.update_eq_self]

theorem publish_phase_self (s : Shared) (session : Session) (t : Open) (records : Records) :
    (s.publish session t records).phase session = .applied := by simp [Shared.publish]

theorem publish_phase_of_ne {other : Session} (s : Shared) (t : Open) (records : Records)
    (h : other ≠ session) :
    (s.publish session t records).phase other = (s.phase other).overtake t.written := by
  simp [Shared.publish, h]

namespace Sane

theorem noted (h : Sane start s) (answer : Except Failure Unit) : Sane start (s.noted answer) where
  descends := by simpa using h.descends
  live session t ht := by simpa using h.live session t (by simpa using ht)
  apart session t session' t' ht ht' :=
    h.apart session t session' t' (by simpa using ht) (by simpa using ht')

/-- The transaction in which a command is carried out. -/
theorem transaction (h : Sane start s) (ht : s.transaction? session = some t) :
    Live start t s.records ∧
      ∀ other t', other ≠ session → s.phase other = .active t' → t.Apart t' := by
  unfold Shared.transaction? at ht
  split at ht
  · obtain rfl := Option.some.inj ht
    refine ⟨?_, fun _ _ _ _ _ hwritten => hwritten.elim⟩
    exact
      { descends := h.descends
        written := fun key hchanged => hchanged rfl
        current := fun _ _ => rfl
        free := fun _ hwritten => hwritten.elim
        messages := fun _ _ _ _ => .rfl }
  · next phase hphase =>
      obtain rfl := Option.some.inj ht
      exact ⟨h.live session _ hphase, fun other t' hne ht' =>
        h.apart session _ other t' hphase ht' (Ne.symm hne)⟩
  · contradiction

/-- A session has no transaction any more, or none yet. -/
theorem set_inactive (h : Sane start s) (session : Session) {phase : Phase}
    (hphase : ∀ t, phase ≠ .active t) : Sane start (s.set session phase) := by
  have hbefore : ∀ other t, (s.set session phase).phase other = .active t →
      s.phase other = .active t := by
    intro other t ht
    by_cases hother : other = session
    · subst hother
      rw [set_phase_self] at ht
      exact absurd ht (hphase t)
    · rwa [set_phase_of_ne _ _ hother] at ht
  exact
    { descends := h.descends
      live := fun other t ht => h.live other t (hbefore other t ht)
      apart := fun other t other' t' ht ht' =>
        h.apart other t other' t' (hbefore other t ht) (hbefore other' t' ht') }

/-- A transaction of its own. -/
theorem set_active (h : Sane start s) (hlive : Live start t s.records)
    (hapart : ∀ other t', other ≠ session → s.phase other = .active t' → t.Apart t') :
    Sane start (s.set session (.active t)) where
  descends := h.descends
  live other t' ht' := by
    by_cases hother : other = session
    · subst hother
      rw [set_phase_self] at ht'
      obtain rfl := Phase.active.inj ht'
      exact hlive
    · rw [set_phase_of_ne _ _ hother] at ht'
      exact h.live other t' ht'
  apart other t₁ other' t₂ ht₁ ht₂ hne := by
    by_cases hother : other = session
    · subst hother
      rw [set_phase_self] at ht₁
      rw [set_phase_of_ne _ _ hne.symm] at ht₂
      obtain rfl := Phase.active.inj ht₁
      exact hapart other' t₂ hne.symm ht₂
    · rw [set_phase_of_ne _ _ hother] at ht₁
      by_cases hother' : other' = session
      · subst hother'
        rw [set_phase_self] at ht₂
        obtain rfl := Phase.active.inj ht₂
        exact fun key hwritten₁ hwritten₂ => hapart other t₁ hother ht₁ key hwritten₂ hwritten₁
      · rw [set_phase_of_ne _ _ hother'] at ht₂
        exact h.apart other t₁ other' t₂ ht₁ ht₂ hne

/-- A command is carried out in a transaction. -/
theorem carried (h : Sane start s) (ht : s.transaction? session = some t) {view : Records}
    (hfree : ∀ key, Changed t.view view key → ¬s.Taken session t key) :
    Sane start (s.set session (.active
      { t with view, written := fun key => t.written key ∨ Changed t.view view key })) := by
  obtain ⟨hlive, hapart⟩ := h.transaction ht
  refine h.set_active ?_ ?_
  · exact
      { descends := hlive.descends
        written := by
          intro key hchanged
          by_cases hview : Changed t.view view key
          · exact .inr hview
          · have hsame : document view key = document t.view key := not_not.mp hview
            refine .inl (hlive.written key fun hwas => hchanged ?_)
            exact hsame.trans hwas
        current := hlive.current
        free := by
          rintro key (hwritten | hchanged) hovertaken
          · exact hlive.free key hwritten hovertaken
          · exact hfree key hchanged (.inl hovertaken)
        messages := hlive.messages }
  · rintro other t' hne ht' key (hwritten | hchanged) hwritten'
    · exact hapart other t' hne ht' key hwritten hwritten'
    · exact hfree key hchanged (.inr ⟨other, t', hne, ht', hwritten'⟩)

end Sane

/-! ## commits -/

section Commit

variable {α : Type} {operation : Operation α} {value : α} {records : Records}

/-- A commit does to the committed records what the transaction did to its snapshot. -/
theorem Live.replayed (h : Live start t s.records) (hmerged : t.Merged s.records records) :
    Replayed t.snapshot t.view s.records records where
  unchanged key hsame := by
    by_cases hwritten : t.written key
    · rw [hmerged.written key hwritten, h.current key (h.free key hwritten)]
      exact not_not.mp hsame
    · exact hmerged.others key hwritten
  changed key hchanged := by
    have hwritten := h.written key hchanged
    exact ⟨h.current key (h.free key hwritten), hmerged.written key hwritten⟩

/-- **A commit is one more unit of work.** -/
theorem Live.done (h : Live start t s.records) (hs : Descends start s.records)
    (hdone : Done operation t.snapshot t.view value) (hunit : runsUnit operation = true)
    (hmerged : t.Merged s.records records) :
    ∃ records', Done operation s.records records' value ∧ Alike records' records := by
  refine hdone.replayed hunit h.descends.ids hs.ids hmerged.ids (fun row hrow => ?_)
    (h.replayed hmerged) fun id hchanged message hmem hchat => ?_
  · exact hs.exists_application (h.descends.mem_accounts hrow)
  · have hfree := h.free _ (h.written _ hchanged)
    exact (h.messages id hfree message hchat).mp hmem

/-- What another transaction sees stays current where it is not overtaken. -/
theorem Live.overtake {t' : Open} (h : Live start t s.records) (hs : Descends start s.records)
    (hdone : Done operation t.snapshot t.view value) (hunit : runsUnit operation = true)
    (hmerged : t.Merged s.records records) (h' : Live start t' s.records) (hapart : t'.Apart t) :
    Live start { t' with overtaken := fun key => t'.overtaken key ∨ t.written key } records where
  descends := h'.descends
  written := h'.written
  current key hfree := by
    obtain ⟨hfree', hother⟩ := not_or.mp hfree
    rw [hmerged.others key hother, h'.current key hfree']
  free key hwritten := not_or.mpr ⟨h'.free key hwritten, hapart key hwritten⟩
  messages id hfree message hchat := by
    obtain ⟨hfree', hother⟩ := not_or.mp hfree
    have hrebased :=
      (h.replayed hmerged).rebased h.descends.ids hs.ids hmerged.ids Database.messages
    have hsame := hdone.mem_messages_iff hunit h.descends.ids hchat
      fun hchanged => hother (h.written _ hchanged)
    have hids := hdone.identified hunit h.descends.ids Database.messages
    exact (hrebased.mem_iff hids hsame).trans (h'.messages id hfree' message hchat)

/-- The server after a commit. -/
theorem Sane.publish (h : Sane start s) (ht : s.phase session = .active t)
    (hdone : Done operation t.snapshot t.view value) (hunit : runsUnit operation = true)
    (hmerged : t.Merged s.records records) (hdescends : Descends start records) :
    Sane start (s.publish session t records) := by
  have hlive := h.live session t ht
  have hbefore : ∀ other t', (s.publish session t records).phase other = .active t' →
      ∃ t₀, s.phase other = .active t₀ ∧ other ≠ session ∧
        t' = { t₀ with overtaken := fun key => t₀.overtaken key ∨ t.written key } := by
    intro other t' ht'
    by_cases hother : other = session
    · subst hother
      rw [publish_phase_self] at ht'
      contradiction
    · rw [publish_phase_of_ne _ _ _ hother] at ht'
      cases hphase : s.phase other with
      | active t₀ =>
          rw [hphase] at ht'
          exact ⟨t₀, rfl, hother, (Phase.active.inj ht').symm⟩
      | _ =>
          rw [hphase] at ht'
          contradiction
  constructor
  case descends => exact hdescends
  case live =>
    intro other t' ht'
    obtain ⟨t₀, ht₀, hother, rfl⟩ := hbefore other t' ht'
    exact hlive.overtake h.descends hdone hunit hmerged (h.live other t₀ ht₀)
      (h.apart other t₀ session t ht₀ ht hother)
  case apart =>
    intro other t₁ other' t₂ ht₁ ht₂ hne
    obtain ⟨t₁', ht₁', -, rfl⟩ := hbefore other t₁ ht₁
    obtain ⟨t₂', ht₂', -, rfl⟩ := hbefore other' t₂ ht₂
    exact h.apart other t₁' other' t₂' ht₁' ht₂' hne

end Commit

end ChatService.Database.Concurrent
