import ChatService.Cache.Entity
import ChatService.Cache.Memory
import ChatService.Proofs.Work

/-!
# The cache in memory

A read of the store answers with what is live and removes what has expired under its key; a write
puts an entry.  Neither waits, so an entity cache never sees its limit reached, and a lookup through
it is told by the entries alone: what is live and can be decoded is answered, anything else is
loaded and put.  All this holds wherever in a larger state the entries are kept.
-/

namespace ChatService.Cache.Memory

open Work (Ending IsPart)

variable {α ε σ : Type} {i j : Instant} {s : State} {key other text value : String}
  {lifetime : Duration}

/-! ## live entries -/

theorem live?_eq_some : live? i key s = some text ↔
    ∃ expires, Keyed.get? key s = some ⟨text, expires⟩ ∧ i < expires := by
  unfold live?
  cases Keyed.get? key s with
  | none => simp
  | some entry =>
      obtain ⟨value, expires⟩ := entry
      by_cases hlt : i < expires <;> grind

/-- An entry that is live is not removed. -/
theorem removeExpired_of_live (h : live? i key s = some text) : removeExpired i key s = s := by
  obtain ⟨expires, hentry, hlt⟩ := live?_eq_some.mp h
  have hle : ¬ expires ≤ i := Nat.not_le.mpr hlt
  simp [removeExpired, hentry, hle]

/-- Removing what has expired changes nothing that is read from then on. -/
theorem live?_removeExpired (h : i ≤ j) :
    live? j other (removeExpired i key s) = live? j other s := by
  unfold removeExpired
  cases hentry : Keyed.get? key s with
  | none => rfl
  | some entry =>
      by_cases hle : entry.expires ≤ i
      · have hgone : ¬ j < entry.expires := Nat.not_lt.mpr (Nat.le_trans hle h)
        by_cases hkey : key = other
        · subst hkey
          simp [live?, Keyed.get?_erase, hentry, hle, hgone]
        · simp [live?, Keyed.get?_erase, hkey, hle]
      · simp [hle]

/-- A put entry is live until it expires; the other keys keep theirs. -/
theorem live?_put (expires : Instant) :
    live? j other (Keyed.put key ⟨value, expires⟩ s) =
      if key = other then (if j < expires then some value else none) else live? j other s := by
  by_cases hkey : key = other
  · simp [live?, Keyed.get?_put, hkey]
  · simp [live?, Keyed.get?_put, hkey]

/-! ## the store -/

theorem run_get : (store.get key).run i s =
    .answered i (removeExpired i key s) (.ok (live? i key s)) := by
  have hcall : (Work.ofCall (get key)).run i s =
      .answered i (removeExpired i key s) (live? i key s) := by
    simp only [get, Work.ofCall, Work.run_act]
    cases hlive : live? i key s with
    | some text => simp [Work.ofCall, removeExpired_of_live hlive]
    | none => simp [Work.ofCall]
  simp [store, Work.run_bind_eq, hcall]

theorem run_set : (store.set key value lifetime).run i s =
    match i.after? lifetime with
    | none => .stopped
    | some expires => .answered i (Keyed.put key ⟨value, expires⟩ s) (.ok ()) := by
  have hcall : (Work.ofCall (set key value lifetime)).run i s =
      match i.after? lifetime with
      | none => .answered i s none
      | some expires => .answered i (Keyed.put key ⟨value, expires⟩ s) (some ()) := by
    simp only [set, Work.ofCall, Work.run_act]
    cases i.after? lifetime <;> rfl
  simp only [store, Work.run_bind_eq, hcall]
  cases i.after? lifetime <;> rfl

theorem isImmediate_get : (store.get key).IsImmediate :=
  Work.isImmediate_bind (Work.isImmediate_ofCall _) fun _ => trivial

theorem isImmediate_set : (store.set key value lifetime).IsImmediate :=
  Work.isImmediate_bind (Work.isImmediate_ofCall _) fun
    | some () => trivial
    | none => trivial

/-! ## an entity cache over the store -/

section Entity

variable {part : σ → State} {replace : State → σ → σ} (hpart : IsPart part replace)
  {config : Config} {s : σ}

/-- An entity cache over the store in a part of a larger state. -/
def entityCache (part : σ → State) (replace : State → σ → σ) (config : Config) : EntityCache σ :=
  ⟨store.onPart part replace, config⟩

include hpart in
theorem run_onPart_set : ((store.onPart part replace).set key value lifetime).run i s =
    match i.after? lifetime with
    | none => .stopped
    | some expires =>
      .answered i (replace (Keyed.put key ⟨value, expires⟩ (part s)) s) (.ok ()) := by
  simp only [Store.onPart, Work.run_onPart _ hpart, run_set]
  cases i.after? lifetime <;> rfl

include hpart in
theorem run_lookup (decode? : String → Option α) :
    ((entityCache part replace config).lookup decode? key).run i s =
      .answered i (replace (removeExpired i key (part s)) s)
        (.ok ((live? i key (part s)).bind decode?)) := by
  have himmediate : ((store.get key).onPart part replace).IsImmediate :=
    Work.isImmediate_onPart isImmediate_get
  simp only [EntityCache.lookup, EntityCache.bounded, entityCache, Store.onPart, Work.run_bind_eq,
    Work.run_bounded himmediate, Work.run_onPart _ hpart, run_get, Ending.bind_answered]
  cases live? i key (part s) <;> rfl

include hpart in
theorem run_keep :
    ((entityCache part replace config).keep key text lifetime).run i s =
      match i.after? lifetime with
      | none => .stopped
      | some expires =>
        .answered i (replace (Keyed.put key ⟨text, expires⟩ (part s)) s) (.ok ()) := by
  have himmediate : ((store.set key text lifetime).onPart part replace).IsImmediate :=
    Work.isImmediate_onPart isImmediate_set
  simp only [EntityCache.keep, EntityCache.bounded, entityCache, Store.onPart, Work.run_bind_eq,
    Work.run_bounded himmediate, Work.run_onPart _ hpart, run_set]
  cases i.after? lifetime <;> rfl

include hpart in
/-- **A lookup is told by the entries**: what is live and can be decoded is answered, anything else
is loaded, and put if it could be loaded and has a text. -/
theorem run_getOrLoadAs (ofCacheError : CacheError → ε) (format : Format α)
    (load : Work σ (Except ε α)) :
    ((entityCache part replace config).getOrLoadAs ofCacheError format key lifetime load).run i s =
      match (live? i key (part s)).bind format.decode? with
      | some v => .answered i (replace (removeExpired i key (part s)) s) (.ok v)
      | none =>
        (load.run i (replace (removeExpired i key (part s)) s)).bind fun
          | i, s, .error e => .answered i s (.error e)
          | i, s, .ok v =>
            match format.encode? v with
            | none => .answered i s (.ok v)
            | some text =>
              match i.after? lifetime with
              | none => .stopped
              | some expires =>
                .answered i (replace (Keyed.put key ⟨text, expires⟩ (part s)) s) (.ok v) := by
  rw [EntityCache.getOrLoadAs, Work.run_bind_eq, run_lookup hpart, Ending.bind_answered]
  cases (live? i key (part s)).bind format.decode? with
  | some v => rfl
  | none =>
      simp only [Work.run_bind_eq]
      congr 1
      funext i s loaded
      cases loaded with
      | error e => rfl
      | ok v =>
          dsimp only
          cases format.encode? v with
          | none => rfl
          | some text =>
              simp only [Work.run_bind_eq, run_keep hpart]
              cases i.after? lifetime <;> rfl

include hpart in
/-- Where every value has a text, whatever could be loaded is put. -/
theorem run_getOrLoad (ofCacheError : CacheError → ε) (codec : Codec α)
    (load : Work σ (Except ε α)) :
    ((entityCache part replace config).getOrLoad ofCacheError codec key lifetime load).run i s =
      match (live? i key (part s)).bind codec.decode? with
      | some v => .answered i (replace (removeExpired i key (part s)) s) (.ok v)
      | none =>
        (load.run i (replace (removeExpired i key (part s)) s)).bind fun
          | i, s, .error e => .answered i s (.error e)
          | i, s, .ok v =>
            match i.after? lifetime with
            | none => .stopped
            | some expires =>
              .answered i (replace (Keyed.put key ⟨codec.encode v, expires⟩ (part s)) s)
                (.ok v) :=
  run_getOrLoadAs hpart ofCacheError codec.format load

theorem isImmediate_getOrLoad (part : σ → State) (replace : State → σ → σ)
    {ofCacheError : CacheError → ε} {codec : Codec α} {load : Work σ (Except ε α)}
    (hload : load.IsImmediate) :
    ((entityCache part replace config).getOrLoad ofCacheError codec key lifetime
      load).IsImmediate := by
  have hget : ((store.onPart part replace).get key).IsImmediate :=
    Work.isImmediate_onPart isImmediate_get
  have hlookup : ((entityCache part replace config).lookup codec.decode? key).IsImmediate := by
    refine Work.isImmediate_bind
      (Work.isImmediate_bind (Work.isImmediate_bounded hget) ?_) ?_
    · rintro (_ | _) <;> trivial
    · rintro (_ | _ | _) <;> trivial
  have hkeep : ∀ text,
      ((entityCache part replace config).keep key text lifetime).IsImmediate := by
    intro text
    have hset : ((store.onPart part replace).set key text lifetime).IsImmediate :=
      Work.isImmediate_onPart isImmediate_set
    refine Work.isImmediate_bind
      (Work.isImmediate_bind (Work.isImmediate_bounded hset) ?_) ?_
    · rintro (_ | _) <;> trivial
    · rintro (_ | _) <;> trivial
  refine Work.isImmediate_bind hlookup ?_
  rintro (e | _ | v)
  · trivial
  · refine Work.isImmediate_bind hload ?_
    rintro (e | v)
    · trivial
    · refine Work.isImmediate_bind (hkeep (codec.encode v)) ?_
      rintro (_ | _) <;> trivial
  · trivial

end Entity

end ChatService.Cache.Memory
