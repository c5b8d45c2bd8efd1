import ChatService.Time.Timestamp

/-!
# Readings of the clock

The clock shows whole milliseconds.  Such a moment is known by its milliseconds: it comes back from
them unchanged, and of two readings the earlier one has fewer.
-/

namespace ChatService.Timestamp

variable {t u : Timestamp} {ms : Int}

/-! ## the order of moments -/

theorem le_iff :
    t.le u = true ↔ t.seconds < u.seconds ∨ t.seconds = u.seconds ∧ t.nanos ≤ u.nanos := by
  simp [le]

theorem le_trans {v : Timestamp} (htu : t.le u = true) (huv : u.le v = true) : t.le v = true := by
  rw [le_iff] at *
  omega

theorem le_antisymm (htu : t.le u = true) (hut : u.le t = true) : t = u := by
  rw [le_iff] at htu hut
  cases t
  cases u
  simp only [Timestamp.mk.injEq] at *
  omega

theorem le_total (t u : Timestamp) : t.le u = true ∨ u.le t = true := by
  simp only [le_iff]
  omega

/-! ## whole milliseconds -/

/-- A moment that the clock can show: a whole number of milliseconds. -/
def IsReading (t : Timestamp) : Prop := ∃ ms, ofMillis? ms = some t

theorem ofMillis?_eq_some (h : ofMillis? ms = some t) :
    t = ⟨ms / 1000, (ms % 1000).toNat * 1000000⟩ := by
  simp only [ofMillis?] at h
  split at h
  · exact (Option.some.inj h).symm
  · contradiction

theorem millis_of_ofMillis? (h : ofMillis? ms = some t) : t.millis = ms := by
  rw [ofMillis?_eq_some h]
  simp only [millis]
  omega

/-- A reading comes back from its milliseconds. -/
theorem IsReading.ofMillis?_millis (h : IsReading t) : ofMillis? t.millis = some t := by
  obtain ⟨ms, hms⟩ := h
  rw [millis_of_ofMillis? hms, hms]

theorem IsReading.millis_inj (ht : IsReading t) (hu : IsReading u) :
    t.millis = u.millis ↔ t = u := by
  refine ⟨fun h => ?_, fun h => h ▸ rfl⟩
  have hsome := ht.ofMillis?_millis
  rw [h, hu.ofMillis?_millis] at hsome
  exact (Option.some.inj hsome).symm

/-- Readings are ordered as their milliseconds are. -/
theorem IsReading.le_eq (ht : IsReading t) (hu : IsReading u) :
    t.le u = decide (t.millis ≤ u.millis) := by
  obtain ⟨ms, hms⟩ := ht
  obtain ⟨ms', hms'⟩ := hu
  rw [millis_of_ofMillis? hms, millis_of_ofMillis? hms', ofMillis?_eq_some hms,
    ofMillis?_eq_some hms', Bool.eq_iff_iff]
  simp only [le, Bool.or_eq_true, Bool.and_eq_true, beq_iff_eq, decide_eq_true_eq]
  omega

end ChatService.Timestamp
