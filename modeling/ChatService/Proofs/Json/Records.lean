import ChatService.Json.Decode
import Mathlib.Data.List.Perm.Basic

/-!
# Records in any order

Which values the fields of a record have is told by the fields of that record alone: neither the
order in which an object is written matters, nor what stands under other keys.  Where no key of the
record comes twice, a field is all that a filter for its key leaves, and filters do not see order.
-/

namespace ChatService.Json

/-- The text that is read as a tree was read to its end. -/
theorem isComplete_of_readWhole? {s : String} {r : Reading} (h : readWhole? s = some r) :
    r.isComplete = true := by
  unfold readWhole? at h
  split at h
  · split at h
    · next hcomplete => exact Option.some.inj h ▸ hcomplete
    · contradiction
  · contradiction

namespace Reading

variable {names : List String} {name : String} {fields fields' : List (Option String × Reading)}

/-- An object has the fields of another in any order, and besides only fields with other keys than
those of a record. -/
def Widens (names : List String) (fields fields' : List (Option String × Reading)) : Prop :=
  ∃ more, fields'.Perm (fields ++ more) ∧ ∀ field ∈ more, ∃ key, field.1 = some key ∧ key ∉ names

/-- The fields under a key. -/
def under (name : String) (fields : List (Option String × Reading)) :
    List (Option String × Reading) := fields.filter fun field => field.1 == some name

theorem lookup_eq_head? : lookup name fields = (under name fields).head?.map (·.2) := by
  induction fields with
  | nil => rfl
  | cons field fields ih =>
      by_cases hkey : field.1 = some name
      · simp [lookup, under, hkey]
      · rw [lookup, if_neg hkey, ih]
        simp [under, hkey]

/-- Under a key of the record the same fields stand. -/
theorem Widens.under_perm (h : Widens names fields fields') (hname : name ∈ names) :
    (under name fields').Perm (under name fields) := by
  obtain ⟨more, hperm, hmore⟩ := h
  have hnone : under name more = [] := by
    refine List.filter_eq_nil_iff.mpr fun field hfield heq => ?_
    obtain ⟨key, hkey, hother⟩ := hmore field hfield
    rw [hkey, beq_iff_eq, Option.some.injEq] at heq
    exact hother (heq ▸ hname)
  have hfilter : (under name fields').Perm (under name (fields ++ more)) := hperm.filter _
  have happend : under name (fields ++ more) = under name fields ++ under name more :=
    List.filter_append ..
  rwa [happend, hnone, List.append_nil] at hfilter

theorem Widens.keysFit_eq (h : Widens names fields fields') :
    keysFit names fields' = keysFit names fields := by
  have hcount : ∀ name ∈ names, (under name fields').length = (under name fields).length :=
    fun name hname => (h.under_perm hname).length_eq
  obtain ⟨more, hperm, hmore⟩ := h
  have hreadable : fields'.all (·.1.isSome) = fields.all (·.1.isSome) := by
    have hrest : more.all (·.1.isSome) = true := by
      refine List.all_eq_true.mpr fun field hfield => ?_
      obtain ⟨key, hkey, -⟩ := hmore field hfield
      rw [hkey, Option.isSome_some]
    rw [hperm.all_eq, List.all_append, hrest, Bool.and_true]
  have honce : (names.all fun name => decide ((under name fields').length ≤ 1)) =
      names.all fun name => decide ((under name fields).length ≤ 1) := by
    rw [Bool.eq_iff_iff, List.all_eq_true, List.all_eq_true]
    refine forall₂_congr fun name hname => ?_
    rw [hcount name hname]
  unfold keysFit
  rw [hreadable]
  exact congrArg _ honce

/-- Where no key comes twice, the fields of the record have the same values. -/
theorem Widens.lookup_eq (h : Widens names fields fields') (hfit : keysFit names fields = true)
    (hname : name ∈ names) : lookup name fields' = lookup name fields := by
  have hperm := h.under_perm hname
  have honce : (under name fields).length ≤ 1 :=
    of_decide_eq_true (List.all_eq_true.mp (Bool.and_eq_true_iff.mp hfit).2 name hname)
  rw [lookup_eq_head?, lookup_eq_head?]
  cases hfields : under name fields with
  | nil =>
      rw [hfields] at hperm
      rw [hperm.eq_nil]
  | cons field rest =>
      rw [hfields, List.length_cons] at honce
      obtain rfl : rest = [] := List.length_eq_zero_iff.mp (by omega)
      rw [hfields] at hperm
      rw [hperm.eq_singleton]

theorem Widens.fields?_eq (h : Widens names fields fields')
    (hcomplete : (Reading.object fields).isComplete = true)
    (hcomplete' : (Reading.object fields').isComplete = true) :
    fields? names (.object fields') = fields? names (.object fields) := by
  unfold fields?
  simp only [hcomplete, hcomplete', if_true, h.keysFit_eq]
  split
  · next hfit => rw [List.map_congr_left fun name hname => h.lookup_eq hfit hname]
  · rfl

/-- **A record is decoded alike from its fields in any order, whatever stands under other keys.** -/
theorem Widens.record?_eq (h : Widens names fields fields')
    (hcomplete : (Reading.object fields).isComplete = true)
    (hcomplete' : (Reading.object fields').isComplete = true) :
    record? names (.object fields') = record? names (.object fields) := by
  rw [record?, record?, h.fields?_eq hcomplete hcomplete']

end Reading

theorem fieldsReading_eq_map (fields : List (String × Json)) :
    fieldsReading fields = fields.map fun field => (some field.1, toReading field.2) := by
  induction fields with
  | nil => rfl
  | cons field fields ih => rw [fieldsReading, ih, List.map_cons]

/-- What is written in another order and with other keys besides is so read. -/
theorem widens_fieldsReading {names : List String} {fields fields' more : List (String × Json)}
    (hperm : fields'.Perm (fields ++ more)) (hmore : ∀ field ∈ more, field.1 ∉ names) :
    Reading.Widens names (fieldsReading fields) (fieldsReading fields') := by
  refine ⟨fieldsReading more, ?_, fun field hfield => ?_⟩
  · simp only [fieldsReading_eq_map, ← List.map_append]
    exact hperm.map _
  · rw [fieldsReading_eq_map] at hfield
    obtain ⟨written, hwritten, rfl⟩ := List.mem_map.mp hfield
    exact ⟨written.1, rfl, hmore written hwritten⟩

end ChatService.Json
