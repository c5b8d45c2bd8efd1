import ChatService.Keyed
import Mathlib.Data.List.Basic
import Mathlib.Data.List.Nodup
import Mathlib.Data.List.Perm.Basic

/-!
# Keyed lists as maps

A keyed list in which no key stands twice is a finite map: it holds exactly the pairs that lookups
find, and every change is a change of one entry.  The stores rely on three special cases, each
proved here once: a new key goes to the end, a key above all others goes to the end of an ascending
list, and a changed value changes what is collected from the list by as much as it changed itself.
-/

namespace ChatService.Keyed

section Keys

variable {κ ν : Type}

/-- The keys of a list, in its order. -/
def keys (entries : Keyed κ ν) : List κ := entries.map (·.1)

@[simp] theorem keys_nil : keys ([] : Keyed κ ν) = [] := rfl

@[simp] theorem keys_cons (entry : κ × ν) (rest : Keyed κ ν) :
    keys (entry :: rest) = entry.1 :: keys rest := rfl

@[simp] theorem keys_append (xs ys : Keyed κ ν) : keys (xs ++ ys) = keys xs ++ keys ys :=
  List.map_append

theorem mem_keys_of_mem {entry : κ × ν} {entries : Keyed κ ν} (h : entry ∈ entries) :
    entry.1 ∈ keys entries := List.mem_map_of_mem h

end Keys

variable {κ ν β : Type} [DecidableEq κ]

/-! ## lookups and members -/

theorem get?_eq_none_iff {key : κ} {entries : Keyed κ ν} :
    get? key entries = none ↔ key ∉ keys entries := by
  induction entries with
  | nil => simp [get?]
  | cons entry rest ih => grind [get?, keys_cons]

theorem mem_of_get?_eq_some {key : κ} {value : ν} {entries : Keyed κ ν}
    (h : get? key entries = some value) : (key, value) ∈ entries := by
  induction entries with
  | nil => simp [get?] at h
  | cons entry rest ih => grind [get?]

/-- Without repeated keys, the entries are what lookups find. -/
theorem get?_eq_some_iff_mem {key : κ} {value : ν} {entries : Keyed κ ν}
    (h : (keys entries).Nodup) : get? key entries = some value ↔ (key, value) ∈ entries := by
  refine ⟨mem_of_get?_eq_some, fun hmem => ?_⟩
  induction entries with
  | nil => simp at hmem
  | cons entry rest ih =>
      have hrest : entry.1 ∉ keys rest := (List.nodup_cons.mp h).1
      have hkey : (key, value) ∈ rest → key ∈ keys rest := mem_keys_of_mem
      grind [get?, keys_cons]

/-! ## values that are put -/

theorem put_eq_append {key : κ} {value : ν} {entries : Keyed κ ν}
    (h : get? key entries = none) : put key value entries = entries ++ [(key, value)] := by
  induction entries with
  | nil => rfl
  | cons entry rest ih => grind [get?, put]

theorem keys_put_of_mem {key : κ} {value : ν} {entries : Keyed κ ν} (h : key ∈ keys entries) :
    keys (put key value entries) = keys entries := by
  induction entries with
  | nil => simp at h
  | cons entry rest ih => grind [put, keys_cons]

/-- A key that gets the value which it has. -/
theorem put_of_get? {key : κ} {value : ν} {entries : Keyed κ ν}
    (h : get? key entries = some value) : put key value entries = entries := by
  induction entries with
  | nil => simp [get?] at h
  | cons entry rest ih => grind [get?, put]

/-- A value that is put repeats no key, whether its key is new or known. -/
theorem nodup_keys_put {key : κ} {value : ν} {entries : Keyed κ ν}
    (hnodup : (keys entries).Nodup) : (keys (put key value entries)).Nodup := by
  by_cases hmem : key ∈ keys entries
  · rwa [keys_put_of_mem hmem]
  · have hnew : ∀ other ∈ keys entries, other ≠ key := fun other hother heq =>
      hmem (heq ▸ hother)
    rw [put_eq_append (get?_eq_none_iff.mpr hmem), keys_append]
    exact List.nodup_append.mpr ⟨hnodup, List.nodup_singleton _, by simpa using hnew⟩

/-! ## ascending keys -/

theorem get?_putAscending (key other : Int) (value : ν) (entries : Keyed Int ν) :
    get? other (putAscending key value entries) =
      if key = other then some value else get? other entries := by
  induction entries with
  | nil => simp [putAscending, get?]
  | cons entry rest ih => grind [putAscending, get?]

/-- A key above all others goes to the end. -/
theorem putAscending_eq_append {key : Int} {value : ν} {entries : Keyed Int ν}
    (h : ∀ other ∈ keys entries, other < key) :
    putAscending key value entries = entries ++ [(key, value)] := by
  induction entries with
  | nil => rfl
  | cons entry rest ih =>
      have hlt : entry.1 < key := h entry.1 (by simp)
      have hrest := ih fun other hother => h other (by simp [hother])
      grind [putAscending]

/-! ## removed keys -/

theorem erase_sublist (key : κ) (entries : Keyed κ ν) : (erase key entries).Sublist entries :=
  List.filter_sublist

theorem keys_erase_sublist (key : κ) (entries : Keyed κ ν) :
    (keys (erase key entries)).Sublist (keys entries) := (erase_sublist key entries).map _

theorem erase_eq_self {key : κ} {entries : Keyed κ ν} (h : key ∉ keys entries) :
    erase key entries = entries := by
  refine List.filter_eq_self.mpr fun entry hentry => ?_
  have := mem_keys_of_mem hentry
  grind

/-- Removing a key that stands once removes one entry and no other. -/
theorem perm_cons_erase {key : κ} {value : ν} {entries : Keyed κ ν}
    (hnodup : (keys entries).Nodup) (h : get? key entries = some value) :
    entries.Perm ((key, value) :: erase key entries) := by
  induction entries with
  | nil => simp [get?] at h
  | cons entry rest ih =>
      obtain ⟨k, v⟩ := entry
      have hentry : k ∉ keys rest := (List.nodup_cons.mp hnodup).1
      have ih := ih (List.nodup_cons.mp hnodup).2
      by_cases hkey : k = key
      · subst hkey
        obtain rfl : v = value := by simpa [get?] using h
        have hrest : erase k rest = rest := erase_eq_self hentry
        have : erase k ((k, v) :: rest) = erase k rest := List.filter_cons_of_neg (by simp)
        rw [this, hrest]
      · have ih := ih (by simpa [get?, hkey] using h)
        have : erase key ((k, v) :: rest) = (k, v) :: erase key rest :=
          List.filter_cons_of_pos (by simpa using hkey)
        rw [this]
        exact (ih.cons _).trans (.swap ..)

/-- Removing a key that stands once makes the list shorter by one. -/
theorem length_erase_add_one {key : κ} {value : ν} {entries : Keyed κ ν}
    (hnodup : (keys entries).Nodup) (h : get? key entries = some value) :
    (erase key entries).length + 1 = entries.length := by
  simpa using (perm_cons_erase hnodup h).length_eq.symm

/-! ## changed values -/

@[simp] theorem keys_update (key : κ) (f : ν → ν) (entries : Keyed κ ν) :
    keys (update key f entries) = keys entries := by
  induction entries with
  | nil => rfl
  | cons entry rest ih => grind [update, keys]

theorem update_eq_self {key : κ} {f : ν → ν} {entries : Keyed κ ν} (h : key ∉ keys entries) :
    update key f entries = entries := by
  refine (List.map_congr_left fun entry hentry => ?_).trans (List.map_id entries)
  have := mem_keys_of_mem hentry
  grind

/-- What is read off every entry stays if the change does not touch it. -/
theorem map_update {f : ν → ν} {g : κ × ν → β} (key : κ) (entries : Keyed κ ν)
    (h : ∀ value, g (key, f value) = g (key, value)) :
    (update key f entries).map g = entries.map g := by
  rw [update, List.map_map]
  exact List.map_congr_left fun entry _ => by grind

/-- What is collected from the list grows by what is collected from the changed value. -/
theorem flatMap_update_perm {key : κ} {value : ν} {entries : Keyed κ ν} {f : ν → ν}
    {g : κ × ν → List β} (new : List β) (hnodup : (keys entries).Nodup)
    (h : get? key entries = some value)
    (hg : (g (key, f value)).Perm (new ++ g (key, value))) :
    ((update key f entries).flatMap g).Perm (new ++ entries.flatMap g) := by
  induction entries with
  | nil => simp [get?] at h
  | cons entry rest ih =>
      have hentry : entry.1 ∉ keys rest := (List.nodup_cons.mp hnodup).1
      by_cases hkey : entry.1 = key
      · obtain ⟨_, v⟩ := entry
        simp only at hkey hentry
        subst hkey
        have hv : v = value := by simpa [get?] using h
        have hrest : update _ f rest = rest := update_eq_self hentry
        simp only [update, List.map_cons, List.flatMap_cons, if_pos, hv] at hrest ⊢
        rw [hrest, ← List.append_assoc]
        exact hg.append_right _
      · have ih := ih (List.nodup_cons.mp hnodup).2 (by simpa [get?, hkey] using h)
        simp only [update, List.map_cons, List.flatMap_cons, if_neg hkey] at ih ⊢
        refine (ih.append_left _).trans ?_
        rw [← List.append_assoc, ← List.append_assoc]
        exact List.perm_append_comm.append_right _

/-- What is collected from the list shrinks if the change leaves less to collect. -/
theorem flatMap_update_sublist {key : κ} {entries : Keyed κ ν} {f : ν → ν} {g : κ × ν → List β}
    (h : ∀ value, (g (key, f value)).Sublist (g (key, value))) :
    ((update key f entries).flatMap g).Sublist (entries.flatMap g) := by
  induction entries with
  | nil => simp [update]
  | cons entry rest ih =>
      simp only [update, List.map_cons, List.flatMap_cons] at ih ⊢
      refine List.Sublist.append ?_ ih
      split
      · next hkey => subst hkey; exact h entry.2
      · exact List.Sublist.refl _

/-! ## lists that are read off the entries -/

section Read

variable {key : κ} {value : ν} {entries : Keyed κ ν} {g : κ × ν → β} {p : β → Bool}

/-- A search that only the key decides is a lookup. -/
theorem find?_map (hp : ∀ entry ∈ entries, p (g entry) = decide (entry.1 = key)) :
    (entries.map g).find? p = (get? key entries).map fun value => g (key, value) := by
  induction entries with
  | nil => rfl
  | cons entry rest ih =>
      have hentry := hp entry (by simp)
      have ih := ih fun other hother => hp other (by simp [hother])
      obtain ⟨k, value⟩ := entry
      by_cases hkey : k = key
      · subst hkey
        simp [get?, hentry]
      · simp [get?, hentry, hkey, ih]

/-- Erasing what only the key decides removes the key. -/
theorem eraseP_map (hnodup : (keys entries).Nodup)
    (hp : ∀ entry ∈ entries, p (g entry) = decide (entry.1 = key)) :
    (entries.map g).eraseP p = (erase key entries).map g := by
  induction entries with
  | nil => rfl
  | cons entry rest ih =>
      have hentry := hp entry (by simp)
      have hnotin : entry.1 ∉ keys rest := (List.nodup_cons.mp hnodup).1
      have ih := ih (List.nodup_cons.mp hnodup).2 fun other hother => hp other (by simp [hother])
      by_cases hkey : entry.1 = key
      · subst hkey
        have hrest : erase entry.1 (entry :: rest) = rest := by
          rw [erase, List.filter_cons_of_neg (by simp)]
          exact erase_eq_self hnotin
        rw [hrest, List.map_cons, List.eraseP_cons_of_pos (by simp [hentry])]
      · simpa [erase, hentry, hkey] using ih

variable {g : κ × ν → List β}

/-- What the value of one key contributes to a collection. -/
theorem filter_flatMap (hnodup : (keys entries).Nodup) (h : get? key entries = some value)
    (hp : ∀ entry ∈ entries, ∀ item ∈ g entry, p item = decide (entry.1 = key)) :
    (entries.flatMap g).filter p = g (key, value) := by
  induction entries with
  | nil => simp [get?] at h
  | cons entry rest ih =>
      have hentry := hp entry (by simp)
      have hrest : ∀ other ∈ rest, ∀ item ∈ g other, p item = decide (other.1 = key) :=
        fun other hother => hp other (by simp [hother])
      have hnotin : entry.1 ∉ keys rest := (List.nodup_cons.mp hnodup).1
      rw [List.flatMap_cons, List.filter_append]
      by_cases hkey : entry.1 = key
      · have hnone : (rest.flatMap g).filter p = [] := by
          refine List.filter_eq_nil_iff.mpr fun item hitem => ?_
          obtain ⟨other, hother, hmem⟩ := List.mem_flatMap.mp hitem
          have hne : other.1 ≠ key := fun heq =>
            hnotin (hkey.trans heq.symm ▸ mem_keys_of_mem hother)
          simp [hrest other hother item hmem, hne]
        have hall : (g entry).filter p = g entry :=
          List.filter_eq_self.mpr fun item hitem => by simp [hentry item hitem, hkey]
        have hvalue : entry = (key, value) := by
          obtain ⟨k, v⟩ := entry
          simp only at hkey
          subst hkey
          simpa [get?] using h
        rw [hnone, hall, List.append_nil, hvalue]
      · have hnone : (g entry).filter p = [] :=
          List.filter_eq_nil_iff.mpr fun item hitem => by simp [hentry item hitem, hkey]
        rw [hnone, List.nil_append]
        exact ih (List.nodup_cons.mp hnodup).2 (by simpa [get?, hkey] using h) hrest

/-- What is left of a collection without the value of one key. -/
theorem filter_not_flatMap {f : ν → ν} (hf : ∀ value, g (key, f value) = [])
    (hp : ∀ entry ∈ entries, ∀ item ∈ g entry, p item = decide (entry.1 = key)) :
    (entries.flatMap g).filter (fun item => !p item) = (update key f entries).flatMap g := by
  induction entries with
  | nil => rfl
  | cons entry rest ih =>
      have hentry := hp entry (by simp)
      have ih := ih fun other hother => hp other (by simp [hother])
      rw [List.flatMap_cons, List.filter_append, ih]
      simp only [update, List.map_cons, List.flatMap_cons, List.append_cancel_right_eq]
      obtain ⟨k, value⟩ := entry
      by_cases hkey : k = key
      · subst hkey
        rw [if_pos rfl, hf]
        exact List.filter_eq_nil_iff.mpr fun item hitem => by simp [hentry item hitem]
      · rw [if_neg hkey]
        exact List.filter_eq_self.mpr fun item hitem => by simp [hentry item hitem, hkey]

end Read

/-! ## the same keys with other values -/

section MapValues

variable {μ : Type} {f : ν → μ} {key : κ} {value : ν} {entries : Keyed κ ν}

/-- The same keys with other values. -/
def mapValues (f : ν → μ) (entries : Keyed κ ν) : Keyed κ μ :=
  entries.map fun entry => (entry.1, f entry.2)

omit [DecidableEq κ] in
@[simp] theorem length_mapValues : (mapValues f entries).length = entries.length :=
  List.length_map ..

omit [DecidableEq κ] in
@[simp] theorem keys_mapValues : keys (mapValues f entries) = keys entries := by
  simp [keys, mapValues]

theorem get?_mapValues : get? key (mapValues f entries) = (get? key entries).map f := by
  induction entries with
  | nil => rfl
  | cons entry rest ih => grind [mapValues, get?]

theorem mapValues_put :
    mapValues f (put key value entries) = put key (f value) (mapValues f entries) := by
  induction entries with
  | nil => rfl
  | cons entry rest ih => grind [mapValues, put]

theorem mapValues_putAscending {key : Int} {entries : Keyed Int ν} :
    mapValues f (putAscending key value entries) =
      putAscending key (f value) (mapValues f entries) := by
  induction entries with
  | nil => rfl
  | cons entry rest ih => grind [mapValues, putAscending]

theorem mapValues_erase : mapValues f (erase key entries) = erase key (mapValues f entries) := by
  simp only [mapValues, erase, List.filter_map]
  rfl

/-- What is done to one value can be done before or after all values are mapped. -/
theorem mapValues_update {g : ν → ν} {h : μ → μ} (hgh : ∀ value, f (g value) = h (f value)) :
    mapValues f (update key g entries) = update key h (mapValues f entries) := by
  simp only [mapValues, update, List.map_map]
  exact List.map_congr_left fun entry _ => by grind

omit [DecidableEq κ] in
theorem mapValues_congr {g : ν → μ} (h : ∀ entry ∈ entries, f entry.2 = g entry.2) :
    mapValues f entries = mapValues g entries :=
  List.map_congr_left fun entry hentry => by rw [h entry hentry]

/-- Two maps that differ at one key. -/
theorem mapValues_eq_update {f' : ν → μ} {g : μ → μ}
    (h : ∀ entry ∈ entries, f' entry.2 = if entry.1 = key then g (f entry.2) else f entry.2) :
    mapValues f' entries = update key g (mapValues f entries) := by
  simp only [mapValues, update, List.map_map]
  exact List.map_congr_left fun entry hentry => by grind

/-- Only the value that a key has matters for its change. -/
theorem update_congr {g h : ν → ν} (hnodup : (keys entries).Nodup)
    (hvalue : get? key entries = some value) (hgh : g value = h value) :
    update key g entries = update key h entries := by
  refine List.map_congr_left fun entry hentry => ?_
  by_cases hkey : entry.1 = key
  · have hsame : get? key entries = some entry.2 :=
      (get?_eq_some_iff_mem hnodup).mpr (hkey ▸ hentry)
    rw [hvalue] at hsame
    rw [if_pos hkey, if_pos hkey, ← Option.some.inj hsame, hgh]
  · rw [if_neg hkey, if_neg hkey]

/-- A value that is replaced by itself. -/
theorem update_of_get? (hnodup : (keys entries).Nodup) (hvalue : get? key entries = some value) :
    update key (fun _ => value) entries = entries := by
  have hid : update key (fun _ => value) entries = update key id entries :=
    update_congr hnodup hvalue rfl
  rw [hid]
  exact (List.map_congr_left fun entry _ => by grind).trans (List.map_id entries)

/-- A value that is replaced twice is replaced by the second one. -/
theorem update_update (first second : ν) : update key (fun _ => second)
    (update key (fun _ => first) entries) = update key (fun _ => second) entries := by
  simp only [update, List.map_map]
  exact List.map_congr_left fun entry _ => by grind

theorem erase_update {g : ν → ν} : erase key (update key g entries) = erase key entries := by
  induction entries with
  | nil => rfl
  | cons entry rest ih => grind [erase, update]

end MapValues

end ChatService.Keyed
