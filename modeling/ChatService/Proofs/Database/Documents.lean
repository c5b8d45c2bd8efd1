import ChatService.Proofs.Database.Records
import Mathlib.Data.List.Nodup
import Mathlib.Data.List.Perm.Basic

/-!
# Documents by their keys

Writers collide on single documents.  A document is named by its collection and its id; where no id
stands twice, a collection is, up to the order of its records, what its ids lead to.
-/

namespace ChatService.Database

open Server (Records recordsOf)

/-- What names a document. -/
structure Key where
  collection : String
  id : Option Value
deriving DecidableEq, Repr

/-- The record with an id, if there is one. -/
def documentIn (id : Option Value) (contents : List Record) : Option Record :=
  contents.find? fun record => decide (Keyed.get? "_id" record = id)

def document (records : Records) (key : Key) : Option Record :=
  documentIn key.id (recordsOf key.collection records)

/-- No id stands twice. -/
def Identifies (contents : List Record) : Prop := (contents.map (Keyed.get? "_id")).Nodup

/-- No id stands twice in a collection. -/
def Identified (records : Records) : Prop :=
  ∀ collection, Identifies (recordsOf collection records)

/-- The documents in which two states of the records differ. -/
def Changed (before after : Records) (key : Key) : Prop := document after key ≠ document before key

/-- What changed on the way from one state to another changed before some state in between or after
it. -/
theorem Changed.split {before after : Records} {key : Key} (h : Changed before after key)
    (between : Records) : Changed before between key ∨ Changed between after key := by
  by_contra hsame
  obtain ⟨hfirst, hsecond⟩ := not_or.mp hsame
  exact h ((not_not.mp hsecond).trans (not_not.mp hfirst))

section Contents

variable {contents before after : List Record} {record : Record} {id : Option Value}

theorem Identifies.nodup (h : Identifies contents) : contents.Nodup := h.of_map

theorem Identifies.filter (h : Identifies contents) (p : Record → Bool) :
    Identifies (contents.filter p) := h.sublist (List.filter_sublist.map _)

theorem Identifies.added (h : Identifies contents)
    (hfree : ∀ other ∈ contents, Keyed.get? "_id" other ≠ Keyed.get? "_id" record) :
    Identifies (contents ++ [record]) := by
  unfold Identifies
  rw [List.map_append, List.map_singleton]
  refine h.append (List.nodup_singleton _) (List.disjoint_singleton.mpr fun hmem => ?_)
  obtain ⟨other, hother, hsame⟩ := List.mem_map.mp hmem
  exact hfree other hother hsame

theorem Identifies.replaced {record' : Record} (h : Identifies (before ++ record :: after))
    (hid : Keyed.get? "_id" record' = Keyed.get? "_id" record) :
    Identifies (before ++ record' :: after) := by
  unfold Identifies at h ⊢
  rw [List.map_append, List.map_cons] at h ⊢
  rw [hid]
  exact h

theorem Identifies.removed (h : Identifies (before ++ record :: after)) :
    Identifies (before ++ after) :=
  h.sublist (((List.sublist_cons_self record after).append_left before).map _)

theorem documentIn_eq_some (h : documentIn id contents = some record) :
    record ∈ contents ∧ Keyed.get? "_id" record = id :=
  ⟨List.mem_of_find?_eq_some h, by simpa using List.find?_some h⟩

theorem documentIn_eq_some_iff (h : Identifies contents) :
    documentIn id contents = some record ↔ record ∈ contents ∧ Keyed.get? "_id" record = id := by
  refine ⟨documentIn_eq_some, fun ⟨hmem, hid⟩ => ?_⟩
  cases hfound : documentIn id contents with
  | none => exact absurd hid (by simpa using List.find?_eq_none.mp hfound record hmem)
  | some found =>
      obtain ⟨hmem', hid'⟩ := documentIn_eq_some hfound
      rw [List.inj_on_of_nodup_map h hmem' hmem (hid'.trans hid.symm)]

/-- A record is there if it is what its id leads to. -/
theorem documentIn_id_iff (h : Identifies contents) (record : Record) :
    documentIn (Keyed.get? "_id" record) contents = some record ↔ record ∈ contents :=
  (documentIn_eq_some_iff h).trans (and_iff_left rfl)

theorem documentIn_eq_none_iff :
    documentIn id contents = none ↔ ∀ record ∈ contents, Keyed.get? "_id" record ≠ id := by
  simp [documentIn]

/-- One record and the others. -/
theorem documentIn_split (h : Identifies (before ++ record :: after)) (id : Option Value) :
    documentIn id (before ++ record :: after) =
      if Keyed.get? "_id" record = id then some record else documentIn id (before ++ after) := by
  split
  · next hid => exact (documentIn_eq_some_iff h).mpr ⟨by simp, hid⟩
  · next hid => simp [documentIn, List.find?_append, hid]

theorem documentIn_filter (h : Identifies contents) (p : Record → Bool) :
    documentIn id (contents.filter p) = (documentIn id contents).filter p := by
  ext record
  rw [documentIn_eq_some_iff (h.filter p), List.mem_filter, Option.filter_eq_some_iff,
    documentIn_eq_some_iff h]
  grind

/-- Collections with the same documents have the same records. -/
theorem perm_of_documentIn {contents' : List Record} (h : Identifies contents)
    (h' : Identifies contents') (hsame : ∀ id, documentIn id contents = documentIn id contents') :
    contents.Perm contents' := by
  refine (List.perm_ext_iff_of_nodup h.nodup h'.nodup).mpr fun record => ?_
  rw [← documentIn_id_iff h, hsame, documentIn_id_iff h']

/-! ## changes of one collection -/

variable {contents' : List Record} {record' : Record}

/-- A document has changed. -/
theorem perm_of_replaced (h : Identifies contents) (h' : Identifies contents')
    (hbefore : documentIn id contents = some record)
    (hafter : documentIn id contents' = some record')
    (hother : ∀ other ≠ id, documentIn other contents' = documentIn other contents) :
    ∃ before after, contents = before ++ record :: after ∧
      (before ++ record' :: after).Perm contents' := by
  obtain ⟨hmem, hid⟩ := documentIn_eq_some hbefore
  have hid' := (documentIn_eq_some hafter).2
  obtain ⟨before, after, rfl⟩ := List.append_of_mem hmem
  have hreplaced := h.replaced (hid'.trans hid.symm)
  refine ⟨before, after, rfl, perm_of_documentIn hreplaced h' fun other => ?_⟩
  rw [documentIn_split hreplaced, hid']
  split
  · next hsame => rw [← hsame, hafter]
  · next hne => rw [hother other (Ne.symm hne), documentIn_split h, hid, if_neg hne]

/-- A document is new. -/
theorem perm_of_added (h : Identifies contents) (h' : Identifies contents')
    (hbefore : documentIn id contents = none) (hafter : documentIn id contents' = some record)
    (hother : ∀ other ≠ id, documentIn other contents' = documentIn other contents) :
    (contents ++ [record]).Perm contents' := by
  have hid := (documentIn_eq_some hafter).2
  have hadded : Identifies (contents ++ [record]) :=
    h.added (hid ▸ documentIn_eq_none_iff.mp hbefore)
  refine perm_of_documentIn hadded h' fun other => ?_
  rw [documentIn_split hadded, hid, List.append_nil]
  split
  · next hsame => rw [← hsame, hafter]
  · next hne => rw [hother other (Ne.symm hne)]

/-- A document is gone. -/
theorem perm_of_removed (h : Identifies contents) (h' : Identifies contents')
    (hbefore : documentIn id contents = some record) (hafter : documentIn id contents' = none)
    (hother : ∀ other ≠ id, documentIn other contents' = documentIn other contents) :
    ∃ before after, contents = before ++ record :: after ∧ (before ++ after).Perm contents' := by
  obtain ⟨hmem, hid⟩ := documentIn_eq_some hbefore
  obtain ⟨before, after, rfl⟩ := List.append_of_mem hmem
  refine ⟨before, after, rfl, perm_of_documentIn h.removed h' fun other => ?_⟩
  by_cases hsame : id = other
  · rw [← hsame, hafter, documentIn_eq_none_iff]
    intro kept hkept hkeptId
    have hkept' : kept ∈ before ++ record :: after :=
      ((List.sublist_cons_self record after).append_left before).subset hkept
    have hfound := (documentIn_eq_some_iff h).mpr ⟨hkept', hkeptId⟩
    obtain rfl := Option.some.inj (hbefore.symm.trans hfound)
    exact (List.nodup_cons.mp (List.nodup_middle.mp h.nodup)).1 hkept
  · rw [hother other (Ne.symm hsame), documentIn_split h, hid, if_neg hsame]

/-- Those documents are left that pass a test. -/
theorem perm_of_filtered (h : Identifies contents) (h' : Identifies contents')
    (p : Record → Bool)
    (hafter : ∀ id, documentIn id contents' = (documentIn id contents).filter p) :
    (contents.filter p).Perm contents' :=
  perm_of_documentIn (h.filter p) h' fun id => (documentIn_filter h p).trans (hafter id).symm

end Contents

end ChatService.Database
