import Mathlib.Data.List.TakeWhile
import ChatService.Search.Address

/-!
# Addresses that are sent as they are written

An address that begins with a slash, holds no character that has to be encoded and has no dot
segments is the target of its requests as it stands.
-/

namespace ChatService.Text

variable {α : Type} [DecidableEq α] {separator : α} {cs : List α}

/-- Where there is no separator there is no cut. -/
theorem cut_of_not_mem (h : separator ∉ cs) : cut separator cs = (cs, none) := by
  have hnone : cut? separator cs = none := by
    cases hcut : cut? separator cs with
    | none => rfl
    | some parts =>
        rw [eq_of_cut? hcut] at h
        simp at h
  rw [cut, hnone]

theorem exists_splitAt (separator : α) (cs : List α) :
    ∃ first others, splitAt separator cs = first :: others := by
  cases cs with
  | nil => exact ⟨[], [], rfl⟩
  | cons c rest =>
      rw [splitAt]
      split
      · split <;> exact ⟨_, _, rfl⟩
      · exact ⟨_, _, rfl⟩

theorem splitAt_cons {first : List α} {others : List (List α)} {rest : List α} (c : α)
    (h : splitAt separator rest = first :: others) :
    splitAt separator (c :: rest) =
      if c = separator then [] :: first :: others else (c :: first) :: others := by
  rw [splitAt, h]

/-- The parts, each behind a separator, are the whole behind one. -/
theorem flatMap_splitAt (separator : α) (cs : List α) :
    (splitAt separator cs).flatMap (separator :: ·) = separator :: cs := by
  induction cs with
  | nil => rfl
  | cons c rest ih =>
      obtain ⟨first, others, hparts⟩ := exists_splitAt separator rest
      rw [hparts, List.flatMap_cons, List.cons_append] at ih
      have hrest := (List.cons.inj ih).2
      rw [splitAt_cons c hparts]
      split <;> simp_all

/-- Nothing is encoded where nothing is reserved. -/
theorem percentEncode_of_unreserved {isReserved : Char → Bool} {cs : List Char}
    (h : ∀ c ∈ cs, isReserved c = false) : percentEncode isReserved cs = cs := by
  induction cs with
  | nil => rfl
  | cons c cs ih => simp_all [percentEncode]

end ChatService.Text

namespace ChatService.Search.Address

/-- A character that stands for itself in a path. -/
def isPlain (c : Char) : Bool := !reservedInPath c && c != '\\'

/-- A segment that stands for itself in a path. -/
def isName (segment : List Char) : Bool :=
  segment.all isPlain && plainDots segment != ['.'] && plainDots segment != ['.', '.']

/-- An address that begins with a slash and has only segments that stand for themselves. -/
def IsPlain (cs : List Char) : Prop :=
  ∃ rest, cs = '/' :: rest ∧ ∀ segment ∈ Text.splitAt '/' rest, isName segment = true

variable {cs : List Char}

theorem isPlain_iff {c : Char} : isPlain c = true ↔ reservedInPath c = false ∧ c ≠ '\\' := by
  simp [isPlain]

theorem lt_toNat_of_isPlain {c : Char} (h : isPlain c = true) : 0x20 < c.toNat := by
  have hreserved := (isPlain_iff.mp h).1
  simp only [reservedInPath, isControl, Bool.or_eq_false_iff, decide_eq_false_iff_not] at hreserved
  obtain ⟨⟨hcontrol, -⟩, hspecial⟩ := hreserved
  have hspace : c.toNat ≠ 0x20 := fun heq => by
    rw [show c = ' ' from Char.toNat_inj.mp heq] at hspecial
    exact absurd hspecial (by decide)
  omega

/-- Segments that stand for themselves are taken as they are. -/
theorem resolve_of_names {segments : List (List Char)} (h : ∀ segment ∈ segments, isName segment)
    (done : List (List Char)) : resolve done segments = segments.reverse ++ done := by
  induction segments generalizing done with
  | nil => rfl
  | cons segment rest ih =>
      obtain ⟨hsegment, hrest⟩ := List.forall_mem_cons.mp h
      simp only [isName, Bool.and_eq_true, bne_iff_ne, List.all_eq_true, isPlain_iff] at hsegment
      obtain ⟨⟨hplain, hdot⟩, hdots⟩ := hsegment
      rw [resolve, if_neg hdots, if_neg hdot, ih hrest,
        Text.percentEncode_of_unreserved fun c hc => (hplain c hc).1]
      simp

theorem IsPlain.plain (h : IsPlain cs) {c : Char} (hc : c ∈ cs) : isPlain c = true := by
  obtain ⟨rest, rfl, hnames⟩ := h
  rw [← Text.flatMap_splitAt, List.mem_flatMap] at hc
  obtain ⟨segment, hsegment, hc⟩ := hc
  have hname := hnames segment hsegment
  simp only [isName, Bool.and_eq_true, List.all_eq_true] at hname
  rcases List.mem_cons.mp hc with rfl | hc
  · decide
  · exact hname.1.1 c hc

theorem IsPlain.path_eq (h : IsPlain cs) : path cs = cs := by
  have hmap : (cs.map fun c => if c = '\\' then '/' else c) = cs := by
    refine (List.map_congr_left fun c hc => if_neg ?_).trans (List.map_id' cs)
    exact (isPlain_iff.mp (h.plain hc)).2
  obtain ⟨rest, rfl, hnames⟩ := h
  rw [path, hmap]
  simp only [List.head?_cons, if_true, List.drop_one, List.tail_cons]
  rw [resolve_of_names hnames, List.append_nil, List.reverse_reverse, Text.flatMap_splitAt]

/-- **A plain address is the target of its requests.** -/
theorem target_of_plain (h : IsPlain cs) : target cs = String.ofList cs := by
  have hfilter : (cs.filter fun c => c ≠ '\t' && c ≠ '\n' && c ≠ '\r') = cs := by
    refine List.filter_eq_self.mpr fun c hc => ?_
    have hne : ∀ d, isPlain d = false → c ≠ d := fun d hd heq => by
      rw [← heq, h.plain hc] at hd
      contradiction
    simp [hne '\t' (by decide), hne '\n' (by decide), hne '\r' (by decide)]
  have htrim : (cs.reverse.dropWhile fun c => decide (c.toNat ≤ 0x20)) = cs.reverse := by
    refine List.dropWhile_eq_self_iff.mpr fun hpos => ?_
    have hplain := h.plain (List.mem_reverse.mp (List.getElem_mem hpos))
    simpa using Nat.not_le.mpr (lt_toNat_of_isPlain hplain)
  have hhash : '#' ∉ cs := fun hc => absurd (h.plain hc) (by decide)
  have hquestion : '?' ∉ cs := fun hc => absurd (h.plain hc) (by decide)
  simp only [target, hfilter, htrim, List.reverse_reverse, Text.cut_of_not_mem hhash,
    Text.cut_of_not_mem hquestion, h.path_eq, Option.map_none, Option.getD_none, List.append_nil]

end ChatService.Search.Address
