import ChatService.Proofs.Search.Memory
import ChatService.Proofs.Search.Remote

/-!
# Where documents are put

A document is sent to the address of its index with its id behind it.  All that stands there of a
document with an alphanumeric token stands for itself in an address, colons and minus signs
included, so documents are put under one target exactly if they are of one message.  An engine that
keeps what is put under its target therefore holds what the index in memory holds, and replaces a
document when that one does.
-/

namespace ChatService.Text

variable {α : Type} [DecidableEq α] {separator : α} {first rest : List α} {others : List (List α)}

theorem splitAt_of_not_mem (h : separator ∉ first) : splitAt separator first = [first] := by
  induction first with
  | nil => rfl
  | cons c first ih =>
      rw [List.mem_cons, not_or] at h
      rw [splitAt_cons c (ih h.2), if_neg (Ne.symm h.1)]

theorem splitAt_append_cons (h : separator ∉ first) :
    splitAt separator (first ++ separator :: rest) = first :: splitAt separator rest := by
  obtain ⟨part, others, hrest⟩ := exists_splitAt separator rest
  induction first with
  | nil => rw [List.nil_append, splitAt_cons separator hrest, if_pos rfl, hrest]
  | cons c first ih =>
      rw [List.mem_cons, not_or] at h
      rw [List.cons_append, splitAt_cons c ((ih h.2).trans rfl), if_neg (Ne.symm h.1)]

/-- A text that was put together out of parts without separators is split into these parts. -/
theorem splitAt_append_flatMap (hfirst : separator ∉ first)
    (hothers : ∀ part ∈ others, separator ∉ part) :
    splitAt separator (first ++ others.flatMap (separator :: ·)) = first :: others := by
  induction others generalizing first with
  | nil => rw [List.flatMap_nil, List.append_nil, splitAt_of_not_mem hfirst]
  | cons part others ih =>
      obtain ⟨hpart, hothers⟩ := List.forall_mem_cons.mp hothers
      rw [List.flatMap_cons, List.cons_append, splitAt_append_cons hfirst, ih hpart hothers]

end ChatService.Text

namespace ChatService.Search

/-! ## names in addresses -/

namespace Address

/-- A character of names and numbers: a letter or a digit of ASCII, a colon, a minus sign or a low
line. -/
def isNameChar (c : Char) : Bool := c.isAlphanum || c == ':' || c == '-' || c == '_'

theorem lt_of_isAlphanum {c : Char} (h : c.isAlphanum = true) : c.toNat < 0x80 := by
  have hranges : (decide ('A'.val ≤ c.val ∧ c.val ≤ 'Z'.val) ||
      decide ('a'.val ≤ c.val) && decide (c.val ≤ 'z'.val) ||
        decide ('0'.val ≤ c.val) && decide (c.val ≤ '9'.val)) = true := h
  simp [UInt32.le_iff_toNat_le] at hranges
  omega

theorem lt_of_isNameChar {c : Char} (h : isNameChar c = true) : c.toNat < 0x80 := by
  simp only [isNameChar, Bool.or_eq_true, beq_iff_eq] at h
  obtain ((h | rfl) | rfl) | rfl := h
  · exact lt_of_isAlphanum h
  · decide
  · decide
  · decide

/-- A character that stands for itself, is no separator and makes no dot segment. -/
def isHarmless (c : Char) : Bool := isPlain c && c != '%' && c != '.' && c != '/'

theorem isHarmless_of_isNameChar {c : Char} (h : isNameChar c = true) : isHarmless c = true := by
  have hall : ∀ n, n < 0x80 → isNameChar (Char.ofNat n) = true →
      isHarmless (Char.ofNat n) = true := by
    decide
  have hc := hall c.toNat (lt_of_isNameChar h)
  rw [Char.ofNat_toNat] at hc
  exact hc h

theorem plainDots_of_not_mem {segment : List Char} (h : '%' ∉ segment) :
    plainDots segment = segment := by
  induction segment with
  | nil => rfl
  | cons c segment ih =>
      rw [List.mem_cons, not_or] at h
      rw [plainDots, ih h.2]
      · exact fun rest hc _ => h.1 hc.symm
      · exact fun rest hc _ => h.1 hc.symm

/-- A segment that stands between two slashes and is sent as it is. -/
def IsSegment (segment : List Char) : Prop := '/' ∉ segment ∧ isName segment = true

theorem isSegment_of_nameChars {segment : List Char} (h : ∀ c ∈ segment, isNameChar c = true) :
    IsSegment segment := by
  have hharmless : ∀ c ∈ segment, isHarmless c = true := fun c hc =>
    isHarmless_of_isNameChar (h c hc)
  have hnot : ∀ c, isHarmless c = false → c ∉ segment := fun c hc hmem => by
    rw [hharmless c hmem] at hc
    contradiction
  have hplain : ∀ c ∈ segment, isPlain c = true := fun c hc => by
    have := hharmless c hc
    simp only [isHarmless, Bool.and_eq_true] at this
    exact this.1.1.1
  have hdots : plainDots segment = segment := plainDots_of_not_mem (hnot '%' (by decide))
  have hdot : '.' ∉ segment := hnot '.' (by decide)
  refine ⟨hnot '/' (by decide), ?_⟩
  simp only [isName, hdots, Bool.and_eq_true, List.all_eq_true, bne_iff_ne]
  exact ⟨⟨hplain, by rintro rfl; simp at hdot⟩, by rintro rfl; simp at hdot⟩

/-- Segments that are sent as they are make an address that is. -/
theorem isPlain_of_segments {segments : List (List Char)} (hne : segments ≠ [])
    (h : ∀ segment ∈ segments, IsSegment segment) : IsPlain (segments.flatMap ('/' :: ·)) := by
  obtain ⟨first, others, rfl⟩ := List.exists_cons_of_ne_nil hne
  refine ⟨first ++ others.flatMap ('/' :: ·), rfl, ?_⟩
  rw [Text.splitAt_append_flatMap (h first List.mem_cons_self).1
    fun part hpart => (h part (List.mem_cons_of_mem _ hpart)).1]
  exact fun segment hsegment => (h segment hsegment).2

end Address

/-! ## documents -/

/-- A text of letters and digits of ASCII. -/
def IsAlphanumeric (s : String) : Prop := ∀ c ∈ s.toList, c.isAlphanum = true

theorem IsAlphanumeric.nameChars {s : String} (h : IsAlphanumeric s) :
    ∀ c ∈ s.toList, Address.isNameChar c = true := fun c hc => by
  simp [Address.isNameChar, h c hc]

/-- The id of a document with an alphanumeric token stands for itself in an address. -/
theorem Document.isSegment_id {d : Document} (h : IsAlphanumeric d.applicationToken) :
    Address.IsSegment d.id.toList := by
  have hnumber : ∀ n, ∀ c ∈ Json.intChars n, Address.isNameChar c = true := fun n c hc => by
    obtain hdigit | rfl := Text.isDigit_or_eq_of_mem_intChars hc
    · simp [Address.isNameChar, Char.isAlphanum, hdigit]
    · decide
  have hcolon : Address.isNameChar ':' = true := by decide
  refine Address.isSegment_of_nameChars fun c hc => ?_
  rw [Document.toList_id] at hc
  simp only [List.mem_append, List.mem_cons] at hc
  obtain (hc | rfl | hc) | rfl | hc := hc
  · exact h.nameChars c hc
  · exact hcolon
  · exact hnumber _ c hc
  · exact hcolon
  · exact hnumber _ c hc

namespace Remote

/-! ## targets -/

/-- A site whose base consists of segments that are sent as they are, with any number of slashes at
its end, and whose index has a name of letters and digits. -/
structure Site.IsPlain (site : Site) (segments : List (List Char)) (slashes : Nat) : Prop where
  path : ∀ segment ∈ segments, Address.IsSegment segment
  last : segments.getLast? ≠ some []
  base : site.base.toList = segments.flatMap ('/' :: ·) ++ List.replicate slashes '/'
  index : IsAlphanumeric site.index

/-- The target of an id: the base, the index and the id. -/
def documentTarget (segments : List (List Char)) (index id : String) : String :=
  String.ofList (segments.flatMap ('/' :: ·)) ++ "/" ++ index ++ "/_doc/" ++ id

variable {site : Site} {segments : List (List Char)} {slashes : Nat} {d e : Document}

theorem documentTarget_injective (segments : List (List Char)) (index : String) :
    Function.Injective (documentTarget segments index) := fun id id' h => by
  simpa [documentTarget, ← String.toList_inj] using h

/-- No slash ends the path of a plain base. -/
theorem Site.IsPlain.getLast?_ne (h : site.IsPlain segments slashes) :
    (segments.flatMap ('/' :: ·)).getLast? ≠ some '/' := by
  obtain rfl | ⟨others, segment, rfl⟩ := List.eq_nil_or_concat segments
  · simp
  · rw [List.concat_eq_append]
    rw [List.concat_eq_append] at h
    have hne : segment ≠ [] := fun hnil => h.last (by simp [hnil])
    have hslash : '/' ∉ segment := (h.path segment (by simp)).1
    rw [List.flatMap_append, List.flatMap_singleton, List.getLast?_append_of_ne_nil _ (by simp),
      List.getLast?_cons, List.getLast?_eq_some_getLast hne]
    exact fun hlast => hslash (Option.some.inj hlast ▸ List.getLast_mem hne)

theorem Site.IsPlain.target_eq (h : site.IsPlain segments slashes)
    (htoken : IsAlphanumeric d.applicationToken) :
    site.target (site.index ++ "/_doc/" ++ d.id) = documentTarget segments site.index d.id := by
  have hall : ∀ segment ∈ segments ++ [site.index.toList, "_doc".toList, d.id.toList],
      Address.IsSegment segment := by
    intro segment hsegment
    simp only [List.mem_append, List.mem_cons, List.not_mem_nil, or_false] at hsegment
    obtain hsegment | rfl | rfl | rfl := hsegment
    · exact h.path segment hsegment
    · exact Address.isSegment_of_nameChars h.index.nameChars
    · exact ⟨by decide, by decide⟩
    · exact Document.isSegment_id htoken
  have hparts : segments.flatMap ('/' :: ·) ++ '/' :: (site.index ++ "/_doc/" ++ d.id).toList =
      (segments ++ [site.index.toList, "_doc".toList, d.id.toList]).flatMap ('/' :: ·) := by
    simp
  rw [Site.target, address_of_slashes h.base h.getLast?_ne, hparts,
    Address.target_of_plain (Address.isPlain_of_segments (by simp) hall), ← hparts]
  simp [documentTarget, ← String.toList_inj]

/-- What comes of the reply to a document. -/
def receipt (reply : Option Reply) : Except SearchError Unit :=
  (reply.elim (.error broken) accepted).map fun _ => ()

/-- A document is put once, under the target of its id. -/
theorem Site.IsPlain.add_eq {m : Type → Type} [Monad m] [LawfulMonad m] (link : Link m)
    (h : site.IsPlain segments slashes) (htoken : IsAlphanumeric d.applicationToken) :
    add link site d =
      receipt <$> link ⟨.put, documentTarget segments site.index d.id, some d.toJson⟩ := by
  rw [add, ask, h.target_eq htoken]
  simp only [bind_assoc, map_eq_pure_bind]
  refine congrArg (bind _) (funext fun reply => ?_)
  cases reply <;> simp [receipt]

/-! ## what an engine keeps -/

/-- **An engine that keeps documents**, seen through what it holds under a target: a document that
it accepts stands where it was put, and nothing else changes, whatever it replies. -/
structure Keeps {σ : Type} (link : Link (StateM σ)) (held : σ → String → Option Json) : Prop where
  own : ∀ {s s' target body reply}, (link ⟨.put, target, some body⟩).run s = (some reply, s') →
    200 ≤ reply.status → reply.status < 300 → held s' target = some body
  others : ∀ {s target body other}, other ≠ target →
    held ((link ⟨.put, target, some body⟩).run s).2 other = held s other

/-- Documents that an engine takes, one after the other, on the way from a state to a state. -/
inductive Taken {σ : Type} (link : Link (StateM σ)) (site : Site) (s : σ) :
    List Document → σ → Prop where
  | nil : Taken link site s [] s
  | add {added : List Document} {d : Document} {s' s'' : σ} (h : Taken link site s added s')
      (hadd : (add link site d).run s' = (.ok (), s'')) : Taken link site s (added ++ [d]) s''

section Keeping

variable {σ : Type} {link : Link (StateM σ)} {held : σ → String → Option Json} {s s' : σ}
  {added : List Document} {key : String}

theorem run_add (h : site.IsPlain segments slashes) (hd : IsAlphanumeric d.applicationToken) :
    (add link site d).run s = Prod.map receipt id
      ((link ⟨.put, documentTarget segments site.index d.id, some d.toJson⟩).run s) := by
  rw [h.add_eq link hd]
  rfl

theorem receipt_eq_ok {reply : Option Reply} :
    receipt reply = .ok () ↔ ∃ r, reply = some r ∧ 200 ≤ r.status ∧ r.status < 300 := by
  cases reply with
  | none => simp [receipt, Except.map]
  | some r =>
      by_cases hsuccess : 200 ≤ r.status ∧ r.status < 300 <;>
        simp [receipt, accepted, hsuccess, Except.map]

/-- A document that is taken stands under its target. -/
theorem Keeps.held_add (hkeeps : Keeps link held) (h : site.IsPlain segments slashes)
    (hd : IsAlphanumeric d.applicationToken) (hadd : (add link site d).run s = (.ok (), s')) :
    held s' (documentTarget segments site.index d.id) = some d.toJson := by
  rw [run_add h hd] at hadd
  obtain ⟨hreceipt, rfl⟩ := Prod.mk.inj hadd
  obtain ⟨reply, hreply, hlow, hhigh⟩ := receipt_eq_ok.mp hreceipt
  exact hkeeps.own (Prod.ext hreply rfl) hlow hhigh

/-- Whatever comes of a document, nothing changes under the target of another id. -/
theorem Keeps.held_add_of_ne (hkeeps : Keeps link held) (h : site.IsPlain segments slashes)
    (hd : IsAlphanumeric d.applicationToken) (hne : key ≠ d.id) :
    held ((add link site d).run s).2 (documentTarget segments site.index key) =
      held s (documentTarget segments site.index key) := by
  rw [run_add h hd]
  exact hkeeps.others ((documentTarget_injective segments site.index).ne hne)

/-- An engine that took documents holds those of the index in memory, each under its target. -/
theorem Keeps.held_taken (hkeeps : Keeps link held) (h : site.IsPlain segments slashes)
    (hadded : ∀ d ∈ added, IsAlphanumeric d.applicationToken)
    (hempty : ∀ id, held s (documentTarget segments site.index id) = none)
    (htaken : Taken link site s added s') (key : String) :
    held s' (documentTarget segments site.index key) =
      (Keyed.get? key (Memory.indexed added)).map Document.toJson := by
  induction htaken with
  | nil => exact hempty key
  | @add added d s' s'' _ hadd ih =>
      have hd := hadded d (by simp)
      rw [Memory.indexed_append_singleton, Memory.add, Keyed.get?_put]
      by_cases hkey : d.id = key
      · rw [if_pos hkey, ← hkey, hkeeps.held_add h hd hadd, Option.map_some]
      · have hsame := hkeeps.held_add_of_ne (s := s') h hd (Ne.symm hkey)
        rw [hadd] at hsame
        rw [if_neg hkey, ← ih fun e he => hadded e (List.mem_append_left _ he), ← hsame]

end Keeping

/-- **A message has one document, in memory and on the engine.**  The id of a document tells its
token and both its numbers, of whatever characters the token consists.  A document with an
alphanumeric token is put once, under the base without the slashes at its end, the index and the
id.  So either index replaces a document exactly if one of its message is added, and after the same
documents they hold the same ones. -/
theorem documents_addressed :
    (∀ d e : Document, d.id = e.id ↔ d.applicationToken = e.applicationToken ∧
      d.chatNumber = e.chatNumber ∧ d.messageNumber = e.messageNumber) ∧
    (∀ (s : Memory.State) (d e : Document),
      (d.SameMessage e → Keyed.get? e.id (Memory.add d s) = some d) ∧
      (¬ d.SameMessage e → Keyed.get? e.id (Memory.add d s) = Keyed.get? e.id s)) ∧
    ∀ (site : Site) segments slashes, site.IsPlain segments slashes →
      (∀ (m : Type → Type) [Monad m] [LawfulMonad m] (link : Link m) (d : Document),
        IsAlphanumeric d.applicationToken → add link site d = receipt <$>
          link ⟨.put, documentTarget segments site.index d.id, some d.toJson⟩) ∧
      ∀ (σ : Type) (link : Link (StateM σ)) held, Keeps link held →
        (∀ s (d e : Document), IsAlphanumeric d.applicationToken →
          (d.SameMessage e → ((add link site d).run s).1 = .ok () →
            held ((add link site d).run s).2 (documentTarget segments site.index e.id) =
              some d.toJson) ∧
          (¬ d.SameMessage e →
            held ((add link site d).run s).2 (documentTarget segments site.index e.id) =
              held s (documentTarget segments site.index e.id))) ∧
        ∀ s added s', (∀ id, held s (documentTarget segments site.index id) = none) →
          (∀ d ∈ added, IsAlphanumeric d.applicationToken) → Taken link site s added s' →
            ∀ id, held s' (documentTarget segments site.index id) =
              (Keyed.get? id (Memory.indexed added)).map Document.toJson := by
  refine ⟨fun _ _ => Document.id_eq_iff, fun s d e => ⟨fun hsame => ?_, fun hother => ?_⟩,
    fun site segments slashes h => ⟨fun _ _ _ link _ hd => h.add_eq link hd,
      fun σ link held hkeeps => ⟨fun s d e hd => ⟨fun hsame hok => ?_, fun hother => ?_⟩,
        fun s added s' hempty hadded htaken => hkeeps.held_taken h hadded hempty htaken⟩⟩⟩
  · rw [Memory.add, Keyed.get?_put, if_pos (Document.id_eq_iff.mpr hsame)]
  · rw [Memory.add, Keyed.get?_put, if_neg (mt Document.id_eq_iff.mp hother)]
  · rw [← Document.id_eq_iff.mpr hsame]
    exact hkeeps.held_add h hd (Prod.ext hok rfl)
  · exact hkeeps.held_add_of_ne h hd fun hid => hother (Document.id_eq_iff.mp hid.symm)

/-! ## an engine that takes everything -/

/-- Keeps what is put under its target, and answers nothing else. -/
def shelving : Link (StateM (Keyed String Json)) := fun request => do
  match request.method, request.body with
  | .put, some body =>
    modify (Keyed.put request.target body)
    return some ⟨201, .ok []⟩
  | _, _ => return none

theorem keeps_shelving : Keeps shelving fun shelf target => Keyed.get? target shelf where
  own := fun {s s' target body reply} hrun _ _ => by
    obtain rfl : Keyed.put target body s = s' := congrArg Prod.snd hrun
    rw [Keyed.get?_put, if_pos rfl]
  others := fun hne => (Keyed.get?_put _ _ _ _).trans (if_neg (Ne.symm hne))

theorem exists_taken_shelving {added : List Document} (h : site.IsPlain segments slashes)
    (hadded : ∀ d ∈ added, IsAlphanumeric d.applicationToken) :
    ∃ shelf, Taken shelving site [] added shelf := by
  induction added using List.reverseRecOn with
  | nil => exact ⟨[], .nil⟩
  | append_singleton added d ih =>
      obtain ⟨shelf, htaken⟩ := ih fun e he => hadded e (List.mem_append_left _ he)
      exact ⟨_, htaken.add (run_add h (hadded d (by simp)))⟩

/-- Behind a path of two segments. -/
def cluster : Site := ⟨"/es/v-1//", "messages"⟩

theorem isPlain_cluster : cluster.IsPlain ["es".toList, "v-1".toList] 2 where
  path := by
    simp only [List.forall_mem_cons, List.not_mem_nil, false_implies, implies_true, and_true]
    exact ⟨⟨by decide, by decide⟩, by decide, by decide⟩
  last := by decide
  base := by decide
  index := List.all_eq_true.mp (by decide)

/-- The first version of a message in the chat with the least number. -/
def firstDraft : Document := ⟨"tok1", -9223372036854775808, 7, "draft", .epoch⟩

/-- Only the text of the message has changed. -/
def lastDraft : Document := { firstDraft with body := "hello" }

/-- The next message of the chat. -/
def nextDraft : Document := { firstDraft with messageNumber := 8 }

/-- Of three documents the last one replaces the first, under the target that is written out. -/
theorem documents_addressed_drafts :
    Document.id ⟨"tok:1", 2, 3, "", .epoch⟩ ≠ Document.id ⟨"tok", 1, 23, "", .epoch⟩ ∧
    ∃ shelf, Taken shelving cluster [] [firstDraft, nextDraft, lastDraft] shelf ∧
      Keyed.get? "/es/v-1/messages/_doc/tok1:-9223372036854775808:7" shelf =
        some lastDraft.toJson ∧
      Keyed.get? "/es/v-1/messages/_doc/tok1:-9223372036854775808:8" shelf =
        some nextDraft.toJson ∧
      Keyed.get? "/es/v-1/messages/_doc/tok1:-9223372036854775808:9" shelf = none := by
  obtain ⟨hid, -, hsite⟩ := documents_addressed
  obtain ⟨-, hengine⟩ := hsite cluster _ 2 isPlain_cluster
  obtain ⟨-, hheld⟩ := hengine _ shelving _ keeps_shelving
  have halphanumeric : ∀ d ∈ [firstDraft, nextDraft, lastDraft],
      IsAlphanumeric d.applicationToken := by
    have htoken : IsAlphanumeric "tok1" := List.all_eq_true.mp (by decide)
    simpa [firstDraft, nextDraft, lastDraft] using htoken
  obtain ⟨shelf, htaken⟩ := exists_taken_shelving isPlain_cluster halphanumeric
  have hshelf := hheld [] _ shelf (fun _ => rfl) halphanumeric htaken
  refine ⟨mt (hid _ _).mp (by decide), shelf, htaken, ?_, ?_, ?_⟩
  · exact (hshelf "tok1:-9223372036854775808:7").trans rfl
  · exact (hshelf "tok1:-9223372036854775808:8").trans rfl
  · exact (hshelf "tok1:-9223372036854775808:9").trans rfl

end Remote

end ChatService.Search
