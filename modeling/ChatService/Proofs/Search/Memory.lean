import ChatService.Proofs.Keyed
import ChatService.Proofs.Sorting
import ChatService.Proofs.Text.Decimal
import ChatService.Proofs.Text.LowerCase
import ChatService.Search.Memory
import Mathlib.Data.List.Induction

/-!
# The in-memory search index

The index keeps documents under their ids, and the id of a document tells its token and both its
numbers, because a number is written without a colon.  So the index holds, of every message, the
document that was added last.  No two hits of a query have the same message number, and therefore
their order is the only ascending one, in whatever order the documents are kept.

Body and query are put into lower case apart from each other.  A text that stands in a body is found
when its capital sigmas end words in the body as they do in the text, and may be missed otherwise.
-/

namespace ChatService.Search

/-! ## ids -/

/-- Behind its last separator a list can be split in one way only. -/
theorem append_cons_inj_of_not_mem {γ : Type} {sep : γ} {xs xs' ys ys' : List γ}
    (h : sep ∉ ys) (h' : sep ∉ ys') (heq : xs ++ sep :: ys = xs' ++ sep :: ys') :
    xs = xs' ∧ ys = ys' := by
  obtain ⟨zs, rfl, hys⟩ | ⟨zs, rfl, hys⟩ := List.append_eq_append_iff.mp heq
  · cases zs with
    | nil => simpa using hys
    | cons z zs =>
        have hmem : sep ∈ ys := by
          rw [(List.cons.inj hys).2]
          exact List.mem_append_right _ List.mem_cons_self
        exact absurd hmem h
  · cases zs with
    | nil => simpa [eq_comm] using hys
    | cons z zs =>
        have hmem : sep ∈ ys' := by
          rw [(List.cons.inj hys).2]
          exact List.mem_append_right _ List.mem_cons_self
        exact absurd hmem h'

theorem colon_not_mem_intChars (n : Int) : ':' ∉ Json.intChars n := fun hmem =>
  (Text.isDigit_or_eq_of_mem_intChars hmem).elim (by decide) (by decide)

namespace Document

/-- The documents are of one message. -/
def SameMessage (d e : Document) : Prop :=
  d.applicationToken = e.applicationToken ∧ d.chatNumber = e.chatNumber ∧
    d.messageNumber = e.messageNumber

theorem toList_id (d : Document) : d.id.toList =
    (d.applicationToken.toList ++ ':' :: Json.intChars d.chatNumber) ++
      ':' :: Json.intChars d.messageNumber := by
  simp [Document.id, Text.toList_repr]

/-- **The id of a document tells where its message stands.** -/
theorem id_inj {d d' : Document} (h : d.id = d'.id) : d.SameMessage d' := by
  have hlist := congrArg String.toList h
  rw [toList_id, toList_id] at hlist
  obtain ⟨hfront, hmessage⟩ := append_cons_inj_of_not_mem (colon_not_mem_intChars _)
    (colon_not_mem_intChars _) hlist
  obtain ⟨htoken, hchat⟩ := append_cons_inj_of_not_mem (colon_not_mem_intChars _)
    (colon_not_mem_intChars _) hfront
  exact ⟨String.toList_inj.mp htoken, Text.intChars_inj.mp hchat, Text.intChars_inj.mp hmessage⟩

theorem id_eq_iff {d d' : Document} : d.id = d'.id ↔ d.SameMessage d' := by
  refine ⟨id_inj, ?_⟩
  rintro ⟨htoken, hchat, hmessage⟩
  simp only [Document.id, htoken, hchat, hmessage]

/-- Of the documents of its message this one was added last. -/
def Latest (added : List Document) (d : Document) : Prop :=
  ∃ earlier later, added = earlier ++ d :: later ∧ ∀ e ∈ later, ¬ e.SameMessage d

theorem latest_append_singleton {added : List Document} {d e : Document} :
    Latest (added ++ [e]) d ↔ d = e ∨ Latest added d ∧ ¬ e.SameMessage d := by
  constructor
  · rintro ⟨earlier, later, heq, hlater⟩
    obtain rfl | ⟨later, last, rfl⟩ := List.eq_nil_or_concat later
    · have hlast : [e] = [d] := List.append_inj_right' heq rfl
      exact .inl (List.cons.inj hlast).1.symm
    · rw [List.concat_eq_append] at heq hlater
      obtain ⟨rfl, hlast⟩ : added = earlier ++ d :: later ∧ [e] = [last] :=
        List.append_inj' (by simpa using heq) rfl
      obtain rfl : e = last := (List.cons.inj hlast).1
      exact .inr ⟨⟨earlier, later, rfl, fun other hother =>
        hlater other (List.mem_append_left _ hother)⟩, hlater e (by simp)⟩
  · rintro (rfl | ⟨⟨earlier, later, rfl, hlater⟩, hother⟩)
    · exact ⟨added, [], rfl, by simp⟩
    · refine ⟨earlier, later ++ [e], by simp, fun other hmem => ?_⟩
      obtain hmem | hmem := List.mem_append.mp hmem
      · exact hlater other hmem
      · exact List.mem_singleton.mp hmem ▸ hother

end Document

namespace Memory

open Document (Latest)

variable {s s' : State} {q : Query} {d : Document} {added added' : List Document}

/-! ## documents under their ids -/

/-- Documents stand under their ids, each id once. -/
structure Tidy (s : State) : Prop where
  keys : (Keyed.keys s).Nodup
  ids : ∀ entry ∈ s, entry.1 = entry.2.id

theorem tidy_nil : Tidy [] := ⟨.nil, by simp⟩

theorem Tidy.add (h : Tidy s) (d : Document) : Tidy (add d s) := by
  refine ⟨Keyed.nodup_keys_put h.keys, fun entry hentry => ?_⟩
  have hget : Keyed.get? entry.1 (Memory.add d s) = some entry.2 :=
    (Keyed.get?_eq_some_iff_mem (Keyed.nodup_keys_put h.keys)).mpr hentry
  rw [Memory.add, Keyed.get?_put] at hget
  split at hget
  · next hkey => rw [← hkey, Option.some.inj hget]
  · exact h.ids entry (Keyed.mem_of_get?_eq_some hget)

theorem Tidy.of_perm (h : Tidy s) (hperm : s'.Perm s) : Tidy s' :=
  ⟨((hperm.map Prod.fst).nodup_iff).mpr h.keys, fun entry hentry =>
    h.ids entry (hperm.subset hentry)⟩

theorem Tidy.mem_documents (h : Tidy s) : d ∈ s.map (·.2) ↔ (d.id, d) ∈ s := by
  refine ⟨fun hmem => ?_, fun hmem => List.mem_map.mpr ⟨_, hmem, rfl⟩⟩
  obtain ⟨⟨key, d⟩, hentry, rfl⟩ := List.mem_map.mp hmem
  obtain rfl : key = d.id := h.ids _ hentry
  exact hentry

theorem Tidy.map_id (h : Tidy s) : (s.map (·.2)).map Document.id = Keyed.keys s := by
  rw [List.map_map]
  exact List.map_congr_left fun entry hentry => (h.ids entry hentry).symm

theorem Tidy.nodup_documents (h : Tidy s) : (s.map (·.2)).Nodup :=
  List.Nodup.of_map Document.id (h.map_id ▸ h.keys)

/-- There is one document of a message. -/
theorem Tidy.eq_of_sameMessage (h : Tidy s) {e : Document} (hd : d ∈ s.map (·.2))
    (he : e ∈ s.map (·.2)) (hsame : d.SameMessage e) : d = e :=
  List.inj_on_of_nodup_map (h.map_id ▸ h.keys) hd he (Document.id_eq_iff.mpr hsame)

/-! ## hits -/

theorem isHit_iff : isHit q d = true ↔ d.applicationToken = q.applicationToken ∧
    d.chatNumber = q.chatNumber ∧ Text.lower q.text <:+: Text.lower d.body := by
  simp only [isHit, Bool.and_eq_true, decide_eq_true_eq, Text.contains_iff, and_assoc]

theorem mem_hits : d ∈ hits q s ↔ d ∈ s.map (·.2) ∧ d.applicationToken = q.applicationToken ∧
    d.chatNumber = q.chatNumber ∧ Text.lower q.text <:+: Text.lower d.body := by
  rw [hits, List.mem_mergeSort, List.mem_filter, isHit_iff]

/-- Hits are of one chat, so their numbers tell them apart. -/
theorem Tidy.hits_ascending (h : Tidy s) :
    (hits q s).Pairwise fun a b => a.messageNumber < b.messageNumber := by
  refine mergeSort_ascending (List.Nodup.map_on (fun a ha b hb hnumber => ?_)
    (h.nodup_documents.filter _))
  obtain ⟨ha, hita⟩ := List.mem_filter.mp ha
  obtain ⟨hb, hitb⟩ := List.mem_filter.mp hb
  obtain ⟨htoken, hchat, -⟩ := isHit_iff.mp hita
  obtain ⟨htoken', hchat', -⟩ := isHit_iff.mp hitb
  exact h.eq_of_sameMessage ha hb ⟨htoken.trans htoken'.symm, hchat.trans hchat'.symm, hnumber⟩

/-- The same documents give the same hits, in whatever order they are kept. -/
theorem Tidy.hits_eq (h : Tidy s) (h' : Tidy s')
    (hsame : ∀ d, d ∈ s.map (·.2) ↔ d ∈ s'.map (·.2)) (q : Query) : hits q s = hits q s' := by
  refine mergeSort_eq_of_perm ?_ h'.hits_ascending
  refine List.Perm.trans ?_ (List.mergeSort_perm _ _).symm
  exact ((List.perm_ext_iff_of_nodup h.nodup_documents h'.nodup_documents).mpr hsame).filter _

theorem run_search (q : Query) (s : State) : (index.search q).run s = (.ok (search q s), s) := rfl

/-! ## what was added -/

/-- The index after documents were added, one after the other. -/
def indexed (added : List Document) : State :=
  added.foldl (fun s d => ((index.add d).run s).2) []

theorem indexed_append_singleton : indexed (added ++ [d]) = add d (indexed added) := by
  rw [indexed, List.foldl_append]
  rfl

theorem tidy_indexed (added : List Document) : Tidy (indexed added) := by
  induction added using List.reverseRecOn with
  | nil => exact tidy_nil
  | append_singleton added d ih => exact indexed_append_singleton ▸ ih.add d

theorem get?_indexed {key : String} :
    Keyed.get? key (indexed added) = some d ↔ Latest added d ∧ d.id = key := by
  induction added using List.reverseRecOn generalizing d with
  | nil => simp [indexed, Keyed.get?, Latest]
  | append_singleton added e ih =>
      rw [indexed_append_singleton, add, Keyed.get?_put, Document.latest_append_singleton]
      by_cases hkey : e.id = key
      · subst hkey
        rw [if_pos rfl, Option.some.injEq, eq_comm, Document.id_eq_iff]
        grind [Document.SameMessage]
      · have hne : d.id = key → d ≠ e ∧ ¬ e.SameMessage d := fun hd =>
          ⟨fun heq => hkey (heq ▸ hd), fun hsame => hkey ((Document.id_eq_iff.mpr hsame).trans hd)⟩
        rw [if_neg hkey, ih]
        grind

/-- The index holds the documents that were added last, in whatever order. -/
theorem mem_documents_of_perm (hs : s.Perm (indexed added)) :
    d ∈ s.map (·.2) ↔ Latest added d := by
  rw [(hs.map (·.2)).mem_iff, (tidy_indexed added).mem_documents,
    ← Keyed.get?_eq_some_iff_mem (tidy_indexed added).keys, get?_indexed, and_iff_left rfl]

/-! ## searches and what was added -/

/-- The documents that a query matches: those added last for their messages, of the query's token
and chat, whose bodies contain its text in lower case; by strictly ascending number. -/
structure Matches (added : List Document) (q : Query) (found : List Document) : Prop where
  ascending : found.Pairwise fun a b => a.messageNumber < b.messageNumber
  mem_iff : ∀ d, d ∈ found ↔ Latest added d ∧ d.applicationToken = q.applicationToken ∧
    d.chatNumber = q.chatNumber ∧ Text.lower q.text <:+: Text.lower d.body

theorem matches_hits (hs : s.Perm (indexed added)) (q : Query) : Matches added q (hits q s) :=
  ⟨((tidy_indexed added).of_perm hs).hits_ascending, fun d => by
    rw [mem_hits, mem_documents_of_perm hs]⟩

/-- **The index is told by what was added last for each message.**  A search counts the matches and
answers a window of them, in whatever order the documents are kept; what was added before or in
another order makes no difference; and a document that is added again changes nothing. -/
theorem search_latest :
    (∀ added s, s.Perm (indexed added) → ∀ q, ∃ found, Matches added q found ∧
      (index.search q).run s = (.ok ⟨found.length, Page.slice q.offset q.limit found⟩, s)) ∧
    (∀ added added' s s', s.Perm (indexed added) → s'.Perm (indexed added') →
      (∀ d, Latest added d ↔ Latest added' d) →
        ∀ q, ((index.search q).run s).1 = ((index.search q).run s').1) ∧
    ∀ added s d, s.Perm (indexed added) → Latest added d →
      (index.add d).run s = (.ok (), s) := by
  refine ⟨fun added s hs q => ⟨hits q s, matches_hits hs q, rfl⟩, ?_, ?_⟩
  · intro added added' s s' hs hs' hlatest q
    have hhits := ((tidy_indexed added).of_perm hs).hits_eq ((tidy_indexed added').of_perm hs')
      (fun d => by rw [mem_documents_of_perm hs, mem_documents_of_perm hs', hlatest]) q
    simp only [run_search, search, hhits]
  · intro added s d hs hd
    have htidy := (tidy_indexed added).of_perm hs
    have hmem : (d.id, d) ∈ s := htidy.mem_documents.mp ((mem_documents_of_perm hs).mpr hd)
    have hput := Keyed.put_of_get? ((Keyed.get?_eq_some_iff_mem htidy.keys).mpr hmem)
    exact congrArg (Except.ok (), ·) hput

/-! ## a chat that is searched -/

/-- A document of the first chat of an application. -/
def document (number : Int) (body : String) : Document := ⟨"t", 1, number, body, .epoch⟩

/-- Three messages, not in their order, the first of them added twice. -/
def talk : List Document :=
  [document 3 "Hello there", document 1 "draft", document 2 "Bye", document 1 "hello world"]

/-- The same messages in their order. -/
def orderly : List Document :=
  [document 1 "hello world", document 2 "Bye", document 3 "Hello there"]

def hello (offset limit : Nat) : Query := ⟨"t", 1, "HELLO", offset, limit⟩

theorem latest_talk_iff (d : Document) : Latest talk d ↔ Latest orderly d := by
  have hperm : (indexed talk).Perm (indexed orderly) := by decide +kernel
  rw [← mem_documents_of_perm (.refl (indexed talk)), mem_documents_of_perm hperm]

/-- The documents are kept the other way round, and one is added once more. -/
theorem search_talk : (indexed talk).reverse.Perm (indexed talk) ∧
    (∀ d, Latest talk d ↔ Latest orderly d) ∧ Latest talk (document 1 "hello world") ∧
    (∃ found, Matches talk (hello 1 5) found ∧ found.length = 2 ∧
      (index.search (hello 1 5)).run (indexed talk).reverse =
        (.ok ⟨2, [document 3 "Hello there"]⟩, (indexed talk).reverse)) ∧
    ((index.search (hello 1 5)).run (indexed talk).reverse).1 =
      ((index.search (hello 1 5)).run (indexed orderly)).1 ∧
    (index.add (document 1 "hello world")).run (indexed talk).reverse =
      (.ok (), (indexed talk).reverse) := by
  have hperm : (indexed talk).reverse.Perm (indexed talk) := List.reverse_perm _
  have hlatest : Latest talk (document 1 "hello world") :=
    (mem_documents_of_perm (.refl _)).mp (by decide +kernel)
  obtain ⟨hsearch, hagree, hagain⟩ := search_latest
  obtain ⟨found, hmatches, hrun⟩ := hsearch talk _ hperm (hello 1 5)
  have hhits : hits (hello 1 5) (indexed talk).reverse =
      [document 1 "hello world", document 3 "Hello there"] :=
    mergeSort_eq_of_perm (by decide +kernel) (by decide)
  have hcomputed : search (hello 1 5) (indexed talk).reverse = ⟨2, [document 3 "Hello there"]⟩ := by
    rw [search, hhits]
    rfl
  have hanswer : search (hello 1 5) (indexed talk).reverse =
      ⟨found.length, Page.slice 1 5 found⟩ := Except.ok.inj (Prod.mk.inj hrun).1
  rw [hcomputed] at hanswer
  refine ⟨hperm, latest_talk_iff, hlatest, ⟨found, hmatches, ?_, ?_⟩, ?_,
    hagain _ _ _ hperm hlatest⟩
  · exact (congrArg Hits.total hanswer).symm
  · rw [run_search, hcomputed]
  · exact hagree _ _ _ _ hperm (.refl _) latest_talk_iff (hello 1 5)

/-! ## texts that stand in a body -/

theorem mem_hits_of_keepsSigmas {before after : List Char} (hd : d ∈ s.map (·.2))
    (htoken : d.applicationToken = q.applicationToken) (hchat : d.chatNumber = q.chatNumber)
    (hbody : d.body.toList = before ++ q.text.toList ++ after)
    (hkeeps : Text.KeepsSigmas before after q.text.toList) : d ∈ hits q s := by
  refine mem_hits.mpr ⟨hd, htoken, hchat, ?_⟩
  rw [Text.lower, Text.lower, hbody]
  exact hkeeps.lower_infix

/-- Without a capital sigma a text is found wherever it stands. -/
theorem mem_hits_of_infix (hd : d ∈ s.map (·.2))
    (htoken : d.applicationToken = q.applicationToken) (hchat : d.chatNumber = q.chatNumber)
    (hbody : q.text.toList <:+: d.body.toList) (hsigma : 'Σ' ∉ q.text.toList) : d ∈ hits q s := by
  obtain ⟨before, after, hbody⟩ := hbody
  exact mem_hits_of_keepsSigmas hd htoken hchat hbody.symm (Text.keepsSigmas_of_not_mem hsigma)

/-- A hit is in every window that reaches its place. -/
theorem exists_place_of_mem_hits (h : d ∈ hits q s) :
    ∃ k < (search q s).total, ∀ offset limit, offset ≤ k → k < offset + limit →
      (search { q with offset, limit } s).documents[k - offset]? = some d := by
  obtain ⟨k, hk, hat⟩ := List.getElem_of_mem h
  refine ⟨k, hk, fun offset limit hoffset hlimit => ?_⟩
  show (Page.slice offset limit (hits q s))[k - offset]? = some d
  rw [Page.slice, List.getElem?_take_of_lt (by omega), List.getElem?_drop,
    Nat.add_sub_cancel' hoffset, List.getElem?_eq_getElem hk, hat]

/-- **A text that stands in a body is found** where its capital sigmas end words in the body as they
do in the text: its document is counted, and is in every window that reaches its place. -/
theorem literal_found {before after : List Char} (hd : d ∈ s.map (·.2))
    (htoken : d.applicationToken = q.applicationToken) (hchat : d.chatNumber = q.chatNumber)
    (hbody : d.body.toList = before ++ q.text.toList ++ after)
    (hkeeps : Text.KeepsSigmas before after q.text.toList) :
    ∃ k < (search q s).total, ∀ offset limit, offset ≤ k → k < offset + limit →
      (search { q with offset, limit } s).documents[k - offset]? = some d :=
  exists_place_of_mem_hits (mem_hits_of_keepsSigmas hd htoken hchat hbody hkeeps)

/-- A word that ends in a sigma is found where it ends a word. -/
theorem literal_found_word :
    ∃ k < (search ⟨"t", 1, "ΟΔΟΣ", 0, 5⟩ [("t:1:1", document 1 "ΟΔΟΣ 5")]).total,
      ∀ offset limit, offset ≤ k → k < offset + limit →
        (search ⟨"t", 1, "ΟΔΟΣ", offset, limit⟩ [("t:1:1", document 1 "ΟΔΟΣ 5")]).documents[k -
          offset]? = some (document 1 "ΟΔΟΣ 5") :=
  literal_found (q := ⟨"t", 1, "ΟΔΟΣ", 0, 5⟩) (by decide) rfl rfl
    (show "ΟΔΟΣ 5".toList = [] ++ "ΟΔΟΣ".toList ++ " 5".toList by decide)
    (Text.lowerPart_eq_lowerFrom_iff.mp (by decide +kernel))

/-- **It is not found within a longer word**, though it stands there. -/
theorem literal_missed :
    document 1 "ΟΔΟΣΗΜΑ" ∈ (indexed [document 1 "ΟΔΟΣΗΜΑ"]).map (·.2) ∧
      Text.isBlank "ΟΔΟΣ" = false ∧ "ΟΔΟΣ".toList <:+: (document 1 "ΟΔΟΣΗΜΑ").body.toList ∧
      search ⟨"t", 1, "ΟΔΟΣ", 0, 5⟩ (indexed [document 1 "ΟΔΟΣΗΜΑ"]) = ⟨0, []⟩ := by
  decide +kernel

end Memory

end ChatService.Search
