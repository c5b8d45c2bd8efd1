import ChatService.Proofs.Memory.Effects
import ChatService.Proofs.Memory.Linearization

/-!
# Operations that have nothing to do with one another

What an operation answers and changes depends on the application that it is addressed to and on
nothing else, up to internal ids and timestamps, and an operation on messages depends on one chat of
it.  So operations that are addressed to different applications, or to the messages of different
chats, give the same answers in either order and leave the same behind; and neither touches a record
of the other at all.
-/

namespace ChatService

namespace Keyed

variable {κ ν : Type} [DecidableEq κ] {key other : κ} {entries : Keyed κ ν}

/-- Values of different keys are changed in either order. -/
theorem update_comm {f g : ν → ν} (h : key ≠ other) :
    update key f (update other g entries) = update other g (update key f entries) := by
  simp only [update, List.map_map]
  exact List.map_congr_left fun entry _ => by grind

end Keyed

namespace Store

variable {α : Type}

/-- The token of the application that an operation is addressed to; a creation is addressed to the
application that it makes. -/
def Operation.token? (fresh : String) : {α : Type} → Operation α → Option String
  | _, .createApplication _ => some fresh
  | _, .findApplication token | _, .createChat token | _, .countChats token
  | _, .listChats token _ _ | _, .findChat token _ | _, .deleteChat token _
  | _, .createMessage token _ _ | _, .countMessages token _ | _, .listMessages token _ _ _ =>
    some token
  | _, .countApplications | _, .listApplications _ _ | _, .ping => none

/-- The chat that an operation on messages is addressed to. -/
def Operation.chat? : {α : Type} → Operation α → Option (String × Int)
  | _, .createMessage token number _ | _, .countMessages token number
  | _, .listMessages token number _ _ | _, .findChat token number => some (token, number)
  | _, _ => none

end Store

namespace Memory

open Store (Application Message Operation Answer CounterUpdate Outcome)

variable {α β : Type} {fresh token other : String} {number : Int}

/-! ## confined to one application -/

/-- What is done to the contents and answered, where only one application matters. -/
structure Confined (token : String) (f : Contents → Contents × Answer α) : Prop where
  /-- The answer and what becomes of the application depend on the application alone. -/
  sees : ∀ c d, Keyed.get? token c = Keyed.get? token d →
    (f c).2 = (f d).2 ∧ Keyed.get? token (f c).1 = Keyed.get? token (f d).1
  /-- Other applications stay as they are. -/
  leaves : ∀ c other, token ≠ other → Keyed.get? other (f c).1 = Keyed.get? other c

theorem confined_refuse (e : StoreError) :
    Confined token fun c => (c, (.error e : Answer α)) :=
  ⟨fun _ _ h => ⟨rfl, h⟩, fun _ _ _ => rfl⟩

theorem confined_withApplication (body : ApplicationContents → ApplicationContents × Answer α) :
    Confined token fun c => c.withApplication token body where
  sees c d h := by
    cases hfound : Keyed.get? token d with
    | none =>
        rw [Contents.withApplication_of_none hfound,
          Contents.withApplication_of_none (h.trans hfound)]
        exact ⟨rfl, h⟩
    | some found =>
        rw [Contents.withApplication_of_some hfound,
          Contents.withApplication_of_some (h.trans hfound)]
        simp [Keyed.get?_update, h]
  leaves c other hne := by
    cases hfound : Keyed.get? token c with
    | none => rw [Contents.withApplication_of_none hfound]
    | some found => rw [Contents.withApplication_of_some hfound, Keyed.get?_update, if_neg hne]

theorem confined_create (application : ApplicationContents) (e : StoreError) (answer : α) :
    Confined token fun c =>
      match Keyed.get? token c with
      | some _ => (c, .error e)
      | none => (Keyed.put token application c, .ok answer) where
  sees c d h := by
    cases hfound : Keyed.get? token d with
    | none => simp [h, hfound, Keyed.get?_put]
    | some found => simp [h, hfound]
  leaves c other hne := by
    cases hfound : Keyed.get? token c with
    | none => simp [Keyed.get?_put, hne]
    | some found => rfl

/-- An operation is confined to the application that it is addressed to. -/
theorem exists_confined {operation : Operation α} (htoken : operation.token? fresh = some token)
    (hplain : TakesEffectAtOnce operation) :
    ∃ f, Confined token f ∧ ∀ c : Contents, c.perform fresh operation = some (f c) := by
  cases operation with
  | createApplication name =>
      obtain rfl : fresh = token := Option.some.inj htoken
      simp only [Contents.perform]
      cases Store.validateName name with
      | error e => exact ⟨_, confined_refuse e, fun _ => rfl⟩
      | ok name => exact ⟨_, confined_create _ _ _, fun _ => rfl⟩
  | countApplications | ping => cases htoken
  | listApplications | listChats => exact hplain.elim
  | findApplication | createChat | countChats | deleteChat | findChat | countMessages
  | listMessages =>
      obtain rfl := Option.some.inj htoken
      exact ⟨_, confined_withApplication _, fun _ => rfl⟩
  | createMessage token' number body =>
      obtain rfl := Option.some.inj htoken
      simp only [Contents.perform]
      cases Store.validateBody body with
      | error e => exact ⟨_, confined_refuse e, fun _ => rfl⟩
      | ok body => exact ⟨_, confined_withApplication _, fun _ => rfl⟩

/-- What can be done in either order: the answers are the same, and so is what is left behind. -/
def Commute (f : Contents → Contents × Answer α) (g : Contents → Contents × Answer β) : Prop :=
  ∀ c, (g (f c).1).2 = (g c).2 ∧ (f (g c).1).2 = (f c).2 ∧
    ∀ token, Keyed.get? token (g (f c).1).1 = Keyed.get? token (f (g c).1).1

theorem Confined.commute {f : Contents → Contents × Answer α} {g : Contents → Contents × Answer β}
    (hf : Confined token f) (hg : Confined other g) (hne : token ≠ other) : Commute f g := by
  intro c
  obtain ⟨hanswer, hget⟩ := hg.sees (f c).1 c (hf.leaves c other hne)
  obtain ⟨hanswer', hget'⟩ := hf.sees (g c).1 c (hg.leaves c token hne.symm)
  refine ⟨hanswer, hanswer', fun token' => ?_⟩
  by_cases htoken : token = token'
  · subst htoken
    rw [hg.leaves _ _ hne.symm, hget']
  · by_cases hother : other = token'
    · subst hother
      rw [hf.leaves _ _ hne, hget]
    · rw [hg.leaves _ _ hother, hf.leaves _ _ htoken, hf.leaves _ _ htoken, hg.leaves _ _ hother]

/-! ## confined to one chat -/

/-- What becomes of an application and is answered where a chat of it is visited. -/
def ApplicationContents.visit (token : String) (number : Int)
    (body : ChatContents → ChatContents × Answer α) (found : ApplicationContents) :
    ApplicationContents × Answer α :=
  match Keyed.get? number found.chats with
  | none => (found, .error (.chatNotFound token number))
  | some chat =>
    ({ found with chats := Keyed.update number (fun _ => (body chat).1) found.chats },
      (body chat).2)

/-- Different chats of an application can be visited in either order. -/
theorem ApplicationContents.visit_comm (token : String)
    (body : ChatContents → ChatContents × Answer α)
    (body' : ChatContents → ChatContents × Answer β) {number' : Int} (hne : number ≠ number')
    (found : ApplicationContents) :
    ((found.visit token number body).1.visit token number' body').2 =
        (found.visit token number' body').2 ∧
      ((found.visit token number body).1.visit token number' body').1 =
        ((found.visit token number' body').1.visit token number body).1 := by
  unfold visit
  cases hchat : Keyed.get? number found.chats with
  | none =>
      cases hchat' : Keyed.get? number' found.chats with
      | none => simp [hchat]
      | some chat' => simp [hchat, Keyed.get?_update, hne.symm]
  | some chat =>
      cases hchat' : Keyed.get? number' found.chats with
      | none => simp [hchat, hchat', Keyed.get?_update, hne]
      | some chat' =>
          simp [hchat, hchat', Keyed.get?_update, hne, hne.symm, Keyed.update_comm hne]

theorem commute_visit {body : ChatContents → ChatContents × Answer α}
    {body' : ChatContents → ChatContents × Answer β} {number' : Int} (hne : number ≠ number') :
    Commute (fun c => c.withApplication token (ApplicationContents.visit token number body))
      fun c => c.withApplication token (ApplicationContents.visit token number' body') := by
  intro c
  cases hfound : Keyed.get? token c with
  | none => simp [Contents.withApplication, hfound]
  | some found =>
      have hget : ∀ v, Keyed.get? token (Keyed.update token (fun _ => v) c) = some v := by
        simp [Keyed.get?_update, hfound]
      obtain ⟨hanswer, hleft⟩ := found.visit_comm token body body' hne
      obtain ⟨hanswer', -⟩ := found.visit_comm token body' body hne.symm
      simp [Contents.withApplication, hfound, hget, hanswer, hanswer', hleft, Keyed.update_update]

/-- What is done to the contents and answered, where only one chat matters: it is refused before
it looks, or visits the chat. -/
inductive Visits (token : String) (number : Int) : (Contents → Contents × Answer α) → Prop where
  | refuses (e : StoreError) : Visits token number fun c => (c, .error e)
  | visits (body : ChatContents → ChatContents × Answer α) :
      Visits token number fun c =>
        c.withApplication token (ApplicationContents.visit token number body)

theorem Visits.commute {f : Contents → Contents × Answer α} {g : Contents → Contents × Answer β}
    {number' : Int} (hf : Visits token number f) (hg : Visits token number' g)
    (hne : number ≠ number') : Commute f g := by
  cases hf with
  | refuses e => exact fun _ => ⟨rfl, rfl, fun _ => rfl⟩
  | visits body =>
      cases hg with
      | refuses e => exact fun _ => ⟨rfl, rfl, fun _ => rfl⟩
      | visits body' => exact commute_visit hne

/-- An operation on messages visits the chat that it is addressed to. -/
theorem exists_visits (fresh : String) {operation : Operation α}
    (hchat : operation.chat? = some (token, number)) :
    ∃ f, Visits token number f ∧ ∀ c : Contents, c.perform fresh operation = some (f c) := by
  cases operation with
  | createMessage token' number' body =>
      obtain ⟨rfl, rfl⟩ := Prod.mk.inj (Option.some.inj hchat)
      simp only [Contents.perform]
      cases Store.validateBody body with
      | error e => exact ⟨_, .refuses e, fun _ => rfl⟩
      | ok body => exact ⟨_, .visits _, fun _ => rfl⟩
  | findChat | countMessages | listMessages =>
      obtain ⟨rfl, rfl⟩ := Prod.mk.inj (Option.some.inj hchat)
      exact ⟨_, .visits _, fun _ => rfl⟩
  | createApplication | countApplications | listApplications | findApplication | createChat
  | countChats | listChats | deleteChat | ping => cases hchat

/-! ## on states -/

variable {m m' : Moment} {s s' : State}

/-- The contents that an operation leaves, and its answer without internal ids and timestamps. -/
def seen (m : Moment) (operation : Operation α) (s : State) : Contents × Answer α :=
  ((perform m operation s).1.contents, (perform m operation s).2.map (Store.bare operation))

theorem seen_of_plain (h : Linkage s) {operation : Operation α}
    (hplain : TakesEffectAtOnce operation) :
    s.contents.perform m.token operation = some (seen m operation s) :=
  does_perform h hplain m

/-- A page of chats is cut out of the contents. -/
theorem seen_listChats (h : Linkage s) (token : String) (offset limit : Nat) :
    seen m (.listChats token offset limit) s =
      s.contents.withApplication token fun found =>
        (found, .ok (Page.slice offset limit (found.chats.map (·.2.chat)))) := by
  unfold seen
  rw [h.perform_listChats]
  cases hfound : Keyed.get? token s.applications with
  | none =>
      have hnone : Keyed.get? token s.contents = none := by rw [get?_contents, hfound]; rfl
      rw [Contents.withApplication_of_none hnone, State.lookupApplication, hfound]
      rfl
  | some found =>
      have hsome := get?_contents_of_some hfound
      have hnodup : (Keyed.keys s.contents).Nodup := keys_contents ▸ h.tokens
      rw [Contents.withApplication_of_some hsome, Keyed.update_of_get? hnodup hsome,
        State.lookupApplication, hfound]
      refine congrArg (Prod.mk s.contents) (congrArg Except.ok ?_)
      show (Page.slice offset limit (s.chatsOf found)).map Store.Chat.bare = _
      rw [← slice_map]
      simp [State.chatsOf, ApplicationRecord.contents, Keyed.mapValues, ChatRecord.contents,
        Function.comp_def]

/-- What an operation does to the contents and answers, wherever and whenever it runs. -/
def ActsAs (fresh : String) (operation : Operation α) (f : Contents → Contents × Answer α) : Prop :=
  ∀ m s, m.token = fresh → Linkage s → seen m operation s = f s.contents

theorem actsAs_of_perform {operation : Operation α} {f : Contents → Contents × Answer α}
    (hplain : TakesEffectAtOnce operation)
    (hf : ∀ c : Contents, c.perform fresh operation = some (f c)) : ActsAs fresh operation f := by
  intro m s hfresh h
  have hseen := seen_of_plain (m := m) h hplain
  rw [hfresh, hf] at hseen
  exact (Option.some.inj hseen).symm

/-- **An operation is confined to the application that it is addressed to.** -/
theorem exists_actsAs_confined {operation : Operation α}
    (htoken : operation.token? fresh = some token) :
    ∃ f, Confined token f ∧ ActsAs fresh operation f := by
  by_cases hplain : TakesEffectAtOnce operation
  · obtain ⟨f, hconfined, hf⟩ := exists_confined htoken hplain
    exact ⟨f, hconfined, actsAs_of_perform hplain hf⟩
  · cases operation with
    | listChats token' offset limit =>
        obtain rfl := Option.some.inj htoken
        exact ⟨_, confined_withApplication _, fun m s _ h => seen_listChats h token' offset limit⟩
    | listApplications => cases htoken
    | _ => exact absurd trivial hplain

/-- **An operation on messages visits the chat that it is addressed to.** -/
theorem exists_actsAs_visits {operation : Operation α}
    (hchat : operation.chat? = some (token, number)) :
    ∃ f, Visits token number f ∧ ActsAs fresh operation f := by
  have hplain : TakesEffectAtOnce operation := by
    cases operation <;> simp_all [Operation.chat?, TakesEffectAtOnce]
  obtain ⟨f, hvisits, hf⟩ := exists_visits fresh hchat
  exact ⟨f, hvisits, actsAs_of_perform hplain hf⟩

/-- Operations that are addressed to different applications, or to the messages of different chats
of one. -/
inductive Independent (fresh fresh' : String) (operation : Operation α) (operation' : Operation β) :
    Prop where
  | applications {token token' : String} (h : operation.token? fresh = some token)
      (h' : operation'.token? fresh' = some token') (hne : token ≠ token')
  | chats {token : String} {number number' : Int} (h : operation.chat? = some (token, number))
      (h' : operation'.chat? = some (token, number')) (hne : number ≠ number')

theorem Independent.exists_commute {fresh' : String} {operation : Operation α}
    {operation' : Operation β} (h : Independent fresh fresh' operation operation') :
    ∃ f g, ActsAs fresh operation f ∧ ActsAs fresh' operation' g ∧ Commute f g := by
  cases h with
  | applications h h' hne =>
      obtain ⟨f, hf, hacts⟩ := exists_actsAs_confined h
      obtain ⟨g, hg, hacts'⟩ := exists_actsAs_confined h'
      exact ⟨f, g, hacts, hacts', hf.commute hg hne⟩
  | chats h h' hne =>
      obtain ⟨f, hf, hacts⟩ := exists_actsAs_visits h
      obtain ⟨g, hg, hacts'⟩ := exists_actsAs_visits h'
      exact ⟨f, g, hacts, hacts', hf.commute hg hne⟩

/-- The same contents, in whatever order the applications are kept. -/
def SameContents (s s' : State) : Prop :=
  ∀ token, Keyed.get? token s.contents = Keyed.get? token s'.contents

/-- **Independent operations** give the same answers in either order and lead to the same contents,
whatever the clock shows. -/
theorem seen_commute (h : Linkage s) {operation : Operation α} {operation' : Operation β}
    (hindependent : Independent m.token m'.token operation operation') {n n' : Moment}
    (hn : n.token = m.token) (hn' : n'.token = m'.token) :
    (seen m' operation' (perform m operation s).1).2 = (seen n' operation' s).2 ∧
      (seen n operation (perform n' operation' s).1).2 = (seen m operation s).2 ∧
      SameContents (perform m' operation' (perform m operation s).1).1
        (perform n operation (perform n' operation' s).1).1 := by
  obtain ⟨f, g, hf, hg, hcommute⟩ := hindependent.exists_commute
  have hfirst : seen m operation s = f s.contents := hf m s rfl h
  have hfirst' : seen n' operation' s = g s.contents := hg n' s hn' h
  have hsecond : seen m' operation' (perform m operation s).1 = g (f s.contents).1 := by
    rw [hg m' _ rfl (h.perform operation), ← hfirst]
    rfl
  have hsecond' : seen n operation (perform n' operation' s).1 = f (g s.contents).1 := by
    rw [hf n _ hn (h.perform operation'), ← hfirst']
    rfl
  obtain ⟨hanswer, hanswer', hstate⟩ := hcommute s.contents
  refine ⟨?_, ?_, fun token => ?_⟩
  · rw [hsecond, hfirst', hanswer]
  · rw [hsecond', hfirst, hanswer']
  · have hlast := hstate token
    rw [← hsecond, ← hsecond'] at hlast
    exact hlast

/-! ## records that stay as they are -/

/-- What an operation leaves as it is: every record of the applications that it is not addressed to
and, if it is on messages, everything but the record of its chat. -/
structure Leaves (m : Moment) (operation : Operation α) (s s' : State) : Prop where
  applications : ∀ token, operation.token? m.token ≠ some token →
    Keyed.get? token s'.applications = Keyed.get? token s.applications
  chats : ∀ record chat, Keyed.get? record s.chats = some chat →
    (∀ token number, LinkedAt s token number record → operation.token? m.token ≠ some token) →
    Keyed.get? record s'.chats = some chat
  messages : ∀ token number, operation.chat? = some (token, number) →
    s'.applications = s.applications ∧
      ∀ record chat, Keyed.get? record s.chats = some chat → ¬LinkedAt s token number record →
        Keyed.get? record s'.chats = some chat

theorem leaves_same {operation : Operation α} : Leaves m operation s s :=
  ⟨fun _ _ => rfl, fun _ _ hchat _ => hchat, fun _ _ _ => ⟨rfl, fun _ _ hchat _ => hchat⟩⟩

theorem Effect.leaves {operation : Operation α} {result : State × Answer α} (h : Linkage s)
    (heffect : Effect m s operation result) : Leaves m operation s result.1 := by
  cases heffect with
  | read hread answer => exact leaves_same
  | refused e => exact leaves_same
  | wasted e => exact ⟨fun _ _ => rfl, fun _ _ hchat _ => hchat,
      fun _ _ _ => ⟨rfl, fun _ _ hchat _ => hchat⟩⟩
  | stored hname hfree =>
      refine ⟨fun token htoken => ?_, fun _ _ hchat _ => hchat, fun _ _ hchat => by cases hchat⟩
      have hne : m.token ≠ token := fun heq => htoken (congrArg some heq)
      exact get?_applications_store.trans (if_neg hne)
  | @linked token' found number count hfound hnumber hcount =>
      refine ⟨fun token htoken => ?_, fun record chat hchat _ => ?_,
        fun _ _ hchat => by cases hchat⟩
      · have hne : token' ≠ token := fun heq => htoken (congrArg some heq)
        rw [get?_applications_link, if_neg hne]
      · have := h.given record chat hchat
        rw [get?_chats_link, if_neg (by omega), hchat]
  | @removed token' number' count found record' hfound hlink hcount =>
      refine ⟨fun token htoken => ?_, fun record chat hchat hplace => ?_,
        fun _ _ hchat => by cases hchat⟩
      · have hne : token' ≠ token := fun heq => htoken (congrArg some heq)
        exact get?_applications_unlink.trans (if_neg hne)
      · have hne : record' ≠ record := by
          rintro rfl
          exact hplace token' number' ⟨found, hfound, hlink⟩ rfl
        exact (get?_chats_mark.trans (if_neg hne)).trans hchat
  | @posted token' number' next count given body record' chat' hbody hlink hchat' hlive hnumber
      hcount =>
      refine ⟨fun _ _ => rfl, fun record chat hchat hplace => ?_, fun token number haddress =>
        ⟨rfl, fun record chat hchat hplace => ?_⟩⟩
      · have hne : record' ≠ record := by
          rintro rfl
          exact hplace token' number' hlink rfl
        exact (get?_chats_post.trans (if_neg hne)).trans hchat
      · obtain ⟨rfl, rfl⟩ := Prod.mk.inj (Option.some.inj haddress)
        have hne : record' ≠ record := by
          rintro rfl
          exact hplace hlink
        exact (get?_chats_post.trans (if_neg hne)).trans hchat

/-- **No operation touches what it is not addressed to**, internal ids and timestamps included. -/
theorem leaves_perform (h : Linkage s) (operation : Operation α) :
    Leaves m operation s (perform m operation s).1 := (h.connected.effect operation).leaves h

end Memory

end ChatService
