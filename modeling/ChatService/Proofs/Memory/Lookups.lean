import ChatService.Proofs.Keyed
import ChatService.Proofs.Memory.Moves

/-!
# What operations of the in-memory store look up

An operation that runs from end to end finds an application, and perhaps the record of one of its
chats, before it does anything else.  As long as links lead to records that are not deleted, its
second section finds what its first one saw, so what it answers can be said in terms of two
lookups.
-/

namespace ChatService

universe u v

namespace Call

variable {σ ι κ ρ : Type} {α : Type u} {β : Type v} {lock : κ} {i : ι} {s : σ} {f : σ → ρ}

@[simp] theorem run_done (answer : α) : (Call.done answer : Call σ ι κ α).run i s = (s, answer) :=
  rfl

@[simp] theorem run_look (body : σ → Call σ ι κ α) : (look body).run i s = (body s).run i s := rfl

@[simp] theorem run_lookLocked (body : σ → Call σ ι κ α) :
    (lookLocked lock body).run i s = (body s).run i s := rfl

@[simp] theorem run_atomic (body : ι → σ → σ × Call σ ι κ α) :
    (atomic body).run i s = (body i s).2.run i (body i s).1 := rfl

@[simp] theorem run_locked (body : ι → σ → σ × Call σ ι κ α) :
    (locked lock body).run i s = (body i s).2.run i (body i s).1 := rfl

/-- A call that keeps what can be read off the state, whatever it finds. -/
def Keeps (f : σ → ρ) : Call σ ι κ α → Prop
  | .done _ => True
  | .step _ effect next => ∀ i s, f (effect i s) = f s ∧ Keeps f (next i s)

theorem keeps_look {body : σ → Call σ ι κ α} (h : ∀ s, (body s).Keeps f) : (look body).Keeps f :=
  fun _ s => ⟨rfl, h s⟩

theorem keeps_locked {body : ι → σ → σ × Call σ ι κ α}
    (h : ∀ i s, f (body i s).1 = f s ∧ (body i s).2.Keeps f) : (locked lock body).Keeps f := h

theorem Keeps.map {call : Call σ ι κ α} (h : call.Keeps f) (g : α → β) : (call.map g).Keeps f := by
  induction call with
  | done answer => trivial
  | step lock effect next ih => exact fun i s => ⟨(h i s).1, ih i s (h i s).2⟩

theorem Keeps.advance {call : Call σ ι κ α} (h : call.Keeps f) (i : ι) (s : σ) :
    f (call.advance i s).1 = f s ∧ (call.advance i s).2.Keeps f := by
  cases call with
  | done answer => exact ⟨rfl, trivial⟩
  | step lock effect next => exact h i s

/-- A call that changes nothing. -/
def Looks : Call σ ι κ α → Prop
  | .done _ => True
  | .step _ effect next => ∀ i s, effect i s = s ∧ Looks (next i s)

theorem looks_look {body : σ → Call σ ι κ α} (h : ∀ s, (body s).Looks) : (look body).Looks :=
  fun _ s => ⟨rfl, h s⟩

theorem looks_lookLocked {body : σ → Call σ ι κ α} (h : ∀ s, (body s).Looks) :
    (lookLocked lock body).Looks := fun _ s => ⟨rfl, h s⟩

theorem Looks.keeps {call : Call σ ι κ α} (h : call.Looks) : call.Keeps f := by
  induction call with
  | done answer => trivial
  | step lock effect next ih => exact fun i s => ⟨congrArg f (h i s).1, ih i s (h i s).2⟩

/-- Who keeps the whole state changes nothing. -/
theorem Keeps.looks {call : Call σ ι κ α} (h : call.Keeps id) : call.Looks := by
  induction call with
  | done answer => trivial
  | step lock effect next ih => exact fun i s => ⟨(h i s).1, ih i s (h i s).2⟩

theorem Looks.run {call : Call σ ι κ α} (h : call.Looks) : (call.run i s).1 = s := by
  induction call with
  | done answer => rfl
  | step lock effect next ih =>
      obtain ⟨heffect, hnext⟩ := h i s
      rw [Call.run, heffect]
      exact ih i s hnext

end Call

namespace Memory

open Store (Application Message Operation Answer CounterUpdate)

variable {α : Type} {m : Moment} {s : State} {token : String} {number : Int} {record : Nat}
  {found : ApplicationRecord}

@[simp] theorem run_reply (answer : α) : (reply answer).run m s = (s, .ok answer) := rfl

@[simp] theorem run_refuse (e : StoreError) :
    (refuse e : StoreCall α).run m s = (s, .error e) := rfl

/-! ## lookups -/

instance : Inhabited ChatRecord := ⟨⟨"", "", 0, 0, 0, .epoch, .epoch⟩, [], false⟩

namespace State

/-- The application with a token, or why there is none. -/
def lookupApplication (s : State) (token : String) : Answer ApplicationRecord :=
  match Keyed.get? token s.applications with
  | none => .error (.applicationNotFound token)
  | some found => .ok found

/-- The record of a linked chat, or why there is none. -/
def lookupChat (s : State) (token : String) (number : Int) : Answer Nat :=
  match s.lookupApplication token with
  | .error e => .error e
  | .ok found =>
    match Keyed.get? number found.chats with
    | none => .error (.chatNotFound token number)
    | some record => .ok record

/-- A chat record that is there. -/
def chatAt (s : State) (record : Nat) : ChatRecord := (Keyed.get? record s.chats).getD default

end State

theorem lookupApplication_eq_ok :
    s.lookupApplication token = .ok found ↔ Keyed.get? token s.applications = some found := by
  unfold State.lookupApplication
  cases Keyed.get? token s.applications <;> simp

theorem lookupApplication_eq_error {e : StoreError} :
    s.lookupApplication token = .error e ↔
      Keyed.get? token s.applications = none ∧ e = .applicationNotFound token := by
  unfold State.lookupApplication
  cases Keyed.get? token s.applications <;> simp [eq_comm]

theorem lookupChat_eq_ok :
    s.lookupChat token number = .ok record ↔
      ∃ found, Keyed.get? token s.applications = some found ∧
        Keyed.get? number found.chats = some record := by
  unfold State.lookupChat
  cases hfound : s.lookupApplication token with
  | error e => simp [State.lookupApplication] at hfound ⊢; grind
  | ok found =>
      rw [lookupApplication_eq_ok] at hfound
      cases hlink : Keyed.get? number found.chats <;> simp [hfound, hlink]

/-- Every link leads to a chat record that is not deleted. -/
def Connected (s : State) : Prop :=
  ∀ token number record, s.lookupChat token number = .ok record →
    Keyed.get? record s.chats = some (s.chatAt record) ∧ (s.chatAt record).deleted = false

/-! ## what a call finds -/

theorem run_withApplication (body : Moment → State → ApplicationRecord → State × StoreCall α) :
    (withApplication token body).run m s =
      match s.lookupApplication token with
      | .error e => (s, .error e)
      | .ok found => (body m s found).2.run m (body m s found).1 := by
  unfold withApplication State.lookupApplication
  cases hfound : Keyed.get? token s.applications <;> simp [hfound]

theorem Connected.run_withChat (h : Connected s)
    (body : Moment → State → Nat → ChatRecord → State × StoreCall α) :
    (withChat token number body).run m s =
      match s.lookupChat token number with
      | .error e => (s, .error e)
      | .ok record =>
        (body m s record (s.chatAt record)).2.run m (body m s record (s.chatAt record)).1 := by
  rw [withChat, run_withApplication]
  cases hfound : s.lookupApplication token with
  | error e => simp [State.lookupChat, hfound]
  | ok found =>
      cases hlink : Keyed.get? number found.chats with
      | none => simp [State.lookupChat, hfound, hlink]
      | some record =>
          have hrecord : s.lookupChat token number = .ok record := by
            simp [State.lookupChat, hfound, hlink]
          obtain ⟨hchat, hlive⟩ := h token number record hrecord
          simp [hrecord, hlink, hchat, hlive]

/-! ## operations that look -/

/-- A part of a listing that is read off another one. -/
theorem slice_map {γ δ : Type} (f : γ → δ) (offset limit : Nat) (items : List γ) :
    Page.slice offset limit (items.map f) = (Page.slice offset limit items).map f := by
  simp [Page.slice, List.map_drop, List.map_take]

section Looks

theorem perform_countApplications :
    perform m .countApplications s = (s, .ok s.applications.length) := rfl

theorem perform_ping : perform m .ping s = (s, .ok ()) := rfl

theorem perform_findApplication :
    perform m (.findApplication token) s =
      (s, (s.lookupApplication token).map (·.application)) := by
  show (withApplication token _).run m s = _
  rw [run_withApplication]
  cases s.lookupApplication token <;> rfl

theorem Connected.perform_findChat (h : Connected s) :
    perform m (.findChat token number) s =
      (s, (s.lookupChat token number).map fun record => (s.chatAt record).chat) := by
  show (withChat token number _).run m s = _
  rw [h.run_withChat]
  cases s.lookupChat token number <;> rfl

theorem perform_countChats :
    perform m (.countChats token) s =
      (s, (s.lookupApplication token).map fun found => found.chats.length) := by
  show (withApplication token _).run m s = _
  rw [run_withApplication]
  cases s.lookupApplication token <;> rfl

theorem Connected.perform_countMessages (h : Connected s) :
    perform m (.countMessages token number) s =
      (s, (s.lookupChat token number).map fun record => (s.chatAt record).messages.length) := by
  show (withChat token number _).run m s = _
  rw [h.run_withChat]
  cases s.lookupChat token number <;> rfl

theorem Connected.perform_listMessages (h : Connected s) {offset limit : Nat} :
    perform m (.listMessages token number offset limit) s =
      (s, (s.lookupChat token number).map fun record =>
        Page.slice offset limit ((s.chatAt record).messages.map (·.2))) := by
  show (withChat token number _).run m s = _
  rw [h.run_withChat]
  cases s.lookupChat token number <;> rfl

/-- The applications in the order in which they were stored. -/
def State.allApplications (s : State) : List Application := s.applications.map (·.2.application)

/-- The chats of an application, by ascending number. -/
def State.chatsOf (s : State) (found : ApplicationRecord) : List Store.Chat :=
  found.chats.map fun link => (s.chatAt link.2).chat

theorem run_readApplications {finish : List Application → StoreCall (List Application)}
    {entries : Keyed String ApplicationRecord} (read : List Application)
    (h : ∀ entry ∈ entries, Keyed.get? entry.1 s.applications = some entry.2) :
    (readApplications finish (entries.map (·.1)) read).run m s =
      (finish (read.reverse ++ entries.map (·.2.application))).run m s := by
  induction entries generalizing read with
  | nil => simp [readApplications]
  | cons entry entries ih =>
      have hentry := h entry (by simp)
      simp only [List.map_cons, readApplications, Call.run_lookLocked, hentry]
      rw [ih _ fun other hother => h other (by simp [hother])]
      simp

theorem run_readChats {records : List Nat} (read : List Store.Chat)
    (h : ∀ record ∈ records, Keyed.get? record s.chats = some (s.chatAt record) ∧
      (s.chatAt record).deleted = false) :
    (readChats records read).run m s =
      (s, .ok (read.reverse ++ records.map fun record => (s.chatAt record).chat)) := by
  induction records generalizing read with
  | nil => simp [readChats]
  | cons record records ih =>
      obtain ⟨hchat, hlive⟩ := h record (by simp)
      simp only [readChats, Call.run_lookLocked, hchat, hlive]
      rw [ih _ fun other hother => h other (by simp [hother])]
      simp

/-- All applications are read, sorted, and only then cut to the page. -/
theorem perform_listApplications (h : (Keyed.keys s.applications).Nodup) {offset limit : Nat} :
    perform m (.listApplications offset limit) s =
      (s, .ok (Page.slice offset limit (s.allApplications.mergeSort newestFirst))) := by
  show (readApplications _ (s.applications.map (·.1)) []).run m s = _
  rw [run_readApplications [] fun entry hentry => (Keyed.get?_eq_some_iff_mem h).mpr hentry]
  rfl

/-- The links are cut to the page first, and every one of them leads to a chat. -/
theorem Connected.perform_listChats (h : Connected s)
    (hnodup : ∀ found, s.lookupApplication token = .ok found → (Keyed.keys found.chats).Nodup)
    {offset limit : Nat} :
    perform m (.listChats token offset limit) s =
      (s, (s.lookupApplication token).map fun found =>
        Page.slice offset limit (s.chatsOf found)) := by
  show (withApplication token _).run m s = _
  rw [run_withApplication]
  cases hfound : s.lookupApplication token with
  | error e => rfl
  | ok found =>
      have happlication := lookupApplication_eq_ok.mp hfound
      have hread : ∀ record ∈ (Page.slice offset limit found.chats).map (·.2),
          Keyed.get? record s.chats = some (s.chatAt record) ∧
            (s.chatAt record).deleted = false := by
        rintro _ hrecord
        obtain ⟨⟨number, record⟩, hlink, rfl⟩ := List.mem_map.mp hrecord
        have hmem := List.mem_of_mem_drop (List.mem_of_mem_take hlink)
        exact h token number record <| lookupChat_eq_ok.mpr
          ⟨found, happlication, (Keyed.get?_eq_some_iff_mem (hnodup found hfound)).mpr hmem⟩
      refine (run_readChats [] hread).trans ?_
      simp only [State.chatsOf, slice_map, List.map_map, List.reverse_nil, List.nil_append]
      rfl

end Looks

/-! ## operations that change nothing -/

section Reads

theorem looks_reply (answer : α) : (reply answer).Looks := trivial

theorem looks_refuse (e : StoreError) : (refuse e : StoreCall α).Looks := trivial

section Lookup

variable {ρ : Type} {f : State → ρ}

theorem keeps_withApplication {body : Moment → State → ApplicationRecord → State × StoreCall α}
    (h : ∀ m s found, f (body m s found).1 = f s ∧ (body m s found).2.Keeps f) :
    (withApplication token body).Keeps f := by
  refine Call.keeps_look fun s => ?_
  cases Keyed.get? token s.applications with
  | none => trivial
  | some found =>
      refine Call.keeps_locked fun m s => ?_
      cases Keyed.get? token s.applications with
      | none => exact ⟨rfl, trivial⟩
      | some found => exact h m s found

theorem keeps_withChat {body : Moment → State → Nat → ChatRecord → State × StoreCall α}
    (h : ∀ m s record chat, f (body m s record chat).1 = f s ∧ (body m s record chat).2.Keeps f) :
    (withChat token number body).Keeps f := by
  refine keeps_withApplication fun m s found => ?_
  cases Keyed.get? number found.chats with
  | none => exact ⟨rfl, trivial⟩
  | some record =>
      refine ⟨rfl, Call.keeps_locked fun m s => ?_⟩
      cases Keyed.get? record s.chats with
      | none => exact ⟨rfl, trivial⟩
      | some chat =>
          cases hdeleted : chat.deleted with
          | true => simpa [hdeleted] using (looks_refuse _).keeps
          | false => simpa [hdeleted] using h m s record chat

end Lookup

theorem looks_withApplication {body : Moment → State → ApplicationRecord → State × StoreCall α}
    (h : ∀ m s found, (body m s found).1 = s ∧ (body m s found).2.Looks) :
    (withApplication token body).Looks :=
  (keeps_withApplication fun m s found => ⟨(h m s found).1, (h m s found).2.keeps⟩).looks

theorem looks_withChat {body : Moment → State → Nat → ChatRecord → State × StoreCall α}
    (h : ∀ m s record chat, (body m s record chat).1 = s ∧ (body m s record chat).2.Looks) :
    (withChat token number body).Looks :=
  (keeps_withChat fun m s record chat =>
    ⟨(h m s record chat).1, (h m s record chat).2.keeps⟩).looks

theorem looks_readApplications {finish : List Application → StoreCall (List Application)}
    (h : ∀ applications, (finish applications).Looks) (tokens : List String)
    (read : List Application) : (readApplications finish tokens read).Looks := by
  induction tokens generalizing read with
  | nil => exact h _
  | cons token tokens ih =>
      refine Call.looks_lookLocked fun s => ?_
      cases Keyed.get? token s.applications with
      | none => exact ih read
      | some found => exact ih _

theorem looks_readChats (records : List Nat) (read : List Store.Chat) :
    (readChats records read).Looks := by
  induction records generalizing read with
  | nil => exact looks_reply _
  | cons record records ih =>
      refine Call.looks_lookLocked fun s => ?_
      cases Keyed.get? record s.chats with
      | none => exact ih read
      | some chat => exact ih _

/-- Operations that change nothing, whatever they find. -/
def IsRead : {α : Type} → Operation α → Prop
  | _, .createApplication _ | _, .createChat _ | _, .deleteChat .. | _, .createMessage .. => False
  | _, _ => True

theorem looks_call {operation : Operation α} (h : IsRead operation) : (call operation).Looks := by
  cases operation with
  | createApplication name => exact h.elim
  | createChat token => exact h.elim
  | deleteChat token number => exact h.elim
  | createMessage token number body => exact h.elim
  | countApplications => exact Call.looks_look fun _ => looks_reply _
  | listApplications offset limit =>
      exact Call.looks_look fun _ => looks_readApplications (fun _ => looks_reply _) _ _
  | findApplication token => exact looks_withApplication fun _ _ _ => ⟨rfl, looks_reply _⟩
  | findChat token number => exact looks_withChat fun _ _ _ _ => ⟨rfl, looks_reply _⟩
  | countChats token => exact looks_withApplication fun _ _ _ => ⟨rfl, looks_reply _⟩
  | listChats token offset limit =>
      exact looks_withApplication fun _ _ _ => ⟨rfl, looks_readChats _ _⟩
  | countMessages token number => exact looks_withChat fun _ _ _ _ => ⟨rfl, looks_reply _⟩
  | listMessages token number offset limit =>
      exact looks_withChat fun _ _ _ _ => ⟨rfl, looks_reply _⟩
  | ping => exact looks_reply _

/-- **An operation that reads leaves the store as it is.** -/
theorem perform_of_isRead {operation : Operation α} (h : IsRead operation) :
    (perform m operation s).1 = s := (looks_call h).run

end Reads

end Memory

end ChatService
