import ChatService.Proofs.Memory.Listing

/-!
# The order of creation

A creation takes the next id in its first section and stores the application in its second one, and
other calls run theirs in between.  So applications need not be stored in the order of their ids,
and the clock says nothing about it either; but each of them has one point at which it was created
(`Created`), the first section of its creation, and ids stand in the order of these points.
-/

namespace ChatService.Memory

open Store (Application Operation Outcome)

attribute [local irreducible] idText

/-! ## applications as they were created -/

/-- An application as it was when it was created, before anything happened to its chats. -/
def asCreated (a : Application) : Application :=
  { a with chatsCount := 0, lastChatNumber := 0, updatedAt := a.createdAt }

/-- The stored applications as they were created. -/
def State.originals (s : State) : List Application := s.allApplications.map asCreated

variable {α : Type} {s : State} {token : String}

theorem originals_of_update {s' : State} {f : ApplicationRecord → ApplicationRecord}
    (hs' : s'.applications = Keyed.update token f s.applications)
    (h : ∀ found, asCreated (f found).application = asCreated found.application) :
    s'.originals = s.originals := by
  simp only [State.originals, State.allApplications, hs', List.map_map]
  exact Keyed.map_update token s.applications fun found => h found

theorem originals_store {a : Application} (hfree : Keyed.get? a.token s.applications = none) :
    (s.store a).originals = s.originals ++ [asCreated a] := by
  simp [State.originals, State.allApplications, State.store, Keyed.put_eq_append hfree]

/-! ## who creates applications -/

/-- Creations of applications. -/
def IsCreation : {α : Type} → Operation α → Prop
  | _, .createApplication _ => True
  | _, _ => False

theorem keeps_createChat (token : String) : (createChat token).Keeps State.originals := by
  refine keeps_withApplication fun m s found => ?_
  dsimp only
  split
  · exact ⟨rfl, trivial⟩
  · next number count _ =>
      exact ⟨originals_of_update (f := .addLink m number count (s.ids + 1)) rfl fun _ => rfl,
        trivial⟩

theorem keeps_deleteChat (token : String) (number : Int) :
    (deleteChat token number).Keeps State.originals := by
  refine keeps_withApplication fun m s found => ?_
  cases Keyed.get? number found.chats with
  | none => exact ⟨rfl, trivial⟩
  | some record =>
      dsimp only
      split
      · exact ⟨rfl, trivial⟩
      · next count _ =>
          exact ⟨originals_of_update (f := .removeLink m number count) rfl fun _ => rfl,
            fun _ _ => ⟨rfl, trivial⟩⟩

theorem keeps_createMessage (token : String) (number : Int) (body : Option String) :
    (createMessage token number body).Keeps State.originals := by
  unfold createMessage orRefuse
  cases Store.validateBody body with
  | error e => trivial
  | ok body =>
      refine keeps_withChat fun m s record chat => ?_
      dsimp only
      split <;> exact ⟨rfl, trivial⟩

/-- Only creations add applications, and no call changes what was created. -/
theorem keeps_call {operation : Operation α} (h : ¬IsCreation operation) :
    (call operation).Keeps State.originals := by
  cases operation with
  | createApplication name => exact absurd trivial h
  | createChat token => exact keeps_createChat token
  | deleteChat token number => exact keeps_deleteChat token number
  | createMessage token number body => exact keeps_createMessage token number body
  | _ => exact (looks_call (by trivial)).keeps

/-! ## points of creation -/

/-- The turn in which an application was created, and what had run before. -/
structure CreationPoint where
  turn : Turn Moment
  before : List (Turn Moment)

/-- An application was created at a point: in the first section of a creation, with its name, at the
moment of the section, and with the next id. -/
structure Created (requests : List Request) (schedule : List (Turn Moment)) (p : CreationPoint)
    (a : Application) : Prop where
  ran : p.before ++ [p.turn] <+: schedule
  first : ¬Begun p.before p.turn.call
  made : ∃ name, requests[p.turn.call]? = some ⟨_, .createApplication (some name)⟩ ∧
    Text.isBlank name = false ∧
      asCreated a = newApplication p.turn.input ((storeAfter requests p.before).ids + 1) name

variable {requests : List Request} {schedule earlier : List (Turn Moment)} {turn : Turn Moment}
  {n : Nat} {p q : CreationPoint} {a b : Application} {name : Option String} {call : OutcomeCall}

theorem Created.mono (h : Created requests earlier p a) (hearlier : earlier <+: schedule) :
    Created requests schedule p a := { h with ran := h.ran.trans hearlier }

theorem Created.of_asCreated (h : Created requests schedule p a) (hab : asCreated b = asCreated a) :
    Created requests schedule p b := by
  obtain ⟨name, hrequest, hname, hmade⟩ := h.made
  exact { h with made := ⟨name, hrequest, hname, hab.trans hmade⟩ }

theorem Created.id_eq (h : Created requests schedule p a) :
    a.id = idText ((storeAfter requests p.before).ids + 1) := by
  obtain ⟨name, -, -, hmade⟩ := h.made
  exact congrArg Application.id hmade

/-! ### how far a creation is -/

/-- A creation that is yet to store its application. -/
def storing (application : Application) : StoreCall Application :=
  .atomic fun _ s =>
    match Keyed.get? application.token s.applications with
    | some _ => (s, refuse (.constraintViolation "token already taken"))
    | none => (s.store application, reply application)

/-- How far a creation is. -/
inductive Creating (requests : List Request) (schedule : List (Turn Moment)) (n : Nat)
    (name : Option String) : OutcomeCall → Prop where
  | waiting (hbegun : ¬Begun schedule n) :
      Creating requests schedule n name
        ((createApplication name).map (.of (.createApplication name)))
  | storing {p : CreationPoint} {a : Application} (hcreated : Created requests schedule p a) :
      Creating requests schedule n name ((storing a).map (.of (.createApplication name)))
  | done (outcome : Outcome) : Creating requests schedule n name (.done outcome)

theorem Creating.other (h : Creating requests schedule n name call) (hturn : turn.call ≠ n) :
    Creating requests (schedule ++ [turn]) n name call := by
  cases h with
  | waiting hbegun =>
      exact .waiting (mt begun_append_singleton.mp (not_or.mpr ⟨hbegun, hturn⟩))
  | storing hcreated => exact .storing (hcreated.mono (List.prefix_append _ _))
  | done outcome => exact .done outcome

/-- **A creation creates at its first section**, unless it is refused before it. -/
theorem Creating.advance (h : Creating requests schedule turn.call name call)
    (hrequest : requests[turn.call]? = some ⟨_, .createApplication name⟩) :
    Creating requests (schedule ++ [turn]) turn.call name
      (call.advance turn.input (storeAfter requests schedule)).2 := by
  cases h with
  | waiting hbegun =>
      unfold createApplication orRefuse
      cases hvalid : Store.validateName name with
      | error e => exact .done _
      | ok text =>
          obtain ⟨rfl, hname⟩ := requireText_eq_ok.mp hvalid
          have hcreated : Created requests (schedule ++ [turn]) ⟨turn, schedule⟩
              (newApplication turn.input ((storeAfter requests schedule).ids + 1) text) :=
            ⟨List.prefix_rfl, hbegun, text, hrequest, hname, rfl⟩
          exact .storing hcreated
  | @storing p a hcreated =>
      simp only [Memory.storing, Call.atomic, Call.map, Call.advance]
      cases Keyed.get? a.token (storeAfter requests schedule).applications with
      | some _ => exact .done _
      | none => exact .done _
  | done outcome => exact .done outcome

theorem creating_of_createApplication
    (hrequest : requests[n]? = some ⟨_, .createApplication name⟩)
    (hcall : (callsAfter requests schedule)[n]? = some call) :
    Creating requests schedule n name call := by
  refine runSchedule_call_induct
    (motive := fun schedule call => Creating requests schedule n name call)
    (fun hstart => ?_) ?_ (fun hother hcreating => hcreating.other hother) hcall
  · simp only [start, List.getElem?_map, hrequest] at hstart
    cases hstart
    exact .waiting (by simp [Begun])
  · rintro schedule turn call rfl - hcreating
    exact hcreating.advance hrequest

/-- A call that creates nothing keeps what was created, wherever it is. -/
theorem keeps_of_not_isCreation {request : Request} (hrequest : requests[n]? = some request)
    (hcreation : ¬IsCreation request.2) (hcall : (callsAfter requests schedule)[n]? = some call) :
    call.Keeps State.originals := by
  refine runSchedule_call_induct (motive := fun _ call => call.Keeps State.originals)
    (fun hstart => ?_) (fun _ _ hkeeps => (hkeeps.advance _ _).2) (fun _ hkeeps => hkeeps) hcall
  simp only [start, List.getElem?_map, hrequest] at hstart
  cases hstart
  exact (keeps_call hcreation).map _

theorem storeAfter_append_singleton
    (hcall : (callsAfter requests schedule)[turn.call]? = some call) :
    storeAfter requests (schedule ++ [turn]) =
      (call.advance turn.input (storeAfter requests schedule)).1 := by
  rw [callsAfter] at hcall
  rw [storeAfter, runSchedule_append_singleton, Turn.run, hcall]
  rfl

/-- The turn of a call that is not there. -/
theorem storeAfter_append_of_none (hcall : (callsAfter requests schedule)[turn.call]? = none) :
    storeAfter requests (schedule ++ [turn]) = storeAfter requests schedule := by
  rw [callsAfter] at hcall
  rw [storeAfter, runSchedule_append_singleton, Turn.run, hcall]
  rfl

/-- There is a call for every request. -/
theorem exists_call {request : Request} (schedule : List (Turn Moment))
    (hrequest : requests[n]? = some request) :
    ∃ call, (callsAfter requests schedule)[n]? = some call := by
  have hlt : n < (callsAfter requests schedule).length := by
    rw [callsAfter, length_runSchedule, start, List.length_map]
    exact (List.getElem?_eq_some_iff.mp hrequest).1
  exact ⟨_, List.getElem?_eq_getElem hlt⟩

theorem exists_request (hcall : (callsAfter requests schedule)[n]? = some call) :
    ∃ request, requests[n]? = some request := by
  have hlt : n < requests.length := by
    simpa [callsAfter, length_runSchedule, start] using (List.getElem?_eq_some_iff.mp hcall).1
  exact ⟨_, List.getElem?_eq_getElem hlt⟩

/-- A turn adds nothing but the application of a creation that has taken its id before. -/
theorem originals_append_singleton (requests : List Request) (schedule : List (Turn Moment))
    (turn : Turn Moment) :
    (storeAfter requests (schedule ++ [turn])).originals =
        (storeAfter requests schedule).originals ∨
      ∃ p a, Created requests schedule p a ∧ (storeAfter requests (schedule ++ [turn])).originals =
        (storeAfter requests schedule).originals ++ [asCreated a] := by
  cases hcall : (callsAfter requests schedule)[turn.call]? with
  | none => exact .inl (congrArg State.originals (storeAfter_append_of_none hcall))
  | some call =>
      rw [storeAfter_append_singleton hcall]
      obtain ⟨⟨α, operation⟩, hrequest⟩ := exists_request hcall
      by_cases hcreation : IsCreation operation
      · cases operation with
        | createApplication name =>
            cases creating_of_createApplication hrequest hcall with
            | waiting hbegun =>
                unfold createApplication orRefuse
                cases Store.validateName name with
                | error e => exact .inl rfl
                | ok text => exact .inl rfl
            | @storing p a hcreated =>
                simp only [storing, Call.atomic, Call.map, Call.advance]
                cases hfree : Keyed.get? a.token (storeAfter requests schedule).applications with
                | some _ => exact .inl rfl
                | none => exact .inr ⟨p, a, hcreated, originals_store hfree⟩
            | done outcome => exact .inl rfl
        | _ => exact hcreation.elim
      · exact .inl ((keeps_of_not_isCreation hrequest hcreation hcall).advance _ _).1

/-- What was created stays, and what is created later comes behind it. -/
theorem originals_later (requests : List Request) (hearlier : earlier <+: schedule) :
    (storeAfter requests earlier).originals <+: (storeAfter requests schedule).originals := by
  obtain ⟨later, rfl⟩ := hearlier
  induction later using List.reverseRecOn with
  | nil => simp
  | append_singleton later turn ih =>
      rw [← List.append_assoc]
      obtain heq | ⟨p, a, -, heq⟩ := originals_append_singleton requests (earlier ++ later) turn
      · exact heq ▸ ih
      · exact heq ▸ ih.trans (List.prefix_append _ _)

/-- **Every application that is stored was created at some point.** -/
theorem exists_created (h : a ∈ (storeAfter requests schedule).allApplications) :
    ∃ p, Created requests schedule p a := by
  suffices hall : ∀ a ∈ (storeAfter requests schedule).originals,
      ∃ p, Created requests schedule p a by
    obtain ⟨p, hp⟩ := hall _ (List.mem_map_of_mem h)
    exact ⟨p, hp.of_asCreated rfl⟩
  clear h
  induction schedule using List.reverseRecOn with
  | nil => simp [storeAfter, runSchedule, State.originals, State.allApplications, State.empty]
  | append_singleton schedule turn ih =>
      have hold : ∀ a ∈ (storeAfter requests schedule).originals,
          ∃ p, Created requests (schedule ++ [turn]) p a := fun a ha =>
        (ih a ha).imp fun p hp => hp.mono (List.prefix_append _ _)
      obtain heq | ⟨p, b, hcreated, heq⟩ := originals_append_singleton requests schedule turn
      · rwa [heq]
      · have hnew : Created requests schedule p (asCreated b) := hcreated.of_asCreated rfl
        rw [heq]
        intro a ha
        obtain ha | ha := List.mem_append.mp ha
        · exact hold a ha
        · obtain rfl := List.mem_singleton.mp ha
          exact ⟨p, hnew.mono (List.prefix_append _ _)⟩

/-! ## ids in the order of creation -/

theorem ids_le_later (requests : List Request) (hearlier : earlier <+: schedule) :
    (storeAfter requests earlier).ids ≤ (storeAfter requests schedule).ids := by
  obtain ⟨_, -, -, hle⟩ := exists_tracked_later requests
    (fun s _ => (storeAfter requests earlier).ids ≤ s.ids)
    (fun _ hle _ hmove => Nat.le_trans hle (ids_le_of_move hmove)) hearlier
    fun _ _ _ => Nat.le_refl _
  exact hle

/-- A call that has not begun is as it was at the start. -/
theorem call_of_not_begun (hbegun : ¬Begun schedule n)
    (hcall : (callsAfter requests schedule)[n]? = some call) :
    (start requests)[n]? = some call := by
  refine runSchedule_call_induct
    (motive := fun schedule call => ¬Begun schedule n → (start requests)[n]? = some call)
    (fun hstart _ => hstart) ?_ ?_ hcall hbegun
  · intro schedule turn call hturn _ _ hbegun
    exact absurd (begun_append_singleton.mpr (.inr hturn)) hbegun
  · intro schedule turn call _ hbefore hbegun
    exact hbefore fun h => hbegun (begun_append_singleton.mpr (.inl h))

theorem Created.prefix_before (h : Created requests schedule p a) : p.before <+: schedule :=
  (List.prefix_append _ _).trans h.ran

/-- The id is taken in the turn of the creation. -/
theorem Created.ids_eq (h : Created requests schedule p a) :
    (storeAfter requests (p.before ++ [p.turn])).ids = (storeAfter requests p.before).ids + 1 := by
  obtain ⟨name, hrequest, hname, -⟩ := h.made
  have hvalid : Store.validateName (some name) = .ok name := requireText_eq_ok.mpr ⟨rfl, hname⟩
  obtain ⟨call, hcall⟩ := exists_call p.before hrequest
  have hstart := call_of_not_begun h.first hcall
  simp only [start, List.getElem?_map, hrequest] at hstart
  rw [storeAfter_append_singleton hcall, ← Option.some.inj hstart]
  show ((createApplication (some name)).map _ |>.advance _ _).1.ids = _
  rw [createApplication, hvalid]
  rfl

theorem Created.ids_lt (ha : Created requests schedule p a) (hb : Created requests schedule q b)
    (hlt : p.before.length < q.before.length) :
    (storeAfter requests p.before).ids < (storeAfter requests q.before).ids := by
  have hprefix : p.before ++ [p.turn] <+: q.before :=
    List.prefix_of_prefix_length_le ha.ran hb.prefix_before (by simp; omega)
  have hle := ids_le_later requests hprefix
  rw [ha.ids_eq] at hle
  omega

theorem Created.ids_le (h : Created requests schedule p a) :
    (storeAfter requests p.before).ids + 1 ≤ (storeAfter requests schedule).ids :=
  h.ids_eq ▸ ids_le_later requests h.ran

/-- Of points of one schedule, those that come at the same time are one. -/
theorem Created.point_eq (ha : Created requests schedule p a) (hb : Created requests schedule q b)
    (hlength : p.before.length = q.before.length) : p = q := by
  have hran : p.before ++ [p.turn] = q.before ++ [q.turn] :=
    (List.prefix_of_prefix_length_le ha.ran hb.ran (by simp [hlength])).eq_of_length
      (by simp [hlength])
  obtain ⟨hbefore, hturn⟩ := List.append_inj hran hlength
  cases p
  cases q
  simp_all

/-- **Ids stand in the order of creation.** -/
theorem Created.id_lt_iff (ha : Created requests schedule p a) (hb : Created requests schedule q b)
    (hfew : (storeAfter requests schedule).ids < 16 ^ 24) :
    a.id < b.id ↔ p.before.length < q.before.length := by
  have hida := ha.ids_le
  have hidb := hb.ids_le
  rw [ha.id_eq, hb.id_eq, idText_lt_idText (by omega) (by omega)]
  obtain hlt | heq | hgt := Nat.lt_trichotomy p.before.length q.before.length
  · have := ha.ids_lt hb hlt
    omega
  · obtain rfl := ha.point_eq hb heq
    omega
  · have := hb.ids_lt ha hgt
    omega

/-- An application is created once. -/
theorem Created.unique (hp : Created requests schedule p a) (hq : Created requests schedule q b)
    (hid : a.id = b.id) (hfew : (storeAfter requests schedule).ids < 16 ^ 24) : p = q := by
  have hlt := hp.id_lt_iff hq hfew
  have hgt := hq.id_lt_iff hp hfew
  rw [hid] at hlt hgt
  refine hp.point_eq hq ?_
  have := String.lt_irrefl b.id
  grind

/-- **The order of creation respects real time**: what was created by a call that had returned
before another one began was created before. -/
theorem Created.length_lt_of_precedes (ha : Created requests schedule p a)
    (hb : Created requests schedule q b)
    (h : Precedes .empty (start requests) schedule p.turn.call q.turn.call) :
    p.before.length < q.before.length := by
  obtain ⟨earlier, hearlier, ⟨hreturned, -⟩, hbegun⟩ := h
  by_contra hle
  have hlength : earlier.length ≤ p.before.length ∨ q.before.length < earlier.length := by omega
  obtain hle | hlt := hlength
  · exact ha.first (hreturned.mono (List.prefix_of_prefix_length_le hearlier ha.prefix_before hle))
  · have hpast : q.before ++ [q.turn] <+: earlier :=
      List.prefix_of_prefix_length_le hb.ran hearlier (by simp; omega)
    exact hbegun ⟨q.turn, hpast.subset (by simp), rfl⟩

end ChatService.Memory
