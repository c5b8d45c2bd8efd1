import ChatService.Proofs.Database.Serial

/-!
# Numbers along a serial history

Each unit of work either leaves the last number of a parent as it is, or hands out the next one.
Over a whole history the numbers of a parent are those after its first last number, in order and
without a gap; a chat that does not exist yet has handed out none.
-/

namespace ChatService.Database

open Server (Records recordsOf)
open Store (Operation Scope)

/-! ## numbers that were handed out -/

/-- A number that was handed out, if it was handed out within a parent. -/
def within (scope : Scope) (handed : Scope × Int) : Option Int :=
  if handed.1 = scope then some handed.2 else none

/-- The number that an answer hands out within a parent. -/
def Effect.numberWithin (scope : Scope) (effect : Effect) : Option Int :=
  (Store.numberOf effect.operation effect.value).bind (within scope)

/-- The numbers that were handed out within a parent, one after the other. -/
def numbersWithin (scope : Scope) (effects : List Effect) : List Int :=
  effects.filterMap (Effect.numberWithin scope)

/-- So many numbers after another one. -/
def numbersAfter (last : Int) (count : Nat) : List Int :=
  (List.range count).map fun (i : Nat) => last + i + 1

theorem numbersAfter_succ (last : Int) (count : Nat) :
    numbersAfter last (count + 1) = numbersAfter last count ++ [last + count + 1] := by
  simp [numbersAfter, List.range_succ]

theorem length_numbersAfter (last : Int) (count : Nat) :
    (numbersAfter last count).length = count := by simp [numbersAfter]

theorem nodup_numbersAfter (last : Int) (count : Nat) : (numbersAfter last count).Nodup :=
  List.nodup_range.map fun i j h => by
    have heq : last + (i : Int) + 1 = last + j + 1 := h
    omega

/-- The application with a token. -/
def applicationCalled (token : String) (records : Records) : Option ApplicationRow :=
  (applicationRows records).find? fun row => decide (row.token = token)

/-- The chat with a number in the application with a token. -/
def chatCalled (token : String) (number : Int) (records : Records) : Option ChatRow :=
  (applicationCalled token records).bind fun application =>
    (chatRows records).find? fun row =>
      decide (row.applicationId = application.id ∧ row.number = number)

/-- The last number that a parent has handed out; a parent that is not there has handed out none. -/
def lastNumber (records : Records) : Scope → Int
  | .application token =>
    match applicationCalled token records with
    | some row => row.lastChatNumber
    | none => 0
  | .chat token number =>
    match chatCalled token number records with
    | some row => row.lastMessageNumber
    | none => 0

section Called

variable {records : Records} {application : ApplicationRow} {chat : ChatRow}

theorem applicationCalled_of_mem (htokens : ((applicationRows records).map (·.token)).Nodup)
    (happlication : application ∈ applicationRows records) :
    applicationCalled application.token records = some application := by
  unfold applicationCalled
  cases hfound : (applicationRows records).find? fun row =>
      decide (row.token = application.token) with
  | none => simpa using List.find?_eq_none.mp hfound application happlication
  | some found =>
      have htoken : found.token = application.token := by simpa using List.find?_some hfound
      have hmem := List.mem_of_find?_eq_some hfound
      rw [List.inj_on_of_nodup_map htokens hmem happlication htoken]

theorem Sound.chat_inj (h : Sound records) {chat' : ChatRow} (hchat : chat ∈ chatRows records)
    (hchat' : chat' ∈ chatRows records) (hhome : chat.applicationId = chat'.applicationId)
    (hnumber : chat.number = chat'.number) : chat = chat' :=
  List.inj_on_of_nodup_map h.chatsCounted.distinct hchat hchat' (by
    rw [ChatRow.asChild, ChatRow.asChild, hhome, hnumber])

theorem Sound.application_inj (h : Sound records) {application' : ApplicationRow}
    (happlication : application ∈ applicationRows records)
    (happlication' : application' ∈ applicationRows records)
    (hid : application.id = application'.id) : application = application' := by
  have hids := h.chatsCounted.ids
  rw [List.map_map] at hids
  exact List.inj_on_of_nodup_map hids happlication happlication' hid

/-- No chat has a number that its application has not handed out. -/
theorem Sound.number_le (h : Sound records) (happlication : application ∈ applicationRows records)
    (hchat : chat ∈ chatRows records) (hhome : chat.applicationId = application.id) :
    chat.number ≤ application.lastChatNumber :=
  (h.chatsCounted.numbered application.asParent (List.mem_map_of_mem happlication) chat.asChild
    (List.mem_map_of_mem hchat) hhome).2

theorem chatCalled_eq_some_iff (h : Sound records)
    (htokens : ((applicationRows records).map (·.token)).Nodup)
    (happlication : application ∈ applicationRows records) {number : Int} :
    chatCalled application.token number records = some chat ↔
      chat ∈ chatRows records ∧ chat.applicationId = application.id ∧ chat.number = number := by
  simp only [chatCalled, applicationCalled_of_mem htokens happlication, Option.bind_some]
  refine ⟨fun hfound => ⟨List.mem_of_find?_eq_some hfound, by simpa using List.find?_some hfound⟩,
    fun ⟨hmem, hhome, hnumber⟩ => ?_⟩
  cases hfound : (chatRows records).find? fun row =>
      decide (row.applicationId = application.id ∧ row.number = number) with
  | none => simpa [hhome, hnumber] using List.find?_eq_none.mp hfound chat hmem
  | some found =>
      have hsame : found.applicationId = application.id ∧ found.number = number := by
        simpa using List.find?_some hfound
      rw [h.chat_inj (List.mem_of_find?_eq_some hfound) hmem (hsame.1.trans hhome.symm)
        (hsame.2.trans hnumber.symm)]

end Called

/-! ## one unit of work -/

/-- The next number is handed out, or none and the last one stays. -/
def Advances (scope : Scope) (effect : Effect) (last last' : Int) : Prop :=
  effect.numberWithin scope = some (last + 1) ∧ last' = last + 1 ∨
    effect.numberWithin scope = none ∧ last' = last

/-- What a unit of work does to the numbers of applications and chats. -/
structure Effect.Numbers (effect : Effect) (records records' : Records) : Prop where
  applications : ∀ row' ∈ applicationRows records', ∃ row ∈ applicationRows records,
    row.id = row'.id ∧ row.token = row'.token ∧
      Advances (.application row'.token) effect row.lastChatNumber row'.lastChatNumber
  /-- A chat was there before, or has the next number of its application. -/
  chats : ∀ chat' ∈ chatRows records',
    (∃ chat ∈ chatRows records, chat.applicationId = chat'.applicationId ∧
      chat.number = chat'.number ∧
      ∀ row ∈ applicationRows records, row.id = chat.applicationId →
        Advances (.chat row.token chat.number) effect chat.lastMessageNumber
          chat'.lastMessageNumber) ∨
    ((∀ row ∈ applicationRows records, row.id = chat'.applicationId →
      row.lastChatNumber < chat'.number) ∧ chat'.lastMessageNumber = 0 ∧
      ∀ scope, effect.numberWithin scope ≠ none → ∃ token, scope = .application token)
  /-- A number is the next one of a parent that is there. -/
  handed : ∀ scope number, effect.numberWithin scope = some number →
    (∃ row ∈ applicationRows records, scope = .application row.token ∧
      number = row.lastChatNumber + 1) ∨
    ∃ row ∈ applicationRows records, ∃ chat ∈ chatRows records, chat.applicationId = row.id ∧
      scope = .chat row.token chat.number ∧ number = chat.lastMessageNumber + 1

theorem Effect.numberWithin_eq_some_iff {effect : Effect} {scope : Scope} {number : Int} :
    effect.numberWithin scope = some number ↔
      Store.numberOf effect.operation effect.value = some (scope, number) := by
  cases h : Store.numberOf effect.operation effect.value with
  | none => simp [numberWithin, h]
  | some handed =>
      obtain ⟨scope', number'⟩ := handed
      simp [numberWithin, within, h]

/-- What stands in a list after one entry has been replaced; entries differ in some value. -/
theorem mem_of_mem_replaced {ρ κ : Type} {f : ρ → κ} {before after : List ρ} {x x' y : ρ}
    (hdistinct : ((before ++ x :: after).map f).Nodup) (hmem : y ∈ before ++ x' :: after) :
    y = x' ∨ y ∈ before ++ x :: after ∧ f y ≠ f x := by
  rw [List.map_append, List.map_cons, List.nodup_middle] at hdistinct
  have hother : y ∈ before ++ after → f y ≠ f x := fun hother hsame =>
    (List.nodup_cons.mp hdistinct).1 (by
      rw [← List.map_append, ← hsame]
      exact List.mem_map_of_mem hother)
  simp only [List.mem_append, List.mem_cons] at hmem hother ⊢
  grind

section Steps

variable {records records' : Records}

theorem numbers_createChat (hsound : Sound records)
    (htokens : ((applicationRows records).map (·.token)).Nodup) {row : ApplicationRow}
    {before after : List ApplicationRow} {id : ObjectId} {raised now : Int}
    (hbefore : applicationRows records = before ++ row :: after)
    (hafter : applicationRows records' =
      before ++ { row with chatsCount := row.chatsCount + 1,
                           lastChatNumber := row.lastChatNumber + 1, updatedAt := raised } :: after)
    (hchats : chatRows records' =
      chatRows records ++ [newChatRow id row.id (row.lastChatNumber + 1) now]) :
    Effect.Numbers
      ⟨.createChat row.token, (newChatRow id row.id (row.lastChatNumber + 1) now).toModel⟩
      records records' where
  applications row' hrow' := by
    rw [hafter] at hrow'
    rw [hbefore] at htokens ⊢
    obtain rfl | ⟨hmem, hne⟩ := mem_of_mem_replaced htokens hrow'
    · refine ⟨row, by simp, rfl, rfl, .inl ⟨?_, rfl⟩⟩
      exact Effect.numberWithin_eq_some_iff.mpr rfl
    · refine ⟨row', hmem, rfl, rfl, .inr ⟨?_, rfl⟩⟩
      simp [Effect.numberWithin, Store.numberOf, within, hne.symm]
  chats chat' hchat' := by
    rw [hchats] at hchat'
    obtain hold | hnew := List.mem_append.mp hchat'
    · exact .inl ⟨chat', hold, rfl, rfl, fun other _ _ => .inr ⟨rfl, rfl⟩⟩
    · obtain rfl := List.mem_singleton.mp hnew
      refine .inr ⟨fun other hother hid => ?_, rfl, ?_⟩
      · obtain rfl := hsound.application_inj hother (by simp [hbefore]) hid
        exact Int.lt_succ _
      · intro scope hscope
        obtain ⟨number, hnumber⟩ := Option.ne_none_iff_exists'.mp hscope
        have hhanded := Effect.numberWithin_eq_some_iff.mp hnumber
        simp only [Store.numberOf, Option.some.injEq, Prod.mk.injEq] at hhanded
        exact ⟨row.token, hhanded.1.symm⟩
  handed scope number hnumber := by
    have hhanded := Effect.numberWithin_eq_some_iff.mp hnumber
    simp only [Store.numberOf, Option.some.injEq, Prod.mk.injEq] at hhanded
    exact .inl ⟨row, by simp [hbefore], hhanded.1.symm, hhanded.2.symm⟩

theorem numbers_createMessage (hsound : Sound records)
    (htokens : ((applicationRows records).map (·.token)).Nodup) {application : ApplicationRow}
    {row : ChatRow} {before after : List ChatRow} {id : ObjectId} {raised now : Int} {text : String}
    (body : Option String) (happlication : application ∈ applicationRows records)
    (hhome : row.applicationId = application.id)
    (happlications : applicationRows records' = applicationRows records)
    (hbefore : chatRows records = before ++ row :: after)
    (hafter : chatRows records' =
      before ++ { row with messagesCount := row.messagesCount + 1,
                           lastMessageNumber := row.lastMessageNumber + 1
                           updatedAt := raised } :: after) :
    Effect.Numbers
      ⟨.createMessage application.token row.number body,
        (newMessageRow id row.id (row.lastMessageNumber + 1) text now).toModel⟩
      records records' where
  applications row' hrow' := ⟨row', happlications ▸ hrow', rfl, rfl, .inr ⟨rfl, rfl⟩⟩
  chats chat' hchat' := by
    have hdistinct := hsound.chatsCounted.distinct
    rw [hafter] at hchat'
    rw [hbefore] at hdistinct
    refine .inl ?_
    obtain rfl | ⟨hmem, hne⟩ := mem_of_mem_replaced hdistinct hchat'
    · refine ⟨row, by simp [hbefore], rfl, rfl, fun other hother hid => .inl ⟨?_, rfl⟩⟩
      obtain rfl := hsound.application_inj hother happlication (hid.trans hhome)
      exact Effect.numberWithin_eq_some_iff.mpr rfl
    · refine ⟨chat', hbefore ▸ hmem, rfl, rfl, fun other hother hid => .inr ⟨?_, rfl⟩⟩
      cases hnumber : Effect.numberWithin (.chat other.token chat'.number) _ with
      | none => rfl
      | some number =>
          have hhanded := Effect.numberWithin_eq_some_iff.mp hnumber
          simp only [Store.numberOf, Option.some.injEq, Prod.mk.injEq, Scope.chat.injEq] at hhanded
          obtain rfl := List.inj_on_of_nodup_map htokens hother happlication hhanded.1.1.symm
          refine absurd ?_ hne
          rw [ChatRow.asChild, ChatRow.asChild, ← hid, hhome, hhanded.1.2]
  handed scope number hnumber := by
    have hhanded := Effect.numberWithin_eq_some_iff.mp hnumber
    simp only [Store.numberOf, Option.some.injEq, Prod.mk.injEq] at hhanded
    exact .inr ⟨application, happlication, row, by simp [hbefore], hhome, hhanded.1.symm,
      hhanded.2.symm⟩

theorem numbers_deleteChat {application : ApplicationRow} {number : Int}
    {before after : List ApplicationRow} {now : Int}
    (hbefore : applicationRows records = before ++ application :: after)
    (hafter : applicationRows records' =
      before ++ { application with chatsCount := application.chatsCount - 1, updatedAt := now } ::
        after)
    (hchats : (chatRows records').Sublist (chatRows records)) :
    Effect.Numbers ⟨.deleteChat application.token number, ()⟩ records records' where
  applications row' hrow' := by
    rw [hafter] at hrow'
    rw [hbefore]
    obtain hmem | hmem := List.mem_append.mp hrow'
    · exact ⟨row', List.mem_append_left _ hmem, rfl, rfl, .inr ⟨rfl, rfl⟩⟩
    · obtain rfl | hmem := List.mem_cons.mp hmem
      · exact ⟨application, by simp, rfl, rfl, .inr ⟨rfl, rfl⟩⟩
      · exact ⟨row', by simp [hmem], rfl, rfl, .inr ⟨rfl, rfl⟩⟩
  chats chat' hchat' :=
    .inl ⟨chat', hchats.subset hchat', rfl, rfl, fun _ _ _ => .inr ⟨rfl, rfl⟩⟩
  handed scope number hnumber := by simp [Effect.numberWithin, Store.numberOf] at hnumber

/-- **A unit of work hands out the next number of its parent, and no other one.** -/
theorem Done.numbers {α : Type} {operation : Operation α} {value : α}
    (hdone : Done operation records records' value) (hunit : runsUnit operation = true)
    (hsound : Sound records) (htokens : ((applicationRows records).map (·.token)).Nodup) :
    Effect.Numbers ⟨operation, value⟩ records records' := by
  cases hdone with
  | look hlooks => cases operation <;> contradiction
  | createApplication => contradiction
  | @createChat _ _ row parent before after id raised now hparent hbefore hafter hfresh hadded
      hsame =>
      have hraised := ApplicationRow.holds_withChild hparent raised
      have hnew := ChatRow.holds_toRecord (newChatRow id row.id (row.lastChatNumber + 1) now)
      have hrows : applicationRows records = _ :=
        rows_split hbefore (ApplicationRow.ofRecord?_of_holds hparent)
      have hrows' : applicationRows records' = _ :=
        rows_split hafter (ApplicationRow.ofRecord?_of_holds hraised)
      have hchats : chatRows records' = _ :=
        rows_split hadded (ChatRow.ofRecord?_of_holds hnew)
      exact numbers_createChat hsound htokens hrows hrows' hchats
  | @createMessage _ _ application row parent before after id raised now body text hbody
      happlication hhome hparent hbefore hafter hfresh hadded hsame =>
      have hraised := ChatRow.holds_withChild hparent raised
      have hsame' : recordsOf applications records' = recordsOf applications records :=
        hsame _ (by simp)
      have hmem : application ∈ applicationRows records := by
        obtain ⟨record, hrecord, hholds⟩ := happlication
        exact List.mem_filterMap.mpr ⟨record, hrecord, ApplicationRow.ofRecord?_of_holds hholds⟩
      have hrows : chatRows records = _ :=
        rows_split hbefore (ChatRow.ofRecord?_of_holds hparent)
      have hrows' : chatRows records' = _ :=
        rows_split hafter (ChatRow.ofRecord?_of_holds hraised)
      exact numbers_createMessage hsound htokens body hmem hhome
        (congrArg (List.filterMap _) hsame') hrows hrows'
  | deleteChat now hparent hchat hhome hbefore hafter hbefore' hafter' hmessages hsame =>
      have hlowered := ApplicationRow.holds_withoutChild hparent now
      have hrows : applicationRows records = _ :=
        rows_split hbefore (ApplicationRow.ofRecord?_of_holds hparent)
      have hrows' : applicationRows records' = _ :=
        rows_split hafter (ApplicationRow.ofRecord?_of_holds hlowered)
      have hchats : (chatRows records').Sublist (chatRows records) := by
        rw [chatRows, chatRows, hbefore', hafter']
        exact ((List.sublist_cons_self _ _).append_left _).filterMap _
      exact numbers_deleteChat hrows hrows' hchats

end Steps

/-! ## whole histories -/

/-- The numbers that were handed out within a parent are those from its first last number up to
another one. -/
def Continues (start : Records) (effects : List Effect) (scope : Scope) (last : Int) : Prop :=
  ∃ count : Nat, numbersWithin scope effects = numbersAfter (lastNumber start scope) count ∧
    last = lastNumber start scope + count

/-- What holds of the numbers after a serial history. -/
structure Numbered (start : Records) (effects : List Effect) (records : Records) : Prop where
  applications : ∀ row ∈ applicationRows records,
    Continues start effects (.application row.token) row.lastChatNumber
  chats : ∀ row ∈ applicationRows records, ∀ chat ∈ chatRows records,
    chat.applicationId = row.id →
      Continues start effects (.chat row.token chat.number) chat.lastMessageNumber
  /-- A chat whose number was not handed out yet has handed out none. -/
  unborn : ∀ row ∈ applicationRows records, ∀ number, row.lastChatNumber < number →
    Continues start effects (.chat row.token number) 0
  every : ∀ scope, ∃ last, Continues start effects scope last

section Histories

variable {start records records' : Records} {effects : List Effect} {effect : Effect}
  {scope : Scope} {last last' : Int}

theorem numbersWithin_snoc : numbersWithin scope (effects ++ [effect]) =
    numbersWithin scope effects ++ (effect.numberWithin scope).toList := by
  cases h : effect.numberWithin scope <;> simp [numbersWithin, h]

theorem Continues.advance (h : Continues start effects scope last)
    (hadvances : Advances scope effect last last') :
    Continues start (effects ++ [effect]) scope last' := by
  obtain ⟨count, hnumbers, rfl⟩ := h
  obtain ⟨hnumber, rfl⟩ | ⟨hnumber, rfl⟩ := hadvances
  · refine ⟨count + 1, ?_, by omega⟩
    rw [numbersWithin_snoc, hnumbers, hnumber, numbersAfter_succ]
    rfl
  · refine ⟨count, ?_, rfl⟩
    rw [numbersWithin_snoc, hnumbers, hnumber, Option.toList_none, List.append_nil]

/-- Before anything is done, every parent is where it begins. -/
theorem Sound.numbered (h : Sound start) (htokens : ((applicationRows start).map (·.token)).Nodup) :
    Numbered start [] start where
  applications row hrow :=
    ⟨0, rfl, by simp [lastNumber, applicationCalled_of_mem htokens hrow]⟩
  chats row hrow chat hchat hhome := by
    have hcalled := (chatCalled_eq_some_iff h htokens hrow).mpr ⟨hchat, hhome, rfl⟩
    exact ⟨0, rfl, by simp [lastNumber, hcalled]⟩
  unborn row hrow number hlast := by
    refine ⟨0, rfl, ?_⟩
    cases hcalled : chatCalled row.token number start with
    | none => simp [lastNumber, hcalled]
    | some chat =>
        obtain ⟨hchat, hhome, rfl⟩ := (chatCalled_eq_some_iff h htokens hrow).mp hcalled
        have := h.number_le hrow hchat hhome
        omega
  every scope := ⟨_, 0, rfl, rfl⟩

theorem Advances.le (h : Advances scope effect last last') : last ≤ last' := by
  obtain ⟨-, rfl⟩ | ⟨-, rfl⟩ := h <;> omega

theorem Numbered.step (h : Numbered start effects records) (hsound : Sound records)
    (htokens : ((applicationRows records).map (·.token)).Nodup)
    (hstep : effect.Numbers records records') : Numbered start (effects ++ [effect]) records' where
  applications row' hrow' := by
    obtain ⟨row, hrow, -, htoken, hadvances⟩ := hstep.applications row' hrow'
    exact (htoken ▸ h.applications row hrow).advance hadvances
  chats row' hrow' chat' hchat' hhome := by
    obtain ⟨row, hrow, hid, htoken, -⟩ := hstep.applications row' hrow'
    obtain ⟨chat, hchat, hsame, hnumber, hadvances⟩ | ⟨hnew, hzero, hnone⟩ :=
      hstep.chats chat' hchat'
    · have hhome' := hsame.trans (hhome.trans hid.symm)
      have hcontinues := (h.chats row hrow chat hchat hhome').advance
        (hadvances row hrow hhome'.symm)
      rw [htoken, hnumber] at hcontinues
      exact hcontinues
    · have hunborn := h.unborn row hrow chat'.number (hnew row hrow (hid.trans hhome.symm))
      rw [hzero, ← htoken]
      refine hunborn.advance (.inr ⟨?_, rfl⟩)
      by_contra hsome
      obtain ⟨token, htoken⟩ := hnone _ hsome
      contradiction
  unborn row' hrow' number hlast := by
    obtain ⟨row, hrow, hid, htoken, hadvances⟩ := hstep.applications row' hrow'
    have hle := hadvances.le
    rw [← htoken]
    refine (h.unborn row hrow number (by omega)).advance (.inr ⟨?_, rfl⟩)
    -- A number would have come from a chat that is there, whose own number is not above the last.
    cases hnumber : effect.numberWithin (.chat row.token number) with
    | none => rfl
    | some given =>
        obtain ⟨_, -, hscope, -⟩ | ⟨other, hother, chat, hchat, hhome, hscope, -⟩ :=
          hstep.handed _ _ hnumber
        · contradiction
        · obtain ⟨htoken', rfl⟩ := Scope.chat.inj hscope
          obtain rfl := List.inj_on_of_nodup_map htokens hrow hother htoken'
          have := hsound.number_le hrow hchat hhome
          omega
  every scope := by
    cases hnumber : effect.numberWithin scope with
    | none =>
        obtain ⟨last, hcontinues⟩ := h.every scope
        exact ⟨last, hcontinues.advance (.inr ⟨hnumber, rfl⟩)⟩
    | some given =>
        obtain ⟨row, hrow, rfl, rfl⟩ | ⟨row, hrow, chat, hchat, hhome, rfl, rfl⟩ :=
          hstep.handed _ _ hnumber
        · exact ⟨_, (h.applications row hrow).advance (.inl ⟨hnumber, rfl⟩)⟩
        · exact ⟨_, (h.chats row hrow chat hchat hhome).advance (.inl ⟨hnumber, rfl⟩)⟩

theorem Numbered.alike (h : Numbered start effects records) (halike : Alike records records') :
    Numbered start effects records' where
  applications row hrow := h.applications row (halike.applicationRows.mem_iff.mpr hrow)
  chats row hrow chat hchat :=
    h.chats row (halike.applicationRows.mem_iff.mpr hrow) chat
      (halike.chatRows.mem_iff.mpr hchat)
  unborn row hrow := h.unborn row (halike.applicationRows.mem_iff.mpr hrow)
  every := h.every

theorem Serial.tokens_nodup (h : Serial start effects records)
    (htokens : ((applicationRows start).map (·.token)).Nodup) :
    ((applicationRows records).map (·.token)).Nodup := by
  have hperm := h.accounts_perm.map Prod.snd
  rw [accounts, accounts, List.map_map, List.map_map] at hperm
  exact hperm.nodup_iff.mpr htokens

theorem Serial.numbered (h : Serial start effects records) (hsound : Sound start)
    (htokens : ((applicationRows start).map (·.token)).Nodup) : Numbered start effects records := by
  induction h with
  | nil => exact hsound.numbered htokens
  | snoc h hunit hdone halike ih =>
      have htokens' := h.tokens_nodup htokens
      exact (ih.step (h.sound hsound) htokens'
        (hdone.numbers hunit (h.sound hsound) htokens')).alike halike

/-- **The numbers of a serial history continue without a gap**, within every parent. -/
theorem Serial.numbersWithin_eq (h : Serial start effects records) (hsound : Sound start)
    (htokens : ((applicationRows start).map (·.token)).Nodup) (scope : Scope) :
    numbersWithin scope effects =
      numbersAfter (lastNumber start scope) (numbersWithin scope effects).length := by
  obtain ⟨last, count, hnumbers, -⟩ := (h.numbered hsound htokens).every scope
  rw [hnumbers, length_numbersAfter]

end Histories

end ChatService.Database
