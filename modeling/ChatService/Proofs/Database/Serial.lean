import ChatService.Proofs.Database.Documents
import ChatService.Proofs.Database.Ledger
import ChatService.Proofs.Database.Soundness
import ChatService.Proofs.Store.Outcome

/-!
# Units of work one after the other

A serial history: units of work that follow each other, where nothing depends on the order in which
a collection keeps its records.  Along a serial history the counters stay right, and the numbers
that are handed out within a parent continue the number that the parent began with.
-/

namespace ChatService.Database

open Server (Records recordsOf)
open Store (Operation Scope)

/-! ## up to the order of records -/

/-- The same applications, chats and messages, in any order. -/
structure Alike (records records' : Records) : Prop where
  applications : (recordsOf applications records).Perm (recordsOf applications records')
  chats : (recordsOf chats records).Perm (recordsOf chats records')
  messages : (recordsOf messages records).Perm (recordsOf messages records')

theorem Counted.of_perm {parents parents' : List Parent} {children children' : List Child}
    (h : Counted parents children) (hparents : parents.Perm parents')
    (hchildren : children.Perm children') : Counted parents' children' where
  ids := (hparents.map _).nodup_iff.mp h.ids
  counted parent hparent := by
    rw [h.counted parent (hparents.mem_iff.mpr hparent), hchildren.countP_eq]
  last_nonneg parent hparent := h.last_nonneg parent (hparents.mem_iff.mpr hparent)
  numbered parent hparent child hchild :=
    h.numbered parent (hparents.mem_iff.mpr hparent) child (hchildren.mem_iff.mpr hchild)
  distinct := hchildren.nodup_iff.mp h.distinct
  home child hchild := (hparents.map _).mem_iff.mp (h.home child (hchildren.mem_iff.mpr hchild))

namespace Alike

variable {records records' : Records} (h : Alike records records')
include h

theorem applicationRows : (applicationRows records).Perm (applicationRows records') :=
  h.applications.filterMap _

theorem chatRows : (chatRows records).Perm (chatRows records') := h.chats.filterMap _

theorem messageRows : (messageRows records).Perm (messageRows records') := h.messages.filterMap _

theorem sound (hsound : Sound records) : Sound records' where
  applications record hrecord := hsound.applications record (h.applications.mem_iff.mpr hrecord)
  chats record hrecord := hsound.chats record (h.chats.mem_iff.mpr hrecord)
  ids := (h.applications.map _).nodup_iff.mp hsound.ids
  messages record hrecord := hsound.messages record (h.messages.mem_iff.mpr hrecord)
  chatsCounted := hsound.chatsCounted.of_perm (h.applicationRows.map _) (h.chatRows.map _)
  messagesCounted := hsound.messagesCounted.of_perm (h.chatRows.map _) (h.messageRows.map _)

end Alike

/-- The applications that there are, by their ids and tokens. -/
def accounts (records : Records) : List (ObjectId × String) :=
  (applicationRows records).map fun row => (row.id, row.token)

theorem Done.accounts_eq {α : Type} {operation : Operation α} {records records' : Records}
    {value : α} (hdone : Done operation records records' value)
    (hunit : runsUnit operation = true) : accounts records' = accounts records := by
  cases hdone with
  | look hlooks => cases operation <;> contradiction
  | createApplication => contradiction
  | createChat raised hparent hbefore hafter =>
      have hraised := ApplicationRow.holds_withChild hparent raised
      rw [accounts, applicationRows, map_rows_split _ hafter
          (ApplicationRow.ofRecord?_of_holds hraised),
        accounts, applicationRows, map_rows_split _ hbefore
          (ApplicationRow.ofRecord?_of_holds hparent)]
  | createMessage _ _ _ _ _ _ _ _ _ hsame =>
      have happlications : recordsOf applications records' = recordsOf applications records :=
        hsame _ (by simp)
      rw [accounts, applicationRows, happlications, accounts, applicationRows]
  | deleteChat now hparent _ _ hbefore hafter =>
      have hlowered := ApplicationRow.holds_withoutChild hparent now
      rw [accounts, applicationRows, map_rows_split _ hafter
          (ApplicationRow.ofRecord?_of_holds hlowered),
        accounts, applicationRows, map_rows_split _ hbefore
          (ApplicationRow.ofRecord?_of_holds hparent)]

/-! ## serial histories -/

/-- An operation with the value that it answers. -/
structure Effect : Type 1 where
  {α : Type}
  operation : Operation α
  value : α

/-- What units of work lead to, one after the other. -/
inductive Serial (start : Records) : List Effect → Records → Prop where
  | nil : Serial start [] start
  | snoc {α : Type} {operation : Operation α} {effects : List Effect}
      {records records' records'' : Records} {value : α} (h : Serial start effects records)
      (hunit : runsUnit operation = true) (hdone : Done operation records records' value)
      (halike : Alike records' records'') : Serial start (effects ++ [⟨operation, value⟩]) records''

namespace Serial

variable {start records : Records} {effects : List Effect}

theorem sound (h : Serial start effects records) (hstart : Sound start) : Sound records := by
  induction h with
  | nil => exact hstart
  | snoc _ _ hdone halike ih => exact halike.sound (hdone.sound ih)

theorem accounts_perm (h : Serial start effects records) :
    (accounts records).Perm (accounts start) := by
  induction h with
  | nil => exact .refl _
  | snoc _ hunit hdone halike ih =>
      rw [← hdone.accounts_eq hunit] at ih
      exact (halike.applicationRows.map _).symm.trans ih

end Serial

end ChatService.Database
