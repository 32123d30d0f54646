import PsCore.Jobs
import PsCore.SystemCore

/-!
One step of the machine by the kind of its operation: whoever only loads rows writes nothing, leads
and slots are written by operations of their own, and an operation on a job rewrites one booking.
-/

namespace PsCore

open Fallible

def Op.onlyLoads : Op → Bool
  | .loadLead .. | .loadBooking .. | .loadSlot .. | .validateSlotEdit .. => true
  | _ => false

def Op.writesLeads : Op → Bool
  | .recordLeadContact .. | .upsertLead .. | .addLead .. | .editLead .. => true
  | _ => false

def Op.writesSlots : Op → Bool
  | .ensureDailySlots .. | .createSlot .. | .saveSlot .. => true
  | _ => false

def Op.rewritesJob : Op → Bool
  | .rescheduleBooking .. | .cancelBooking .. | .startBooking .. | .markTechnicianEnRoute .. | .completeBooking ..
  | .closeBooking .. | .assignTechnician .. | .removeTechnicianAssignment .. => true
  | _ => false

def Op.movesStaff : Op → Bool
  | .assignTechnician .. => true
  | .removeTechnicianAssignment .. => true
  | _ => false

/-- The operation was refused, or has rewritten one booking; only the two that move staff write assignments. -/
def RewritesJob (op : Op) (db next : Db) : Prop :=
  next = db ∨ ∃ assignments bookingId before after, (op.movesStaff = false → assignments = db.assignments) ∧
    JobWritten db next assignments bookingId before after

section

variable {state : System} {op : Op}

theorem step_onlyLoads (settings : Settings) (state : System) (loads : op.onlyLoads = true) : (System.step settings state op).db = state.db := by
  cases op with
  | loadLead leadId =>
      simp only [System.step]
      split <;> rfl
  | loadBooking bookingId =>
      simp only [System.step]
      split <;> rfl
  | loadSlot slotId =>
      simp only [System.step]
      split <;> rfl
  | validateSlotEdit position edit =>
      simp only [System.step]
      split
      · rfl
      · split <;> rfl
  | _ => cases loads

theorem write_becomes {α Column : Type} {program : Except ServiceError α} {store : α → Db} (column : α → Column)
    (put : Column → Db) {old : Column} (same : put old = state.db) (stores : ∀ result, store result = put (column result)) :
    ∃ written, (state.write program store).db = put written := by
  cases program with
  | error error => exact ⟨old, same.symm⟩
  | ok result => exact ⟨column result, stores result⟩

theorem step_writesLeads (settings : Settings) (state : System) (writes : op.writesLeads = true) :
    ∃ leads, (System.step settings state op).db = { state.db with leads := leads } := by
  have becomes : ∀ {α : Type} {program : Except ServiceError α} (leadsOf : α → List Lead),
      ∃ leads, (state.write program fun result => { state.db with leads := leadsOf result }).db =
        { state.db with leads := leads } :=
    fun leadsOf => write_becomes leadsOf (fun leads => { state.db with leads := leads }) rfl fun _ => rfl
  cases op with
  | recordLeadContact now lead note => exact becomes id
  | upsertLead now event => exact becomes Prod.snd
  | addLead lead => exact becomes Prod.snd
  | editLead leadId lead => exact becomes id
  | _ => cases writes

theorem step_writesSlots (settings : Settings) (state : System) (writes : op.writesSlots = true) :
    ∃ slots, (System.step settings state op).db = { state.db with slots := slots } := by
  have becomes : ∀ {α : Type} {program : Except ServiceError α} (slotsOf : α → List TimeSlot),
      ∃ slots, (state.write program fun result => { state.db with slots := slotsOf result }).db =
        { state.db with slots := slots } :=
    fun slotsOf => write_becomes slotsOf (fun slots => { state.db with slots := slots }) rfl fun _ => rfl
  cases op with
  | ensureDailySlots now area date => exact becomes id
  | createSlot fields => exact becomes Prod.snd
  | saveSlot position =>
      simp only [System.step]
      split
      · exact ⟨state.db.slots, rfl⟩
      · exact becomes _
  | _ => cases writes

theorem commit_rewritesJob {α : Type} {db : Db} {transaction : Except ServiceError (α × Db)}
    (written : ∀ result next, transaction = .ok (result, next) → RewritesJob op db next) :
    RewritesJob op db (commit db transaction).2 := by
  cases transaction with
  | error error => exact .inl rfl
  | ok committed => exact written committed.1 committed.2 rfl

theorem step_rewritesJob (settings : Settings) (state : System) (rewrites : op.rewritesJob = true) :
    RewritesJob op state.db (System.step settings state op).db := by
  cases op with
  | rescheduleBooking now bookingId slotId changedBy notes =>
      refine commit_rewritesJob fun _ next accepted => ?_
      obtain ⟨_, _, _, _, _, _, written⟩ := rescheduleBooking_job accepted
      exact .inr ⟨_, _, _, _, fun _ => rfl, written⟩
  | cancelBooking now bookingId changedBy notes actor =>
      refine commit_rewritesJob fun _ next accepted => ?_
      obtain ⟨_, _, _, written⟩ := cancelBooking_job accepted
      exact .inr ⟨_, _, _, _, fun _ => rfl, written⟩
  | startBooking bookingId changedBy notes =>
      refine commit_rewritesJob fun _ next accepted => ?_
      obtain ⟨_, _, _, written⟩ := startBooking_job accepted
      exact .inr ⟨_, _, _, _, fun _ => rfl, written⟩
  | markTechnicianEnRoute bookingId changedBy notes =>
      refine commit_rewritesJob fun _ next accepted => ?_
      obtain ⟨_, _, written⟩ := markTechnicianEnRoute_job accepted
      exact .inr ⟨_, _, _, _, fun _ => rfl, written⟩
  | completeBooking now bookingId changedBy notes =>
      refine commit_rewritesJob fun _ next accepted => ?_
      obtain ⟨_, _, _, _, written⟩ := completeBooking_job accepted
      exact .inr ⟨_, _, _, _, fun _ => rfl, written⟩
  | closeBooking bookingId changedBy notes =>
      refine commit_rewritesJob fun _ next accepted => ?_
      obtain ⟨_, _, written⟩ := closeBooking_job accepted
      exact .inr ⟨_, _, _, _, fun _ => rfl, written⟩
  | assignTechnician now bookingId technicianId assignedBy notes reason =>
      refine commit_rewritesJob fun _ next accepted => ?_
      obtain ⟨_, _, _, _, _, _, _, _, _, _, written⟩ := assignTechnician_job accepted
      exact .inr ⟨_, _, _, _, fun still => (by cases still), written⟩
  | removeTechnicianAssignment now bookingId changedBy notes =>
      refine commit_rewritesJob fun _ next accepted => ?_
      obtain ⟨_, _, _, _, _, _, written⟩ := removeTechnicianAssignment_job accepted
      exact .inr ⟨_, _, _, _, fun still => (by cases still), written⟩
  | _ => cases rewrites

end

end PsCore
