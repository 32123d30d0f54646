import PsCore.Assignments

/-!
Jobs without a technician. Assigning checks the status of the booking; taking off does not,
and steps back only from TECHNICIAN_ASSIGNED.
-/

namespace PsCore

open Fallible RowTable Relation TransitionRun

/-- An active job has a technician and an active assignment, so neither its start nor its completion waits for one. -/
structure JobsStaffed (settings : Settings) (db : Db) : Prop where
  technician : ∀ (bookingId : BookingId) (booking : Booking), db.bookings[bookingId]? = some booking →
    booking.isBusy = true → booking.assignedTechnician ≠ none
  assignment : ∀ (bookingId : BookingId) (booking : Booking), db.bookings[bookingId]? = some booking →
    booking.isBusy = true → ∃ assignment ∈ db.assignments.rows, assignment.isActiveOf bookingId = true
  starts : ∀ bookingId changedBy notes, startBooking bookingId changedBy notes db ≠
    .error (.validation "A technician must be assigned before starting the booking.")
  completes : ∀ now bookingId changedBy notes, completeBooking settings now bookingId changedBy notes db ≠
    .error (.validation "A technician must be assigned before completion.")

/-- Nobody is taken off a booking on which he is under way or at work. -/
def Op.keepsStaffed (state : System) : Op → Bool
  | .removeTechnicianAssignment _ bookingId _ _ => (state.db.bookings[bookingId]?).all fun booking =>
      booking.bookingStatus != .technicianEnRoute && booking.bookingStatus != .inProgress
  | _ => true

def StaffedBooking (booking : Booking) : Prop :=
  booking.isBusy = true → booking.assignedTechnician ≠ none

theorem StaffedBooking.idle {booking : Booking} (idle : booking.isBusy = false) : StaffedBooking booking := by
  intro busy
  rw [idle] at busy
  cases busy

theorem staffedBooking_made : RoutinelyMade StaffedBooking where
  fresh := fun booking fresh => .idle (by rw [Booking.isBusy, fresh.bookingStatus]; rfl)
  workOrder := fun _ _ _ _ => .idle rfl

theorem StaffedBooking.kept {before after : Booking} (staffed : StaffedBooking before)
    (technician : after.assignedTechnician = before.assignedTechnician)
    (isBusy : after.isBusy = before.isBusy ∨ after.isBusy = false) : StaffedBooking after := by
  rcases isBusy with same | idle
  · intro busy
    rw [technician]
    exact staffed (same ▸ busy)
  · exact .idle idle

theorem withoutTechnician_idle {status : BookingStatus} (notEnRoute : status ≠ .technicianEnRoute)
    (notInProgress : status ≠ .inProgress) : technicianBusyStatuses.contains status.withoutTechnician = false := by
  cases status with
  | technicianEnRoute => exact (notEnRoute rfl).elim
  | inProgress => exact (notInProgress rfl).elim
  | _ => rfl

/-! Every step with the condition keeps the jobs staffed, and every one without it leaves one unstaffed. -/

structure Staffed (db : Db) : Prop where
  bookings : EveryBooking StaffedBooking db
  agreed : Agreed (fun _ _ => True) db.bookings db.assignments.rows

theorem startBooking_waits {db : Db} {bookingId : BookingId} {changedBy : Option UserId} {notes : String}
    (waits : startBooking bookingId changedBy notes db =
      .error (.validation "A technician must be assigned before starting the booking.")) :
    ∃ booking, db.bookings[bookingId]? = some booking ∧ startableStatuses.contains booking.bookingStatus = true ∧
      booking.assignedTechnician = none := by
  simpa [startBooking, lockBooking, rejected_bind, rejected_pure, rejected_require, rejected_orRaise,
    -bind_pure_comp, -map_pure] using waits

theorem completeBooking_waits {settings : Settings} {now : Instant} {db : Db} {bookingId : BookingId}
    {changedBy : Option UserId} {notes : String}
    (waits : completeBooking settings now bookingId changedBy notes db =
      .error (.validation "A technician must be assigned before completion.")) :
    ∃ booking, db.bookings[bookingId]? = some booking ∧ completableStatuses.contains booking.bookingStatus = true ∧
      booking.assignedTechnician = none := by
  simpa [completeBooking, lockBooking, rejected_bind, rejected_pure, rejected_require, rejected_orRaise,
    -bind_pure_comp, -map_pure] using waits

theorem Staffed.jobsStaffed {db : Db} (staffed : Staffed db) (settings : Settings) : JobsStaffed settings db where
  technician := fun bookingId booking found => staffed.bookings booking (List.mem_of_getElem? found)
  assignment := fun bookingId booking found busy => by
    refine Classical.byContradiction fun noneActive => ?_
    refine staffed.bookings booking (List.mem_of_getElem? found) busy ?_
    refine staffed.agreed.idle bookingId booking found fun assignment member => ?_
    exact Bool.eq_false_iff.mpr fun active => noneActive ⟨assignment, member, active⟩
  starts := fun bookingId changedBy notes waits => by
    obtain ⟨booking, found, startable, unassigned⟩ := startBooking_waits waits
    have busy : booking.isBusy = true := by
      revert startable
      unfold Booking.isBusy
      cases booking.bookingStatus <;> decide
    exact staffed.bookings booking (List.mem_of_getElem? found) busy unassigned
  completes := fun now bookingId changedBy notes waits => by
    obtain ⟨booking, found, completable, unassigned⟩ := completeBooking_waits waits
    have busy : booking.isBusy = true := by
      revert completable
      unfold Booking.isBusy
      cases booking.bookingStatus <;> decide
    exact staffed.bookings booking (List.mem_of_getElem? found) busy unassigned

theorem Staffed.leaves {settings : Settings} {state : System} {op : Op} {next : Db} (staffed : Staffed state.db)
    (keeps : op.keepsStaffed state = true) (leaves : Leaves settings state op next) : Staffed next where
  agreed := staffed.agreed.leaves (fun _ _ _ => trivial) leaves
  bookings := by
    refine leaves.everyBooking staffedBooking_made (fun bookingId before after written found holds => ?_)
      staffed.bookings
    cases written with
    | jobStep step => exact holds.kept step.assignedTechnician step.isBusy_cases
    | moved now slotId changedBy notes slot isOp from_ foundSlot => exact holds
    | assigned technician slot from_ foundSlot free => exact fun _ => Option.some_ne_none _
    | removed now changedBy notes isOp =>
        simp only [isOp, Op.keepsStaffed, found, Option.all_some, Bool.and_eq_true, bne_iff_ne] at keeps
        exact .idle (withoutTechnician_idle keeps.1 keeps.2)
    | effective effect isEffect rewrites => exact holds.kept rewrites.place.2.2 rewrites.isBusy_cases

theorem storeAssignment_ended (assignments : AssignmentTable) (assignmentId : AssignmentId)
    {ended : TechnicianAssignment} {now : Instant} (unassignedAt : ended.unassignedAt = some now) :
    ∃ next, storeAssignment assignments assignmentId ended = .ok next := by
  have fresh : ∀ other ∈ assignments.rows.eraseIdx assignmentId,
      ¬ other.clashes ended = true ∧ ¬ ended.clashes other = true := by
    intro other _
    simp [TechnicianAssignment.clashes, unassignedAt]
  unfold storeAssignment UniqueTable.replace?
  rw [dif_pos fresh]
  exact ⟨_, rfl⟩

theorem removeTechnicianAssignment_succeeds (now : Instant) (changedBy : Option UserId) (notes : String) {db : Db}
    {bookingId : BookingId} {booking : Booking} {current : AssignmentId × TechnicianAssignment}
    (found : db.bookings[bookingId]? = some booking)
    (active : activeAssignment db.assignments bookingId = some current) :
    ∃ next, removeTechnicianAssignment now bookingId changedBy notes db = .ok ((), next) ∧
      next.bookings = db.bookings.set bookingId { booking with
        bookingStatus := booking.bookingStatus.withoutTechnician, assignedTechnician := none } := by
  obtain ⟨assignmentId, assignment⟩ := current
  have ends : ({ assignment with
      unassignedAt := some now
      notes := joinParts "\n" [assignment.notes, notes] } : TechnicianAssignment).unassignedAt = some now := rfl
  obtain ⟨assignments, stored⟩ := storeAssignment_ended db.assignments assignmentId ends
  simp only [removeTechnicianAssignment, lockBooking, found, active, orRaise, ok_bind, stored]
  exact ⟨_, rfl, rfl⟩

theorem Staffed.broken {settings : Settings} {state : System} {op : Op} (staffed : Staffed state.db)
    (strips : ¬ op.keepsStaffed state = true) : ¬ JobsStaffed settings (System.step settings state op).db := by
  intro jobs
  cases op with
  | removeTechnicianAssignment now bookingId changedBy notes =>
      cases found : state.db.bookings[bookingId]? with
      | none => simp [Op.keepsStaffed, found] at strips
      | some booking =>
          have stays : booking.isBusy = true ∧ booking.bookingStatus.withoutTechnician = booking.bookingStatus := by
            simp only [Op.keepsStaffed, found, Option.all_some] at strips
            revert strips
            unfold Booking.isBusy
            cases booking.bookingStatus <;> decide
          cases active : activeAssignment state.db.assignments bookingId with
          | none =>
              have unassigned := staffed.agreed.idle bookingId booking found (activeAssignment_none active)
              exact staffed.bookings booking (List.mem_of_getElem? found) stays.1 unassigned
          | some current =>
              obtain ⟨next, accepted, bookings⟩ :=
                removeTechnicianAssignment_succeeds now changedBy notes found active
              have written : (System.step settings state (.removeTechnicianAssignment now bookingId changedBy notes)).db =
                  next := by
                simp only [System.step, System.commit, accepted, commit]
              rw [written] at jobs
              have stripped : next.bookings[bookingId]? = some { booking with
                  bookingStatus := booking.bookingStatus.withoutTechnician, assignedTechnician := none } := by
                rw [bookings, List.getElem?_set_self (List.getElem?_eq_some_iff.mp found).1]
              refine jobs.technician bookingId _ stripped ?_ rfl
              simp only [Booking.isBusy, stays.2]
              exact stays.1
  | _ => exact strips rfl

/-- All along a run every active job has its technician, exactly when nobody is taken off a job that he is under
way to or at work on. -/
theorem jobsStaffed_run (settings : Settings) (start : System) (initial : start.Initial) (ops : List Op) :
    Guarded (System.step settings) (fun state op => op.keepsStaffed state = true) start ops ↔
      ∀ before after, ops = before ++ after →
        JobsStaffed settings (runAll (System.step settings) start before).db := by
  have initially : Staffed start.db := by
    refine ⟨fun booking member => ?_, ?_⟩
    · rw [initial.bookings] at member
      cases member
    · rw [initial.bookings, initial.assignments]
      exact .empty
  have holds : ∀ state : System, Staffed state.db → JobsStaffed settings state.db :=
    fun state staffed => staffed.jobsStaffed settings
  have preserved : ∀ (state : System) (op : Op), Staffed state.db → op.keepsStaffed state = true →
      Staffed (System.step settings state op).db :=
    fun state op staffed keeps => staffed.leaves keeps (step_leaves settings state op)
  have broken : ∀ (state : System) (op : Op), Staffed state.db → ¬ op.keepsStaffed state = true →
      ¬ JobsStaffed settings (System.step settings state op).db :=
    fun state op staffed strips => staffed.broken strips
  exact Guarded.iff_throughout holds preserved broken initially

def replacedInTime : List Op := paidHistory ++ [
  .assignTechnician sampleNow 0 0 none "" "",
  .removeTechnicianAssignment sampleNow 0 none "Technician called in sick.",
  .assignTechnician sampleNow 0 0 none "" "",
  .markTechnicianEnRoute 0 none "",
  .startBooking 0 none ""]

theorem jobsStaffed_run_replacedInTime :
    JobsStaffed sampleSettings (runAll (System.step sampleSettings) sampleSystem replacedInTime).db :=
  (jobsStaffed_run sampleSettings sampleSystem sampleSystem_initial replacedInTime).mp (by decide) _ []
    (List.append_nil _).symm

def removedEnRoute : List Op := paidHistory ++ [
  .assignTechnician sampleNow 0 0 none "" "",
  .markTechnicianEnRoute 0 none "",
  .removeTechnicianAssignment sampleNow 0 none "Technician called in sick."]

theorem job_en_route_without_technician :
    ¬ ∀ (settings : Settings) (start : System) (ops : List Op), start.Initial →
      JobsStaffed settings (runAll (System.step settings) start ops).db := by
  intro always
  have jobs := always sampleSettings sampleSystem removedEnRoute sampleSystem_initial
  have stripped : ((runAll (System.step sampleSettings) sampleSystem removedEnRoute).db.bookings[0]?).map
      (fun booking => (booking.isBusy, booking.assignedTechnician)) = some (true, none) := by decide
  obtain ⟨booking, found, isStripped⟩ := Option.map_eq_some_iff.mp stripped
  simp only [Prod.mk.injEq] at isStripped
  exact jobs.technician 0 booking found isStripped.1 isStripped.2

end PsCore
