import PsCore.RecordsCore
import PsCore.TechniciansCore

/-!
The operations on one booking: what an accepted one has found and checked, and all that it writes.
-/

namespace PsCore

open Fallible

/-- The row of the booking is written and the history grows by a line; the assignments become the given ones. -/
structure JobWritten (db next : Db) (assignments : AssignmentTable) (bookingId : BookingId)
    (before after : Booking) : Prop where
  found : db.bookings[bookingId]? = some before
  bookings : next.bookings = db.bookings.set bookingId after
  noted : Noted db next bookingId (some before.bookingStatus) after.bookingStatus
  assignments : next.assignments = assignments
  payments : next.payments = db.payments
  slots : next.slots = db.slots
  directory : next.directory = db.directory
  leads : next.leads = db.leads

section

variable {settings : Settings} {now : Instant} {bookingId : BookingId} {changedBy : Option UserId} {notes : String}
  {db next : Db}

theorem JobWritten.extended {assignments : AssignmentTable} {before after : Booking}
    (written : JobWritten db next assignments bookingId before after) : db.directory.Extended next.directory := by
  rw [written.directory]
  exact .refl _

theorem JobWritten.staff {before after : Booking} (written : JobWritten db next db.assignments bookingId before after) :
    SameStaff db next :=
  ⟨written.assignments, written.slots, written.extended⟩

theorem JobWritten.length {assignments : AssignmentTable} {before after : Booking}
    (written : JobWritten db next assignments bookingId before after) : next.bookings.length = db.bookings.length := by
  rw [written.bookings, List.length_set]

theorem JobWritten.routine {assignments : AssignmentTable} {before after : Booking}
    (written : JobWritten db next assignments bookingId before after) (transition : Transition before after) :
    Routine db next :=
  .transition bookingId before after written.found transition written.bookings written.payments written.slots

theorem startBooking_job (accepted : startBooking bookingId changedBy notes db = .ok ((), next)) :
    ∃ booking, startableStatuses.contains booking.bookingStatus = true ∧ booking.assignedTechnician ≠ none ∧
      JobWritten db next db.assignments bookingId booking { booking with bookingStatus := .inProgress } := by
  simp only [startBooking, lockBooking, accepted_bind, accepted_pure, accepted_orRaise, accepted_require,
    Prod.mk.injEq] at accepted
  obtain ⟨booking, found, _, from_, _, staffed, _, rfl⟩ := accepted
  exact ⟨booking, from_, staffed, found, rfl, ⟨_, _, rfl⟩, rfl, rfl, rfl, rfl, rfl⟩

theorem markTechnicianEnRoute_job (accepted : markTechnicianEnRoute bookingId changedBy notes db = .ok ((), next)) :
    ∃ booking, booking.bookingStatus = .technicianAssigned ∧
      JobWritten db next db.assignments bookingId booking { booking with bookingStatus := .technicianEnRoute } := by
  simp only [markTechnicianEnRoute, lockBooking, accepted_bind, accepted_pure, accepted_orRaise, accepted_require,
    Prod.mk.injEq] at accepted
  obtain ⟨booking, found, _, from_, _, rfl⟩ := accepted
  exact ⟨booking, from_, found, rfl, ⟨_, _, rfl⟩, rfl, rfl, rfl, rfl, rfl⟩

theorem completeBooking_job (accepted : completeBooking settings now bookingId changedBy notes db = .ok ((), next)) :
    ∃ booking, completableStatuses.contains booking.bookingStatus = true ∧ booking.assignedTechnician ≠ none ∧
      (settings.bookingRequireBalanceBeforeCompletion = true → booking.balanceDue ≤ booking.balanceCollected) ∧
      JobWritten db next db.assignments bookingId booking
        { booking with bookingStatus := .completed, completedAt := some now } := by
  simp only [completeBooking, lockBooking, accepted_bind, accepted_pure, accepted_orRaise, accepted_require,
    Prod.mk.injEq] at accepted
  obtain ⟨booking, found, _, from_, _, staffed, _, collected, _, rfl⟩ := accepted
  refine ⟨booking, from_, staffed, fun required => ?_, found, rfl, ⟨_, _, rfl⟩, rfl, rfl, rfl, rfl, rfl⟩
  exact Int.not_lt.mp fun less => collected ⟨required, less⟩

theorem closeBooking_job (accepted : closeBooking bookingId changedBy notes db = .ok ((), next)) :
    ∃ booking, closableStatuses.contains booking.bookingStatus = true ∧
      JobWritten db next db.assignments bookingId booking { booking with bookingStatus := .closed } := by
  simp only [closeBooking, lockBooking, accepted_bind, accepted_pure, accepted_orRaise, accepted_require,
    Prod.mk.injEq] at accepted
  obtain ⟨booking, found, _, from_, _, rfl⟩ := accepted
  exact ⟨booking, from_, found, rfl, ⟨_, _, rfl⟩, rfl, rfl, rfl, rfl, rfl⟩

theorem cancelBooking_job {actor : CancellationActor}
    (accepted : cancelBooking settings now bookingId changedBy notes actor db = .ok ((), next)) :
    ∃ booking, (cancellableStatuses actor).contains booking.bookingStatus = true ∧
      validateCancellationWindow settings now db booking actor = .ok () ∧
      JobWritten db next db.assignments bookingId booking
        { booking with bookingStatus := .cancelled, cancelledAt := some now } := by
  simp only [cancelBooking, lockBooking, accepted_bind, accepted_pure, accepted_orRaise, accepted_require,
    Prod.mk.injEq] at accepted
  obtain ⟨booking, found, _, from_, _, inTime, _, rfl⟩ := accepted
  exact ⟨booking, from_, inTime, found, rfl, ⟨_, _, rfl⟩, rfl, rfl, rfl, rfl, rfl⟩

theorem rescheduleBooking_job {slotId : SlotId} {customer : UserId}
    (accepted : rescheduleBooking settings now bookingId slotId customer notes db = .ok ((), next)) :
    ∃ booking address slot, booking.customer = customer ∧
      customerReschedulableStatuses.contains booking.bookingStatus = true ∧
      lockAndValidateSlot now db slotId address booking.service = .ok slot ∧
      JobWritten db next db.assignments bookingId booking
        { booking with timeSlot := slotId, serviceDate := slot.date } := by
  simp only [rescheduleBooking, lockBooking, accepted_bind, accepted_pure, accepted_orRaise, accepted_require,
    Prod.mk.injEq] at accepted
  obtain ⟨booking, found, _, own, _, from_, _, _, address, _, slot, locked, _, rfl⟩ := accepted
  exact ⟨booking, address, slot, own, from_, locked, found, rfl, ⟨_, _, rfl⟩, rfl, rfl, rfl, rfl, rfl⟩

theorem assignTechnician_job {technicianId : TechnicianId} {assignedBy : Option UserId} {reason : String}
    {assignmentId : AssignmentId}
    (accepted : assignTechnician now bookingId technicianId assignedBy notes reason db = .ok (assignmentId, next)) :
    ∃ booking technician slot address assignments, assignableStatuses.contains booking.bookingStatus = true ∧
      db.directory.technicians[technicianId]? = some technician ∧ db.slots[booking.timeSlot]? = some slot ∧
      getTechnicianEligibilityErrors db technician bookingId booking slot address = [] ∧
      reassign now db.assignments bookingId technicianId assignedBy notes reason = .ok (assignmentId, assignments) ∧
      JobWritten db next assignments bookingId booking
        { booking with bookingStatus := .technicianAssigned, assignedTechnician := some technician.user } := by
  simp only [assignTechnician, lockBooking, accepted_bind, accepted_pure, accepted_orRaise, accepted_require,
    Prod.mk.injEq] at accepted
  obtain ⟨booking, found, _, from_, technician, foundTechnician, slot, foundSlot, address, _, _, eligible,
    ⟨_, assignments⟩, reassigned, rfl, rfl⟩ := accepted
  exact ⟨booking, technician, slot, address, assignments, from_, foundTechnician, foundSlot, eligible, reassigned,
    found, rfl, ⟨_, _, rfl⟩, rfl, rfl, rfl, rfl, rfl⟩

theorem removeTechnicianAssignment_job
    (accepted : removeTechnicianAssignment now bookingId changedBy notes db = .ok ((), next)) :
    ∃ booking assignmentId assignment assignments,
      activeAssignment db.assignments bookingId = some (assignmentId, assignment) ∧
      storeAssignment db.assignments assignmentId { assignment with
        unassignedAt := some now, notes := joinParts "\n" [assignment.notes, notes] } = .ok assignments ∧
      JobWritten db next assignments bookingId booking { booking with
        bookingStatus := booking.bookingStatus.withoutTechnician, assignedTechnician := none } := by
  simp only [removeTechnicianAssignment, lockBooking, accepted_bind, accepted_pure, accepted_orRaise,
    Prod.mk.injEq] at accepted
  obtain ⟨booking, found, ⟨assignmentId, assignment⟩, active, assignments, stored, _, rfl⟩ := accepted
  exact ⟨booking, assignmentId, assignment, assignments, active, stored, found, rfl, ⟨_, _, rfl⟩, rfl, rfl, rfl, rfl,
    rfl⟩

end

end PsCore
