import PsCore.Library.TransitionRun
import PsCore.SystemCore

/-!
The technicians that are listed for a booking. The list filters the table before it asks for the
errors of eligibility, and an assignment asks for the errors alone.
-/

namespace PsCore

open Fallible TransitionRun

def TechnicianProfile.isOnDuty (technician : TechnicianProfile) : Bool :=
  technician.isActive && technician.isAvailable && technician.backgroundVerificationStatus == .verified &&
  technician.availabilityStatus == .available

def getEligibleTechnicians (db : Db) (bookingId : BookingId) (booking : Booking) :
    Except ServiceError (List TechnicianId) := do
  let slot ← orRaise db.slots[booking.timeSlot]? (.doesNotExist "TimeSlot")
  let address ← orRaise db.directory.addresses[booking.address]? (.doesNotExist "Address")
  pure ((List.range db.directory.technicians.length).filter fun technicianId =>
    db.directory.technicians[technicianId]?.any fun technician => technician.isOnDuty &&
      (getTechnicianEligibilityErrors db technician bookingId booking slot address).isEmpty)

def eligibilityError (errors : List String) : ServiceError :=
  .fieldValidation (errors.map fun error => ("technician_id", error))

def RejectedForEligibility {α : Type} (outcome : Except ServiceError α) : Prop :=
  ∃ errors : List String, errors ≠ [] ∧ outcome = .error (eligibilityError errors)

theorem isOnDuty_of_eligible {db : Db} {technician : TechnicianProfile} {bookingId : BookingId} {booking : Booking}
    {slot : TimeSlot} {address : Address}
    (eligible : getTechnicianEligibilityErrors db technician bookingId booking slot address = []) :
    technician.isOnDuty = true := by
  simp only [getTechnicianEligibilityErrors, List.append_eq_nil_iff, ite_eq_left_iff, List.cons_ne_nil, imp_false,
    Decidable.not_not] at eligible
  obtain ⟨⟨⟨⟨⟨⟨⟨⟨active, verified⟩, available⟩, _⟩, _⟩, _⟩, _⟩, _⟩, _⟩ := eligible
  simp [TechnicianProfile.isOnDuty, active, verified, available]

section

variable {now : Instant} {bookingId : BookingId} {technicianId : TechnicianId} {assignedBy : Option UserId}
  {notes reason : String} {db : Db} {booking : Booking} {technician : TechnicianProfile} {slot : TimeSlot}
  {address : Address}

theorem otherField_ne {field text : String} (other : field ≠ "technician_id") (errors : List String) :
    .fieldValidation [(field, text)] ≠ eligibilityError errors := by
  intro same
  have entries := ServiceError.fieldValidation.inj same
  cases errors with
  | nil => cases entries
  | cons first rest =>
      rw [List.map_cons, List.cons.injEq, Prod.mk.injEq] at entries
      exact other entries.1.1

theorem reassign_neverRaises (errors : List String) :
    NeverRaises (eligibilityError errors)
      (reassign now db.assignments bookingId technicianId assignedBy notes reason) := by
  have stores (assignmentId : AssignmentId) (assignment : TechnicianAssignment) :
      NeverRaises (eligibilityError errors) (storeAssignment db.assignments assignmentId assignment) :=
    .orRaise nofun
  have inserts (assignments : AssignmentTable) (assignment : TechnicianAssignment) :
      NeverRaises (eligibilityError errors) (insertAssignment assignments assignment) :=
    .bind (.require (otherField_ne (by decide) errors)) fun _ =>
      .bind (.orRaise (otherField_ne (by decide) errors)) fun _ => .pure _
  unfold reassign
  dsimp only
  split
  · exact inserts _ _
  · split
    · split
      · exact .bind (stores _ _) fun _ => .pure _
      · exact .ok _
    · exact .bind (stores _ _) fun _ => inserts _ _

theorem assignTechnician_rejected_iff (found : db.bookings[bookingId]? = some booking)
    (assignable : booking.bookingStatus = .confirmed ∨ booking.bookingStatus = .technicianAssigned)
    (foundTechnician : db.directory.technicians[technicianId]? = some technician)
    (foundSlot : db.slots[booking.timeSlot]? = some slot)
    (foundAddress : db.directory.addresses[booking.address]? = some address) :
    RejectedForEligibility (assignTechnician now bookingId technicianId assignedBy notes reason db) ↔
      getTechnicianEligibilityErrors db technician bookingId booking slot address ≠ [] := by
  have isAssignable : assignableStatuses.contains booking.bookingStatus = true := by
    rcases assignable with confirmed | assigned
    · rw [confirmed]
      rfl
    · rw [assigned]
      rfl
  simp only [assignTechnician, lockBooking, found, foundTechnician, foundSlot, foundAddress, orRaise, ok_bind,
    require_of _ isAssignable]
  by_cases eligible : getTechnicianEligibilityErrors db technician bookingId booking slot address = []
  · rw [require_of _ eligible, ok_bind]
    constructor
    · rintro ⟨errors, _, rejected⟩
      exact absurd rejected (NeverRaises.bind (reassign_neverRaises errors) fun _ => .pure _)
    · intro some
      exact (some eligible).elim
  · rw [require_of_not _ eligible]
    exact ⟨fun _ => eligible, fun _ => ⟨_, eligible, rfl⟩⟩

/-- A technician is listed for a booking where no assignment of it to him is rejected for eligibility. -/
theorem mem_getEligibleTechnicians_iff {eligible : List TechnicianId} (found : db.bookings[bookingId]? = some booking)
    (assignable : booking.bookingStatus = .confirmed ∨ booking.bookingStatus = .technicianAssigned)
    (foundTechnician : db.directory.technicians[technicianId]? = some technician)
    (listed : getEligibleTechnicians db bookingId booking = .ok eligible) :
    technicianId ∈ eligible ↔
      ¬ RejectedForEligibility (assignTechnician now bookingId technicianId assignedBy notes reason db) := by
  simp only [getEligibleTechnicians, accepted_bind, accepted_orRaise, accepted_pure] at listed
  obtain ⟨slot, foundSlot, address, foundAddress, rfl⟩ := listed
  rw [assignTechnician_rejected_iff found assignable foundTechnician foundSlot foundAddress, ne_eq, Decidable.not_not,
    List.mem_filter, List.mem_range, foundTechnician, Option.any_some, Bool.and_eq_true, List.isEmpty_iff]
  have inBounds := (List.getElem?_eq_some_iff.mp foundTechnician).1
  constructor
  · rintro ⟨_, _, none⟩
    exact none
  · intro none
    exact ⟨inBounds, isOnDuty_of_eligible none, none⟩

end

def confirmedState : System := runAll (System.step sampleSettings) sampleSystem paidHistory

def confirmedBooking : Booking := confirmedState.db.bookings.get ⟨0, by decide⟩

theorem mem_getEligibleTechnicians_iff_confirmed :
    ¬ RejectedForEligibility (assignTechnician sampleNow 0 0 none "" "" confirmedState.db) := by
  have found : confirmedState.db.bookings[0]? = some confirmedBooking := rfl
  have listed : getEligibleTechnicians confirmedState.db 0 confirmedBooking = .ok [0] := rfl
  exact (mem_getEligibleTechnicians_iff found (.inl (by decide)) rfl listed).mp (by decide)

end PsCore
