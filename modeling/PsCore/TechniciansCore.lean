import PsCore.BookingsCore

/-! Eligibility of technicians, and their assignment to bookings. -/

namespace PsCore

open Fallible RowTable

def assignableStatuses : List BookingStatus := [.confirmed, .technicianAssigned]

def technicianBusyStatuses : List BookingStatus := [.technicianAssigned, .technicianEnRoute, .inProgress]

def TimeSlot.startAt (slot : TimeSlot) : Instant := combine slot.date slot.startTime

def TimeSlot.endAt (slot : TimeSlot) : Instant := combine slot.date slot.endTime

def Booking.overlaps (slots : List TimeSlot) (technician : UserId) (slot : TimeSlot) (booking : Booking) : Bool :=
  booking.assignedTechnician == some technician && booking.serviceDate == slot.date &&
  technicianBusyStatuses.contains booking.bookingStatus &&
  (slots[booking.timeSlot]?).any fun other => other.startTime < slot.endTime && other.endTime > slot.startTime

def hasOverlappingBooking (db : Db) (technician : TechnicianProfile) (bookingId : BookingId) (slot : TimeSlot) : Bool :=
  (db.bookings.eraseIdx bookingId).any (Booking.overlaps db.slots technician.user slot)

def TechnicianProfile.worksDuring (technician : TechnicianProfile) (slot : TimeSlot) : Bool :=
  let workingHours := technician.workingHours.filter fun hours =>
    hours.dayOfWeek == weekday slot.date && hours.isActive
  workingHours.isEmpty ||
    workingHours.any fun hours => hours.startTime ≤ slot.startTime && slot.endTime ≤ hours.endTime

def TechnicianProfile.onLeaveDuring (technician : TechnicianProfile) (slot : TimeSlot) : Bool :=
  technician.leaves.any fun leave => leave.isActive && leave.startAt < slot.endAt && leave.endAt > slot.startAt

def getTechnicianEligibilityErrors (db : Db) (technician : TechnicianProfile) (bookingId : BookingId)
    (booking : Booking) (slot : TimeSlot) (address : Address) : List String :=
  (if technician.isActive then [] else ["Technician is inactive."]) ++
  (if technician.backgroundVerificationStatus = .verified then [] else ["Technician is not verified."]) ++
  (if technician.isAvailable ∧ technician.availabilityStatus = .available then []
    else ["Technician is not available."]) ++
  (if technician.supportedServices = [] ∨ booking.service ∈ technician.supportedServices then []
    else ["Technician does not support this service."]) ++
  (if technician.serviceAreas = [] ∨ slot.serviceArea ∈ technician.serviceAreas then []
    else ["Technician does not cover this service area."]) ++
  (if address.postalCode ≠ "" ∧ technician.pincode ≠ "" ∧ technician.pincode ≠ address.postalCode then
    ["Technician pincode does not match the service address."] else []) ++
  (if technician.worksDuring slot then [] else ["Technician is not working during this slot."]) ++
  (if technician.onLeaveDuring slot then ["Technician is on leave during this slot."] else []) ++
  (if hasOverlappingBooking db technician bookingId slot then
    ["Technician already has an overlapping booking."] else [])

def activeAssignment (assignments : AssignmentTable) (bookingId : BookingId) :
    Option (AssignmentId × TechnicianAssignment) :=
  bestRow (fun assignment => assignment.booking == bookingId && assignment.unassignedAt.isNone)
    TechnicianAssignment.assignedAt assignments.rows

def storeAssignment (assignments : AssignmentTable) (assignmentId : AssignmentId)
    (assignment : TechnicianAssignment) : Except ServiceError AssignmentTable :=
  orRaise (assignments.replace? assignmentId assignment) (.integrity "TechnicianAssignment")

def insertAssignment (assignments : AssignmentTable) (assignment : TechnicianAssignment) :
    Except ServiceError (AssignmentId × AssignmentTable) := do
  require (assignment.reason.length ≤ 160)
    (.fieldValidation [("reason", "Ensure this value has at most 160 characters.")])
  let next ← orRaise (assignments.insert? assignment) (.fieldValidation [("__all__",
    "Constraint “unique_active_assignment_per_booking” is violated.")])
  pure (assignments.rows.length, next)

/-- The assignment rows that `assign_technician` leaves: a re-assignment to the same
technician keeps its row, another technician ends the previous one. -/
def reassign (now : Instant) (assignments : AssignmentTable) (bookingId : BookingId) (technician : TechnicianId)
    (assignedBy : Option UserId) (notes reason : String) : Except ServiceError (AssignmentId × AssignmentTable) :=
  let fresh (previous : Option TechnicianId) : TechnicianAssignment := {
    booking := bookingId
    technician := technician
    previousTechnician := previous
    assignedBy := assignedBy
    assignedAt := now
    unassignedAt := none
    reason := reason
    notes := notes
  }
  match activeAssignment assignments bookingId with
  | none => insertAssignment assignments (fresh none)
  | some (previousId, previous) =>
      if previous.technician = technician then
        if notes ≠ "" ∧ previous.notes ≠ notes then do
          let kept ← storeAssignment assignments previousId { previous with notes := notes }
          pure (previousId, kept)
        else .ok (previousId, assignments)
      else do
        let ended ← storeAssignment assignments previousId { previous with unassignedAt := some now }
        insertAssignment ended (fresh (some previous.technician))

def assignTechnician (now : Instant) (bookingId : BookingId) (technicianId : TechnicianId)
    (assignedBy : Option UserId) (notes reason : String) (db : Db) : Except ServiceError (AssignmentId × Db) := do
  let booking ← lockBooking db bookingId
  require (assignableStatuses.contains booking.bookingStatus = true) (.validation "Booking is not assignable.")
  let technician ← orRaise db.directory.technicians[technicianId]? (.validation "Technician was not found.")
  let slot ← orRaise db.slots[booking.timeSlot]? (.doesNotExist "TimeSlot")
  let address ← orRaise db.directory.addresses[booking.address]? (.doesNotExist "Address")
  let errors := getTechnicianEligibilityErrors db technician bookingId booking slot address
  require (errors = []) (.fieldValidation (errors.map fun error => ("technician_id", error)))
  let (assignmentId, assignments) ← reassign now db.assignments bookingId technicianId assignedBy notes reason
  let assigned := { booking with assignedTechnician := some technician.user }
  let next := transitionBooking { db with assignments := assignments } bookingId assigned .technicianAssigned
    assignedBy (orText notes (orText reason "Technician assigned."))
  pure (assignmentId, next.emit .technicianAssigned booking.customer bookingId (.technician technicianId))

def BookingStatus.withoutTechnician : BookingStatus → BookingStatus
  | .technicianAssigned => .confirmed
  | status => status

def removeTechnicianAssignment (now : Instant) (bookingId : BookingId) (changedBy : Option UserId)
    (notes : String) (db : Db) : Except ServiceError (Unit × Db) := do
  let booking ← lockBooking db bookingId
  let (assignmentId, assignment) ← orRaise (activeAssignment db.assignments bookingId)
    (.validation "Booking does not have an active technician assignment.")
  let assignments ← storeAssignment db.assignments assignmentId { assignment with
    unassignedAt := some now
    notes := joinParts "\n" [assignment.notes, notes] }
  let removed := { booking with assignedTechnician := none }
  pure ((), transitionBooking { db with assignments := assignments } bookingId removed
    booking.bookingStatus.withoutTechnician changedBy (orText notes "Technician assignment removed."))

end PsCore
