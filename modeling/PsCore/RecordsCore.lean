import PsCore.EffectsCore

/-!
What an operation leaves beside the money: the status of a booking, the row of the history
that tells of it, its technician and the assignment behind him.
-/

namespace PsCore

open Fallible Relation

def Booking.isBusy (booking : Booking) : Bool :=
  technicianBusyStatuses.contains booking.bookingStatus

/-- Customers join; the services and the technicians are those of the administrators. -/
structure Directory.Extended (earlier later : Directory) : Prop where
  users : earlier.users.length ≤ later.users.length
  services : later.services = earlier.services
  technicians : later.technicians = earlier.technicians

theorem Directory.Extended.refl (directory : Directory) : directory.Extended directory :=
  ⟨Nat.le_refl _, rfl, rfl⟩

structure SameRecords (db next : Db) : Prop where
  bookings : next.bookings = db.bookings
  statusHistory : next.statusHistory = db.statusHistory
  payments : next.payments = db.payments
  assignments : next.assignments = db.assignments
  directory : db.directory.Extended next.directory

structure SameStaff (db next : Db) : Prop where
  assignments : next.assignments = db.assignments
  slots : next.slots = db.slots
  directory : db.directory.Extended next.directory

def Noted (db next : Db) (bookingId : BookingId) (fromStatus : Option BookingStatus) (toStatus : BookingStatus) : Prop :=
  ∃ changedBy notes, next.statusHistory = db.statusHistory ++ [{
    booking := bookingId
    fromStatus := fromStatus
    toStatus := toStatus
    changedBy := changedBy
    notes := notes
  }]

/-- A new work order is noted twice. -/
inductive Quiet (db next : Db) : Prop
  | auxiliary (same : SameRecords db next) (added : List TimeSlot) (slots : next.slots = db.slots ++ added)
  | created (booking : Booking) (slot : TimeSlot) (fresh : FreshBooking booking)
      (foundSlot : db.slots[booking.timeSlot]? = some slot) (dated : booking.serviceDate = slot.date)
      (bookings : next.bookings = db.bookings ++ [booking])
      (noted : Noted db next db.bookings.length none .pendingPayment) (payments : next.payments = db.payments)
      (staff : SameStaff db next)
  | workOrderCreated (middle : Db) (booking : Booking) (slot : TimeSlot) (lead : Lead) (service : ServiceFields)
      (fresh : FreshBooking booking) (foundSlot : db.slots[booking.timeSlot]? = some slot)
      (dated : booking.serviceDate = slot.date)
      (bookings : next.bookings = db.bookings ++ [(booking.repriced lead service).asWorkOrder])
      (created : Noted db middle db.bookings.length none .pendingPayment)
      (noted : Noted middle next db.bookings.length (some .pendingPayment) .confirmed)
      (payments : next.payments = db.payments) (staff : SameStaff db next)

inductive JobStep : Booking → Booking → Prop
  | start {booking : Booking} (from_ : startableStatuses.contains booking.bookingStatus = true)
      (staffed : booking.assignedTechnician ≠ none) :
      JobStep booking { booking with bookingStatus := .inProgress }
  | enRoute {booking : Booking} (from_ : booking.bookingStatus = .technicianAssigned) :
      JobStep booking { booking with bookingStatus := .technicianEnRoute }
  | complete {booking : Booking} (now : Instant)
      (from_ : completableStatuses.contains booking.bookingStatus = true)
      (staffed : booking.assignedTechnician ≠ none) :
      JobStep booking { booking with bookingStatus := .completed, completedAt := some now }
  | close {booking : Booking} (from_ : closableStatuses.contains booking.bookingStatus = true) :
      JobStep booking { booking with bookingStatus := .closed }
  | cancel {booking : Booking} (now : Instant) (actor : CancellationActor)
      (from_ : (cancellableStatuses actor).contains booking.bookingStatus = true) :
      JobStep booking { booking with bookingStatus := .cancelled, cancelledAt := some now }

/-- What an effect writes into the history. A failed payment and a refund write nothing. -/
def Effect.Notes (state : System) (op : Op) (next : Db) : Effect → Prop
  | .confirmation _ _ locked _ =>
      if locked.booking.bookingStatus = .confirmed then next.statusHistory = state.db.statusHistory
      else Noted state.db next locked.payment.booking (some locked.booking.bookingStatus) .confirmed
  | .workOrder bookingId _ => ∃ now lead performedBy position notes object,
      op = .convertLeadToWorkOrder now lead performedBy (some position) notes ∧
      state.loadedBookings[position]? = some object ∧ object.bookingId = bookingId ∧
      next.statusHistory = state.db.statusHistory ++ workOrderHistory performedBy object notes
  | .balance bookingId booking _ _ =>
      Noted state.db next bookingId (some booking.bookingStatus) booking.bookingStatus
  | .failure _ _ | .refund _ | .manualPayment _ _ | .slotSave _ _ => next.statusHistory = state.db.statusHistory

def Effect.slots (slots : List TimeSlot) : Effect → List TimeSlot
  | .slotSave slotId slot => slots.set slotId slot
  | _ => slots

/-- What the operation leaves, with all that it looked at. -/
inductive Leaves (settings : Settings) (state : System) (op : Op) (next : Db) : Prop
  | quiet (chain : ReflTransGen Quiet state.db next)
  | directory (directory : Directory) (isOp : op = .editDirectory directory)
      (written : next = { state.db with directory := directory })
  | ordered (bookingId : BookingId) (booking : Booking) (user : UserId) (key orderId : String)
      (isOp : op = .createAdvancePaymentOrder bookingId user key (.ok orderId))
      (planned : advanceOrderPlan bookingId user key state.db = .ok (booking, .request))
      (bookings : next.bookings = state.db.bookings) (statusHistory : next.statusHistory = state.db.statusHistory)
      (payments : next.payments.rows = state.db.payments.rows ++ [newAdvancePayment bookingId booking orderId key])
      (staff : SameStaff state.db next)
  | jobStep (bookingId : BookingId) (before after : Booking) (jobStep : JobStep before after)
      (found : state.db.bookings[bookingId]? = some before)
      (bookings : next.bookings = state.db.bookings.set bookingId after)
      (noted : Noted state.db next bookingId (some before.bookingStatus) after.bookingStatus)
      (payments : next.payments = state.db.payments) (staff : SameStaff state.db next)
  | moved (now : Instant) (bookingId : BookingId) (slotId : SlotId) (changedBy : UserId) (notes : String)
      (booking : Booking) (slot : TimeSlot)
      (isOp : op = .rescheduleBooking now bookingId slotId changedBy notes)
      (found : state.db.bookings[bookingId]? = some booking)
      (from_ : customerReschedulableStatuses.contains booking.bookingStatus = true)
      (foundSlot : state.db.slots[slotId]? = some slot)
      (bookings : next.bookings =
        state.db.bookings.set bookingId { booking with timeSlot := slotId, serviceDate := slot.date })
      (noted : Noted state.db next bookingId (some booking.bookingStatus) booking.bookingStatus)
      (payments : next.payments = state.db.payments) (staff : SameStaff state.db next)
  | assigned (now : Instant) (bookingId : BookingId) (technicianId : TechnicianId) (assignedBy : Option UserId)
      (notes reason : String) (assignmentId : AssignmentId) (booking : Booking) (technician : TechnicianProfile)
      (slot : TimeSlot) (found : state.db.bookings[bookingId]? = some booking)
      (from_ : assignableStatuses.contains booking.bookingStatus = true)
      (foundTechnician : state.db.directory.technicians[technicianId]? = some technician)
      (foundSlot : state.db.slots[booking.timeSlot]? = some slot)
      (free : hasOverlappingBooking state.db technician bookingId slot = false)
      (reassigned : reassign now state.db.assignments bookingId technicianId assignedBy notes reason =
        .ok (assignmentId, next.assignments))
      (bookings : next.bookings = state.db.bookings.set bookingId { booking with
        bookingStatus := .technicianAssigned, assignedTechnician := some technician.user })
      (noted : Noted state.db next bookingId (some booking.bookingStatus) .technicianAssigned)
      (payments : next.payments = state.db.payments) (slots : next.slots = state.db.slots)
      (directory : state.db.directory.Extended next.directory)
  | removed (now : Instant) (bookingId : BookingId) (changedBy : Option UserId) (notes : String) (booking : Booking)
      (assignmentId : AssignmentId) (assignment : TechnicianAssignment)
      (isOp : op = .removeTechnicianAssignment now bookingId changedBy notes)
      (found : state.db.bookings[bookingId]? = some booking)
      (active : activeAssignment state.db.assignments bookingId = some (assignmentId, assignment))
      (assignments : next.assignments.rows = state.db.assignments.rows.set assignmentId { assignment with
        unassignedAt := some now, notes := joinParts "\n" [assignment.notes, notes] })
      (bookings : next.bookings = state.db.bookings.set bookingId { booking with
        bookingStatus := booking.bookingStatus.withoutTechnician, assignedTechnician := none })
      (noted : Noted state.db next bookingId (some booking.bookingStatus) booking.bookingStatus.withoutTechnician)
      (payments : next.payments = state.db.payments) (slots : next.slots = state.db.slots)
      (directory : state.db.directory.Extended next.directory)
  | effective (effect : Effect) (isEffect : op.effect settings state = some effect)
      (effective : Effective effect state.db next) (notes : effect.Notes state op next)
      (assignments : next.assignments = state.db.assignments) (slots : next.slots = effect.slots state.db.slots)
      (directory : state.db.directory.Extended next.directory)

inductive BookingWritten (settings : Settings) (state : System) (op : Op) : BookingId → Booking → Booking → Prop
  | jobStep {bookingId : BookingId} {before after : Booking} (step : JobStep before after) :
      BookingWritten settings state op bookingId before after
  | moved {bookingId : BookingId} {booking : Booking} (now : Instant) (slotId : SlotId) (changedBy : UserId)
      (notes : String) (slot : TimeSlot) (isOp : op = .rescheduleBooking now bookingId slotId changedBy notes)
      (from_ : customerReschedulableStatuses.contains booking.bookingStatus = true)
      (foundSlot : state.db.slots[slotId]? = some slot) :
      BookingWritten settings state op bookingId booking { booking with timeSlot := slotId, serviceDate := slot.date }
  | assigned {bookingId : BookingId} {booking : Booking} (technician : TechnicianProfile) (slot : TimeSlot)
      (from_ : assignableStatuses.contains booking.bookingStatus = true)
      (foundSlot : state.db.slots[booking.timeSlot]? = some slot)
      (free : hasOverlappingBooking state.db technician bookingId slot = false) :
      BookingWritten settings state op bookingId booking { booking with
        bookingStatus := .technicianAssigned, assignedTechnician := some technician.user }
  | removed {bookingId : BookingId} {booking : Booking} (now : Instant) (changedBy : Option UserId) (notes : String)
      (isOp : op = .removeTechnicianAssignment now bookingId changedBy notes) :
      BookingWritten settings state op bookingId booking { booking with
        bookingStatus := booking.bookingStatus.withoutTechnician, assignedTechnician := none }
  | effective {bookingId : BookingId} {before after : Booking} (effect : Effect)
      (isEffect : op.effect settings state = some effect) (rewrites : effect.Rewrites bookingId before after) :
      BookingWritten settings state op bookingId before after

end PsCore
