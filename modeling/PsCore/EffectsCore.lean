import PsCore.SystemCore
import Mathlib.Logic.Relation

/-!
What an operation is about to write, read off the rows before its step. Seven kinds of
effect rewrite the status, the money or the slot of something that may have changed since it
was last looked at; every other change is routine.
-/

namespace PsCore

open Fallible

inductive Effect
  | confirmation (now : Instant) (changedBy : Option UserId) (locked : LockedPayment) (payments : PaymentTable)
  | failure (locked : LockedPayment) (payments : PaymentTable)
  | refund (settlement : RefundSettlement)
  | workOrder (bookingId : BookingId) (row : Booking)
  | manualPayment (amount : Money) (entry : ManualPaymentEntry)
  | balance (bookingId : BookingId) (booking : Booking) (amount : Money) (payments : PaymentTable)
  | slotSave (slotId : SlotId) (slot : TimeSlot)

def PaymentChange.effect (now : Instant) (changedBy : Option UserId) : PaymentChange → Option Effect
  | .unchanged _ => none
  | .confirm locked payments => some (.confirmation now changedBy locked payments)
  | .fail locked payments => some (.failure locked payments)

def succeeded {α : Type} : Except ServiceError α → Option α
  | .ok result => some result
  | .error _ => none

def verificationEffect (settings : Settings) (now : Instant) (orderId paymentId signature : String)
    (user : Option UserId) (db : Db) : Option Effect :=
  (succeeded (verificationChange settings now orderId paymentId signature user db)).bind
    (PaymentChange.effect now user)

def webhookEffect (settings : Settings) (now : Instant) (eventName : String) (payload : Json) (db : Db) :
    Option Effect :=
  if eventName = "payment.captured" then
    (succeeded (capturedPayment payload db)).bind fun captured =>
      verificationEffect settings now captured.1 captured.2
        (makePaymentSignature settings captured.1 captured.2) none db
  else if eventName = "payment.failed" then
    (succeeded (failedPaymentChange payload db)).bind (PaymentChange.effect now none)
  else if eventName ∈ ["refund.created", "refund.processed", "refund.failed"] then
    (succeeded (deliveredRefund now payload db)).map fun delivered => .refund delivered.2
  else none

def requestedRefund (now : Instant) (sourceId : PaymentId) (amount : Money) (key : String)
    (providerRefund : Except ServiceError ProviderRefund) (db : Db) : Option RefundSettlement :=
  match createRefundPlan sourceId amount key db, providerRefund with
  | .ok (.request source booking _), .ok answer =>
      succeeded (insertRefund sourceId source booking
        (newRefund now sourceId source amount source.currency key answer.id (refundStatus answer.status)) db)
  | _, _ => none

def workOrderEffect (now : Instant) (loaded : LoadedLead) (object : LoadedBooking) (notes : String) (db : Db) :
    Option Effect :=
  if loaded.lead.isConverted then none
  else
    match db.bookings[object.bookingId]?, saveConvertedLead now loaded object notes db.leads with
    | some row, .ok _ => some (.workOrder object.bookingId row)
    | _, _ => none

def Op.effect (settings : Settings) (state : System) : Op → Option Effect
  | .verifyRazorpayPayment now orderId paymentId signature user =>
      verificationEffect settings now orderId paymentId signature user state.db
  | .dispatchWebhook now eventName payload => webhookEffect settings now eventName payload state.db
  | .createRefund now sourceId amount key providerRefund =>
      (requestedRefund now sourceId amount key providerRefund state.db).map .refund
  | .reconcileRefund now refundId providerStatus =>
      (succeeded (reconciledRefund now refundId providerStatus state.db)).map fun reconciled =>
        .refund reconciled.2
  | .convertLeadToWorkOrder now lead _ (some booking) notes =>
      match state.loadedLeads[lead]?, state.loadedBookings[booking]? with
      | some loaded, some object => workOrderEffect now loaded object notes state.db
      | _, _ => none
  | .recordManualLeadPayment now lead amount method reference note =>
      match state.loadedLeads[lead]? with
      | some loaded =>
          (succeeded (manualPaymentEntry now loaded amount method reference note state.db)).map (.manualPayment amount)
      | none => none
  | .recordBalanceCollection now bookingId amount _ _ _ =>
      (succeeded (balanceEntry now bookingId amount state.db)).map fun entry =>
        .balance bookingId entry.1 amount entry.2
  | .saveSlot position =>
      match state.validatedSlots[position]? with
      | some (slotId, fields) =>
          (succeeded (savedSlot state.db.slots slotId fields)).map (.slotSave slotId)
      | none => none
  | _ => none

def Op.meets (settings : Settings) (condition : Db → Effect → Bool) (state : System) (op : Op) : Prop :=
  (op.effect settings state).all (condition state.db) = true

instance (settings : Settings) (condition : Db → Effect → Bool) (state : System) (op : Op) :
    Decidable (Op.meets settings condition state op) :=
  inferInstanceAs (Decidable (_ = true))

/-! What the routine changes do to a booking. -/

structure FreshBooking (booking : Booking) : Prop where
  bookingStatus : booking.bookingStatus = .pendingPayment
  paymentStatus : booking.paymentStatus = .unpaid
  advancePaid : booking.advancePaid = 0
  balanceCollected : booking.balanceCollected = 0
  balanceDue : booking.balanceDue = booking.totalAmount
  assignedTechnician : booking.assignedTechnician = none
  confirmedAt : booking.confirmedAt = none
  completedAt : booking.completedAt = none
  cancelledAt : booking.cancelledAt = none

inductive Transition : Booking → Booking → Prop
  | start {booking : Booking} (from_ : startableStatuses.contains booking.bookingStatus = true) :
      Transition booking { booking with bookingStatus := .inProgress }
  | enRoute {booking : Booking} (from_ : booking.bookingStatus = .technicianAssigned) :
      Transition booking { booking with bookingStatus := .technicianEnRoute }
  | complete {booking : Booking} (now : Instant)
      (from_ : completableStatuses.contains booking.bookingStatus = true) :
      Transition booking { booking with bookingStatus := .completed, completedAt := some now }
  | close {booking : Booking} (from_ : closableStatuses.contains booking.bookingStatus = true) :
      Transition booking { booking with bookingStatus := .closed }
  | cancel {booking : Booking} (now : Instant) (actor : CancellationActor)
      (from_ : (cancellableStatuses actor).contains booking.bookingStatus = true) :
      Transition booking { booking with bookingStatus := .cancelled, cancelledAt := some now }
  | assign {booking : Booking} (technician : UserId)
      (from_ : assignableStatuses.contains booking.bookingStatus = true) :
      Transition booking { booking with
        bookingStatus := .technicianAssigned
        assignedTechnician := some technician }
  | unassign {booking : Booking} :
      Transition booking { booking with
        bookingStatus := booking.bookingStatus.withoutTechnician
        assignedTechnician := none }

/-- The changes that need no condition. -/
inductive Routine (db next : Db) : Prop
  | auxiliary (bookings : next.bookings = db.bookings) (payments : next.payments = db.payments)
      (slots : next.slots = db.slots)
  | slotAdded (slot : TimeSlot) (bookings : next.bookings = db.bookings)
      (payments : next.payments = db.payments) (slots : next.slots = db.slots ++ [slot])
  | bookingCreated (booking : Booking) (slot : TimeSlot) (fresh : FreshBooking booking)
      (found : db.slots[booking.timeSlot]? = some slot)
      (free : 0 < getAvailableCapacity db.bookings booking.timeSlot slot)
      (bookings : next.bookings = db.bookings ++ [booking]) (payments : next.payments = db.payments)
      (slots : next.slots = db.slots)
  | workOrderCreated (booking : Booking) (slot : TimeSlot) (lead : Lead) (service : ServiceFields)
      (fresh : FreshBooking booking) (found : db.slots[booking.timeSlot]? = some slot)
      (free : 0 < getAvailableCapacity db.bookings booking.timeSlot slot)
      (bookings : next.bookings = db.bookings ++ [(booking.repriced lead service).asWorkOrder])
      (payments : next.payments = db.payments) (slots : next.slots = db.slots)
  | bookingMoved (bookingId : BookingId) (booking : Booking) (slotId : SlotId) (slot : TimeSlot)
      (found : db.bookings[bookingId]? = some booking)
      (from_ : customerReschedulableStatuses.contains booking.bookingStatus = true)
      (foundSlot : db.slots[slotId]? = some slot)
      (free : 0 < getAvailableCapacity db.bookings slotId slot)
      (bookings : next.bookings =
        db.bookings.set bookingId { booking with timeSlot := slotId, serviceDate := slot.date })
      (payments : next.payments = db.payments) (slots : next.slots = db.slots)
  | transition (bookingId : BookingId) (booking changed : Booking)
      (found : db.bookings[bookingId]? = some booking) (transition : Transition booking changed)
      (bookings : next.bookings = db.bookings.set bookingId changed) (payments : next.payments = db.payments)
      (slots : next.slots = db.slots)
  | orderCreated (bookingId : BookingId) (booking : Booking) (orderId key : String)
      (found : db.bookings[bookingId]? = some booking)
      (awaiting : booking.bookingStatus = .pendingPayment ∨ booking.bookingStatus = .paymentFailed)
      (bookings : next.bookings = db.bookings)
      (payments : next.payments.rows = db.payments.rows ++ [newAdvancePayment bookingId booking orderId key])
      (slots : next.slots = db.slots)

/-- The booking that an effect rewrites: its key, and the row before and after. -/
inductive Effect.Rewrites : Effect → BookingId → Booking → Booking → Prop
  | confirmation (now : Instant) (changedBy : Option UserId) (locked : LockedPayment) (payments : PaymentTable) :
      Effect.Rewrites (.confirmation now changedBy locked payments) locked.payment.booking locked.booking
        (locked.booking.confirmedBy now locked.payment.amount)
  | failure (locked : LockedPayment) (payments : PaymentTable) :
      Effect.Rewrites (.failure locked payments) locked.payment.booking locked.booking locked.booking.markedFailed
  | refund (settlement : RefundSettlement) :
      Effect.Rewrites (.refund settlement) settlement.bookingId settlement.booking
        (settlement.booking.afterRefund settlement.payments.rows settlement.sourceId settlement.source)
  | workOrder (bookingId : BookingId) (row : Booking) :
      Effect.Rewrites (.workOrder bookingId row) bookingId row row.asWorkOrder
  | manualPayment (amount : Money) (entry : ManualPaymentEntry) :
      Effect.Rewrites (.manualPayment amount entry) entry.bookingId entry.booking (entry.booking.paidManually amount)
  | balance (bookingId : BookingId) (booking : Booking) (amount : Money) (payments : PaymentTable) :
      Effect.Rewrites (.balance bookingId booking amount payments) bookingId booking (booking.collected amount)

/-- The refund leaves neither a whole nor a pending one, of a booking that was never cancelled. -/
def RefundSettlement.restoresConfirmed (settlement : RefundSettlement) : Bool :=
  successfulRefunds settlement.payments.rows settlement.sourceId < settlement.source.amount &&
  !hasPendingRefund settlement.payments.rows settlement.sourceId &&
  settlement.booking.bookingStatus == .refundPending && settlement.booking.cancelledAt.isNone

/-- The rows that a settled refund leaves: the source is marked once nothing of it is left. -/
def RefundSettlement.settledRows (settlement : RefundSettlement) : List Payment :=
  if settlement.source.amount ≤ successfulRefunds settlement.payments.rows settlement.sourceId then
    settlement.payments.rows.set settlement.sourceId { settlement.source with status := .refunded }
  else settlement.payments.rows

inductive RefundSettlement.Written (settlement : RefundSettlement) (db : Db) : Prop
  | requested (now : Instant) (key refundId : String) (amount : Money) (status : PaymentRecordStatus)
      (paid : settlement.source.providerPaymentId.isSome = true) (positive : 0 < amount)
      (bounded : amount ≤ settlement.source.amount - requestedRefunds db.payments.rows settlement.sourceId)
      (free : ∀ payment ∈ db.payments.rows, payment.isKeyed settlement.source.booking .refund key = false)
      (row : settlement.refund = newRefund now settlement.sourceId settlement.source amount
        settlement.source.currency key refundId status)
      (booking : settlement.bookingId = settlement.source.booking)
      (rows : settlement.payments.rows = db.payments.rows ++ [settlement.refund])
  | delivered (now : Instant) (currency refundId : String) (amount : Money) (status : PaymentRecordStatus)
      (paid : settlement.source.providerPaymentId.isSome = true)
      (free : ∀ payment ∈ db.payments.rows,
        payment.isKeyed settlement.source.booking .refund ("webhook-" ++ refundId) = false)
      (row : settlement.refund = newRefund now settlement.sourceId settlement.source amount currency
        ("webhook-" ++ refundId) refundId status)
      (new : settlement.refundId = db.payments.rows.length)
      (booking : settlement.bookingId = settlement.source.booking)
      (rows : settlement.payments.rows = db.payments.rows ++ [settlement.refund])
  | rewritten (now : Instant) (earlier : Payment) (status : PaymentRecordStatus)
      (found : db.payments.rows[settlement.refundId]? = some earlier)
      (row : settlement.refund = earlier.withRefundStatus now status)
      (owner : (earlier.parentPayment = some settlement.sourceId ∧ earlier.paymentType = .refund ∧
          settlement.bookingId = earlier.booking) ∨
        (earlier.providerRefundId.isSome = true ∧ settlement.source.providerPaymentId.isSome = true ∧
          settlement.bookingId = settlement.source.booking))
      (rows : settlement.payments.rows = db.payments.rows.set settlement.refundId settlement.refund)

/-- What an effect writes, and what the code has checked or looked up for it. -/
inductive Effective : Effect → Db → Db → Prop
  | confirmed {db next : Db} {now : Instant} {changedBy : Option UserId} {locked : LockedPayment}
      {payments : PaymentTable} (orderId paymentId : String)
      (found : db.payments.rows[locked.paymentId]? = some locked.payment)
      (foundBooking : db.bookings[locked.payment.booking]? = some locked.booking)
      (ordered : locked.payment.providerOrderId = some orderId)
      (amount : locked.payment.amount = locked.booking.advanceRequired)
      (open_ : locked.payment.status ≠ .success)
      (rows : payments.rows = db.payments.rows.set locked.paymentId (locked.payment.succeeded now paymentId))
      (written : next = confirmBookingAfterPayment now locked changedBy { db with payments := payments }) :
      Effective (.confirmation now changedBy locked payments) db next
  | failed {db next : Db} {locked : LockedPayment} {payments : PaymentTable} (orderId : String)
      (paymentId : Option String)
      (found : db.payments.rows[locked.paymentId]? = some locked.payment)
      (foundBooking : db.bookings[locked.payment.booking]? = some locked.booking)
      (ordered : locked.payment.providerOrderId = some orderId)
      (open_ : locked.payment.status ≠ .success)
      (rows : payments.rows = db.payments.rows.set locked.paymentId (locked.payment.markedFailed paymentId))
      (written : next = markPaymentFailed locked { db with payments := payments }) :
      Effective (.failure locked payments) db next
  | refundSettled {db next : Db} {settlement : RefundSettlement}
      (found : db.payments.rows[settlement.sourceId]? = some settlement.source)
      (foundBooking : db.bookings[settlement.bookingId]? = some settlement.booking)
      (written : settlement.Written db)
      (bookings : next.bookings = db.bookings.set settlement.bookingId
        (settlement.booking.afterRefund settlement.payments.rows settlement.sourceId settlement.source))
      (rows : next.payments.rows = settlement.settledRows)
      (slots : next.slots = db.slots) :
      Effective (.refund settlement) db next
  | refundLost {db : Db} {settlement : RefundSettlement} : Effective (.refund settlement) db db
  | workOrder {db next : Db} {bookingId : BookingId} {row : Booking}
      (found : db.bookings[bookingId]? = some row)
      (bookings : next.bookings = db.bookings.set bookingId row.asWorkOrder)
      (payments : next.payments = db.payments) (slots : next.slots = db.slots) :
      Effective (.workOrder bookingId row) db next
  | manuallyPaid {db next : Db} {amount : Money} {entry : ManualPaymentEntry} (now : Instant) (leadId : LeadId)
      (reference : String) (positive : 0 < amount)
      (found : db.bookings[entry.bookingId]? = some entry.booking)
      (inserted : entry.payments.rows =
        db.payments.rows ++ [newManualPayment now leadId entry.bookingId amount reference])
      (bookings : next.bookings = db.bookings.set entry.bookingId (entry.booking.paidManually amount))
      (payments : next.payments = entry.payments) (slots : next.slots = db.slots) :
      Effective (.manualPayment amount entry) db next
  | balanceCollected {db next : Db} {bookingId : BookingId} {booking : Booking} {amount : Money}
      {payments : PaymentTable} (now : Instant) (found : db.bookings[bookingId]? = some booking)
      (from_ : booking.bookingStatus = .inProgress ∨ booking.bookingStatus = .technicianAssigned)
      (positive : 0 < amount) (remaining : amount ≤ booking.balanceDue - booking.balanceCollected)
      (inserted : payments.rows = db.payments.rows ++ [newBalancePayment now bookingId amount])
      (bookings : next.bookings = db.bookings.set bookingId (booking.collected amount))
      (paymentsWritten : next.payments = payments) (slots : next.slots = db.slots) :
      Effective (.balance bookingId booking amount payments) db next
  | slotSaved {db next : Db} {slotId : SlotId} {slot : TimeSlot} (bookings : next.bookings = db.bookings)
      (payments : next.payments = db.payments) (slots : next.slots = db.slots.set slotId slot) :
      Effective (.slotSave slotId slot) db next

end PsCore
