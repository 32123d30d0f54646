import PsCore.Ledger

/-!
One refund as a machine of its own: what is known of the refund, of its source and of the
booking, and what an answer of the provider makes of it. Everything else that a settlement
looks at stays as it is meanwhile.
-/

namespace PsCore

open Fallible RowTable

def PaymentRecordStatus.isPending : PaymentRecordStatus → Bool
  | .created | .pending => true
  | .success | .failed | .refunded => false

structure RefundTerms where
  amount : Money
  sourceAmount : Money
  otherRefunds : Money
  otherPending : Nat
  cancelled : Bool
  deriving DecidableEq, Repr

@[ext]
structure RefundState where
  refund : Option PaymentRecordStatus
  source : PaymentRecordStatus
  booking : BookingStatus
  payment : PaymentStatus
  deriving DecidableEq, Repr

namespace RefundTerms

/-- The part of the refund that counts as paid back. -/
def paidBack (terms : RefundTerms) (refund : Option PaymentRecordStatus) : Money :=
  if refund = some .success then terms.amount else 0

def isWhole (terms : RefundTerms) (status : PaymentRecordStatus) : Bool :=
  terms.sourceAmount ≤ terms.otherRefunds + terms.paidBack (some status)

def isAwaited (terms : RefundTerms) (status : PaymentRecordStatus) : Bool :=
  0 < terms.otherPending || status.isPending

def restored (terms : RefundTerms) : BookingStatus :=
  if terms.cancelled then .cancelled else .confirmed

end RefundTerms

namespace RefundState

def settle (terms : RefundTerms) (state : RefundState) (status : PaymentRecordStatus) : RefundState :=
  if terms.isWhole status then
    { refund := some status, source := .refunded, booking := .refunded, payment := .refunded }
  else
    { state with
      refund := some status
      booking :=
        if terms.isAwaited status then .refundPending
        else if state.booking = .refundPending then terms.restored
        else state.booking }

/-- How often a refund becomes a success under a list of answers. -/
def completions : Option PaymentRecordStatus → List PaymentRecordStatus → Nat
  | _, [] => 0
  | previous, status :: rest =>
      (if status = .success ∧ previous ≠ some .success then 1 else 0) + completions (some status) rest

/-- No answer takes a refund back from its success. -/
def InOrder : Option PaymentRecordStatus → List PaymentRecordStatus → Prop
  | _, [] => True
  | previous, status :: rest => (previous = some .success → status = .success) ∧ InOrder (some status) rest

instance InOrder.decidable : ∀ previous answers, Decidable (InOrder previous answers)
  | _, [] => isTrue trivial
  | previous, status :: rest =>
      have := InOrder.decidable (some status) rest
      inferInstanceAs (Decidable ((previous = some .success → status = .success) ∧ InOrder (some status) rest))

end RefundState

/-! The rows that the machine stands for. -/

/-- A refund by its source and by the provider's references. -/
structure RefundTarget where
  sourceId : PaymentId
  bookingId : BookingId
  paymentReference : String
  refundReference : String
  deriving DecidableEq, Repr

namespace RefundTarget

def row (target : RefundTarget) (db : Db) : Option (PaymentId × Payment) :=
  firstRow (·.providerRefundId == some target.refundReference) db.payments.rows

def refundStatus (target : RefundTarget) (db : Db) : Option PaymentRecordStatus :=
  (target.row db).map fun found => found.2.status

def sourceStatus (target : RefundTarget) (db : Db) : Option PaymentRecordStatus :=
  db.payments.rows[target.sourceId]?.map Payment.status

def bookingStatuses (target : RefundTarget) (db : Db) : Option (BookingStatus × PaymentStatus) :=
  db.bookings[target.bookingId]?.map fun booking => (booking.bookingStatus, booking.paymentStatus)

end RefundTarget

def Payment.isPendingRefundOf (sourceId : PaymentId) (payment : Payment) : Bool :=
  payment.isRefundOf sourceId && payment.status.isPending

inductive StoredRefund (target : RefundTarget) (amount : Money) (rows : List Payment) :
    Option PaymentRecordStatus → Prop
  | absent (unknown : ∀ payment ∈ rows, payment.providerRefundId ≠ some target.refundReference) :
      StoredRefund target amount rows none
  | present (refundId : PaymentId) (refund : Payment) (found : rows[refundId]? = some refund)
      (reference : refund.providerRefundId = some target.refundReference)
      (parent : refund.parentPayment = some target.sourceId) (kind : refund.paymentType = .refund)
      (amountOf : refund.amount = amount) : StoredRefund target amount rows (some refund.status)

structure StoredSource (target : RefundTarget) (terms : RefundTerms) (source : Payment) : Prop where
  reference : source.providerPaymentId = some target.paymentReference
  booking : source.booking = target.bookingId
  amount : source.amount = terms.sourceAmount
  parent : source.parentPayment = none
  refund : source.providerRefundId = none

/-- The rows show the state. -/
structure Shows (target : RefundTarget) (terms : RefundTerms) (db : Db) (state : RefundState) : Prop where
  source : ∃ source, db.payments.rows[target.sourceId]? = some source ∧ StoredSource target terms source ∧
    source.status = state.source
  booking : ∃ booking, db.bookings[target.bookingId]? = some booking ∧ booking.bookingStatus = state.booking ∧
    booking.paymentStatus = state.payment ∧ booking.cancelledAt.isSome = terms.cancelled
  refund : StoredRefund target terms.amount db.payments.rows state.refund
  successful : successfulRefunds db.payments.rows target.sourceId =
    terms.otherRefunds + terms.paidBack state.refund
  pending : countWhere (Payment.isPendingRefundOf target.sourceId) db.payments.rows =
    terms.otherPending + if state.refund.any PaymentRecordStatus.isPending then 1 else 0

structure RefundOf (db : Db) (target : RefundTarget) (amount : Money) (source : Payment) (booking : Booking) : Prop where
  found : db.payments.rows[target.sourceId]? = some source
  reference : source.providerPaymentId = some target.paymentReference
  bookingId : source.booking = target.bookingId
  foundBooking : db.bookings[target.bookingId]? = some booking
  owned : ∀ refundId refund, target.row db = some (refundId, refund) →
    refund.parentPayment = some target.sourceId ∧ refund.amount = amount

def refundTerms (db : Db) (target : RefundTarget) (amount : Money) (source : Payment) (booking : Booking) :
    RefundTerms where
  amount := amount
  sourceAmount := source.amount
  otherRefunds := successfulRefunds db.payments.rows target.sourceId -
    if target.refundStatus db = some .success then amount else 0
  otherPending := countWhere (Payment.isPendingRefundOf target.sourceId) db.payments.rows -
    if (target.refundStatus db).any PaymentRecordStatus.isPending then 1 else 0
  cancelled := booking.cancelledAt.isSome

def refundState (db : Db) (target : RefundTarget) (source : Payment) (booking : Booking) : RefundState where
  refund := target.refundStatus db
  source := source.status
  booking := booking.bookingStatus
  payment := booking.paymentStatus

structure RefundFields where
  id : Json
  paymentId : Json
  status : Json
  amount : Money
  currency : Json

def refundFields (payload : Json) : Except ServiceError RefundFields := do
  let entity ← webhookEntity payload "refund"
  let id ← entity.get "id"
  let paymentId ← entity.get "payment_id"
  let status ← entity.get "status"
  let amountValue ← entity.getOr "amount" (.number 0)
  let amount ← amountValue.decimal
  let currency ← entity.get "currency"
  pure { id := id, paymentId := paymentId, status := status, amount := amount, currency := currency }

structure RefundEvent where
  now : Instant
  payload : Json

def RefundEvent.answer (event : RefundEvent) : PaymentRecordStatus :=
  match refundFields event.payload with
  | .ok fields => PsCore.refundStatus fields.status
  | .error _ => .pending

/-- The event is about the refund, for the amount, and gives it the status. -/
structure RefundEvent.Reports (target : RefundTarget) (amount : Money) (event : RefundEvent)
    (status : PaymentRecordStatus) : Prop where
  read : ∃ fields, refundFields event.payload = .ok fields ∧ fields.id.str = target.refundReference ∧
    fields.paymentId.str = target.paymentReference ∧ PsCore.refundStatus fields.status = status ∧
    fields.amount = amount ∧ fields.id.truthy = true ∧ fields.paymentId.truthy = true

def deliver (db : Db) (event : RefundEvent) : Db :=
  (commit db (processRefundWebhook event.now event.payload db)).2

def deliverAll (db : Db) (events : List RefundEvent) : Db :=
  events.foldl deliver db

def Db.refundCompletions (db : Db) : Nat :=
  countWhere (fun notification => notification.event == .refundCompleted) db.notifications

end PsCore
