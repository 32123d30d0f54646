import PsCore.BookingsCore
import PsCore.JsonCore

/-!
Advance payments, refunds and the gateway's webhooks. Each operation first decides, from
the locked rows, what it will write; the gateway's answers are arguments.
-/

namespace PsCore

open Fallible RowTable

/-- `decimal_to_paise`: amounts are paise already. -/
def decimalToPaise (amount : Money) : Int := amount

def storePayment (payments : PaymentTable) (paymentId : PaymentId) (payment : Payment) :
    Except ServiceError PaymentTable :=
  orRaise (payments.replace? paymentId payment) (.integrity "Payment")

structure OrderResponse where
  paymentId : PaymentId
  bookingId : BookingId
  providerOrderId : Option String
  amount : String
  amountPaise : Int
  currency : String
  keyId : String
  deriving DecidableEq, Repr

def orderResponse (settings : Settings) (paymentId : PaymentId) (payment : Payment) : OrderResponse where
  paymentId := paymentId
  bookingId := payment.booking
  providerOrderId := payment.providerOrderId
  amount := formatAmount payment.amount
  amountPaise := decimalToPaise payment.amount
  currency := payment.currency
  keyId := settings.razorpayKeyId

inductive OrderPlan
  | reuse (paymentId : PaymentId) (payment : Payment)
  | request

def Payment.isKeyed (bookingId : BookingId) (paymentType : PaymentType) (key : String) (payment : Payment) : Bool :=
  payment.booking == bookingId && payment.paymentType == paymentType && payment.idempotencyKey == key

def Payment.isActiveAdvanceOf (bookingId : BookingId) (payment : Payment) : Bool :=
  payment.booking == bookingId && payment.isActiveAdvance

def advanceOrderPlan (bookingId : BookingId) (user : UserId) (key : String) (db : Db) :
    Except ServiceError (Booking × OrderPlan) := do
  let booking ← orRaise db.bookings[bookingId]? (.doesNotExist "Booking")
  require (booking.customer = user) (.validation "Booking was not found.")
  require (booking.bookingStatus = .pendingPayment ∨ booking.bookingStatus = .paymentFailed)
    (.validation "Booking is not awaiting payment.")
  match latestRow (Payment.isKeyed bookingId .bookingAdvance key) db.payments.rows with
  | some (paymentId, keyed) => do
      require (keyed.status ≠ .failed) (.fieldValidation [("idempotency_key",
        "The previous payment attempt failed. Start a new attempt with a new Idempotency-Key.")])
      pure (booking, .reuse paymentId keyed)
  | none =>
      match latestRow (Payment.isActiveAdvanceOf bookingId) db.payments.rows with
      | none => pure (booking, .request)
      | some (paymentId, existing) => do
          require (existing.status ≠ .success) (.validation "Payment has already been processed.")
          if existing.providerOrderId.any (· ≠ "") then pure (booking, .reuse paymentId existing)
          else pure (booking, .request)

def newAdvancePayment (bookingId : BookingId) (booking : Booking) (orderId key : String) : Payment where
  booking := bookingId
  provider := .razorpay
  providerOrderId := some orderId
  providerPaymentId := none
  providerRefundId := none
  parentPayment := none
  amount := booking.advanceRequired
  currency := "INR"
  paymentType := .bookingAdvance
  status := .created
  signatureVerified := false
  idempotencyKey := key
  paidAt := none
  refundedAt := none

def createAdvancePaymentOrder (settings : Settings) (bookingId : BookingId) (user : UserId) (key : String)
    (providerOrder : Except ServiceError String) (db : Db) :
    Except ServiceError ((PaymentId × OrderResponse) × Db) := do
  let (booking, plan) ← advanceOrderPlan bookingId user key db
  match plan with
  | .reuse paymentId payment => pure ((paymentId, orderResponse settings paymentId payment), db)
  | .request => do
      let orderId ← providerOrder
      let payment := newAdvancePayment bookingId booking orderId key
      let payments ← orRaise (db.payments.insert? payment) (.integrity "Payment")
      let paymentId := db.payments.rows.length
      pure ((paymentId, orderResponse settings paymentId payment), { db with payments := payments })

def makePaymentSignature (settings : Settings) (orderId paymentId : String) : String :=
  hexdigest (settings.keySecretHmac (orderId ++ "|" ++ paymentId))

/-- `hmac.compare_digest` takes texts of ASCII characters only. -/
def verifyPaymentSignature (settings : Settings) (orderId paymentId signature : String) :
    Except ServiceError Bool :=
  if isAscii signature then .ok (makePaymentSignature settings orderId paymentId == signature)
  else .error .typeError

structure LockedPayment where
  paymentId : PaymentId
  payment : Payment
  booking : Booking
  deriving DecidableEq, Repr

def lockOrderPayment (db : Db) (orderId : String) : Except ServiceError LockedPayment := do
  let (paymentId, payment) ← orRaise (firstRow (·.providerOrderId == some orderId) db.payments.rows)
    (.doesNotExist "Payment")
  let booking ← orRaise db.bookings[payment.booking]? (.doesNotExist "Booking")
  pure { paymentId := paymentId, payment := payment, booking := booking }

def Payment.succeeded (now : Instant) (providerPaymentId : String) (payment : Payment) : Payment :=
  { payment with
    providerPaymentId := some providerPaymentId
    signatureVerified := true
    status := .success
    paidAt := some now }

def Payment.markedFailed (providerPaymentId : Option String) (payment : Payment) : Payment :=
  { payment with
    status := .failed
    providerPaymentId := providerPaymentId <|> payment.providerPaymentId }

inductive PaymentChange
  | unchanged (paymentId : PaymentId)
  | confirm (locked : LockedPayment) (payments : PaymentTable)
  | fail (locked : LockedPayment) (payments : PaymentTable)

def verificationChange (settings : Settings) (now : Instant) (orderId paymentId signature : String)
    (user : Option UserId) (db : Db) : Except ServiceError PaymentChange := do
  let locked ← lockOrderPayment db orderId
  require (user.all (· = locked.booking.customer) = true) (.validation "Payment was not found.")
  require (locked.payment.amount = locked.booking.advanceRequired)
    (.validation "Payment amount does not match booking advance.")
  if locked.payment.status = .success then pure (.unchanged locked.paymentId)
  else do
    let genuine ← verifyPaymentSignature settings orderId paymentId signature
    if genuine then do
      let payments ← storePayment db.payments locked.paymentId (locked.payment.succeeded now paymentId)
      pure (.confirm locked payments)
    else do
      let failed := locked.payment.markedFailed (if paymentId = "" then none else some paymentId)
      let payments ← storePayment db.payments locked.paymentId failed
      pure (.fail locked payments)

def Booking.confirmedBy (now : Instant) (amount : Money) (booking : Booking) : Booking :=
  { booking with
    advancePaid := amount
    balanceDue := booking.totalAmount - amount
    paymentStatus := .partiallyPaid
    bookingStatus := .confirmed
    confirmedAt := some now }

/-- The lead of a paid booking; a failed synchronisation is logged and keeps what it saved. -/
def syncPaidLead (now : Instant) (db : Db) (bookingId : BookingId) (booking : Booking) : List Lead :=
  match db.directory.users[booking.customer]?, db.slots[booking.timeSlot]? with
  | some customer, some slot => (markBookingPaymentPaid now db.leads customer slot bookingId booking).2
  | _, _ => db.leads

def confirmBookingAfterPayment (now : Instant) (locked : LockedPayment) (changedBy : Option UserId)
    (db : Db) : Db :=
  let bookingId := locked.payment.booking
  let confirmed := locked.booking.confirmedBy now locked.payment.amount
  let saved := { db with bookings := db.bookings.set bookingId confirmed }
  let announced :=
    if locked.booking.bookingStatus = .confirmed then saved
    else
      let written : Db := { saved with statusHistory := saved.statusHistory ++ [{
        booking := bookingId
        fromStatus := some locked.booking.bookingStatus
        toStatus := .confirmed
        changedBy := changedBy
        notes := "Advance payment verified."
      }] }
      (written.emit .paymentSuccessful confirmed.customer bookingId
        (.paidAmount locked.paymentId locked.payment.amount)).emit
        .bookingConfirmed confirmed.customer bookingId (.payment locked.paymentId)
  { announced with leads := syncPaidLead now announced bookingId confirmed }

def Booking.markedFailed (booking : Booking) : Booking :=
  if booking.bookingStatus = .pendingPayment ∨ booking.bookingStatus = .paymentFailed then
    { booking with bookingStatus := .paymentFailed, paymentStatus := .failed }
  else booking

def markPaymentFailed (locked : LockedPayment) (db : Db) : Db :=
  let saved := { db with bookings := db.bookings.set locked.payment.booking locked.booking.markedFailed }
  if locked.payment.status = .failed then saved
  else saved.emit .paymentFailed locked.booking.customer locked.payment.booking (.payment locked.paymentId)

def PaymentChange.apply (now : Instant) (changedBy : Option UserId) (db : Db) : PaymentChange → Db
  | .unchanged _ => db
  | .confirm locked payments =>
      confirmBookingAfterPayment now locked changedBy { db with payments := payments }
  | .fail locked payments => markPaymentFailed locked { db with payments := payments }

/-- `verify_razorpay_payment`: a wrong signature is raised after its failure is committed. -/
def verifyRazorpayPayment (settings : Settings) (now : Instant) (orderId paymentId signature : String)
    (user : Option UserId) (db : Db) : Outcome PaymentId :=
  match verificationChange settings now orderId paymentId signature user db with
  | .error error => (.error error, db)
  | .ok change =>
      let answer := match change with
        | .unchanged payment => .ok payment
        | .confirm locked _ => .ok locked.paymentId
        | .fail _ _ => .error (.validation "Payment verification failed.")
      (answer, change.apply now user db)

/-! Refunds. -/

def Payment.isRefundOf (sourceId : PaymentId) (payment : Payment) : Bool :=
  payment.parentPayment == some sourceId

structure ProviderRefund where
  id : String
  status : Json

/-- `_refund_status`; the four names hold ASCII letters only. -/
def refundStatus (value : Json) : PaymentRecordStatus :=
  let name := String.ofList ((if value.truthy then value.str else "").toList.map Char.toLower)
  if name = "processed" then .success
  else if name = "failed" then .failed
  else .pending

def successfulRefunds (payments : List Payment) (sourceId : PaymentId) : Money :=
  sumWhere (fun payment => payment.isRefundOf sourceId && payment.status == .success) Payment.amount payments

def requestedRefunds (payments : List Payment) (sourceId : PaymentId) : Money :=
  sumWhere (fun payment => payment.isRefundOf sourceId && payment.status != .failed) Payment.amount payments

def hasPendingRefund (payments : List Payment) (sourceId : PaymentId) : Bool :=
  payments.any fun payment =>
    payment.isRefundOf sourceId && (payment.status == .created || payment.status == .pending)

def Booking.afterRefund (payments : List Payment) (sourceId : PaymentId) (source : Payment)
    (booking : Booking) : Booking :=
  if source.amount ≤ successfulRefunds payments sourceId then
    { booking with paymentStatus := .refunded, bookingStatus := .refunded }
  else if hasPendingRefund payments sourceId then { booking with bookingStatus := .refundPending }
  else if booking.bookingStatus = .refundPending then
    { booking with bookingStatus := if booking.cancelledAt.isSome then .cancelled else .confirmed }
  else booking

structure RefundSettlement where
  payments : PaymentTable
  refundId : PaymentId
  refund : Payment
  sourceId : PaymentId
  source : Payment
  bookingId : BookingId
  booking : Booking

def applyRefundState (settlement : RefundSettlement) (db : Db) : Except ServiceError Db := do
  let rows := settlement.payments.rows
  let bookings := db.bookings.set settlement.bookingId
    (settlement.booking.afterRefund rows settlement.sourceId settlement.source)
  if settlement.source.amount ≤ successfulRefunds rows settlement.sourceId then do
    let payments ← storePayment settlement.payments settlement.sourceId
      { settlement.source with status := .refunded }
    pure { db with payments := payments, bookings := bookings }
  else pure { db with payments := settlement.payments, bookings := bookings }

def Db.emitRefund (db : Db) (event : NotificationEvent) (settlement : RefundSettlement) : Db :=
  db.emit event settlement.booking.customer settlement.bookingId
    (.refund settlement.refundId settlement.refund.amount)

def settleRefund (settlement : RefundSettlement) (initiated completed : Bool) (db : Db) :
    Except ServiceError Db := do
  let applied ← applyRefundState settlement db
  let announced := if initiated then applied.emitRefund .refundInitiated settlement else applied
  pure (if completed then announced.emitRefund .refundCompleted settlement else announced)

inductive RefundPlan
  | existing (refundId : PaymentId)
  | request (source : Payment) (booking : Booking) (providerPaymentId : String)

def createRefundPlan (sourceId : PaymentId) (amount : Money) (key : String) (db : Db) :
    Except ServiceError RefundPlan := do
  let source ← orRaise db.payments.rows[sourceId]? (.doesNotExist "Payment")
  let booking ← orRaise db.bookings[source.booking]? (.doesNotExist "Booking")
  require (source.paymentType ≠ .refund ∧ (source.status = .success ∨ source.status = .refunded))
    (.validation "Only a successful payment can be refunded.")
  let providerPaymentId ← orRaise (source.providerPaymentId.filter (· ≠ ""))
    (.validation "This payment does not have a Razorpay payment reference.")
  match latestRow (Payment.isKeyed source.booking .refund key) db.payments.rows with
  | some (refundId, _) => pure (.existing refundId)
  | none => do
      let remaining := source.amount - requestedRefunds db.payments.rows sourceId
      require (0 < amount ∧ amount ≤ remaining) (.fieldValidation [("amount",
        "Refund amount must be between 0.01 and " ++ formatAmount remaining ++ ".")])
      pure (.request source booking providerPaymentId)

def newRefund (now : Instant) (sourceId : PaymentId) (source : Payment) (amount : Money) (currency key : String)
    (refundId : String) (status : PaymentRecordStatus) : Payment where
  booking := source.booking
  provider := .razorpay
  providerOrderId := none
  providerPaymentId := none
  providerRefundId := some refundId
  parentPayment := some sourceId
  amount := amount
  currency := currency
  paymentType := .refund
  status := status
  signatureVerified := false
  idempotencyKey := key
  paidAt := none
  refundedAt := if status = .success then some now else none

def insertRefund (sourceId : PaymentId) (source : Payment) (booking : Booking) (refund : Payment) (db : Db) :
    Except ServiceError RefundSettlement := do
  let payments ← orRaise (db.payments.insert? refund) (.integrity "Payment")
  pure {
    payments := payments
    refundId := db.payments.rows.length
    refund := refund
    sourceId := sourceId
    source := source
    bookingId := source.booking
    booking := booking
  }

def Payment.withRefundStatus (now : Instant) (status : PaymentRecordStatus) (refund : Payment) : Payment :=
  { refund with
    status := status
    refundedAt := if status = .success then some now else none }

def updateRefund (now : Instant) (refundId : PaymentId) (refund : Payment) (status : PaymentRecordStatus)
    (sourceId : PaymentId) (source : Payment) (bookingId : BookingId) (booking : Booking) (db : Db) :
    Except ServiceError RefundSettlement := do
  let payments ← storePayment db.payments refundId (refund.withRefundStatus now status)
  pure {
    payments := payments
    refundId := refundId
    refund := refund.withRefundStatus now status
    sourceId := sourceId
    source := source
    bookingId := bookingId
    booking := booking
  }

def createRefund (now : Instant) (sourceId : PaymentId) (amount : Money) (key : String)
    (providerRefund : Except ServiceError ProviderRefund) (db : Db) : Except ServiceError (PaymentId × Db) := do
  let plan ← createRefundPlan sourceId amount key db
  match plan with
  | .existing refundId => pure (refundId, db)
  | .request source booking _ => do
      let answer ← providerRefund
      let status := refundStatus answer.status
      let settlement ← insertRefund sourceId source booking
        (newRefund now sourceId source amount source.currency key answer.id status) db
      let next ← settleRefund settlement true (status = .success) db
      pure (settlement.refundId, next)

def reconciledRefund (now : Instant) (refundId : PaymentId) (providerStatus : Except ServiceError Json)
    (db : Db) : Except ServiceError (Payment × RefundSettlement) := do
  let refund ← orRaise (db.payments.rows[refundId]?.filter (·.paymentType = .refund)) (.doesNotExist "Payment")
  let booking ← orRaise db.bookings[refund.booking]? (.doesNotExist "Booking")
  require (refund.providerRefundId.any (· ≠ "") = true) (.validation "Refund provider references are incomplete.")
  let sourceId ← orRaise refund.parentPayment (.validation "Refund provider references are incomplete.")
  let source ← orRaise db.payments.rows[sourceId]? (.doesNotExist "Payment")
  let answer ← providerStatus
  let settlement ← updateRefund now refundId refund (refundStatus answer) sourceId source
    refund.booking booking db
  pure (refund, settlement)

def reconcileRefund (now : Instant) (refundId : PaymentId) (providerStatus : Except ServiceError Json)
    (db : Db) : Except ServiceError (PaymentId × Db) := do
  let (previous, settlement) ← reconciledRefund now refundId providerStatus db
  let next ← settleRefund settlement false
    (previous.status ≠ .success ∧ settlement.refund.status = .success) db
  pure (refundId, next)

def webhookEntity (payload : Json) (kind : String) : Except ServiceError Json := do
  let body ← payload.getOr "payload" (.object [])
  let part ← body.getOr kind (.object [])
  part.getOr "entity" (.object [])

def capturedPayment (payload : Json) (db : Db) : Except ServiceError (String × String) := do
  let entity ← webhookEntity payload "payment"
  let orderId ← entity.get "order_id"
  let paymentId ← entity.get "id"
  require (orderId.truthy = true ∧ paymentId.truthy = true)
    (.validation "Webhook payment payload is incomplete.")
  let (_, payment) ← orRaise (firstRow (·.providerOrderId == some orderId.str) db.payments.rows)
    (.doesNotExist "Payment")
  let amount ← entity.get "amount"
  require (amount.equalsNumber (decimalToPaise payment.amount) = true)
    (.validation "Webhook payment amount does not match.")
  pure (orderId.str, paymentId.str)

def failedPaymentChange (payload : Json) (db : Db) : Except ServiceError PaymentChange := do
  let entity ← webhookEntity payload "payment"
  let orderId ← entity.get "order_id"
  require (orderId.truthy = true) (.validation "Webhook payment payload is incomplete.")
  let locked ← lockOrderPayment db orderId.str
  if locked.payment.status = .success then pure (.unchanged locked.paymentId)
  else do
    let paymentId ← entity.get "id"
    let failed := locked.payment.markedFailed (if paymentId.truthy then some paymentId.str else none)
    let payments ← storePayment db.payments locked.paymentId failed
    pure (.fail locked payments)

/-- The lookups and the saved refund of `_process_refund_webhook`, with the row's earlier
status where there was one. -/
def deliveredRefund (now : Instant) (payload : Json) (db : Db) :
    Except ServiceError (Option PaymentRecordStatus × RefundSettlement) := do
  let entity ← webhookEntity payload "refund"
  let refundId ← entity.get "id"
  let sourcePaymentId ← entity.get "payment_id"
  require (refundId.truthy = true ∧ sourcePaymentId.truthy = true)
    (.validation "Webhook refund payload is incomplete.")
  let (sourceId, source) ← orRaise
    (firstRow (·.providerPaymentId == some sourcePaymentId.str) db.payments.rows) (.doesNotExist "Payment")
  let booking ← orRaise db.bookings[source.booking]? (.doesNotExist "Booking")
  let statusValue ← entity.get "status"
  let status := refundStatus statusValue
  let amountValue ← entity.getOr "amount" (.number 0)
  let amount ← amountValue.decimal
  let currencyValue ← entity.get "currency"
  let currency := if currencyValue.truthy then currencyValue.str else source.currency
  match firstRow (·.providerRefundId == some refundId.str) db.payments.rows with
  | some (existingId, existing) => do
      let settlement ← updateRefund now existingId existing status sourceId source source.booking booking db
      pure (some existing.status, settlement)
  | none => do
      let settlement ← insertRefund sourceId source booking
        (newRefund now sourceId source amount currency ("webhook-" ++ refundId.str) refundId.str status) db
      pure (none, settlement)

def processRefundWebhook (now : Instant) (payload : Json) (db : Db) : Except ServiceError (Unit × Db) := do
  let (previous, settlement) ← deliveredRefund now payload db
  let next ← settleRefund settlement (previous = none)
    (settlement.refund.status = .success ∧ previous ≠ some .success) db
  pure ((), next)

def dispatchWebhook (settings : Settings) (now : Instant) (eventName : String) (payload : Json) (db : Db) :
    Outcome Bool :=
  if eventName = "payment.captured" then
    match capturedPayment payload db with
    | .error error => (.error error, db)
    | .ok (orderId, paymentId) =>
        let verified := verifyRazorpayPayment settings now orderId paymentId
          (makePaymentSignature settings orderId paymentId) none db
        (verified.1.map fun _ => true, verified.2)
  else if eventName = "payment.failed" then
    match failedPaymentChange payload db with
    | .error error => (.error error, db)
    | .ok change => (.ok true, change.apply now none db)
  else if eventName ∈ ["refund.created", "refund.processed", "refund.failed"] then
    commit db (do
      let processed ← processRefundWebhook now payload db
      pure (true, processed.2))
  else (.ok false, db)

end PsCore
