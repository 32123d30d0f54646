import PsCore.Library.Fallible
import PsCore.Library.RowTable

/-!
The rows of the booking platform. Keys are positions in the tables, money is an
integer number of paise (every amount column has two decimals), and instants are
microseconds of local time in the configured time zone.
-/

namespace PsCore

abbrev UserId := Nat
abbrev ServiceId := Nat
abbrev ServiceAreaId := Nat
abbrev AddressId := Nat
abbrev SlotId := Nat
abbrev BookingId := Nat
abbrev PaymentId := Nat
abbrev TechnicianId := Nat
abbrev AssignmentId := Nat
abbrev LeadId := Nat

abbrev Money := Int
abbrev Date := Nat
abbrev TimeOfDay := Nat
abbrev Instant := Nat

inductive ServiceError
  | validation (message : String)
  | fieldValidation (errors : List (String × String))
  | doesNotExist (model : String)
  | multipleObjects (model : String)
  | integrity (table : String)
  | slotNotAvailable (message : String)
  | attributeError
  | typeError
  | valueError
  | gateway (message : String)
  deriving DecidableEq, Repr

/-! Catalogue, locations, accounts and technicians. -/

inductive AdvancePaymentType
  | fixed
  | percentage
  deriving DecidableEq, Repr

structure ServiceFields where
  basePrice : Money
  sellingPrice : Option Money
  advancePaymentType : AdvancePaymentType
  /-- Rupees or per cent, in hundredths. -/
  advancePaymentValue : Option Int
  advanceAmount : Money
  trainingFee : Money
  trainingFeePerUnit : Bool
  isActive : Bool
  categoryIsActive : Bool
  deriving DecidableEq, Repr

def ServiceFields.effectivePrice (service : ServiceFields) : Money :=
  service.sellingPrice.getD service.basePrice

/-- An entry of a dictionary of errors; the place of a field's first error is kept. -/
def putError (errors : List (String × String)) (field message : String) : List (String × String) :=
  if errors.any (·.1 == field) then
    errors.map fun error => if error.1 == field then (field, message) else error
  else errors ++ [(field, message)]

theorem putError_ne_nil (errors : List (String × String)) (field message : String) :
    putError errors field message ≠ [] := by
  unfold putError
  split
  · rename_i present
    intro empty
    rw [List.map_eq_nil_iff.mp empty] at present
    cases present
  · simp

def ServiceFields.negativeErrors (service : ServiceFields) : List (String × String) :=
  (if service.basePrice < 0 then [("base_price", "Base price cannot be negative.")] else []) ++
  (if service.sellingPrice.any (· < 0) then [("selling_price", "Selling price cannot be negative.")] else []) ++
  (if service.advanceAmount < 0 then [("advance_amount", "Advance amount cannot be negative.")] else []) ++
  (if service.advancePaymentValue.any (· < 0) then
    [("advance_payment_value", "Advance payment value cannot be negative.")] else []) ++
  (if service.trainingFee < 0 then [("training_fee", "Training fee cannot be negative.")] else [])

def ServiceFields.cleanErrors (service : ServiceFields) : List (String × String) :=
  let capped :=
    if service.advancePaymentType = .percentage ∧ service.advancePaymentValue.any (· > 10000) then
      putError service.negativeErrors "advance_payment_value" "Advance percentage cannot exceed 100."
    else service.negativeErrors
  if service.advanceAmount > service.effectivePrice then
    putError capped "advance_amount" "Advance amount cannot exceed service price."
  else capped

theorem ServiceFields.cleanErrors_nil {service : ServiceFields} : service.cleanErrors = [] ↔
    service.negativeErrors = [] ∧
    ¬(service.advancePaymentType = .percentage ∧ service.advancePaymentValue.any (· > 10000) = true) ∧
    ¬service.advanceAmount > service.effectivePrice := by
  unfold ServiceFields.cleanErrors
  by_cases dear : service.advanceAmount > service.effectivePrice
  · simp only [dear, if_true, putError_ne_nil, not_true, and_false]
  · by_cases above : service.advancePaymentType = .percentage ∧ service.advancePaymentValue.any (· > 10000) = true
    · simp only [dear, above, if_true, if_false, putError_ne_nil, and_self, not_true, false_and, and_false]
    · simp only [dear, above, if_false, not_false_eq_true, and_self, and_true]

/-- A stored service: every save runs the cleaning, so an unclean one cannot be stored. -/
structure Service extends ServiceFields where
  clean : toServiceFields.cleanErrors = []

structure ServiceArea where
  city : String
  state : String
  country : String
  postalCode : String
  services : List ServiceId
  servicesConfigured : Bool
  isActive : Bool
  deriving DecidableEq, Repr

structure ScheduleClosure where
  serviceArea : Option ServiceAreaId
  startDate : Date
  endDate : Date
  isActive : Bool
  deriving DecidableEq, Repr

structure User where
  phoneNumber : String
  firstName : String
  lastName : String
  displayName : Option String
  isActive : Bool
  isVerified : Bool
  deriving DecidableEq, Repr

structure Address where
  customer : UserId
  recipientName : String
  phone : String
  addressLine1 : String
  addressLine2 : String
  locality : String
  city : String
  state : String
  postalCode : String
  country : String
  isActive : Bool
  deriving DecidableEq, Repr

inductive TechnicianVerificationStatus
  | pending
  | underReview
  | verified
  | rejected
  | suspended
  deriving DecidableEq, Repr

inductive TechnicianAvailabilityStatus
  | available
  | busy
  | onLeave
  | offline
  | suspended
  deriving DecidableEq, Repr

structure TechnicianWorkingHours where
  dayOfWeek : Nat
  startTime : TimeOfDay
  endTime : TimeOfDay
  isActive : Bool
  deriving DecidableEq, Repr

structure TechnicianLeave where
  startAt : Instant
  endAt : Instant
  isActive : Bool
  deriving DecidableEq, Repr

structure TechnicianProfile where
  user : UserId
  pincode : String
  serviceAreas : List ServiceAreaId
  supportedServices : List ServiceId
  backgroundVerificationStatus : TechnicianVerificationStatus
  availabilityStatus : TechnicianAvailabilityStatus
  isAvailable : Bool
  isActive : Bool
  workingHours : List TechnicianWorkingHours
  leaves : List TechnicianLeave
  deriving DecidableEq, Repr

structure Directory where
  users : List User
  services : List Service
  serviceAreas : List ServiceArea
  closures : List ScheduleClosure
  addresses : List Address
  technicians : List TechnicianProfile

structure TimeSlot where
  serviceArea : ServiceAreaId
  date : Date
  startTime : TimeOfDay
  endTime : TimeOfDay
  capacity : Nat
  isActive : Bool
  capacityPositive : 0 < capacity
  ordered : startTime < endTime
  deriving DecidableEq, Repr

inductive BookingStatus
  | pendingPayment
  | paymentFailed
  | confirmed
  | technicianAssigned
  | technicianEnRoute
  | inProgress
  | completed
  | closed
  | cancelled
  | refundPending
  | refunded
  deriving DecidableEq, Repr

inductive PaymentStatus
  | unpaid
  | partiallyPaid
  | paid
  | failed
  | refunded
  deriving DecidableEq, Repr

structure AddressSnapshot where
  recipientName : String
  phone : String
  addressLine1 : String
  addressLine2 : String
  locality : String
  city : String
  state : String
  postalCode : String
  country : String
  deriving DecidableEq, Repr

structure Booking where
  bookingNumber : String
  customer : UserId
  service : ServiceId
  address : AddressId
  addressSnapshot : AddressSnapshot
  serviceDate : Date
  timeSlot : SlotId
  quantity : Nat
  subtotal : Money
  discountAmount : Money
  trainingFee : Money
  taxAmount : Money
  totalAmount : Money
  advanceRequired : Money
  advancePaid : Money
  balanceDue : Money
  balanceCollected : Money
  bookingStatus : BookingStatus
  paymentStatus : PaymentStatus
  assignedTechnician : Option UserId
  confirmedAt : Option Instant
  completedAt : Option Instant
  cancelledAt : Option Instant
  isManualWorkOrder : Bool
  deriving DecidableEq, Repr

/-- An empty `from_status` is `none`. -/
structure BookingStatusHistory where
  booking : BookingId
  fromStatus : Option BookingStatus
  toStatus : BookingStatus
  changedBy : Option UserId
  notes : String
  deriving DecidableEq, Repr

structure BookingNumberSequence where
  period : String
  currentSerial : Nat
  deriving DecidableEq, Repr

structure TechnicianAssignment where
  booking : BookingId
  technician : TechnicianId
  previousTechnician : Option TechnicianId
  assignedBy : Option UserId
  assignedAt : Instant
  unassignedAt : Option Instant
  reason : String
  notes : String
  deriving DecidableEq, Repr

def TechnicianAssignment.clashes (first second : TechnicianAssignment) : Bool :=
  first.booking == second.booking && first.unassignedAt.isNone && second.unassignedAt.isNone

abbrev AssignmentTable :=
  RowTable.UniqueTable TechnicianAssignment fun first second => first.clashes second = true

inductive PaymentProvider
  | razorpay
  | offline
  deriving DecidableEq, Repr

inductive PaymentType
  | bookingAdvance
  | balance
  | refund
  deriving DecidableEq, Repr

inductive PaymentRecordStatus
  | created
  | pending
  | success
  | failed
  | refunded
  deriving DecidableEq, Repr

structure Payment where
  booking : BookingId
  provider : PaymentProvider
  providerOrderId : Option String
  providerPaymentId : Option String
  providerRefundId : Option String
  parentPayment : Option PaymentId
  amount : Money
  currency : String
  paymentType : PaymentType
  status : PaymentRecordStatus
  signatureVerified : Bool
  idempotencyKey : String
  paidAt : Option Instant
  refundedAt : Option Instant
  deriving DecidableEq, Repr

/-- `ACTIVE_ADVANCE_STATUSES`, and the condition of the constraint `unique_active_booking_advance`. -/
def PaymentRecordStatus.isActiveAdvance : PaymentRecordStatus → Bool
  | .created | .pending | .success => true
  | .failed | .refunded => false

def Payment.isActiveAdvance (payment : Payment) : Bool :=
  payment.paymentType == .bookingAdvance && payment.status.isActiveAdvance

/-- Both columns hold the same value; nulls never clash. -/
def sameValue (first second : Option String) : Bool :=
  first.isSome && first == second

def Payment.clashes (first second : Payment) : Bool :=
  sameValue first.providerOrderId second.providerOrderId ||
  sameValue first.providerPaymentId second.providerPaymentId ||
  sameValue first.providerRefundId second.providerRefundId ||
  (first.booking == second.booking && first.isActiveAdvance && second.isActiveAdvance) ||
  (first.booking == second.booking && first.paymentType == second.paymentType &&
    first.idempotencyKey == second.idempotencyKey && first.idempotencyKey != "")

abbrev PaymentTable :=
  RowTable.UniqueTable Payment fun first second => first.clashes second = true

inductive LeadSource
  | consumerApp
  | oncall
  | serviceView
  | cart
  | checkout
  | admin
  | phoneCall
  | campaign
  | phone
  | whatsapp
  | website
  | callbackRequest
  | abandonedBooking
  | paymentPending
  | manual
  | other
  deriving DecidableEq, Repr

inductive LeadStatus
  | new
  | contacted
  | interested
  | followUp
  | converted
  | lost
  | closed
  deriving DecidableEq, Repr

inductive LeadFunnelStatus
  | visited
  | cartAdded
  | unpaid
  | paid
  | booked
  | cancelled
  | lost
  deriving DecidableEq, Repr

inductive LeadPaymentStatus
  | notRequired
  | pending
  | linkSent
  | paid
  | failed
  | refunded
  deriving DecidableEq, Repr

structure Lead where
  customer : Option UserId
  customerName : String
  primaryMobile : String
  requiredService : Option ServiceId
  address : String
  city : String
  pincode : String
  source : LeadSource
  status : LeadStatus
  funnelStatus : LeadFunnelStatus
  paymentStatus : LeadPaymentStatus
  preferredDate : Option Date
  preferredSlot : String
  quotedAmount : Option Money
  advanceAmount : Option Money
  balanceAmount : Option Money
  internalNotes : String
  adminNotes : String
  firstSeenAt : Instant
  lastActivityAt : Instant
  lastContactedAt : Option Instant
  convertedBooking : Option BookingId
  pendingBooking : Option BookingId
  updatedAt : Instant
  deriving DecidableEq, Repr

/-! Notifications, as they are emitted when the transaction commits. -/

inductive NotificationEvent
  | paymentSuccessful
  | paymentFailed
  | bookingConfirmed
  | bookingRescheduled
  | technicianAssigned
  | bookingCancelled
  | technicianEnRoute
  | serviceCompleted
  | refundInitiated
  | refundCompleted
  deriving DecidableEq, Repr

inductive CancellationActor
  | admin
  | customer
  deriving DecidableEq, Repr

inductive NotificationPayload
  | empty
  | payment (payment : PaymentId)
  | paidAmount (payment : PaymentId) (amount : Money)
  | refund (refund : PaymentId) (amount : Money)
  | technician (technician : TechnicianId)
  | cancellation (actor : CancellationActor)
  | previousSlot (serviceDate : Date) (slot : SlotId)
  deriving DecidableEq, Repr

structure EmittedNotification where
  event : NotificationEvent
  recipient : UserId
  booking : BookingId
  payload : NotificationPayload
  deriving DecidableEq, Repr

structure Db where
  directory : Directory
  slots : List TimeSlot
  bookings : List Booking
  statusHistory : List BookingStatusHistory
  payments : PaymentTable
  assignments : AssignmentTable
  leads : List Lead
  sequences : List BookingNumberSequence
  notifications : List EmittedNotification

/-- The settings that the modelled code reads. `keySecretHmac` is HMAC-SHA-256 under the
gateway's key secret, as the bytes of the digest. -/
structure Settings where
  keySecretHmac : String → List (Fin 256)
  razorpayKeyId : String
  bookingCustomerCancelMinHours : Nat
  bookingCustomerRescheduleMinHours : Nat
  bookingRequireBalanceBeforeCompletion : Bool

/-- What a request answers and leaves behind: an error usually, but not always, leaves the
database as it was. -/
abbrev Outcome (α : Type) := Except ServiceError α × Db

/-- A transaction either commits its new database or is rolled back. -/
def commit {α : Type} (db : Db) (transaction : Except ServiceError (α × Db)) : Outcome α :=
  match transaction with
  | .ok (result, next) => (.ok result, next)
  | .error error => (.error error, db)

end PsCore
