import PsCore.LeadsCore

/-! Creation, transitions and balance collection of bookings. -/

namespace PsCore

open Fallible RowTable

def adminCancellableStatuses : List BookingStatus :=
  [.pendingPayment, .paymentFailed, .confirmed, .technicianAssigned, .technicianEnRoute, .inProgress]

def customerCancellableStatuses : List BookingStatus :=
  [.pendingPayment, .confirmed, .technicianAssigned]

def customerReschedulableStatuses : List BookingStatus := [.confirmed, .technicianAssigned]

def startableStatuses : List BookingStatus := [.technicianAssigned, .technicianEnRoute]

def completableStatuses : List BookingStatus := [.inProgress]

def closableStatuses : List BookingStatus := [.completed]

def getActiveService (directory : Directory) (serviceId : ServiceId) : Except ServiceError Service := do
  let service ← orRaise directory.services[serviceId]? (.validation "Service is not available.")
  require (service.isActive = true ∧ service.categoryIsActive = true)
    (.validation "Service is not available.")
  pure service

def getCustomerAddress (directory : Directory) (customer : UserId) (addressId : AddressId) :
    Except ServiceError Address := do
  let address ← orRaise directory.addresses[addressId]? (.validation "Address was not found.")
  require (address.customer = customer ∧ address.isActive = true) (.validation "Address was not found.")
  pure address

def ServiceError.forSlot : ServiceError → ServiceError
  | .doesNotExist "TimeSlot" => .validation "Slot was not found."
  | .slotNotAvailable _ => .validation "The selected slot is no longer available."
  | error => error

def lockAndValidateSlot (now : Instant) (db : Db) (slotId : SlotId) (address : Address)
    (service : ServiceId) : Except ServiceError TimeSlot := do
  let (areaId, area) ← orRaise (getActiveServiceArea db.directory.serviceAreas address.postalCode)
    (.validation "Address is outside the active service area.")
  require (area.supportsService service = true)
    (.validation "This service is not available at the selected postal code.")
  let slot ← (lockSlotForReservation now db slotId).mapError ServiceError.forSlot
  require (slot.serviceArea = areaId) (.validation "Slot does not belong to the address service area.")
  pure slot

def roundHalfEven (numerator : Int) (denominator : Nat) : Int :=
  let quotient := numerator / denominator
  let remainder := numerator % denominator
  if 2 * remainder < denominator then quotient
  else if 2 * remainder > denominator then quotient + 1
  else if quotient % 2 = 0 then quotient else quotient + 1

example : roundHalfEven 25 10 = 2 ∧ roundHalfEven 35 10 = 4 ∧ roundHalfEven 26 10 = 3 := by decide

structure BookingAmounts where
  subtotal : Money
  discountAmount : Money
  trainingFee : Money
  taxAmount : Money
  totalAmount : Money
  advanceRequired : Money
  deriving DecidableEq, Repr

/-- The arithmetic of `_create_booking_record`. A percentage service without a value makes
the multiplication fail. -/
def bookingAmounts (service : ServiceFields) (quantity : Nat) : Except ServiceError BookingAmounts := do
  let subtotal := service.basePrice * quantity
  let effectiveItemTotal := service.effectivePrice * quantity
  let discountAmount := subtotal - effectiveItemTotal
  let trainingFee :=
    if service.trainingFeePerUnit then service.trainingFee * quantity else service.trainingFee
  let taxAmount := 0
  let totalAmount := subtotal - discountAmount + trainingFee + taxAmount
  let advanceRequired ← match service.advancePaymentType with
    | .percentage => do
        let value ← orRaise service.advancePaymentValue .typeError
        pure (roundHalfEven (totalAmount * value) 10000)
    | .fixed => pure (min service.advanceAmount totalAmount)
  pure {
    subtotal := subtotal
    discountAmount := discountAmount
    trainingFee := trainingFee
    taxAmount := taxAmount
    totalAmount := totalAmount
    advanceRequired := advanceRequired
  }

def buildAddressSnapshot (address : Address) : AddressSnapshot where
  recipientName := address.recipientName
  phone := address.phone
  addressLine1 := address.addressLine1
  addressLine2 := address.addressLine2
  locality := address.locality
  city := address.city
  state := address.state
  postalCode := address.postalCode
  country := address.country

def latestSerial (bookings : List Booking) (period : String) : Nat :=
  let numbers := (bookings.map (·.bookingNumber.toList)).filter ("PS" ++ period).toList.isPrefixOf
  match numbers.foldl (fun best number => match best with
      | none => some number
      | some other => if other < number then some number else some other) none with
  | none => 0
  | some latest =>
      -- `isdigit` and `int` take digits of other scripts too; no generated number has any
      let serial := latest.drop (latest.length - 4)
      if latest.length = 10 ∧ serial.all Char.isDigit = true then
        serial.foldl (fun value digit => 10 * value + (digit.toNat - '0'.toNat)) 0
      else 0

def generateBookingNumber (now : Instant) (bookings : List Booking)
    (sequences : List BookingNumberSequence) :
    Except ServiceError (String × List BookingNumberSequence) := do
  let period := yearMonth (localDate now)
  let (key, sequence, rows) := match firstRow (·.period == period) sequences with
    | some (key, sequence) => (key, sequence, sequences)
    | none =>
        let sequence : BookingNumberSequence :=
          { period := period, currentSerial := latestSerial bookings period }
        (sequences.length, sequence, sequences ++ [sequence])
  require (sequence.currentSerial < 9999)
    (.validation "The monthly booking number range has been exhausted.")
  let serial := sequence.currentSerial + 1
  pure ("PS" ++ period ++ padded 4 serial, rows.set key { sequence with currentSerial := serial })

def newBooking (number : String) (customer : UserId) (serviceId : ServiceId) (addressId : AddressId)
    (address : Address) (slotId : SlotId) (slot : TimeSlot) (quantity : Nat)
    (amounts : BookingAmounts) : Booking where
  bookingNumber := number
  customer := customer
  service := serviceId
  address := addressId
  addressSnapshot := buildAddressSnapshot address
  serviceDate := slot.date
  timeSlot := slotId
  quantity := quantity
  subtotal := amounts.subtotal
  discountAmount := amounts.discountAmount
  trainingFee := amounts.trainingFee
  taxAmount := amounts.taxAmount
  totalAmount := amounts.totalAmount
  advanceRequired := amounts.advanceRequired
  advancePaid := 0
  balanceDue := amounts.totalAmount
  balanceCollected := 0
  bookingStatus := .pendingPayment
  paymentStatus := .unpaid
  assignedTechnician := none
  confirmedAt := none
  completedAt := none
  cancelledAt := none
  isManualWorkOrder := false

structure BookingRequest where
  serviceId : ServiceId
  addressId : AddressId
  slotId : SlotId
  quantity : Nat
  deriving DecidableEq, Repr

/-- `create_booking`. Linking the new booking to a lead may fail half way; the failure is
logged and what the linking saved so far stays. -/
def createBooking (now : Instant) (customer : UserId) (request : BookingRequest) (db : Db) :
    Except ServiceError (BookingId × Db) := do
  let service ← getActiveService db.directory request.serviceId
  let address ← getCustomerAddress db.directory customer request.addressId
  let slot ← lockAndValidateSlot now db request.slotId address request.serviceId
  let user ← orRaise db.directory.users[customer]? (.doesNotExist "User")
  let amounts ← bookingAmounts service.toServiceFields request.quantity
  let (number, sequences) ← generateBookingNumber now db.bookings db.sequences
  require (db.bookings.all (·.bookingNumber != number) = true) (.integrity "Booking")
  let booking := newBooking number customer request.serviceId request.addressId address
    request.slotId slot request.quantity amounts
  let bookingId := db.bookings.length
  pure (bookingId, { db with
    bookings := db.bookings ++ [booking]
    sequences := sequences
    statusHistory := db.statusHistory ++ [{
      booking := bookingId
      fromStatus := none
      toStatus := .pendingPayment
      changedBy := some customer
      notes := "Booking created."
    }]
    leads := (linkBookingToLead now db.leads user slot bookingId booking).2 })

/-- The bookings that a cart checkout makes for its unlinked selections: one transaction,
in list order. -/
def createBookings (now : Instant) (customer : UserId) :
    List BookingRequest → Db → Except ServiceError (List BookingId × Db)
  | [], db => .ok ([], db)
  | request :: rest, db => do
      let (first, next) ← createBooking now customer request db
      let (others, last) ← createBookings now customer rest next
      pure (first :: others, last)

def lockBooking (db : Db) (bookingId : BookingId) : Except ServiceError Booking :=
  orRaise db.bookings[bookingId]? (.validation "Booking was not found.")

def transitionBooking (db : Db) (bookingId : BookingId) (booking : Booking) (toStatus : BookingStatus)
    (changedBy : Option UserId) (notes : String) : Db :=
  { db with
    bookings := db.bookings.set bookingId { booking with bookingStatus := toStatus }
    statusHistory := db.statusHistory ++ [{
      booking := bookingId
      fromStatus := some booking.bookingStatus
      toStatus := toStatus
      changedBy := changedBy
      notes := notes
    }] }

def Db.emit (db : Db) (event : NotificationEvent) (recipient : UserId) (booking : BookingId)
    (payload : NotificationPayload) : Db :=
  { db with notifications := db.notifications ++ [{
      event := event
      recipient := recipient
      booking := booking
      payload := payload
    }] }

def startBooking (bookingId : BookingId) (changedBy : Option UserId) (notes : String) (db : Db) :
    Except ServiceError (Unit × Db) := do
  let booking ← lockBooking db bookingId
  require (startableStatuses.contains booking.bookingStatus = true)
    (.validation "Booking cannot be started from its current status.")
  require (booking.assignedTechnician ≠ none)
    (.validation "A technician must be assigned before starting the booking.")
  pure ((), transitionBooking db bookingId booking .inProgress changedBy (orText notes "Booking started."))

def markTechnicianEnRoute (bookingId : BookingId) (changedBy : Option UserId) (notes : String) (db : Db) :
    Except ServiceError (Unit × Db) := do
  let booking ← lockBooking db bookingId
  require (booking.bookingStatus = .technicianAssigned)
    (.validation "Booking must be assigned before the technician can start travelling.")
  let next := transitionBooking db bookingId booking .technicianEnRoute changedBy
    (orText notes "Technician is en route.")
  pure ((), next.emit .technicianEnRoute booking.customer bookingId .empty)

def completeBooking (settings : Settings) (now : Instant) (bookingId : BookingId)
    (changedBy : Option UserId) (notes : String) (db : Db) : Except ServiceError (Unit × Db) := do
  let booking ← lockBooking db bookingId
  require (completableStatuses.contains booking.bookingStatus = true)
    (.validation "Booking must be in progress before completion.")
  require (booking.assignedTechnician ≠ none)
    (.validation "A technician must be assigned before completion.")
  require (¬(settings.bookingRequireBalanceBeforeCompletion = true ∧
      booking.balanceCollected < booking.balanceDue))
    (.validation "Balance must be fully collected before completion.")
  let next := transitionBooking db bookingId { booking with completedAt := some now } .completed changedBy
    (orText notes "Booking completed.")
  pure ((), next.emit .serviceCompleted booking.customer bookingId .empty)

def closeBooking (bookingId : BookingId) (changedBy : Option UserId) (notes : String) (db : Db) :
    Except ServiceError (Unit × Db) := do
  let booking ← lockBooking db bookingId
  require (closableStatuses.contains booking.bookingStatus = true)
    (.validation "Only a completed booking can be closed.")
  pure ((), transitionBooking db bookingId booking .closed changedBy (orText notes "Work order closed."))

def validatePolicyWindow (now : Instant) (db : Db) (booking : Booking) (minHours : Nat) (message : String) :
    Except ServiceError Unit := do
  let slot ← orRaise db.slots[booking.timeSlot]? (.doesNotExist "TimeSlot")
  require (now + minHours * hour ≤ combine booking.serviceDate slot.startTime) (.validation message)

def cancellableStatuses : CancellationActor → List BookingStatus
  | .admin => adminCancellableStatuses
  | .customer => customerCancellableStatuses

def validateCancellationWindow (settings : Settings) (now : Instant) (db : Db) (booking : Booking) :
    CancellationActor → Except ServiceError Unit
  | .admin => .ok ()
  | .customer => validatePolicyWindow now db booking settings.bookingCustomerCancelMinHours
      "Booking can no longer be cancelled online."

def cancelBooking (settings : Settings) (now : Instant) (bookingId : BookingId)
    (changedBy : Option UserId) (notes : String) (actor : CancellationActor) (db : Db) :
    Except ServiceError (Unit × Db) := do
  let booking ← lockBooking db bookingId
  require ((cancellableStatuses actor).contains booking.bookingStatus = true)
    (.validation "Booking cannot be cancelled from its current status.")
  validateCancellationWindow settings now db booking actor
  let next := transitionBooking db bookingId { booking with cancelledAt := some now } .cancelled changedBy
    (orText notes "Booking cancelled.")
  pure ((), next.emit .bookingCancelled booking.customer bookingId (.cancellation actor))

def rescheduleBooking (settings : Settings) (now : Instant) (bookingId : BookingId) (slotId : SlotId)
    (changedBy : UserId) (notes : String) (db : Db) : Except ServiceError (Unit × Db) := do
  let booking ← lockBooking db bookingId
  require (booking.customer = changedBy) (.validation "Booking was not found.")
  require (customerReschedulableStatuses.contains booking.bookingStatus = true)
    (.validation "Booking cannot be rescheduled from its current status.")
  validatePolicyWindow now db booking settings.bookingCustomerRescheduleMinHours
    "Booking can no longer be rescheduled online."
  let address ← orRaise db.directory.addresses[booking.address]? (.doesNotExist "Address")
  let slot ← lockAndValidateSlot now db slotId address booking.service
  let moved := { booking with timeSlot := slotId, serviceDate := slot.date }
  let next := transitionBooking db bookingId moved booking.bookingStatus (some changedBy)
    (orText notes ("Booking rescheduled from " ++ isoDate booking.serviceDate ++ " slot " ++
      toString booking.timeSlot ++ " to " ++ isoDate slot.date ++ " slot " ++ toString slotId ++ "."))
  pure ((), next.emit .bookingRescheduled booking.customer bookingId
    (.previousSlot booking.serviceDate booking.timeSlot))

def newBalancePayment (now : Instant) (bookingId : BookingId) (amount : Money) : Payment where
  booking := bookingId
  provider := .offline
  providerOrderId := none
  providerPaymentId := none
  providerRefundId := none
  parentPayment := none
  amount := amount
  currency := "INR"
  paymentType := .balance
  status := .success
  signatureVerified := true
  idempotencyKey := "offline-balance-" ++ toString bookingId ++ "-" ++ timestampText now
  paidAt := some now
  refundedAt := none

def balanceEntry (now : Instant) (bookingId : BookingId) (amount : Money) (db : Db) :
    Except ServiceError (Booking × PaymentTable) := do
  let booking ← lockBooking db bookingId
  require (booking.bookingStatus = .inProgress ∨ booking.bookingStatus = .technicianAssigned)
    (.validation "Balance can only be recorded for an active assigned booking.")
  require (0 < amount) (.validation "Amount must be greater than zero.")
  require (amount ≤ booking.balanceDue - booking.balanceCollected)
    (.validation "Amount cannot exceed the remaining balance.")
  let payments ← orRaise (db.payments.insert? (newBalancePayment now bookingId amount)) (.integrity "Payment")
  pure (booking, payments)

def Booking.collected (amount : Money) (booking : Booking) : Booking :=
  let balanceCollected := booking.balanceCollected + amount
  { booking with
    balanceCollected := balanceCollected
    paymentStatus := if booking.balanceDue ≤ balanceCollected then .paid else booking.paymentStatus }

def recordBalanceCollection (now : Instant) (bookingId : BookingId) (amount : Money) (method : String)
    (changedBy : Option UserId) (notes : String) (db : Db) : Except ServiceError (PaymentId × Db) := do
  let (booking, payments) ← balanceEntry now bookingId amount db
  let next := transitionBooking { db with payments := payments } bookingId (booking.collected amount)
    booking.bookingStatus changedBy (orText notes ("Balance collection recorded via " ++ method ++ "."))
  pure (db.payments.rows.length, next)

end PsCore
