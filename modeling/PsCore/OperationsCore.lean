import PsCore.PaymentsCore

/-!
Work orders and manual payments of leads. A request works on the lead, its service and
possibly a booking as they were loaded before its transaction started.
-/

namespace PsCore

open Fallible RowTable

structure LoadedLead where
  leadId : LeadId
  lead : Lead
  requiredService : Option Service

def loadLead (db : Db) (leadId : LeadId) : Except ServiceError LoadedLead := do
  let lead ← orRaise db.leads[leadId]? (.doesNotExist "Lead")
  pure {
    leadId := leadId
    lead := lead
    requiredService := lead.requiredService.bind fun serviceId => db.directory.services[serviceId]?
  }

def customerOfLead (users : List User) (lead : Lead) : UserId × List User :=
  match firstRow (·.phoneNumber == lead.primaryMobile) users with
  | some (userId, user) =>
      (userId, users.set userId { user with displayName := some (user.displayName.getD lead.customerName) })
  | none =>
      (users.length, users ++ [{
        phoneNumber := lead.primaryMobile
        firstName := ""
        lastName := ""
        displayName := some lead.customerName
        isActive := true
        isVerified := true
      }])

def Address.cleanErrors (address : Address) : List (String × String) :=
  charFieldErrors "recipient_name" 150 false address.recipientName ++
  charFieldErrors "phone" 16 false address.phone ++
  charFieldErrors "address_line_1" 255 false address.addressLine1 ++
  charFieldErrors "city" 100 false address.city ++
  charFieldErrors "state" 100 false address.state ++
  charFieldErrors "postal_code" 20 false address.postalCode ++
  charFieldErrors "country" 100 false address.country

def Address.ofLead (customer : UserId) (lead : Lead) (area : ServiceArea) : Address where
  customer := customer
  recipientName := lead.customerName
  phone := lead.primaryMobile
  addressLine1 := lead.address
  addressLine2 := ""
  locality := ""
  city := lead.city
  state := area.state
  postalCode := normalizePostalCode lead.pincode
  country := area.country
  isActive := true

/-- `Address.objects.get_or_create`: the lookup uses the lead's own postal code, the new row
the normalised one. -/
def addressOfLead (addresses : List Address) (customer : UserId) (lead : Lead) (area : ServiceArea) :
    Except ServiceError (AddressId × List Address) :=
  let same (address : Address) : Bool :=
    address.customer == customer && address.phone == lead.primaryMobile &&
    address.addressLine1 == lead.address && address.postalCode == lead.pincode
  match firstRow same addresses with
  | some (addressId, _) => do
      require (countWhere same addresses = 1) (.multipleObjects "Address")
      pure (addressId, addresses)
  | none => do
      let address := Address.ofLead customer lead area
      require (address.cleanErrors = []) (.fieldValidation address.cleanErrors)
      pure (addresses.length, addresses ++ [address])

def createBookingFromLead (now : Instant) (lead : Lead) (db : Db) : Except ServiceError (BookingId × Db) := do
  let serviceId ← orRaise lead.requiredService (.validation "Select a service before creating a work order.")
  let preferredDate ← orRaise lead.preferredDate (.validation "Schedule the lead before creating a work order.")
  require (lead.preferredSlot ≠ "") (.validation "Schedule the lead before creating a work order.")
  require (lead.address ≠ "" ∧ lead.city ≠ "" ∧ lead.pincode ≠ "")
    (.validation "A complete service address is required.")
  let (areaId, area) ← orRaise (serviceAreaWithCode db.directory.serviceAreas lead.pincode)
    (.validation "The lead pincode is outside the active service area.")
  require (area.supportsService serviceId = true)
    (.validation "The selected service is not available at this pincode.")
  let (customer, users) := customerOfLead db.directory.users lead
  let (addressId, addresses) ← addressOfLead db.directory.addresses customer lead area
  let startTime ← orRaise (strptimeHourMinute lead.preferredSlot) .valueError
  let (slotId, slots) ← getOrCreateSlot db.slots {
    serviceArea := areaId
    date := preferredDate
    startTime := startTime
    endTime := (startTime + hour) % day
    capacity := 5
    isActive := true
  }
  let directory := { db.directory with users := users, addresses := addresses }
  createBooking now customer {
    serviceId := serviceId
    addressId := addressId
    slotId := slotId
    quantity := 1
  } { db with directory := directory, slots := slots }

def Booking.repriced (lead : Lead) (service : ServiceFields) (booking : Booking) : Booking :=
  match lead.quotedAmount with
  | none => booking
  | some quotedAmount =>
      let totalAmount := quotedAmount + service.trainingFee
      { booking with
        subtotal := quotedAmount
        discountAmount := 0
        trainingFee := service.trainingFee
        taxAmount := 0
        totalAmount := totalAmount
        advanceRequired := match lead.advanceAmount with
          | some advanceAmount => min advanceAmount totalAmount
          | none => booking.advanceRequired
        balanceDue := totalAmount }

def Booking.asWorkOrder (booking : Booking) : Booking :=
  { booking with isManualWorkOrder := true, bookingStatus := .confirmed }

structure LoadedBooking where
  bookingId : BookingId
  booking : Booking
  deriving DecidableEq, Repr

/-- The booking that a conversion confirms. A new one is written whole; of a loaded one only
the status and the manual flag are written, whatever has become of the row since. -/
def workOrderBooking (now : Instant) (loaded : LoadedLead) (booking : Option LoadedBooking) (db : Db) :
    Except ServiceError (LoadedBooking × Db) :=
  match booking with
  | some object => do
      let row ← orRaise db.bookings[object.bookingId]? (.doesNotExist "Booking")
      pure (object, { db with bookings := db.bookings.set object.bookingId row.asWorkOrder })
  | none => do
      let (bookingId, made) ← createBookingFromLead now loaded.lead db
      let created ← orRaise made.bookings[bookingId]? (.doesNotExist "Booking")
      let service ← orRaise loaded.requiredService (.validation "Select a service before creating a work order.")
      let repriced := created.repriced loaded.lead service.toServiceFields
      pure ({ bookingId := bookingId, booking := created },
        { made with bookings := made.bookings.set bookingId repriced.asWorkOrder })

def Lead.converted (now : Instant) (customer : UserId) (bookingId : BookingId) (internalNotes : String)
    (lead : Lead) : Lead :=
  { lead with
    customer := some customer
    status := .converted
    funnelStatus := .booked
    convertedBooking := some bookingId
    pendingBooking := none
    internalNotes := internalNotes
    lastActivityAt := now
    updatedAt := now }

def saveConvertedLead (now : Instant) (loaded : LoadedLead) (object : LoadedBooking) (notes : String)
    (leads : List Lead) : Except ServiceError (Lead × List Lead) := do
  let row ← orRaise leads[loaded.leadId]? (.doesNotExist "Lead")
  let internalNotes := joinParts "\n" [loaded.lead.internalNotes, notes]
  let convert := Lead.converted now object.booking.customer object.bookingId internalNotes
  let saved ← saveLead leads loaded.leadId (convert loaded.lead) (convert row)
  pure (convert loaded.lead, saved)

def workOrderHistory (performedBy : Option UserId) (object : LoadedBooking) (notes : String) :
    List BookingStatusHistory :=
  if object.booking.bookingStatus = .confirmed then []
  else [{
    booking := object.bookingId
    fromStatus := some object.booking.bookingStatus
    toStatus := .confirmed
    changedBy := performedBy
    notes := orText notes "Work order created from lead by admin."
  }]

def Lead.isConverted (lead : Lead) : Bool :=
  lead.status == .converted && lead.convertedBooking.isSome

def convertLeadToWorkOrder (now : Instant) (loaded : LoadedLead) (performedBy : Option UserId)
    (booking : Option LoadedBooking) (notes : String) (db : Db) : Except ServiceError (Lead × Db) :=
  if loaded.lead.isConverted then .ok (loaded.lead, db)
  else do
    let (object, saved) ← workOrderBooking now loaded booking db
    let (lead, leads) ← saveConvertedLead now loaded object notes saved.leads
    pure (lead, { saved with
      statusHistory := saved.statusHistory ++ workOrderHistory performedBy object notes
      leads := leads })

def newManualPayment (now : Instant) (leadId : LeadId) (bookingId : BookingId) (amount : Money)
    (reference : String) : Payment where
  booking := bookingId
  provider := .offline
  providerOrderId := none
  providerPaymentId := none
  providerRefundId := none
  parentPayment := none
  amount := amount
  currency := "INR"
  paymentType := .bookingAdvance
  status := .success
  signatureVerified := true
  idempotencyKey := "lead-manual-" ++ toString leadId ++ "-" ++ orText reference (timestampText now)
  paidAt := some now
  refundedAt := none

def Booking.paidManually (amount : Money) (booking : Booking) : Booking :=
  let advancePaid := booking.advancePaid + amount
  let balanceDue := max 0 (booking.totalAmount - advancePaid)
  { booking with
    advancePaid := advancePaid
    balanceDue := balanceDue
    paymentStatus := if balanceDue = 0 then .paid else .partiallyPaid }

def Lead.paidManually (now : Instant) (lead : Lead) : Lead :=
  { lead with
    paymentStatus := .paid
    funnelStatus := .paid
    lastActivityAt := now
    updatedAt := now }

structure ManualPaymentEntry where
  bookingId : BookingId
  booking : Booking
  payments : PaymentTable
  leads : List Lead

def manualPaymentMethods : List String :=
  ["MANUAL_CASH", "MANUAL_UPI", "MANUAL_CARD", "MANUAL_BANK_TRANSFER"]

def manualPaymentEntry (now : Instant) (loaded : LoadedLead) (amount : Money) (method reference note : String)
    (db : Db) : Except ServiceError ManualPaymentEntry := do
  require (manualPaymentMethods.contains method = true) (.validation "Unsupported manual payment method.")
  require (reference ≠ "" ∨ note ≠ "") (.validation "Add a transaction reference or note.")
  require (0 < amount) (.validation "Amount must be greater than zero.")
  let bookingId ← orRaise loaded.lead.convertedBooking
    (.validation "Manual payment requires a linked booking.")
  let booking ← orRaise db.bookings[bookingId]? (.doesNotExist "Booking")
  let payments ← orRaise (db.payments.insert? (newManualPayment now loaded.leadId bookingId amount reference))
    (.integrity "Payment")
  let row ← orRaise db.leads[loaded.leadId]? (.doesNotExist "Lead")
  let leads ← saveLead db.leads loaded.leadId (loaded.lead.paidManually now) (row.paidManually now)
  pure {
    bookingId := bookingId
    booking := booking
    payments := payments
    leads := leads
  }

def recordManualLeadPayment (now : Instant) (loaded : LoadedLead) (amount : Money)
    (method reference note : String) (db : Db) : Except ServiceError (PaymentId × Db) := do
  let entry ← manualPaymentEntry now loaded amount method reference note db
  pure (db.payments.rows.length, { db with
    payments := entry.payments
    bookings := db.bookings.set entry.bookingId (entry.booking.paidManually amount)
    leads := entry.leads })

end PsCore
