import PsCore.SchedulingCore

/-!
Operations leads: the cleaning that every save runs, and the functions that keep a lead
current while its customer views, books and pays. None of them touches another table.
-/

namespace PsCore

open Fallible RowTable

def activeLeadStatuses : List LeadStatus := [.new, .contacted, .interested, .followUp]

def LeadFunnelStatus.rank : LeadFunnelStatus → Nat
  | .visited => 10
  | .cartAdded => 20
  | .unpaid => 30
  | .booked => 40
  | .paid => 50
  | .cancelled => 60
  | .lost => 70

def LeadPaymentStatus.rank : LeadPaymentStatus → Nat
  | .notRequired => 10
  | .pending => 20
  | .linkSent => 30
  | .failed => 35
  | .paid => 40
  | .refunded => 50

def maxFunnelStatus (current candidate : LeadFunnelStatus) : LeadFunnelStatus :=
  if current.rank < candidate.rank then candidate else current

def maxPaymentStatus (current candidate : LeadPaymentStatus) : LeadPaymentStatus :=
  if current.rank < candidate.rank then candidate else current

def otherLeads (leads : List Lead) : Option LeadId → List Lead
  | some self => leads.eraseIdx self
  | none => leads

def Lead.fieldErrors (lead : Lead) : List (String × String) :=
  charFieldErrors "customer_name" 255 false lead.customerName ++
  charFieldErrors "primary_mobile" 16 false lead.primaryMobile ++
  charFieldErrors "city" 120 true lead.city ++
  charFieldErrors "pincode" 12 true lead.pincode ++
  charFieldErrors "preferred_slot" 120 true lead.preferredSlot

/-- `Lead.clean`. A lead without a service clashes with every active lead of the mobile. -/
def Lead.cleanErrors (leads : List Lead) (self : Option LeadId) (lead : Lead) : List (String × String) :=
  (if lead.status = .converted ∧ lead.convertedBooking = none then
    [("converted_booking", "Converted leads must be linked to a booking.")] else []) ++
  (if lead.convertedBooking ≠ none ∧ lead.status ≠ .converted then
    [("status", "A lead with a converted booking must have converted status.")] else []) ++
  (if activeLeadStatuses.contains lead.status && (otherLeads leads self).any fun other =>
      other.primaryMobile == lead.primaryMobile && activeLeadStatuses.contains other.status &&
      (lead.requiredService == none || other.requiredService == lead.requiredService) then
    [("primary_mobile", "An active lead already exists for this mobile number and service.")] else [])

def Lead.uniqueErrors (leads : List Lead) (self : Option LeadId) (lead : Lead) : List (String × String) :=
  (if lead.convertedBooking ≠ none ∧
      (otherLeads leads self).any (·.convertedBooking == lead.convertedBooking) = true then
    [("converted_booking", "Lead with this Converted booking already exists.")] else []) ++
  (if lead.pendingBooking ≠ none ∧
      (otherLeads leads self).any (·.pendingBooking == lead.pendingBooking) = true then
    [("pending_booking", "Lead with this Pending booking already exists.")] else [])

def Lead.fullCleanErrors (leads : List Lead) (self : Option LeadId) (lead : Lead) : List (String × String) :=
  lead.fieldErrors ++ lead.cleanErrors leads self ++ lead.uniqueErrors leads self

def Lead.fullClean (leads : List Lead) (self : Option LeadId) (lead : Lead) : Except ServiceError Unit :=
  require (lead.fullCleanErrors leads self = []) (.fieldValidation (lead.fullCleanErrors leads self))

/-- `lead.save()` on a row that is there: clean the object, then write the given row. -/
def saveLead (leads : List Lead) (leadId : LeadId) (object row : Lead) : Except ServiceError (List Lead) := do
  object.fullClean leads (some leadId)
  pure (leads.set leadId row)

def User.customerName (user : User) : String :=
  orText (user.displayName.getD "") (orText (joinParts " " [user.firstName, user.lastName]) user.phoneNumber)

def AddressSnapshot.text (snapshot : AddressSnapshot) : String :=
  joinParts ", " [snapshot.addressLine1, snapshot.addressLine2, snapshot.locality, snapshot.city,
    snapshot.postalCode]

structure LeadEvent where
  mobileNumber : String
  customerName : String
  service : Option ServiceId
  customer : Option UserId
  source : LeadSource
  funnelStatus : LeadFunnelStatus
  paymentStatus : LeadPaymentStatus
  deriving DecidableEq, Repr

def LeadEvent.newLead (event : LeadEvent) (now : Instant) : Lead where
  customer := event.customer
  customerName := orText event.customerName event.mobileNumber
  primaryMobile := event.mobileNumber
  requiredService := event.service
  address := ""
  city := ""
  pincode := ""
  source := event.source
  status := .new
  funnelStatus := event.funnelStatus
  paymentStatus := event.paymentStatus
  preferredDate := none
  preferredSlot := ""
  quotedAmount := none
  advanceAmount := none
  balanceAmount := none
  internalNotes := ""
  adminNotes := ""
  firstSeenAt := now
  lastActivityAt := now
  lastContactedAt := none
  convertedBooking := none
  pendingBooking := none
  updatedAt := now

def LeadEvent.merge (event : LeadEvent) (now : Instant) (lead : Lead) : Lead :=
  { lead with
    customer := lead.customer <|> event.customer
    customerName := orText event.customerName (orText lead.customerName event.mobileNumber)
    funnelStatus := maxFunnelStatus lead.funnelStatus event.funnelStatus
    paymentStatus := maxPaymentStatus lead.paymentStatus event.paymentStatus
    lastActivityAt := now
    updatedAt := now }

def LeadEvent.matches (event : LeadEvent) (lead : Lead) : Bool :=
  lead.primaryMobile == event.mobileNumber && lead.requiredService == event.service &&
  activeLeadStatuses.contains lead.status

def upsertLead (now : Instant) (leads : List Lead) (event : LeadEvent) :
    Except ServiceError (LeadId × List Lead) :=
  match bestRow event.matches Lead.lastActivityAt leads with
  | some (leadId, lead) => do
      let saved ← saveLead leads leadId (event.merge now lead) (event.merge now lead)
      pure (leadId, saved)
  | none => do
      let lead := event.merge now (event.newLead now)
      lead.fullClean leads none
      pure (leads.length, leads ++ [lead])

def captureAuthenticatedServiceView (now : Instant) (leads : List Lead) (userId : UserId) (user : User)
    (service : ServiceId) : Except ServiceError (Option LeadId × List Lead) :=
  if user.isVerified = false ∨ user.phoneNumber = "" then .ok (none, leads)
  else do
    let saved ← upsertLead now leads {
      mobileNumber := user.phoneNumber
      customerName := user.customerName
      service := some service
      customer := some userId
      source := .serviceView
      funnelStatus := .visited
      paymentStatus := .notRequired
    }
    pure (some saved.1, saved.2)

def markCheckoutStarted (now : Instant) (leads : List Lead) (userId : UserId) (user : User)
    (service : ServiceId) : Except ServiceError (LeadId × List Lead) :=
  upsertLead now leads {
    mobileNumber := user.phoneNumber
    customerName := user.customerName
    service := some service
    customer := some userId
    source := .checkout
    funnelStatus := .unpaid
    paymentStatus := .pending
  }

def markCartAdded (now : Instant) (leads : List Lead) (userId : UserId) (user : User)
    (service : ServiceId) : Except ServiceError (LeadId × List Lead) :=
  upsertLead now leads {
    mobileNumber := user.phoneNumber
    customerName := user.customerName
    service := some service
    customer := some userId
    source := .cart
    funnelStatus := .cartAdded
    paymentStatus := .notRequired
  }

def Lead.linked (lead : Lead) (now : Instant) (bookingId : BookingId) (booking : Booking) (slot : TimeSlot) : Lead :=
  { lead with
    pendingBooking := some bookingId
    quotedAmount := some booking.totalAmount
    advanceAmount := some booking.advanceRequired
    balanceAmount := some booking.balanceDue
    address := booking.addressSnapshot.text
    city := orText booking.addressSnapshot.city lead.city
    pincode := orText booking.addressSnapshot.postalCode lead.pincode
    preferredDate := some booking.serviceDate
    preferredSlot := hourMinute slot.startTime ++ "-" ++ hourMinute slot.endTime
    updatedAt := now }

/-- The upsert is a transaction of its own, so a rejected second save leaves it in place. -/
def linkBookingToLead (now : Instant) (leads : List Lead) (customer : User) (slot : TimeSlot)
    (bookingId : BookingId) (booking : Booking) : Except ServiceError LeadId × List Lead :=
  let upserted := upsertLead now leads {
    mobileNumber := customer.phoneNumber
    customerName := customer.customerName
    service := some booking.service
    customer := some booking.customer
    source := .checkout
    funnelStatus := .booked
    paymentStatus := if booking.advanceRequired > 0 then .pending else .notRequired
  }
  match upserted with
  | .error error => (.error error, leads)
  | .ok (leadId, saved) =>
      match saved[leadId]? with
      | none => (.error (.doesNotExist "Lead"), saved)
      | some lead =>
          let linked := lead.linked now bookingId booking slot
          match saveLead saved leadId linked linked with
          | .error error => (.error error, saved)
          | .ok next => (.ok leadId, next)

def leadOfBooking (now : Instant) (leads : List Lead) (customer : User) (slot : TimeSlot)
    (bookingId : BookingId) (booking : Booking) : Except ServiceError LeadId × List Lead :=
  match bestRow (fun lead => lead.pendingBooking == some bookingId || lead.convertedBooking == some bookingId)
      Lead.updatedAt leads with
  | some (leadId, _) => (.ok leadId, leads)
  | none => linkBookingToLead now leads customer slot bookingId booking

def markBookingPaymentPaid (now : Instant) (leads : List Lead) (customer : User) (slot : TimeSlot)
    (bookingId : BookingId) (booking : Booking) : Except ServiceError LeadId × List Lead :=
  match leadOfBooking now leads customer slot bookingId booking with
  | (.error error, saved) => (.error error, saved)
  | (.ok leadId, saved) =>
      match saved[leadId]? with
      | none => (.error (.doesNotExist "Lead"), saved)
      | some lead =>
          let paid := { lead with
            status := .converted
            convertedBooking := some bookingId
            pendingBooking := none
            paymentStatus := .paid
            funnelStatus := .paid
            lastActivityAt := now
            updatedAt := now }
          match saveLead saved leadId paid paid with
          | .error error => (.error error, saved)
          | .ok next => (.ok leadId, next)

def addLead (leads : List Lead) (lead : Lead) : Except ServiceError (LeadId × List Lead) := do
  lead.fullClean leads none
  pure (leads.length, leads ++ [lead])

def editLead (leads : List Lead) (leadId : LeadId) (lead : Lead) : Except ServiceError (List Lead) := do
  let _ ← orRaise leads[leadId]? (.doesNotExist "Lead")
  saveLead leads leadId lead lead

def recordLeadContact (now : Instant) (leads : List Lead) (leadId : LeadId) (loaded : Lead) (note : String) :
    Except ServiceError (List Lead) := do
  let contacted := { loaded with
    lastContactedAt := some now
    lastActivityAt := now
    adminNotes := if note = "" then loaded.adminNotes else joinParts "\n" [loaded.adminNotes, note]
    updatedAt := now }
  let row ← orRaise leads[leadId]? (.doesNotExist "Lead")
  saveLead leads leadId contacted { row with
    lastContactedAt := contacted.lastContactedAt
    lastActivityAt := contacted.lastActivityAt
    adminNotes := contacted.adminNotes
    updatedAt := now }

end PsCore
