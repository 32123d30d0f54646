import PsCore.TechniciansCore
import PsCore.OperationsCore

/-!
The platform as one machine. Every operation is a step, given its request and the answers
of the gateway; operations of concurrent requests take their steps in any order. What a
request has loaded before its transaction starts stays loaded, however old it gets.
-/

namespace PsCore

open Fallible

structure System where
  db : Db
  loadedLeads : List LoadedLead
  loadedBookings : List LoadedBooking
  loadedSlots : List (SlotId × TimeSlot)
  validatedSlots : List (SlotId × SlotFields)

/-- The operations; loaded rows and validated edits are named by their position. -/
inductive Op
  | createBooking (now : Instant) (customer : UserId) (request : BookingRequest)
  | checkout (now : Instant) (customer : UserId) (requests : List BookingRequest)
  | rescheduleBooking (now : Instant) (bookingId : BookingId) (slotId : SlotId) (changedBy : UserId)
      (notes : String)
  | cancelBooking (now : Instant) (bookingId : BookingId) (changedBy : Option UserId) (notes : String)
      (actor : CancellationActor)
  | startBooking (bookingId : BookingId) (changedBy : Option UserId) (notes : String)
  | markTechnicianEnRoute (bookingId : BookingId) (changedBy : Option UserId) (notes : String)
  | completeBooking (now : Instant) (bookingId : BookingId) (changedBy : Option UserId) (notes : String)
  | closeBooking (bookingId : BookingId) (changedBy : Option UserId) (notes : String)
  | recordBalanceCollection (now : Instant) (bookingId : BookingId) (amount : Money) (method : String)
      (changedBy : Option UserId) (notes : String)
  | assignTechnician (now : Instant) (bookingId : BookingId) (technicianId : TechnicianId)
      (assignedBy : Option UserId) (notes reason : String)
  | removeTechnicianAssignment (now : Instant) (bookingId : BookingId) (changedBy : Option UserId)
      (notes : String)
  | createAdvancePaymentOrder (bookingId : BookingId) (user : UserId) (key : String)
      (providerOrder : Except ServiceError String)
  | verifyRazorpayPayment (now : Instant) (orderId paymentId signature : String) (user : Option UserId)
  | dispatchWebhook (now : Instant) (eventName : String) (payload : Json)
  | createRefund (now : Instant) (sourceId : PaymentId) (amount : Money) (key : String)
      (providerRefund : Except ServiceError ProviderRefund)
  | reconcileRefund (now : Instant) (refundId : PaymentId) (providerStatus : Except ServiceError Json)
  | loadLead (leadId : LeadId)
  | loadBooking (bookingId : BookingId)
  | convertLeadToWorkOrder (now : Instant) (lead : Nat) (performedBy : Option UserId) (booking : Option Nat)
      (notes : String)
  | recordManualLeadPayment (now : Instant) (lead : Nat) (amount : Money) (method reference note : String)
  | recordLeadContact (now : Instant) (lead : Nat) (note : String)
  | upsertLead (now : Instant) (event : LeadEvent)
  | addLead (lead : Lead)
  | editLead (leadId : LeadId) (lead : Lead)
  | ensureDailySlots (now : Instant) (area : ServiceAreaId) (date : Date)
  | createSlot (fields : SlotFields)
  | loadSlot (slotId : SlotId)
  | validateSlotEdit (slot : Nat) (edit : SlotEdit)
  | saveSlot (edit : Nat)
  | editDirectory (directory : Directory)

namespace System

def commit {α : Type} (state : System) (transaction : Except ServiceError (α × Db)) : System :=
  { state with db := (PsCore.commit state.db transaction).2 }

def write {α : Type} (state : System) (program : Except ServiceError α) (store : α → Db) : System :=
  { state with db := match program with
      | .ok result => store result
      | .error _ => state.db }

variable (settings : Settings)

def convert (state : System) (now : Instant) (lead : Nat) (performedBy : Option UserId) (booking : Option Nat)
    (notes : String) : Except ServiceError (Lead × Db) := do
  let loaded ← orRaise state.loadedLeads[lead]? (.doesNotExist "Lead")
  match booking with
  | none => PsCore.convertLeadToWorkOrder now loaded performedBy none notes state.db
  | some position => do
      let object ← orRaise state.loadedBookings[position]? (.doesNotExist "Booking")
      PsCore.convertLeadToWorkOrder now loaded performedBy (some object) notes state.db

def step (state : System) : Op → System
  | .createBooking now customer request => state.commit (PsCore.createBooking now customer request state.db)
  | .checkout now customer requests => state.commit (createBookings now customer requests state.db)
  | .rescheduleBooking now bookingId slotId changedBy notes =>
      state.commit (PsCore.rescheduleBooking settings now bookingId slotId changedBy notes state.db)
  | .cancelBooking now bookingId changedBy notes actor =>
      state.commit (PsCore.cancelBooking settings now bookingId changedBy notes actor state.db)
  | .startBooking bookingId changedBy notes =>
      state.commit (PsCore.startBooking bookingId changedBy notes state.db)
  | .markTechnicianEnRoute bookingId changedBy notes =>
      state.commit (PsCore.markTechnicianEnRoute bookingId changedBy notes state.db)
  | .completeBooking now bookingId changedBy notes =>
      state.commit (PsCore.completeBooking settings now bookingId changedBy notes state.db)
  | .closeBooking bookingId changedBy notes =>
      state.commit (PsCore.closeBooking bookingId changedBy notes state.db)
  | .recordBalanceCollection now bookingId amount method changedBy notes =>
      state.commit (PsCore.recordBalanceCollection now bookingId amount method changedBy notes state.db)
  | .assignTechnician now bookingId technicianId assignedBy notes reason =>
      state.commit (PsCore.assignTechnician now bookingId technicianId assignedBy notes reason state.db)
  | .removeTechnicianAssignment now bookingId changedBy notes =>
      state.commit (PsCore.removeTechnicianAssignment now bookingId changedBy notes state.db)
  | .createAdvancePaymentOrder bookingId user key providerOrder =>
      state.commit (PsCore.createAdvancePaymentOrder settings bookingId user key providerOrder state.db)
  | .verifyRazorpayPayment now orderId paymentId signature user =>
      { state with
        db := (PsCore.verifyRazorpayPayment settings now orderId paymentId signature user state.db).2 }
  | .dispatchWebhook now eventName payload =>
      { state with db := (PsCore.dispatchWebhook settings now eventName payload state.db).2 }
  | .createRefund now sourceId amount key providerRefund =>
      state.commit (PsCore.createRefund now sourceId amount key providerRefund state.db)
  | .reconcileRefund now refundId providerStatus =>
      state.commit (PsCore.reconcileRefund now refundId providerStatus state.db)
  | .loadLead leadId => match PsCore.loadLead state.db leadId with
      | .ok loaded => { state with loadedLeads := state.loadedLeads ++ [loaded] }
      | .error _ => state
  | .loadBooking bookingId => match state.db.bookings[bookingId]? with
      | some booking => { state with
          loadedBookings := state.loadedBookings ++ [{ bookingId := bookingId, booking := booking }] }
      | none => state
  | .convertLeadToWorkOrder now lead performedBy booking notes =>
      state.commit (state.convert now lead performedBy booking notes)
  | .recordManualLeadPayment now lead amount method reference note =>
      state.commit (do
        let loaded ← orRaise state.loadedLeads[lead]? (.doesNotExist "Lead")
        PsCore.recordManualLeadPayment now loaded amount method reference note state.db)
  | .recordLeadContact now lead note =>
      state.write (do
        let loaded ← orRaise state.loadedLeads[lead]? (.doesNotExist "Lead")
        PsCore.recordLeadContact now state.db.leads loaded.leadId loaded.lead note)
        fun leads => { state.db with leads := leads }
  | .upsertLead now event =>
      state.write (PsCore.upsertLead now state.db.leads event) fun saved => { state.db with leads := saved.2 }
  | .addLead lead =>
      state.write (PsCore.addLead state.db.leads lead) fun saved => { state.db with leads := saved.2 }
  | .editLead leadId lead =>
      state.write (PsCore.editLead state.db.leads leadId lead) fun leads => { state.db with leads := leads }
  | .ensureDailySlots now area date =>
      state.write (PsCore.ensureDailySlots now state.db area date) fun slots => { state.db with slots := slots }
  | .createSlot fields =>
      state.write (PsCore.createSlot state.db.slots fields) fun created => { state.db with slots := created.2 }
  | .loadSlot slotId => match state.db.slots[slotId]? with
      | some slot => { state with loadedSlots := state.loadedSlots ++ [(slotId, slot)] }
      | none => state
  | .validateSlotEdit position edit => match state.loadedSlots[position]? with
      | none => state
      | some (slotId, loaded) => match PsCore.validateSlotEdit state.db slotId loaded edit with
          | .ok fields => { state with validatedSlots := state.validatedSlots ++ [(slotId, fields)] }
          | .error _ => state
  | .saveSlot position => match state.validatedSlots[position]? with
      | none => state
      | some (slotId, fields) => state.write (savedSlot state.db.slots slotId fields)
          fun slot => { state.db with slots := state.db.slots.set slotId slot }
  | .editDirectory directory => { state with db := { state.db with directory := directory } }

/-- Nothing has been booked, paid or loaded yet; slots, leads and references are arbitrary. -/
structure Initial (state : System) : Prop where
  bookings : state.db.bookings = []
  statusHistory : state.db.statusHistory = []
  payments : state.db.payments.rows = []
  assignments : state.db.assignments.rows = []
  notifications : state.db.notifications = []
  loadedLeads : state.loadedLeads = []
  loadedBookings : state.loadedBookings = []
  loadedSlots : state.loadedSlots = []
  validatedSlots : state.validatedSlots = []

end System

/-! A small deployment for runs on concrete input. The digest of a message is the message. -/

def sampleSettings : Settings where
  keySecretHmac := fun message => message.toList.map fun character => Fin.ofNat 256 character.toNat
  razorpayKeyId := "rzp_test"
  bookingCustomerCancelMinHours := 4
  bookingCustomerRescheduleMinHours := 4
  bookingRequireBalanceBeforeCompletion := true

def sampleService : Service where
  basePrice := 100000
  sellingPrice := none
  advancePaymentType := .fixed
  advancePaymentValue := none
  advanceAmount := 20000
  trainingFee := 0
  trainingFeePerUnit := false
  isActive := true
  categoryIsActive := true
  clean := by decide

def sampleUser (phoneNumber : String) : User where
  phoneNumber := phoneNumber
  firstName := "Asha"
  lastName := ""
  displayName := none
  isActive := true
  isVerified := true

def sampleAddress (customer : UserId) : Address where
  customer := customer
  recipientName := "Asha"
  phone := "+919000000001"
  addressLine1 := "12 Residency Road"
  addressLine2 := ""
  locality := ""
  city := "Bengaluru"
  state := "Karnataka"
  postalCode := "560001"
  country := "India"
  isActive := true

def sampleDirectory : Directory where
  users := [sampleUser "+919000000001", sampleUser "+919000000002", sampleUser "+919000000003"]
  services := [sampleService]
  serviceAreas := [{
    city := "Bengaluru"
    state := "Karnataka"
    country := "India"
    postalCode := "560001"
    services := []
    servicesConfigured := false
    isActive := true
  }]
  closures := []
  addresses := [sampleAddress 0, sampleAddress 1]
  technicians := [{
    user := 2
    pincode := ""
    serviceAreas := []
    supportedServices := []
    backgroundVerificationStatus := .verified
    availabilityStatus := .available
    isAvailable := true
    isActive := true
    workingHours := []
    leaves := []
  }]

def sampleSlot : TimeSlot where
  serviceArea := 0
  date := 20460
  startTime := 10 * hour
  endTime := 12 * hour
  capacity := 1
  isActive := true
  capacityPositive := by decide
  ordered := by decide

def sampleSystem : System where
  db := {
    directory := sampleDirectory
    slots := [sampleSlot]
    bookings := []
    statusHistory := []
    payments := .empty
    assignments := .empty
    leads := []
    sequences := []
    notifications := []
  }
  loadedLeads := []
  loadedBookings := []
  loadedSlots := []
  validatedSlots := []

theorem sampleSystem_initial : sampleSystem.Initial := by
  constructor <;> rfl

def sampleNow : Instant := combine 20454 (9 * hour)

def sampleBookingBy (customer : UserId) : Op :=
  .createBooking sampleNow customer { serviceId := 0, addressId := customer, slotId := 0, quantity := 1 }

def samplePaymentEvent (eventName orderId paymentId : String) (amount : Int) : Op :=
  .dispatchWebhook sampleNow eventName (.object [("payload", .object [("payment", .object [("entity",
    .object [("order_id", .text orderId), ("id", .text paymentId), ("amount", .number amount)])])])])

def paidHistory : List Op := [
  sampleBookingBy 0,
  .createAdvancePaymentOrder 0 0 "payment-key-1" (.ok "order_1"),
  samplePaymentEvent "payment.captured" "order_1" "pay_1" 20000]

def sampleLead : Lead where
  customer := none
  customerName := "Asha"
  primaryMobile := "+919000000001"
  requiredService := some 0
  address := "12 Residency Road"
  city := "Bengaluru"
  pincode := "560001"
  source := .phoneCall
  status := .new
  funnelStatus := .visited
  paymentStatus := .notRequired
  preferredDate := some 20461
  preferredSlot := "10:00"
  quotedAmount := none
  advanceAmount := none
  balanceAmount := none
  internalNotes := ""
  adminNotes := ""
  firstSeenAt := sampleNow
  lastActivityAt := sampleNow
  lastContactedAt := none
  convertedBooking := none
  pendingBooking := none
  updatedAt := sampleNow

/-- A caller's lead becomes work order 0; the second loading of the lead knows of it. -/
def workOrdered : List Op := [
  .addLead sampleLead,
  .loadLead 0,
  .convertLeadToWorkOrder sampleNow 0 none none "",
  .loadLead 0]

end PsCore
