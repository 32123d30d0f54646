import PsCore.Bookings
import PsCore.NotificationDelivery
import PsCore.Payments
import PsCore.SaveableLeads

/-!
The journey of leads, one operation at a time: customers view, add, check out, book and pay, administrators send
payment links, convert and record payments. Whatever happens to a lead is one of seven writes.
-/

namespace PsCore

open Fallible RowTable TransitionRun Relation

inductive PaymentScope
  | full
  | advance
  deriving DecidableEq, Repr

def PaymentScope.lower : PaymentScope → String
  | .full => "full"
  | .advance => "advance"

def PaymentScope.name : PaymentScope → String
  | .full => "FULL"
  | .advance => "ADVANCE"

def PaymentScope.amount (lead : Lead) : PaymentScope → Option Money
  | .full => lead.quotedAmount
  | .advance => lead.advanceAmount

inductive LinkChannel
  | sms
  | whatsapp
  deriving DecidableEq, Repr

structure PaymentLink where
  providerId : String
  url : String
  expiresAt : Option Instant
  deriving DecidableEq, Repr

def PaymentLink.absent : PaymentLink where
  providerId := ""
  url := ""
  expiresAt := none

structure LinkNotification where
  recipient : Option UserId
  booking : Option BookingId
  channel : LinkChannel
  title : String
  message : String
  payload : List (String × String)
  delivery : Notification
  deriving DecidableEq, Repr

/-- `isUrl` is the check of the framework's URL column. -/
structure JourneySettings extends Settings where
  frontendAppUrl : String
  leadPaymentLinkExpiryHours : Nat
  isUrl : String → Bool
  notificationProvider : String

/-- The platform with the payment links of its leads and the notifications that carried them. -/
structure LeadBook where
  db : Db
  links : LeadId → PaymentLink
  linkNotifications : List LinkNotification

def Notification.queued : Notification where
  status := .queued
  provider := ""
  providerMessageId := ""
  sendAttempts := 0
  errorMessage := ""
  sentAt := none

def rstripSlashes (text : String) : String :=
  String.ofList (text.toList.reverse.dropWhile (· = '/')).reverse

def leadPaymentUrl (settings : JourneySettings) (leadId : LeadId) (lead : Lead) : String :=
  let appUrl := orText settings.frontendAppUrl "https://purplesquad.netlify.app"
  match lead.convertedBooking with
  | some bookingId => rstripSlashes appUrl ++ "/book/pay/" ++ toString bookingId
  | none => rstripSlashes appUrl ++ "/support?lead=" ++ toString leadId

def PaymentLink.fieldErrors (settings : JourneySettings) (link : PaymentLink) : List (String × String) :=
  charFieldErrors "payment_link_url" 200 true link.url ++
  (if link.url ≠ "" ∧ settings.isUrl link.url = false then [("payment_link_url", "Enter a valid URL.")] else []) ++
  charFieldErrors "payment_link_provider_id" 128 true link.providerId

def PaymentLink.stillOpen (now : Instant) (providerId : String) (link : PaymentLink) : Bool :=
  link.expiresAt.any (now < ·) && link.url != "" && link.providerId == providerId

def linkNotification (settings : JourneySettings) (now : Instant) (leadId : LeadId) (lead : Lead) (link : PaymentLink)
    (scope : PaymentScope) (amount : Money) (channel : LinkChannel) (reply : ProviderReply) : LinkNotification where
  recipient := lead.customer
  booking := lead.convertedBooking
  channel := channel
  title := "Payment link"
  message := "Purple Squad " ++ scope.lower ++ " payment link for ₹" ++ formatAmount amount ++ ": " ++ link.url
  payload := [("lead_id", toString leadId), ("payment_link_url", link.url), ("payment_scope", scope.name),
    ("amount", formatAmount amount)]
  delivery := (sendNotification settings.notificationProvider reply now false .queued .queued).2

def Lead.linkSent (now : Instant) (lead : Lead) : Lead :=
  { lead with
    paymentStatus := .linkSent
    lastActivityAt := now
    updatedAt := now }

/-- Answers whether a link was made; one that is still open is kept. -/
def sendLeadPaymentLink (settings : JourneySettings) (now : Instant) (leadId : LeadId) (scope : PaymentScope)
    (channel : LinkChannel) (reply : ProviderReply) (book : LeadBook) : Except ServiceError (Bool × LeadBook) := do
  let lead ← orRaise book.db.leads[leadId]? (.doesNotExist "Lead")
  require (lead.paymentStatus ≠ .paid) (.validation "Lead is already paid.")
  let amount ← orRaise ((scope.amount lead).filter (0 < ·))
    (.validation ("Lead does not have a valid " ++ scope.lower ++ " amount."))
  let providerId := "lead-link-" ++ toString leadId ++ "-" ++ scope.lower
  if (book.links leadId).stillOpen now providerId then pure (false, book)
  else do
    let link : PaymentLink := {
      providerId := providerId
      url := leadPaymentUrl settings leadId lead
      expiresAt := some (now + settings.leadPaymentLinkExpiryHours * hour)
    }
    require (link.fieldErrors settings = []) (.fieldValidation (link.fieldErrors settings))
    let leads ← saveLead book.db.leads leadId (lead.linkSent now) (lead.linkSent now)
    pure (true, {
      db := { book.db with leads := leads }
      links := fun other => if other = leadId then link else book.links other
      linkNotifications := book.linkNotifications ++
        [linkNotification settings now leadId lead link scope amount channel reply]
    })

inductive JourneyOp
  | captureServiceView (now : Instant) (userId : UserId) (service : ServiceId)
  | markCartAdded (now : Instant) (userId : UserId) (service : ServiceId)
  | markCheckoutStarted (now : Instant) (userId : UserId) (service : ServiceId)
  | createBooking (now : Instant) (customer : UserId) (request : BookingRequest)
  | linkBookingToLead (now : Instant) (bookingId : BookingId)
  | sendLeadPaymentLink (now : Instant) (leadId : LeadId) (scope : PaymentScope) (channel : LinkChannel)
      (reply : ProviderReply)
  | convertLeadToWorkOrder (now : Instant) (leadId : LeadId) (performedBy : Option UserId)
      (booking : Option BookingId) (notes : String)
  | createAdvancePaymentOrder (bookingId : BookingId) (user : UserId) (key : String)
      (providerOrder : Except ServiceError String)
  | verifyRazorpayPayment (now : Instant) (orderId paymentId signature : String) (user : Option UserId)
  | dispatchWebhook (now : Instant) (eventName : String) (payload : Json)
  | recordManualLeadPayment (now : Instant) (leadId : LeadId) (amount : Money) (method reference note : String)

def recordFreshPayment (now : Instant) (leadId : LeadId) (amount : Money) (method reference note : String) (db : Db) :
    Except ServiceError (PaymentId × Db) := do
  let loaded ← loadLead db leadId
  recordManualLeadPayment now loaded amount method reference note db

namespace LeadBook

def leads (book : LeadBook) : List Lead := book.db.leads

def withDb (book : LeadBook) (db : Db) : LeadBook := { book with db := db }

def withLeads (book : LeadBook) (leads : List Lead) : LeadBook := book.withDb { book.db with leads := leads }

def upserted {α : Type} (book : LeadBook) (userId : UserId)
    (capture : User → Except ServiceError (α × List Lead)) : LeadBook :=
  match book.db.directory.users[userId]? with
  | some user => book.withLeads (savedOr book.leads ((capture user).map Prod.snd))
  | none => book

def step (settings : JourneySettings) (book : LeadBook) : JourneyOp → LeadBook
  | .captureServiceView now userId service =>
      book.upserted userId fun user => captureAuthenticatedServiceView now book.leads userId user service
  | .markCartAdded now userId service =>
      book.upserted userId fun user => PsCore.markCartAdded now book.leads userId user service
  | .markCheckoutStarted now userId service =>
      book.upserted userId fun user => PsCore.markCheckoutStarted now book.leads userId user service
  | .createBooking now customer request =>
      book.withDb (commit book.db (PsCore.createBooking now customer request book.db)).2
  | .linkBookingToLead now bookingId => book.withDb (LeadOp.step book.db (.linkBookingToLead now bookingId))
  | .sendLeadPaymentLink now leadId scope channel reply =>
      match PsCore.sendLeadPaymentLink settings now leadId scope channel reply book with
      | .ok (_, next) => next
      | .error _ => book
  | .convertLeadToWorkOrder now leadId performedBy booking notes =>
      book.withDb (commit book.db (convertFreshLead now leadId performedBy booking notes book.db)).2
  | .createAdvancePaymentOrder bookingId user key providerOrder => book.withDb
      (commit book.db (PsCore.createAdvancePaymentOrder settings.toSettings bookingId user key providerOrder book.db)).2
  | .verifyRazorpayPayment now orderId paymentId signature user => book.withDb
      (PsCore.verifyRazorpayPayment settings.toSettings now orderId paymentId signature user book.db).2
  | .dispatchWebhook now eventName payload =>
      book.withDb (PsCore.dispatchWebhook settings.toSettings now eventName payload book.db).2
  | .recordManualLeadPayment now leadId amount method reference note =>
      book.withDb (commit book.db (recordFreshPayment now leadId amount method reference note book.db)).2

end LeadBook

/-! What is written to leads. -/

theorem saveLead_iff {leads next : List Lead} {leadId : LeadId} {object row : Lead} :
    saveLead leads leadId object row = .ok next ↔
      object.fullCleanErrors leads (some leadId) = [] ∧ next = leads.set leadId row := by
  simp only [saveLead, Lead.fullClean, accepted_bind, accepted_require, accepted_pure, exists_const]
  exact and_congr_right fun _ => eq_comm

theorem fieldErrors_of_clean {leads : List Lead} {self : Option LeadId} {lead : Lead}
    (clean : lead.fullCleanErrors leads self = []) : lead.fieldErrors = [] := by
  simp only [Lead.fullCleanErrors, List.append_eq_nil_iff] at clean
  exact clean.1.1

/-- No event of the storefront says more than that the lead has booked and is to pay. -/
def LeadEvent.modest (event : LeadEvent) : Prop :=
  event.funnelStatus.rank ≤ LeadFunnelStatus.booked.rank ∧
    (event.paymentStatus = .notRequired ∨ event.paymentStatus = .pending)

def Lead.paid (now : Instant) (bookingId : BookingId) (lead : Lead) : Lead :=
  { lead with
    status := .converted
    convertedBooking := some bookingId
    pendingBooking := none
    paymentStatus := .paid
    funnelStatus := .paid
    lastActivityAt := now
    updatedAt := now }

inductive LeadWrite (leads : List Lead) : List Lead → Prop
  | merged {leadId : LeadId} {lead : Lead} (now : Instant) (event : LeadEvent) (found : leads[leadId]? = some lead)
      (isModest : event.modest) (clean : (event.merge now lead).fullCleanErrors leads (some leadId) = []) :
      LeadWrite leads (leads.set leadId (event.merge now lead))
  | added (now : Instant) (event : LeadEvent) (isModest : event.modest)
      (clean : (event.merge now (event.newLead now)).fullCleanErrors leads none = []) :
      LeadWrite leads (leads ++ [event.merge now (event.newLead now)])
  | linked {leadId : LeadId} {lead : Lead} (now : Instant) (bookingId : BookingId) (booking : Booking)
      (slot : TimeSlot) (found : leads[leadId]? = some lead)
      (clean : (lead.linked now bookingId booking slot).fullCleanErrors leads (some leadId) = []) :
      LeadWrite leads (leads.set leadId (lead.linked now bookingId booking slot))
  | linkSent {leadId : LeadId} {lead : Lead} (now : Instant) (found : leads[leadId]? = some lead)
      (unpaid : lead.paymentStatus ≠ .paid) (clean : (lead.linkSent now).fullCleanErrors leads (some leadId) = []) :
      LeadWrite leads (leads.set leadId (lead.linkSent now))
  | converted {leadId : LeadId} {lead : Lead} (now : Instant) (customer : UserId) (bookingId : BookingId)
      (notes : String) (found : leads[leadId]? = some lead) (unconverted : lead.isConverted = false) :
      LeadWrite leads (leads.set leadId (lead.converted now customer bookingId notes))
  | paid {leadId : LeadId} {lead : Lead} (now : Instant) (bookingId : BookingId) (found : leads[leadId]? = some lead)
      (clean : (lead.paid now bookingId).fullCleanErrors leads (some leadId) = []) :
      LeadWrite leads (leads.set leadId (lead.paid now bookingId))
  | paidManually {leadId : LeadId} {lead : Lead} (now : Instant) (found : leads[leadId]? = some lead)
      (isConverted : lead.isConverted = true) : LeadWrite leads (leads.set leadId (lead.paidManually now))

abbrev LeadWrites : List Lead → List Lead → Prop := ReflTransGen LeadWrite

theorem upsertLead_checked {now : Instant} {leads next : List Lead} {event : LeadEvent} {leadId : LeadId}
    (accepted : upsertLead now leads event = .ok (leadId, next)) :
    (∃ lead, bestRow event.matches Lead.lastActivityAt leads = some (leadId, lead) ∧
      (event.merge now lead).fullCleanErrors leads (some leadId) = [] ∧
      next = leads.set leadId (event.merge now lead)) ∨
    (bestRow event.matches Lead.lastActivityAt leads = none ∧
      (event.merge now (event.newLead now)).fullCleanErrors leads none = [] ∧
      leadId = leads.length ∧ next = leads ++ [event.merge now (event.newLead now)]) := by
  unfold upsertLead at accepted
  split at accepted
  · rename_i key lead best
    simp only [accepted_bind, accepted_pure, Prod.mk.injEq, saveLead_iff] at accepted
    obtain ⟨saved, ⟨clean, rfl⟩, rfl, rfl⟩ := accepted
    exact .inl ⟨lead, best, clean, rfl⟩
  · rename_i absent
    simp only [Lead.fullClean, accepted_bind, accepted_require, accepted_pure, Prod.mk.injEq] at accepted
    obtain ⟨_, clean, rfl, rfl⟩ := accepted
    exact .inr ⟨absent, clean, rfl, rfl⟩

theorem upsertLead_writes {now : Instant} {leads next : List Lead} {event : LeadEvent} {leadId : LeadId}
    (isModest : event.modest) (accepted : upsertLead now leads event = .ok (leadId, next)) :
    LeadWrites leads next := by
  rcases upsertLead_checked accepted with ⟨lead, best, clean, rfl⟩ | ⟨_, clean, _, rfl⟩
  · exact .single (.merged now event (bestRow_some best).1 isModest clean)
  · exact .single (.added now event isModest clean)

def serviceEvent (userId : UserId) (user : User) (service : ServiceId) (source : LeadSource)
    (statuses : LeadFunnelStatus × LeadPaymentStatus) : LeadEvent where
  mobileNumber := user.phoneNumber
  customerName := user.customerName
  service := some service
  customer := some userId
  source := source
  funnelStatus := statuses.1
  paymentStatus := statuses.2

theorem serviceEvent_modest {userId : UserId} {user : User} {service : ServiceId} {source : LeadSource}
    {statuses : LeadFunnelStatus × LeadPaymentStatus}
    (isOne : statuses = (.visited, .notRequired) ∨ statuses = (.cartAdded, .notRequired) ∨
      statuses = (.unpaid, .pending)) : (serviceEvent userId user service source statuses).modest := by
  rcases isOne with rfl | rfl | rfl
  · exact ⟨Nat.le_of_ble_eq_true rfl, .inl rfl⟩
  · exact ⟨Nat.le_of_ble_eq_true rfl, .inl rfl⟩
  · exact ⟨Nat.le_of_ble_eq_true rfl, .inr rfl⟩

def bookingEvent (customer : User) (booking : Booking) : LeadEvent where
  mobileNumber := customer.phoneNumber
  customerName := customer.customerName
  service := some booking.service
  customer := some booking.customer
  source := .checkout
  funnelStatus := .booked
  paymentStatus := if booking.advanceRequired > 0 then .pending else .notRequired

theorem bookingEvent_modest (customer : User) (booking : Booking) : (bookingEvent customer booking).modest := by
  refine ⟨Nat.le_refl _, ?_⟩
  simp only [bookingEvent]
  split
  · exact .inr rfl
  · exact .inl rfl

section

variable {now : Instant} {leads : List Lead} {customer : User} {slot : TimeSlot} {bookingId : BookingId}
  {booking : Booking}

theorem linkBookingToLead_cases (now : Instant) (leads : List Lead) (customer : User) (slot : TimeSlot)
    (bookingId : BookingId) (booking : Booking) :
    (∃ error, upsertLead now leads (bookingEvent customer booking) = .error error ∧
      linkBookingToLead now leads customer slot bookingId booking = (.error error, leads)) ∨
    ∃ leadId saved lead, upsertLead now leads (bookingEvent customer booking) = .ok (leadId, saved) ∧
      saved[leadId]? = some lead ∧
      (((lead.linked now bookingId booking slot).fullCleanErrors saved (some leadId) ≠ [] ∧
          ∃ error, linkBookingToLead now leads customer slot bookingId booking = (.error error, saved)) ∨
        ((lead.linked now bookingId booking slot).fullCleanErrors saved (some leadId) = [] ∧
          linkBookingToLead now leads customer slot bookingId booking =
            (.ok leadId, saved.set leadId (lead.linked now bookingId booking slot)))) := by
  cases upserted : upsertLead now leads (bookingEvent customer booking) with
  | error error =>
      refine .inl ⟨error, rfl, ?_⟩
      rw [bookingEvent] at upserted
      simp only [linkBookingToLead, upserted]
  | ok result =>
      obtain ⟨leadId, saved⟩ := result
      obtain ⟨lead, stored⟩ : ∃ lead, saved[leadId]? = some lead := by
        rcases upsertLead_checked upserted with ⟨lead, best, _, rfl⟩ | ⟨_, _, rfl, rfl⟩
        · exact ⟨_, List.getElem?_set_self (List.getElem?_eq_some_iff.mp (bestRow_some best).1).1⟩
        · exact ⟨_, List.getElem?_concat_length⟩
      refine .inr ⟨leadId, saved, lead, rfl, stored, ?_⟩
      rw [bookingEvent] at upserted
      by_cases clean : (lead.linked now bookingId booking slot).fullCleanErrors saved (some leadId) = []
      · refine .inr ⟨clean, ?_⟩
        simp only [linkBookingToLead, upserted, stored, saveLead_iff.mpr ⟨clean, rfl⟩]
      · refine .inl ⟨clean, ?_⟩
        simp only [linkBookingToLead, upserted, stored]
        split
        · exact ⟨_, rfl⟩
        · rename_i accepted
          exact absurd (saveLead_iff.mp accepted).1 clean

theorem linkBookingToLead_writes :
    LeadWrites leads (linkBookingToLead now leads customer slot bookingId booking).2 := by
  rcases linkBookingToLead_cases now leads customer slot bookingId booking with
    ⟨error, _, stopped⟩ | ⟨leadId, saved, lead, upserted, stored, ⟨_, error, stopped⟩ | ⟨clean, linked⟩⟩
  · rw [stopped]
  · rw [stopped]
    exact upsertLead_writes (bookingEvent_modest customer booking) upserted
  · rw [linked]
    exact (upsertLead_writes (bookingEvent_modest customer booking) upserted).tail
      (.linked now bookingId booking slot stored clean)

theorem markBookingPaymentPaid_cases (now : Instant) (leads : List Lead) (customer : User) (slot : TimeSlot)
    (bookingId : BookingId) (booking : Booking) :
    (∃ error, (leadOfBooking now leads customer slot bookingId booking).1 = .error error ∧
      (markBookingPaymentPaid now leads customer slot bookingId booking).2 =
        (leadOfBooking now leads customer slot bookingId booking).2) ∨
    ∃ leadId saved lead, leadOfBooking now leads customer slot bookingId booking = (.ok leadId, saved) ∧
      saved[leadId]? = some lead ∧
      (((lead.paid now bookingId).fullCleanErrors saved (some leadId) ≠ [] ∧
          (markBookingPaymentPaid now leads customer slot bookingId booking).2 = saved) ∨
        ((lead.paid now bookingId).fullCleanErrors saved (some leadId) = [] ∧
          (markBookingPaymentPaid now leads customer slot bookingId booking).2 =
            saved.set leadId (lead.paid now bookingId))) := by
  rcases located : leadOfBooking now leads customer slot bookingId booking with ⟨answer, saved⟩
  cases answer with
  | error error => exact .inl ⟨error, rfl, by simp only [markBookingPaymentPaid, located]⟩
  | ok leadId =>
      obtain ⟨lead, stored⟩ : ∃ lead, saved[leadId]? = some lead := by
        unfold leadOfBooking at located
        split at located
        · rename_i best
          cases located
          exact ⟨_, (bestRow_some best).1⟩
        · rcases linkBookingToLead_cases now leads customer slot bookingId booking with
            ⟨error, _, stopped⟩ | ⟨_, middle, lead, _, stored, ⟨_, error, stopped⟩ | ⟨_, linked⟩⟩
          · rw [located] at stopped
            cases stopped
          · rw [located] at stopped
            cases stopped
          · rw [located] at linked
            cases linked
            exact ⟨_, List.getElem?_set_self (List.getElem?_eq_some_iff.mp stored).1⟩
      refine .inr ⟨leadId, saved, lead, rfl, stored, ?_⟩
      by_cases clean : (lead.paid now bookingId).fullCleanErrors saved (some leadId) = []
      · refine .inr ⟨clean, ?_⟩
        have saves := saveLead_iff.mpr ⟨clean, Eq.refl (saved.set leadId (lead.paid now bookingId))⟩
        rw [Lead.paid] at saves
        simp only [markBookingPaymentPaid, located, stored, saves, Lead.paid]
      · refine .inl ⟨clean, ?_⟩
        simp only [markBookingPaymentPaid, located, stored]
        split
        · rfl
        · rename_i accepted
          exact absurd (saveLead_iff.mp accepted).1 clean

theorem leadOfBooking_writes : LeadWrites leads (leadOfBooking now leads customer slot bookingId booking).2 := by
  unfold leadOfBooking
  split
  · exact .refl
  · exact linkBookingToLead_writes

theorem markBookingPaymentPaid_writes :
    LeadWrites leads (markBookingPaymentPaid now leads customer slot bookingId booking).2 := by
  have located : LeadWrites leads (leadOfBooking now leads customer slot bookingId booking).2 := leadOfBooking_writes
  rcases markBookingPaymentPaid_cases now leads customer slot bookingId booking with
    ⟨error, _, stopped⟩ | ⟨leadId, saved, lead, found, stored, ⟨_, stopped⟩ | ⟨clean, paid⟩⟩
  · rw [stopped]
    exact located
  · rw [stopped]
    rw [found] at located
    exact located
  · rw [paid]
    rw [found] at located
    exact located.tail (.paid now bookingId stored clean)

end

/-! Payments reach leads through the synchronisation of a confirmed booking only. -/

section

variable {settings : Settings} {now : Instant}

theorem syncPaidLead_writes {db : Db} {bookingId : BookingId} {booking : Booking} :
    LeadWrites db.leads (syncPaidLead now db bookingId booking) := by
  unfold syncPaidLead
  split
  · exact markBookingPaymentPaid_writes
  · exact .refl

def PaymentChange.syncedLeads (now : Instant) (db : Db) : PaymentChange → List Lead
  | .confirm locked _ =>
      syncPaidLead now db locked.payment.booking (locked.booking.confirmedBy now locked.payment.amount)
  | .unchanged _ | .fail _ _ => db.leads

theorem apply_leads (now : Instant) (changedBy : Option UserId) (db : Db) (change : PaymentChange) :
    (change.apply now changedBy db).leads = change.syncedLeads now db := by
  cases change with
  | unchanged paymentId => rfl
  | confirm locked payments =>
      simp only [PaymentChange.apply, confirmBookingAfterPayment, PaymentChange.syncedLeads]
      split <;> rfl
  | fail locked payments =>
      simp only [PaymentChange.apply, markPaymentFailed, PaymentChange.syncedLeads]
      split <;> rfl

theorem verifyRazorpayPayment_leads (settings : Settings) (now : Instant) (orderId paymentId signature : String)
    (user : Option UserId) (db : Db) :
    (verifyRazorpayPayment settings now orderId paymentId signature user db).2.leads =
      match verificationChange settings now orderId paymentId signature user db with
      | .ok change => change.syncedLeads now db
      | .error _ => db.leads := by
  cases changed : verificationChange settings now orderId paymentId signature user db with
  | error error => simp only [verifyRazorpayPayment, changed]
  | ok change => simp only [verifyRazorpayPayment, changed, apply_leads]

theorem settleRefund_kept {settlement : RefundSettlement} {initiated completed : Bool} {db next : Db}
    (accepted : settleRefund settlement initiated completed db = .ok next) :
    next.leads = db.leads ∧ next.directory = db.directory := by
  simp only [settleRefund, accepted_bind, accepted_pure] at accepted
  obtain ⟨applied, settled, rfl⟩ := accepted
  have appliedKept : applied.leads = db.leads ∧ applied.directory = db.directory := by
    simp only [applyRefundState] at settled
    split at settled
    · simp only [accepted_bind, accepted_pure] at settled
      obtain ⟨_, _, rfl⟩ := settled
      exact ⟨rfl, rfl⟩
    · cases settled
      exact ⟨rfl, rfl⟩
  cases initiated <;> cases completed <;> exact appliedKept

theorem dispatchWebhook_leads (settings : Settings) (now : Instant) (eventName : String) (payload : Json) (db : Db) :
    (dispatchWebhook settings now eventName payload db).2.leads = db.leads ∨
    ∃ orderId paymentId, eventName = "payment.captured" ∧ capturedPayment payload db = .ok (orderId, paymentId) ∧
      (dispatchWebhook settings now eventName payload db).2 = (verifyRazorpayPayment settings now orderId paymentId
        (makePaymentSignature settings orderId paymentId) none db).2 := by
  unfold dispatchWebhook
  split
  · rename_i isCapture
    cases captured : capturedPayment payload db with
    | error error => exact .inl rfl
    | ok names => exact .inr ⟨names.1, names.2, isCapture, rfl, rfl⟩
  · refine .inl ?_
    split
    · cases changed : failedPaymentChange payload db with
      | error error => rfl
      | ok change =>
          have confirmsNot : change.syncedLeads now db = db.leads := by
            simp only [failedPaymentChange, accepted_bind, accepted_require] at changed
            obtain ⟨_, _, _, _, _, _, locked, _, decided⟩ := changed
            split at decided
            · simp only [accepted_pure] at decided
              subst decided
              rfl
            · simp only [accepted_bind, accepted_pure] at decided
              obtain ⟨_, _, _, _, rfl⟩ := decided
              rfl
          rw [← confirmsNot]
          exact apply_leads now none db change
    · split
      · cases refunded : processRefundWebhook now payload db with
        | error error => rfl
        | ok processed =>
            simp only [processRefundWebhook, accepted_bind, accepted_pure] at refunded
            obtain ⟨_, _, _, settled, rfl⟩ := refunded
            exact (settleRefund_kept settled).1
      · rfl

theorem verifyRazorpayPayment_writes (orderId paymentId signature : String) (user : Option UserId) (db : Db) :
    LeadWrites db.leads (verifyRazorpayPayment settings now orderId paymentId signature user db).2.leads := by
  rw [verifyRazorpayPayment_leads]
  split
  · rename_i change _
    cases change with
    | confirm locked payments => exact syncPaidLead_writes
    | unchanged paymentId => exact .refl
    | fail locked payments => exact .refl
  · exact .refl

theorem dispatchWebhook_writes (eventName : String) (payload : Json) (db : Db) :
    LeadWrites db.leads (dispatchWebhook settings now eventName payload db).2.leads := by
  rcases dispatchWebhook_leads settings now eventName payload db with same | ⟨orderId, paymentId, _, _, verified⟩
  · rw [same]
  · rw [verified]
    exact verifyRazorpayPayment_writes orderId paymentId _ none db

end

section

variable {now : Instant} {db next : Db}

theorem createBooking_writes {customer : UserId} {request : BookingRequest} {bookingId : BookingId}
    (accepted : createBooking now customer request db = .ok (bookingId, next)) : LeadWrites db.leads next.leads := by
  obtain ⟨user, slot, booking, _, _, leads⟩ := createBooking_leads accepted
  rw [leads]
  exact linkBookingToLead_writes

structure PreparedFor (lead : Lead) (db prepared : Db) (customer : UserId) (serviceId : ServiceId) : Prop where
  leads : prepared.leads = db.leads
  bookings : prepared.bookings = db.bookings
  users : db.directory.users.length ≤ prepared.directory.users.length
  slots : db.slots.length ≤ prepared.slots.length
  service : lead.requiredService = some serviceId
  mobile : ∀ user, prepared.directory.users[customer]? = some user → user.phoneNumber = lead.primaryMobile

theorem createBookingFromLead_creates {lead : Lead} {bookingId : BookingId}
    (accepted : createBookingFromLead now lead db = .ok (bookingId, next)) :
    ∃ customer request prepared, PreparedFor lead db prepared customer request.serviceId ∧
      createBooking now customer request prepared = .ok (bookingId, next) := by
  obtain ⟨preparation, sound, created⟩ := createBookingFromLead_prepares accepted
  refine ⟨_, _, _, ⟨?leads, ?bookings, ?users, ?slots, sound.service, fun user => customerOfLead_phone⟩, created⟩
  case leads => rfl
  case bookings => rfl
  case users =>
    simp only [LeadPreparation.prepared, customerOfLead]
    split <;> simp
  case slots =>
    rcases getOrCreateSlot_accepted sound.slot with same | ⟨slot, added⟩
    · exact Nat.le_of_eq (congrArg List.length same).symm
    · show db.slots.length ≤ preparation.slots.length
      rw [added]
      simp

def SameConversion (before after : Lead) : Prop :=
  after.isConverted = before.isConverted

theorem SameConversion.refl (lead : Lead) : SameConversion lead lead := Eq.refl lead.isConverted

theorem SameConversion.trans (first second third : Lead) (one : SameConversion first second)
    (two : SameConversion second third) : SameConversion first third :=
  Eq.trans two one

theorem linkBookingToLead_kept (now : Instant) (leads : List Lead) (customer : User) (slot : TimeSlot)
    (bookingId : BookingId) (booking : Booking) :
    KeptBy SameConversion leads
      (linkBookingToLead now leads customer slot bookingId booking).2 := by
  have upsertKeeps : ∀ leadId saved, upsertLead now leads (bookingEvent customer booking) = .ok (leadId, saved) →
      KeptBy SameConversion leads saved := by
    intro leadId saved upserted
    rcases upsertLead_checked upserted with ⟨lead, best, _, rfl⟩ | ⟨_, _, _, rfl⟩
    · exact .set SameConversion.refl (bestRow_some best).1 (Eq.refl lead.isConverted)
    · exact .append SameConversion.refl leads _
  rcases linkBookingToLead_cases now leads customer slot bookingId booking with
    ⟨error, _, stopped⟩ | ⟨leadId, saved, lead, upserted, stored, ⟨_, error, stopped⟩ | ⟨_, linked⟩⟩
  · rw [stopped]
    exact .refl SameConversion.refl leads
  · rw [stopped]
    exact upsertKeeps leadId saved upserted
  · rw [linked]
    exact (upsertKeeps leadId saved upserted).trans SameConversion.trans
      (.set SameConversion.refl stored (Eq.refl lead.isConverted))

theorem workOrderBooking_writes {loaded : LoadedLead} {booking : Option LoadedBooking} {object : LoadedBooking}
    (accepted : workOrderBooking now loaded booking db = .ok (object, next)) :
    LeadWrites db.leads next.leads ∧
      KeptBy SameConversion db.leads next.leads := by
  cases booking with
  | some given =>
      obtain ⟨_, row, _, rfl⟩ := workOrderBooking_given accepted
      exact ⟨.refl, .refl SameConversion.refl _⟩
  | none =>
      obtain ⟨made, service, created, _, _, rfl⟩ := workOrderBooking_new accepted
      obtain ⟨customer, request, prepared, prepares, created⟩ := createBookingFromLead_creates created
      obtain ⟨user, slot, booking, _, _, leads⟩ := createBooking_leads created
      have writes : LeadWrites db.leads made.leads := prepares.leads ▸ createBooking_writes created
      refine ⟨writes, ?_⟩
      have kept := linkBookingToLead_kept now prepared.leads user slot prepared.bookings.length booking
      rw [← leads, prepares.leads] at kept
      exact kept

theorem convertFreshLead_loads {leadId : LeadId} {performedBy : Option UserId} {booking : Option BookingId}
    {notes : String} {lead : Lead}
    (accepted : convertFreshLead now leadId performedBy booking notes db = .ok (lead, next)) :
    ∃ loaded object, db.leads[loaded.leadId]? = some loaded.lead ∧ loaded.leadId = leadId ∧
      object.map LoadedBooking.bookingId = booking ∧
      convertLeadToWorkOrder now loaded performedBy object notes db = .ok (lead, next) := by
  simp only [convertFreshLead, loadLead, accepted_bind, accepted_orRaise, accepted_pure] at accepted
  obtain ⟨loaded, ⟨stored, found, rfl⟩, converted⟩ := accepted
  cases booking with
  | none => exact ⟨_, none, found, rfl, rfl, converted⟩
  | some bookingId =>
      simp only [freshBooking, accepted_bind, accepted_orRaise, accepted_pure] at converted
      obtain ⟨object, ⟨row, _, rfl⟩, converted⟩ := converted
      exact ⟨_, some _, found, rfl, rfl, converted⟩

theorem convertFreshLead_writes {leadId : LeadId} {performedBy : Option UserId} {booking : Option BookingId}
    {notes : String} {lead : Lead}
    (accepted : convertFreshLead now leadId performedBy booking notes db = .ok (lead, next)) :
    LeadWrites db.leads next.leads := by
  obtain ⟨loaded, object, found, _, _, converted⟩ := convertFreshLead_loads accepted
  rcases convertLeadToWorkOrder_cases converted with ⟨_, _, rfl⟩ |
    ⟨made, booked, leads, unconverted, ordered, saved, rfl⟩
  · exact .refl
  · obtain ⟨writes, kept⟩ := workOrderBooking_writes ordered
    obtain ⟨row, internalNotes, foundRow, rfl, stored⟩ := saveConvertedLead_saves saved
    obtain ⟨_, rfl⟩ := saveLead_accepted stored
    obtain ⟨after, foundAfter, same⟩ := kept _ _ found
    rw [foundRow, Option.some.injEq] at foundAfter
    subst foundAfter
    refine writes.tail (.converted now _ _ _ foundRow ?_)
    rw [same]
    exact unconverted

theorem recordFreshPayment_cases {leadId : LeadId} {amount : Money} {method reference note : String}
    {paymentId : PaymentId}
    (accepted : recordFreshPayment now leadId amount method reference note db = .ok (paymentId, next)) :
    ∃ lead bookingId booking payments, db.leads[leadId]? = some lead ∧ lead.convertedBooking = some bookingId ∧
      db.bookings[bookingId]? = some booking ∧
      db.payments.insert? (newManualPayment now leadId bookingId amount reference) = some payments ∧
      (lead.paidManually now).fullCleanErrors db.leads (some leadId) = [] ∧
      paymentId = db.payments.rows.length ∧ next = { db with
        payments := payments
        bookings := db.bookings.set bookingId (booking.paidManually amount)
        leads := db.leads.set leadId (lead.paidManually now) } := by
  simp only [recordFreshPayment, loadLead, accepted_bind, accepted_orRaise, accepted_pure] at accepted
  obtain ⟨loaded, ⟨lead, found, rfl⟩, recorded⟩ := accepted
  obtain ⟨entry, row, _, _, linked, booked, inserted, foundRow, saved, isPayment, isNext⟩ :=
    recordManualLeadPayment_cases recorded
  have sameRow : lead = row := Option.some.inj (found.symm.trans foundRow)
  subst sameRow
  obtain ⟨clean, written⟩ := saveLead_iff.mp saved
  rw [written] at isNext
  exact ⟨lead, entry.bookingId, entry.booking, entry.payments, found, linked, booked, inserted, clean, isPayment,
    isNext⟩

theorem recordFreshPayment_writes {leadId : LeadId} {amount : Money} {method reference note : String}
    {paymentId : PaymentId}
    (accepted : recordFreshPayment now leadId amount method reference note db = .ok (paymentId, next)) :
    LeadWrites db.leads next.leads := by
  obtain ⟨lead, bookingId, _, _, found, hasBooking, _, _, saved, _, rfl⟩ := recordFreshPayment_cases accepted
  simp only [Lead.fullCleanErrors, List.append_eq_nil_iff] at saved
  have clean := Lead.clean_iff.mp saved.1.2
  refine .single (.paidManually now found ?_)
  have status : lead.status = .converted := clean.linked.mp (hasBooking ▸ Option.some_ne_none bookingId)
  simp [Lead.isConverted, status, hasBooking]

theorem sendLeadPaymentLink_writes {settings : JourneySettings} {leadId : LeadId} {scope : PaymentScope}
    {channel : LinkChannel} {reply : ProviderReply} {book later : LeadBook} {made : Bool}
    (accepted : sendLeadPaymentLink settings now leadId scope channel reply book = .ok (made, later)) :
    LeadWrites book.leads later.leads := by
  simp only [sendLeadPaymentLink, accepted_bind, accepted_orRaise, accepted_require] at accepted
  obtain ⟨lead, found, _, unpaid, amount, _, sent⟩ := accepted
  split at sent
  · cases sent
    exact .refl
  · simp only [accepted_bind, accepted_require, accepted_pure, saveLead_iff, Prod.mk.injEq] at sent
    obtain ⟨_, _, _, ⟨clean, rfl⟩, _, rfl⟩ := sent
    exact .single (.linkSent now found unpaid clean)

end

theorem captureAuthenticatedServiceView_cases {now : Instant} {leads next : List Lead} {userId : UserId} {user : User}
    {service : ServiceId} {answer : Option LeadId}
    (captured : captureAuthenticatedServiceView now leads userId user service = .ok (answer, next)) :
    next = leads ∨ ∃ leadId, upsertLead now leads
      (serviceEvent userId user service .serviceView (.visited, .notRequired)) = .ok (leadId, next) := by
  unfold captureAuthenticatedServiceView at captured
  split at captured
  · cases captured
    exact .inl rfl
  · simp only [accepted_bind, accepted_pure, Prod.mk.injEq] at captured
    obtain ⟨⟨leadId, saved⟩, accepted, _, rfl⟩ := captured
    exact .inr ⟨leadId, accepted⟩

theorem createAdvancePaymentOrder_leads {settings : Settings} {bookingId : BookingId} {user : UserId} {key : String}
    {providerOrder : Except ServiceError String} {answer : PaymentId × OrderResponse} {db next : Db}
    (accepted : createAdvancePaymentOrder settings bookingId user key providerOrder db = .ok (answer, next)) :
    next.leads = db.leads := by
  rcases createAdvancePaymentOrder_cases accepted with ⟨_, _, _, _, _, rfl⟩ | ⟨_, _, _, _, _, _, _, rfl⟩ <;> rfl

namespace LeadBook

variable {settings : JourneySettings} {book : LeadBook}

theorem upserted_writes {α : Type} {userId : UserId} {capture : User → Except ServiceError (α × List Lead)}
    (writes : ∀ user answer next, capture user = .ok (answer, next) → LeadWrites book.leads next) :
    LeadWrites book.leads (book.upserted userId capture).leads := by
  unfold upserted
  split
  · rename_i user _
    cases captured : capture user with
    | error error => exact .refl
    | ok result => exact writes user result.1 result.2 captured
  · exact .refl

theorem committed_writes {α : Type} {transaction : Except ServiceError (α × Db)}
    (writes : ∀ answer next, transaction = .ok (answer, next) → LeadWrites book.leads next.leads) :
    LeadWrites book.leads (book.withDb (commit book.db transaction).2).leads := by
  cases outcome : transaction with
  | error error => exact .refl
  | ok result => exact writes result.1 result.2 outcome

theorem step_writes (settings : JourneySettings) (book : LeadBook) (op : JourneyOp) :
    LeadWrites book.leads (step settings book op).leads := by
  cases op with
  | captureServiceView now userId service =>
      refine upserted_writes fun user answer next captured => ?_
      rcases captureAuthenticatedServiceView_cases captured with rfl | ⟨leadId, accepted⟩
      · exact .refl
      · exact upsertLead_writes (serviceEvent_modest (.inl rfl)) accepted
  | markCartAdded now userId service =>
      exact upserted_writes fun user answer next accepted =>
        upsertLead_writes (serviceEvent_modest (.inr (.inl rfl))) accepted
  | markCheckoutStarted now userId service =>
      exact upserted_writes fun user answer next accepted =>
        upsertLead_writes (serviceEvent_modest (.inr (.inr rfl))) accepted
  | createBooking now customer request =>
      exact committed_writes fun answer next accepted => createBooking_writes accepted
  | linkBookingToLead now bookingId =>
      simp only [step, LeadOp.step]
      split
      · exact linkBookingToLead_writes
      · exact .refl
  | sendLeadPaymentLink now leadId scope channel reply =>
      simp only [step]
      split
      · rename_i made next accepted
        exact sendLeadPaymentLink_writes accepted
      · exact .refl
  | convertLeadToWorkOrder now leadId performedBy booking notes =>
      exact committed_writes fun answer next accepted => convertFreshLead_writes accepted
  | createAdvancePaymentOrder bookingId user key providerOrder =>
      refine committed_writes fun answer next accepted => ?_
      rw [createAdvancePaymentOrder_leads accepted]
      exact .refl
  | verifyRazorpayPayment now orderId paymentId signature user =>
      exact verifyRazorpayPayment_writes orderId paymentId signature user book.db
  | dispatchWebhook now eventName payload => exact dispatchWebhook_writes eventName payload book.db
  | recordManualLeadPayment now leadId amount method reference note =>
      exact committed_writes fun answer next accepted => recordFreshPayment_writes accepted

end LeadBook

def sampleJourneySettings : JourneySettings where
  toSettings := sampleSettings
  frontendAppUrl := ""
  leadPaymentLinkExpiryHours := 24
  isUrl := fun url => "https://purplesquad.netlify.app/".isPrefixOf url
  notificationProvider := "local"

def callerLead : Lead := { sampleLead with primaryMobile := "+919000000002" }

def enteredLeads : LeadBook where
  db := { sampleSystem.db with leads := [{ sampleLead with advanceAmount := some 20000 }, callerLead] }
  links := fun _ => .absent
  linkNotifications := []

end PsCore
