import PsCore.Library.AuditTrail
import PsCore.LeadJourneys

/-!
The status history of leads. Administrators enter, edit and mark leads while customers move them along; a lead
that a customer has made starts as a new one without an entry, and every later change of status is written down.
-/

namespace PsCore

open Fallible RowTable TransitionRun

structure LeadStatusHistory where
  lead : LeadId
  fromStatus : Option LeadStatus
  toStatus : LeadStatus
  changedBy : Option UserId
  notes : String
  deriving DecidableEq, Repr

structure LeadOffice where
  book : LeadBook
  history : List LeadStatusHistory

def workOrderNumber (lead : Lead) (db : Db) : String :=
  (lead.convertedBooking.bind (db.bookings[·]?)).elim "" Booking.bookingNumber

def conversionHistory (performedBy : Option UserId) (leadId : LeadId) (notes : String) (previous lead : Lead)
    (db : Db) : List LeadStatusHistory :=
  if previous.status = .converted then []
  else [{
    lead := leadId
    fromStatus := some previous.status
    toStatus := .converted
    changedBy := performedBy
    notes := orText notes ("Work order " ++ workOrderNumber lead db ++ " created.")
  }]

def paymentHistory (now : Instant) (changedBy : Option UserId) (leads : List Lead) (customer : User) (slot : TimeSlot)
    (bookingId : BookingId) (booking : Booking) : List LeadStatusHistory :=
  match (markBookingPaymentPaid now leads customer slot bookingId booking).1 with
  | .error _ => []
  | .ok leadId =>
      -- the lead as it was found or made, before it is marked
      match (leadOfBooking now leads customer slot bookingId booking).2[leadId]? with
      | none => []
      | some lead =>
          if lead.status = .converted then []
          else [{
            lead := leadId
            fromStatus := some lead.status
            toStatus := .converted
            changedBy := changedBy
            notes := "Payment confirmed for work order " ++ booking.bookingNumber ++ "."
          }]

def syncHistory (now : Instant) (changedBy : Option UserId) (db : Db) (bookingId : BookingId) (booking : Booking) :
    List LeadStatusHistory :=
  match db.directory.users[booking.customer]?, db.slots[booking.timeSlot]? with
  | some customer, some slot => paymentHistory now changedBy db.leads customer slot bookingId booking
  | _, _ => []

def verificationHistory (settings : Settings) (now : Instant) (orderId paymentId signature : String)
    (user : Option UserId) (db : Db) : List LeadStatusHistory :=
  match verificationChange settings now orderId paymentId signature user db with
  | .ok (.confirm locked _) =>
      syncHistory now user db locked.payment.booking (locked.booking.confirmedBy now locked.payment.amount)
  | _ => []

def JourneyOp.leadHistory (settings : Settings) (db : Db) : JourneyOp → List LeadStatusHistory
  | .convertLeadToWorkOrder now leadId performedBy booking notes =>
      match db.leads[leadId]?, convertFreshLead now leadId performedBy booking notes db with
      | some previous, .ok (lead, next) => conversionHistory performedBy leadId notes previous lead next
      | _, _ => []
  | .verifyRazorpayPayment now orderId paymentId signature user =>
      verificationHistory settings now orderId paymentId signature user db
  | .dispatchWebhook now eventName payload =>
      if eventName = "payment.captured" then
        match capturedPayment payload db with
        | .ok (orderId, paymentId) => verificationHistory settings now orderId paymentId
            (makePaymentSignature settings orderId paymentId) none db
        | .error _ => []
      else []
  | .captureServiceView .. | .markCartAdded .. | .markCheckoutStarted .. | .createBooking .. | .linkBookingToLead ..
  | .sendLeadPaymentLink .. | .createAdvancePaymentOrder .. | .recordManualLeadPayment .. => []

/-! The administrators. -/

inductive BulkStatus
  | contacted
  | interested
  | followUp
  | lost
  | closed
  deriving DecidableEq, Repr

def BulkStatus.status : BulkStatus → LeadStatus
  | .contacted => .contacted
  | .interested => .interested
  | .followUp => .followUp
  | .lost => .lost
  | .closed => .closed

def BulkStatus.label : BulkStatus → String
  | .contacted => "contacted"
  | .interested => "interested"
  | .followUp => "follow-up"
  | .lost => "lost"
  | .closed => "closed"

/-- The rows that an action of the admin list was started on, in their order there. -/
structure LeadSelection where
  ids : List LeadId
  distinct : ids.Nodup

def LeadSelection.excluding (selection : LeadSelection) (status : LeadStatus) (leads : List Lead) :
    List (LeadId × Lead) :=
  selection.ids.filterMap fun leadId => (leads[leadId]?.filter (·.status ≠ status)).map (leadId, ·)

namespace LeadOffice

def leads (office : LeadOffice) : List Lead := office.book.leads

def written (office : LeadOffice) (leads : List Lead) (entries : List LeadStatusHistory) : LeadOffice where
  book := office.book.withLeads leads
  history := office.history ++ entries

def opening (actor : UserId) (leadId : LeadId) (lead : Lead) (notes : String) : LeadStatusHistory where
  lead := leadId
  fromStatus := none
  toStatus := lead.status
  changedBy := some actor
  notes := notes

/-- `perform_create`. The customer stays where the lead is refused. -/
def performCreate (now : Instant) (actor : UserId) (lead : Lead) (office : LeadOffice) : LeadOffice :=
  let (customer, users) := customerOfLead office.book.db.directory.users lead
  let known : LeadOffice := { office with
    book := office.book.withDb { office.book.db with directory := { office.book.db.directory with users := users } } }
  let entered := { lead with customer := some customer, updatedAt := now }
  match addLead known.leads entered with
  | .error _ => known
  | .ok (leadId, leads) => known.written leads [opening actor leadId entered "Lead created from admin API."]

def changeHistory (actor : UserId) (leadId : LeadId) (previous lead : Lead) : List LeadStatusHistory :=
  if previous.status = lead.status then []
  else [{
    lead := leadId
    fromStatus := some previous.status
    toStatus := lead.status
    changedBy := some actor
    notes := lead.internalNotes
  }]

def performUpdate (now : Instant) (actor : UserId) (leadId : LeadId) (lead : Lead) (office : LeadOffice) :
    Except ServiceError LeadOffice := do
  let previous ← orRaise office.leads[leadId]? (.doesNotExist "Lead")
  let leads ← editLead office.leads leadId { lead with updatedAt := now }
  pure (office.written leads (changeHistory actor leadId previous lead))

def saveModel (now : Instant) (actor : UserId) (target : Option LeadId) (lead : Lead) (office : LeadOffice) :
    Except ServiceError LeadOffice :=
  match target with
  | none => do
      let (leadId, leads) ← addLead office.leads { lead with updatedAt := now }
      pure (office.written leads [opening actor leadId lead "Lead created."])
  | some leadId => performUpdate now actor leadId lead office

def markLead (now : Instant) (actor : UserId) (bulk : BulkStatus) (loaded : LeadId × Lead) (office : LeadOffice) :
    Except ServiceError LeadOffice := do
  let row ← orRaise office.leads[loaded.1]? (.doesNotExist "Lead")
  let leads ← saveLead office.leads loaded.1 { loaded.2 with status := bulk.status }
    { row with status := bulk.status, updatedAt := now }
  pure (office.written leads [{
    lead := loaded.1
    fromStatus := some loaded.2.status
    toStatus := bulk.status
    changedBy := some actor
    notes := "Marked " ++ bulk.label ++ " from admin list."
  }])

/-- The leads were loaded before the first is marked; the first that is refused ends the action. -/
def markLeads (now : Instant) (actor : UserId) (bulk : BulkStatus) : List (LeadId × Lead) → LeadOffice → LeadOffice
  | [], office => office
  | loaded :: rest, office => match office.markLead now actor bulk loaded with
      | .error _ => office
      | .ok next => markLeads now actor bulk rest next

def bulkStatus (now : Instant) (actor : UserId) (bulk : BulkStatus) (selection : LeadSelection) (office : LeadOffice) :
    LeadOffice :=
  markLeads now actor bulk (selection.excluding bulk.status office.leads) office

end LeadOffice

inductive LeadInput
  | journey (op : JourneyOp)
  | create (now : Instant) (actor : UserId) (lead : Lead)
  | update (now : Instant) (actor : UserId) (leadId : LeadId) (lead : Lead)
  | saveModel (now : Instant) (actor : UserId) (target : Option LeadId) (lead : Lead)
  | bulkStatus (now : Instant) (actor : UserId) (bulk : BulkStatus) (selection : LeadSelection)
  | schedule (now : Instant) (leadId : LeadId) (schedule : LeadSchedule)
  | recordContact (now : Instant) (leadId : LeadId) (note : String)

namespace LeadOffice

def savedOffice (office : LeadOffice) : Except ServiceError LeadOffice → LeadOffice
  | .ok next => next
  | .error _ => office

def step (settings : JourneySettings) (office : LeadOffice) : LeadInput → LeadOffice
  | .journey op => {
      book := office.book.step settings op
      history := office.history ++ op.leadHistory settings.toSettings office.book.db
    }
  | .create now actor lead => office.performCreate now actor lead
  | .update now actor leadId lead => office.savedOffice (office.performUpdate now actor leadId lead)
  | .saveModel now actor target lead => office.savedOffice (office.saveModel now actor target lead)
  | .bulkStatus now actor bulk selection => office.bulkStatus now actor bulk selection
  | .schedule now leadId schedule =>
      office.written (savedOr office.leads (scheduleLead now office.leads leadId schedule)) []
  | .recordContact now leadId note =>
      office.written (savedOr office.leads (recordFreshContact now office.leads leadId note)) []

end LeadOffice

inductive KnownStatus
  | unread
  | read (status : LeadStatus)
  | contradicted
  deriving DecidableEq, Repr

/-- A lead without an entry is a new one; an opening entry comes first, and every other one goes on from the
status that was read, to another one. -/
def LeadStatusHistory.reads (known : KnownStatus) (entry : LeadStatusHistory) : KnownStatus :=
  match known, entry.fromStatus with
  | .unread, none => .read entry.toStatus
  | .unread, some previous =>
      if previous = .new ∧ entry.toStatus ≠ .new then .read entry.toStatus else .contradicted
  | .read status, some previous =>
      if previous = status ∧ entry.toStatus ≠ status then .read entry.toStatus else .contradicted
  | .read _, none | .contradicted, _ => .contradicted

def KnownStatus.concludes : KnownStatus → Option LeadStatus
  | .unread => some .new
  | .read status => some status
  | .contradicted => none

def leadTrail : AuditTrail Lead LeadStatusHistory KnownStatus LeadStatus where
  subject := LeadStatusHistory.lead
  unread := .unread
  reads := fun known entry => entry.reads known
  concludes := KnownStatus.concludes
  fact := Lead.status

def LeadOffice.Told (office : LeadOffice) : Prop :=
  leadTrail.Tells office.leads office.history

theorem reads_opening {entry : LeadStatusHistory} (opening : entry.fromStatus = none) :
    leadTrail.concludes (leadTrail.reads leadTrail.unread entry) = some entry.toStatus := by
  change (entry.reads .unread).concludes = _
  simp [LeadStatusHistory.reads, opening, KnownStatus.concludes]

theorem reads_change {known : KnownStatus} {status : LeadStatus} {entry : LeadStatusHistory}
    (concluded : leadTrail.concludes known = some status) (goesOn : entry.fromStatus = some status)
    (differs : entry.toStatus ≠ status) : leadTrail.concludes (leadTrail.reads known entry) = some entry.toStatus := by
  change known.concludes = some status at concluded
  change (entry.reads known).concludes = some entry.toStatus
  cases known with
  | unread =>
      cases concluded
      simp [LeadStatusHistory.reads, goesOn, differs, KnownStatus.concludes]
  | read current =>
      cases concluded
      simp [LeadStatusHistory.reads, goesOn, differs, KnownStatus.concludes]
  | contradicted => cases concluded

def SameStatus (before after : Lead) : Prop :=
  after.status = before.status

structure StatusesKept (leads next : List Lead) : Prop where
  kept : KeptBy SameStatus leads next
  fresh : ∀ (key : LeadId) (lead : Lead), leads.length ≤ key → next[key]? = some lead → lead.status = .new

section

variable {leads middle next : List Lead} {leadId : LeadId} {before after lead : Lead} {now : Instant}
  {entries : List LeadStatusHistory}

theorem SameStatus.refl (lead : Lead) : SameStatus lead lead := Eq.refl lead.status

theorem SameStatus.trans (first second third : Lead) (one : SameStatus first second) (two : SameStatus second third) :
    SameStatus first third :=
  Eq.trans two one

theorem StatusesKept.refl (leads : List Lead) : StatusesKept leads leads where
  kept := .refl SameStatus.refl leads
  fresh := fun _ _ beyond found =>
    absurd (List.getElem?_eq_some_iff.mp found).1 (Nat.not_lt.mpr beyond)

theorem StatusesKept.set (found : leads[leadId]? = some before) (same : SameStatus before after) :
    StatusesKept leads (leads.set leadId after) where
  kept := .set SameStatus.refl found same
  fresh := fun key lead beyond present => by
    have below := (List.getElem?_eq_some_iff.mp present).1
    rw [List.length_set] at below
    exact absurd below (Nat.not_lt.mpr beyond)

theorem StatusesKept.append (isNew : lead.status = .new) : StatusesKept leads (leads ++ [lead]) where
  kept := .append SameStatus.refl leads [lead]
  fresh := fun key other beyond present => by
    rcases append_cases present with old | ⟨_, rfl⟩
    · exact absurd (List.getElem?_eq_some_iff.mp old).1 (Nat.not_lt.mpr beyond)
    · exact isNew

theorem StatusesKept.trans (one : StatusesKept leads middle) (two : StatusesKept middle next) :
    StatusesKept leads next where
  kept := one.kept.trans SameStatus.trans two.kept
  fresh := fun key lead beyond found => by
    by_cases below : key < middle.length
    · obtain ⟨other, foundOther, same⟩ := two.kept key middle[key] (List.getElem?_eq_getElem below)
      rw [found, Option.some.injEq] at foundOther
      rw [foundOther, same]
      exact one.fresh key middle[key] beyond (List.getElem?_eq_getElem below)
    · exact two.fresh key lead (Nat.le_of_not_lt below) found

theorem StatusesKept.tells (kept : StatusesKept leads next) (tells : leadTrail.Tells leads entries) :
    leadTrail.Tells next entries :=
  tells.silent kept.kept fun key lead beyond found => congrArg some (kept.fresh key lead beyond found).symm

theorem upsertLead_statuses {event : LeadEvent} (accepted : upsertLead now leads event = .ok (leadId, next)) :
    StatusesKept leads next := by
  rcases upsertLead_checked accepted with ⟨lead, best, _, rfl⟩ | ⟨_, _, _, rfl⟩
  · exact .set (bestRow_some best).1 (SameStatus.refl lead)
  · exact .append rfl

theorem linkBookingToLead_statuses (now : Instant) (leads : List Lead) (customer : User) (slot : TimeSlot)
    (bookingId : BookingId) (booking : Booking) :
    StatusesKept leads (linkBookingToLead now leads customer slot bookingId booking).2 := by
  rcases linkBookingToLead_cases now leads customer slot bookingId booking with
    ⟨error, _, stopped⟩ | ⟨leadId, saved, lead, upserted, stored, ⟨_, error, stopped⟩ | ⟨_, linked⟩⟩
  · rw [stopped]
    exact .refl leads
  · rw [stopped]
    exact upsertLead_statuses upserted
  · rw [linked]
    exact (upsertLead_statuses upserted).trans (.set stored (SameStatus.refl lead))

theorem leadOfBooking_statuses (now : Instant) (leads : List Lead) (customer : User) (slot : TimeSlot)
    (bookingId : BookingId) (booking : Booking) :
    StatusesKept leads (leadOfBooking now leads customer slot bookingId booking).2 := by
  unfold leadOfBooking
  split
  · exact .refl leads
  · exact linkBookingToLead_statuses now leads customer slot bookingId booking

end

section

variable {now : Instant} {db next : Db} {entries : List LeadStatusHistory}

theorem createBooking_statuses {customer : UserId} {request : BookingRequest} {bookingId : BookingId}
    (accepted : createBooking now customer request db = .ok (bookingId, next)) : StatusesKept db.leads next.leads := by
  obtain ⟨user, slot, booking, _, _, leads⟩ := createBooking_leads accepted
  rw [leads]
  exact linkBookingToLead_statuses now db.leads user slot _ booking

theorem workOrderBooking_statuses {loaded : LoadedLead} {booking : Option LoadedBooking} {object : LoadedBooking}
    (accepted : workOrderBooking now loaded booking db = .ok (object, next)) : StatusesKept db.leads next.leads := by
  cases booking with
  | some given =>
      obtain ⟨_, row, _, rfl⟩ := workOrderBooking_given accepted
      exact .refl _
  | none =>
      obtain ⟨made, service, created, _, _, rfl⟩ := workOrderBooking_new accepted
      obtain ⟨customer, request, prepared, prepares, created⟩ := createBookingFromLead_creates created
      have kept : StatusesKept db.leads made.leads := prepares.leads ▸ createBooking_statuses created
      exact kept

theorem sendLeadPaymentLink_statuses {settings : JourneySettings} {leadId : LeadId} {scope : PaymentScope}
    {channel : LinkChannel} {reply : ProviderReply} {book later : LeadBook} {made : Bool}
    (accepted : sendLeadPaymentLink settings now leadId scope channel reply book = .ok (made, later)) :
    StatusesKept book.leads later.leads := by
  simp only [sendLeadPaymentLink, accepted_bind, accepted_orRaise, accepted_require] at accepted
  obtain ⟨lead, found, _, unpaid, amount, _, sent⟩ := accepted
  split at sent
  · cases sent
    exact .refl _
  · simp only [accepted_bind, accepted_require, accepted_pure, saveLead_iff, Prod.mk.injEq] at sent
    obtain ⟨_, _, _, ⟨_, rfl⟩, _, rfl⟩ := sent
    exact .set found (SameStatus.refl lead)

theorem convertFreshLead_tells {leadId : LeadId} {performedBy : Option UserId} {booking : Option BookingId}
    {notes : String} {previous lead : Lead} (tells : leadTrail.Tells db.leads entries)
    (found : db.leads[leadId]? = some previous)
    (accepted : convertFreshLead now leadId performedBy booking notes db = .ok (lead, next)) :
    leadTrail.Tells next.leads (entries ++ conversionHistory performedBy leadId notes previous lead next) := by
  obtain ⟨loaded, object, foundLoaded, rfl, _, converted⟩ := convertFreshLead_loads accepted
  have isLoaded : previous = loaded.lead := Option.some.inj (found.symm.trans foundLoaded)
  subst isLoaded
  rcases convertLeadToWorkOrder_cases converted with ⟨already, _, rfl⟩ |
    ⟨made, booked, leads, _, ordered, saved, rfl⟩
  · have status : loaded.lead.status = .converted := by
      simp only [Lead.isConverted, Bool.and_eq_true, beq_iff_eq] at already
      exact already.1
    rw [conversionHistory, if_pos status, List.append_nil]
    exact tells
  · have kept := workOrderBooking_statuses ordered
    obtain ⟨row, internalNotes, foundRow, rfl, stored⟩ := saveConvertedLead_saves saved
    obtain ⟨_, rfl⟩ := saveLead_accepted stored
    obtain ⟨after, foundAfter, same⟩ := kept.kept _ _ found
    rw [foundRow, Option.some.injEq] at foundAfter
    subst foundAfter
    have tellsBooked := kept.tells tells
    unfold conversionHistory
    split
    · rename_i status
      rw [List.append_nil]
      exact StatusesKept.tells (.set foundRow (Eq.trans same status).symm) tellsBooked
    · rename_i unconverted
      have concluded := tellsBooked.facts _ row foundRow
      exact tellsBooked.set foundRow rfl
        (reads_change concluded (congrArg some same.symm) fun status => unconverted (status.trans same).symm)

theorem markBookingPaymentPaid_tells {leads : List Lead} (tells : leadTrail.Tells leads entries) (now : Instant)
    (changedBy : Option UserId) (customer : User) (slot : TimeSlot) (bookingId : BookingId) (booking : Booking) :
    leadTrail.Tells (markBookingPaymentPaid now leads customer slot bookingId booking).2
      (entries ++ paymentHistory now changedBy leads customer slot bookingId booking) := by
  have located := (leadOfBooking_statuses now leads customer slot bookingId booking).tells tells
  rcases found : leadOfBooking now leads customer slot bookingId booking with ⟨answer, saved⟩
  rw [found] at located
  cases answer with
  | error error =>
      simp only [markBookingPaymentPaid, paymentHistory, found, List.append_nil]
      exact located
  | ok leadId =>
      cases stored : saved[leadId]? with
      | none =>
          simp only [markBookingPaymentPaid, paymentHistory, found, stored, List.append_nil]
          exact located
      | some lead =>
          cases saving : saveLead saved leadId (lead.paid now bookingId) (lead.paid now bookingId) with
          | error error =>
              rw [Lead.paid] at saving
              simp only [markBookingPaymentPaid, paymentHistory, found, stored, saving, List.append_nil]
              exact located
          | ok next =>
              obtain ⟨_, written⟩ := saveLead_iff.mp saving
              rw [Lead.paid] at saving
              simp only [markBookingPaymentPaid, paymentHistory, found, stored, saving]
              rw [written]
              split
              · rename_i status
                rw [List.append_nil]
                exact StatusesKept.tells (.set stored status.symm) located
              · rename_i unconverted
                have concluded := located.facts leadId lead stored
                exact located.set stored rfl (reads_change concluded rfl fun status => unconverted status.symm)

theorem syncPaidLead_tells (tells : leadTrail.Tells db.leads entries) (now : Instant) (changedBy : Option UserId)
    (bookingId : BookingId) (booking : Booking) :
    leadTrail.Tells (syncPaidLead now db bookingId booking)
      (entries ++ syncHistory now changedBy db bookingId booking) := by
  unfold syncPaidLead syncHistory
  cases db.directory.users[booking.customer]? with
  | none => simpa using tells
  | some customer =>
      cases db.slots[booking.timeSlot]? with
      | none => simpa using tells
      | some slot => exact markBookingPaymentPaid_tells tells ..

theorem verifyRazorpayPayment_tells (tells : leadTrail.Tells db.leads entries) (settings : Settings) (now : Instant)
    (orderId paymentId signature : String) (user : Option UserId) :
    leadTrail.Tells (verifyRazorpayPayment settings now orderId paymentId signature user db).2.leads
      (entries ++ verificationHistory settings now orderId paymentId signature user db) := by
  rw [verifyRazorpayPayment_leads, verificationHistory]
  cases verificationChange settings now orderId paymentId signature user db with
  | error error => simpa using tells
  | ok change =>
      cases change with
      | unchanged payment => simpa [PaymentChange.syncedLeads] using tells
      | fail locked payments => simpa [PaymentChange.syncedLeads] using tells
      | confirm locked payments => exact syncPaidLead_tells tells ..

theorem dispatchWebhook_tells (tells : leadTrail.Tells db.leads entries) (settings : Settings) (now : Instant)
    (eventName : String) (payload : Json) :
    leadTrail.Tells (dispatchWebhook settings now eventName payload db).2.leads
      (entries ++ JourneyOp.leadHistory settings db (.dispatchWebhook now eventName payload)) := by
  by_cases isCapture : eventName = "payment.captured"
  · cases captured : capturedPayment payload db with
    | error error => simpa [dispatchWebhook, JourneyOp.leadHistory, isCapture, captured] using tells
    | ok names =>
        simp only [dispatchWebhook, JourneyOp.leadHistory, isCapture, captured, if_true]
        exact verifyRazorpayPayment_tells tells ..
  · rcases dispatchWebhook_leads settings now eventName payload db with same | ⟨_, _, named, _⟩
    · rw [same, JourneyOp.leadHistory, if_neg isCapture, List.append_nil]
      exact tells
    · exact absurd named isCapture

end

section

variable {settings : JourneySettings} {book : LeadBook} {office next : LeadOffice} {entries : List LeadStatusHistory}

theorem upserted_statuses {α : Type} {userId : UserId} {capture : User → Except ServiceError (α × List Lead)}
    (kept : ∀ user answer next, capture user = .ok (answer, next) → StatusesKept book.leads next) :
    StatusesKept book.leads (book.upserted userId capture).leads := by
  unfold LeadBook.upserted
  split
  · rename_i user _
    cases captured : capture user with
    | error error => exact .refl _
    | ok result => exact kept user result.1 result.2 captured
  · exact .refl _

theorem committed_statuses {α : Type} {transaction : Except ServiceError (α × Db)}
    (kept : ∀ answer next, transaction = .ok (answer, next) → StatusesKept book.leads next.leads) :
    StatusesKept book.leads (book.withDb (commit book.db transaction).2).leads := by
  cases outcome : transaction with
  | error error => exact .refl _
  | ok result => exact kept result.1 result.2 outcome

theorem convertLeadToWorkOrder_tells (tells : leadTrail.Tells book.leads entries) (now : Instant) (leadId : LeadId)
    (performedBy : Option UserId) (booking : Option BookingId) (notes : String) :
    leadTrail.Tells (book.step settings (.convertLeadToWorkOrder now leadId performedBy booking notes)).leads
      (entries ++ JourneyOp.leadHistory settings.toSettings book.db
        (.convertLeadToWorkOrder now leadId performedBy booking notes)) := by
  cases converted : convertFreshLead now leadId performedBy booking notes book.db with
  | error error =>
      have none : JourneyOp.leadHistory settings.toSettings book.db
          (.convertLeadToWorkOrder now leadId performedBy booking notes) = [] := by
        simp only [JourneyOp.leadHistory, converted]
        split
        · rename_i accepted
          cases accepted
        · rfl
      rw [none]
      simp only [LeadBook.step, converted, commit, List.append_nil]
      exact tells
  | ok result =>
      obtain ⟨loaded, _, foundLoaded, rfl, _⟩ := convertFreshLead_loads converted
      have next : (book.step settings (.convertLeadToWorkOrder now loaded.leadId performedBy booking notes)).leads =
          result.2.leads := by
        simp only [LeadBook.step, converted]
        rfl
      rw [next]
      simp only [JourneyOp.leadHistory, foundLoaded, converted]
      exact convertFreshLead_tells tells foundLoaded converted

theorem journey_tells (tells : leadTrail.Tells book.leads entries) (op : JourneyOp) :
    leadTrail.Tells (book.step settings op).leads (entries ++ op.leadHistory settings.toSettings book.db) := by
  have silently : StatusesKept book.leads (book.step settings op).leads →
      leadTrail.Tells (book.step settings op).leads (entries ++ []) := fun kept => by
    rw [List.append_nil]
    exact kept.tells tells
  cases op with
  | captureServiceView now userId service =>
      refine silently (upserted_statuses fun user answer next captured => ?_)
      rcases captureAuthenticatedServiceView_cases captured with rfl | ⟨leadId, accepted⟩
      · exact .refl _
      · exact upsertLead_statuses accepted
  | markCartAdded now userId service =>
      exact silently (upserted_statuses fun user answer next accepted => upsertLead_statuses accepted)
  | markCheckoutStarted now userId service =>
      exact silently (upserted_statuses fun user answer next accepted => upsertLead_statuses accepted)
  | createBooking now customer request =>
      exact silently (committed_statuses fun answer next accepted => createBooking_statuses accepted)
  | linkBookingToLead now bookingId =>
      refine silently ?_
      simp only [LeadBook.step, LeadOp.step]
      split
      · exact linkBookingToLead_statuses ..
      · exact .refl _
  | sendLeadPaymentLink now leadId scope channel reply =>
      refine silently ?_
      simp only [LeadBook.step]
      split
      · rename_i made next accepted
        exact sendLeadPaymentLink_statuses accepted
      · exact .refl _
  | convertLeadToWorkOrder now leadId performedBy booking notes =>
      exact convertLeadToWorkOrder_tells tells now leadId performedBy booking notes
  | createAdvancePaymentOrder bookingId user key providerOrder =>
      refine silently (committed_statuses fun answer next accepted => ?_)
      rw [createAdvancePaymentOrder_leads accepted]
      exact .refl _
  | verifyRazorpayPayment now orderId paymentId signature user => exact verifyRazorpayPayment_tells tells ..
  | dispatchWebhook now eventName payload => exact dispatchWebhook_tells tells ..
  | recordManualLeadPayment now leadId amount method reference note =>
      refine silently (committed_statuses fun answer next accepted => ?_)
      obtain ⟨lead, _, _, _, found, _, _, _, _, _, rfl⟩ := recordFreshPayment_cases accepted
      exact .set found (SameStatus.refl lead)

theorem performCreate_told (told : office.Told) (now : Instant) (actor : UserId) (lead : Lead) :
    (office.performCreate now actor lead).Told := by
  unfold LeadOffice.performCreate
  dsimp only
  split
  · exact told
  · rename_i leadId leads added
    simp only [addLead, Lead.fullClean, accepted_bind, accepted_pure, Prod.mk.injEq] at added
    obtain ⟨_, _, rfl, rfl⟩ := added
    exact AuditTrail.Tells.created told rfl (reads_opening rfl)

theorem performUpdate_told {now : Instant} {actor : UserId} {leadId : LeadId} {lead : Lead} (told : office.Told)
    (accepted : office.performUpdate now actor leadId lead = .ok next) : next.Told := by
  simp only [LeadOffice.performUpdate, editLead, accepted_bind, accepted_orRaise, accepted_pure, saveLead_iff]
    at accepted
  obtain ⟨previous, found, leads, ⟨row, _, _, rfl⟩, rfl⟩ := accepted
  unfold LeadOffice.changeHistory
  split
  · rename_i same
    have kept : StatusesKept office.leads (office.leads.set leadId { lead with updatedAt := now }) :=
      .set found same.symm
    have tells := kept.tells told
    rw [← List.append_nil office.history] at tells
    exact tells
  · rename_i differs
    have concluded := told.facts leadId previous found
    exact AuditTrail.Tells.set told found rfl (reads_change concluded rfl fun same => differs same.symm)

theorem saveModel_told {now : Instant} {actor : UserId} {target : Option LeadId} {lead : Lead} (told : office.Told)
    (accepted : office.saveModel now actor target lead = .ok next) : next.Told := by
  cases target with
  | none =>
      simp only [LeadOffice.saveModel, addLead, Lead.fullClean, accepted_bind, accepted_pure] at accepted
      obtain ⟨⟨leadId, leads⟩, ⟨_, _, added⟩, rfl⟩ := accepted
      obtain ⟨rfl, rfl⟩ := Prod.mk.inj added
      exact AuditTrail.Tells.created told rfl (reads_opening rfl)
  | some leadId => exact performUpdate_told told accepted

structure Loaded (leads : List Lead) (status : LeadStatus) (loaded : List (LeadId × Lead)) : Prop where
  stored : ∀ one ∈ loaded, leads[one.1]? = some one.2 ∧ one.2.status ≠ status
  distinct : (loaded.map Prod.fst).Nodup

theorem LeadSelection.excluding_loaded (selection : LeadSelection) (status : LeadStatus) (leads : List Lead) :
    Loaded leads status (selection.excluding status leads) where
  stored := fun one member => by
    simp only [LeadSelection.excluding, List.mem_filterMap, Option.map_eq_some_iff, Option.filter_eq_some_iff] at member
    obtain ⟨leadId, _, lead, ⟨found, differs⟩, rfl⟩ := member
    exact ⟨found, by simpa using differs⟩
  distinct := by
    have keys : ((selection.excluding status leads).map Prod.fst).Sublist selection.ids := by
      unfold LeadSelection.excluding
      induction selection.ids with
      | nil => exact .slnil
      | cons first rest ih =>
          rw [List.filterMap_cons]
          split
          · exact ih.cons first
          · rename_i loaded chosen
            obtain ⟨lead, _, rfl⟩ := Option.map_eq_some_iff.mp chosen
            exact ih.cons_cons first
    exact keys.nodup selection.distinct

theorem markLead_told {now : Instant} {actor : UserId} {bulk : BulkStatus} {loaded : LeadId × Lead}
    {rest : List (LeadId × Lead)} (told : office.Told) (all : Loaded office.leads bulk.status (loaded :: rest))
    (accepted : office.markLead now actor bulk loaded = .ok next) :
    next.Told ∧ Loaded next.leads bulk.status rest := by
  simp only [LeadOffice.markLead, accepted_bind, accepted_orRaise, accepted_pure, saveLead_iff] at accepted
  obtain ⟨row, found, leads, ⟨_, rfl⟩, rfl⟩ := accepted
  obtain ⟨stored, differs⟩ := all.stored loaded List.mem_cons_self
  have isRow : loaded.2 = row := Option.some.inj (stored.symm.trans found)
  have concluded := told.facts loaded.1 row found
  obtain ⟨apart, distinct⟩ := List.nodup_cons.mp all.distinct
  refine ⟨AuditTrail.Tells.set told found rfl (reads_change concluded (congrArg (some ·.status) isRow) fun same =>
    differs (isRow ▸ same.symm)), fun one member => ?_, distinct⟩
  have other : loaded.1 ≠ one.1 := fun same => apart (same ▸ List.mem_map_of_mem member)
  refine ⟨?_, (all.stored one (List.mem_cons_of_mem loaded member)).2⟩
  exact (List.getElem?_set_ne other).trans (all.stored one (List.mem_cons_of_mem loaded member)).1

theorem markLeads_told (now : Instant) (actor : UserId) (bulk : BulkStatus) {loaded : List (LeadId × Lead)}
    (told : office.Told) (all : Loaded office.leads bulk.status loaded) :
    (office.markLeads now actor bulk loaded).Told := by
  induction loaded generalizing office with
  | nil => exact told
  | cons first rest ih =>
      simp only [LeadOffice.markLeads]
      split
      · exact told
      · rename_i next marked
        obtain ⟨toldNext, allNext⟩ := markLead_told told all marked
        exact ih toldNext allNext

theorem savedLeads_told {saved : Except ServiceError (List Lead)} (told : office.Told)
    (kept : ∀ leads, saved = .ok leads → StatusesKept office.leads leads) :
    (office.written (savedOr office.leads saved) []).Told := by
  cases outcome : saved with
  | error error =>
      have tells := told
      rw [LeadOffice.Told, ← List.append_nil office.history] at tells
      exact tells
  | ok leads =>
      have tells := (kept leads outcome).tells told
      rw [← List.append_nil office.history] at tells
      exact tells

theorem LeadOffice.Told.step (told : office.Told) (input : LeadInput) : (office.step settings input).Told := by
  cases input with
  | journey op => exact journey_tells told op
  | create now actor lead => exact performCreate_told told now actor lead
  | update now actor leadId lead =>
      simp only [LeadOffice.step]
      cases updated : office.performUpdate now actor leadId lead with
      | error error => exact told
      | ok next => exact performUpdate_told told updated
  | saveModel now actor target lead =>
      simp only [LeadOffice.step]
      cases saved : office.saveModel now actor target lead with
      | error error => exact told
      | ok next => exact saveModel_told told saved
  | bulkStatus now actor bulk selection =>
      exact markLeads_told now actor bulk told (selection.excluding_loaded bulk.status office.leads)
  | schedule now leadId schedule =>
      refine savedLeads_told told fun leads accepted => ?_
      simp only [scheduleLead, accepted_bind, accepted_orRaise, accepted_require, saveLead_iff] at accepted
      obtain ⟨lead, found, _, _, _, rfl⟩ := accepted
      exact .set found (SameStatus.refl lead)
  | recordContact now leadId note =>
      refine savedLeads_told told fun leads accepted => ?_
      simp only [recordFreshContact, recordLeadContact, accepted_bind, accepted_orRaise, saveLead_iff] at accepted
      obtain ⟨_, _, lead, found, _, rfl⟩ := accepted
      exact .set found (SameStatus.refl lead)

/-! The history is added to only. -/

theorem markLead_history {now : Instant} {actor : UserId} {bulk : BulkStatus} {loaded : LeadId × Lead}
    (accepted : office.markLead now actor bulk loaded = .ok next) : office.history <+: next.history := by
  simp only [LeadOffice.markLead, accepted_bind, accepted_pure] at accepted
  obtain ⟨_, _, _, _, rfl⟩ := accepted
  exact List.prefix_append _ _

theorem markLeads_history (now : Instant) (actor : UserId) (bulk : BulkStatus) (loaded : List (LeadId × Lead)) :
    office.history <+: (office.markLeads now actor bulk loaded).history := by
  induction loaded generalizing office with
  | nil => exact List.prefix_rfl
  | cons first rest ih =>
      simp only [LeadOffice.markLeads]
      split
      · exact List.prefix_rfl
      · rename_i next marked
        exact (markLead_history marked).trans ih

theorem performUpdate_history {now : Instant} {actor : UserId} {leadId : LeadId} {lead : Lead}
    (accepted : office.performUpdate now actor leadId lead = .ok next) : office.history <+: next.history := by
  simp only [LeadOffice.performUpdate, accepted_bind, accepted_pure] at accepted
  obtain ⟨_, _, _, _, rfl⟩ := accepted
  exact List.prefix_append _ _

theorem step_history (office : LeadOffice) (input : LeadInput) :
    office.history <+: (office.step settings input).history := by
  cases input with
  | journey op => exact List.prefix_append _ _
  | create now actor lead =>
      simp only [LeadOffice.step, LeadOffice.performCreate]
      split
      · exact List.prefix_rfl
      · exact List.prefix_append _ _
  | update now actor leadId lead =>
      simp only [LeadOffice.step]
      cases updated : office.performUpdate now actor leadId lead with
      | error error => exact List.prefix_rfl
      | ok next => exact performUpdate_history updated
  | saveModel now actor target lead =>
      simp only [LeadOffice.step]
      cases saved : office.saveModel now actor target lead with
      | error error => exact List.prefix_rfl
      | ok next =>
          cases target with
          | none =>
              simp only [LeadOffice.saveModel, accepted_bind, accepted_pure] at saved
              obtain ⟨_, _, rfl⟩ := saved
              exact List.prefix_append _ _
          | some leadId => exact performUpdate_history saved
  | bulkStatus now actor bulk selection => exact markLeads_history now actor bulk _
  | schedule now leadId schedule => exact List.prefix_append _ _
  | recordContact now leadId note => exact List.prefix_append _ _

end

/-- What the latest entry about a lead made of it. -/
def LeadOffice.lastStatus (office : LeadOffice) (leadId : LeadId) : LeadStatus :=
  ((office.history.filter (·.lead = leadId)).getLast?).elim .new LeadStatusHistory.toStatus

theorem says_last {entries : List LeadStatusHistory} {status : LeadStatus}
    (concluded : leadTrail.concludes (entries.foldl leadTrail.reads leadTrail.unread) = some status) :
    status = entries.getLast?.elim .new LeadStatusHistory.toStatus := by
  rcases List.eq_nil_or_concat entries with rfl | ⟨earlier, entry, rfl⟩
  · exact (Option.some.inj concluded).symm
  · rw [List.concat_eq_append, List.foldl_append] at concluded
    rw [List.concat_eq_append, List.getLast?_concat, Option.elim_some]
    change (entry.reads _).concludes = some status at concluded
    unfold LeadStatusHistory.reads at concluded
    split at concluded
    · exact (Option.some.inj concluded).symm
    · split at concluded
      · exact (Option.some.inj concluded).symm
      · cases concluded
    · split at concluded
      · exact (Option.some.inj concluded).symm
      · cases concluded
    · cases concluded
    · cases concluded

structure LeadOffice.Recorded (office : LeadOffice) : Prop where
  told : office.Told
  current : ∀ (leadId : LeadId) (lead : Lead), office.leads[leadId]? = some lead →
    lead.status = office.lastStatus leadId

/-- Every status that a lead ever has is read off a part of the history that no later operation changes. -/
theorem leadTrail_run (settings : JourneySettings) {start : LeadOffice} (told : start.Told)
    (before after : List LeadInput) :
    (runAll (LeadOffice.step settings) start before).Recorded ∧
      (runAll (LeadOffice.step settings) start before).history <+:
        (runAll (LeadOffice.step settings) start (before ++ after)).history := by
  have toldThen : (runAll (LeadOffice.step settings) start before).Told :=
    (Guarded.always (fun _ _ => trivial) start before).invariant
      (fun (office : LeadOffice) input (told : office.Told) _ => told.step input) told
  refine ⟨⟨toldThen, fun leadId lead found => says_last (toldThen.facts leadId lead found)⟩, ?_⟩
  rw [runAll_append]
  have grows : ∀ (office : LeadOffice) (input : LeadInput),
      (runAll (LeadOffice.step settings) start before).history <+: office.history → True →
      (runAll (LeadOffice.step settings) start before).history <+: (office.step settings input).history :=
    fun office input isPrefix _ => isPrefix.trans (step_history office input)
  exact (Guarded.always (fun _ _ => trivial) _ after).invariant grows List.prefix_rfl

def recordedDay : List LeadInput := [
  .create sampleNow 0 { sampleLead with primaryMobile := "+919000000003" },
  .bulkStatus sampleNow 0 .contacted ⟨[2, 0, 1], by decide⟩,
  .journey (.convertLeadToWorkOrder sampleNow 0 none none "")]

theorem leadTrail_run_recordedDay :
    (runAll (LeadOffice.step sampleJourneySettings) ⟨enteredLeads, []⟩ recordedDay).Recorded ∧
    (runAll (LeadOffice.step sampleJourneySettings) ⟨enteredLeads, []⟩ recordedDay).history <+:
      (runAll (LeadOffice.step sampleJourneySettings) ⟨enteredLeads, []⟩ (recordedDay ++ [
        .update sampleNow 0 1 { callerLead with status := .lost }])).history := by
  have areNew : ∀ lead ∈ enteredLeads.leads, lead.status = .new := by
    intro lead member
    simp only [enteredLeads, LeadBook.leads, List.mem_cons, List.not_mem_nil, or_false] at member
    rcases member with rfl | rfl <;> rfl
  have told : LeadOffice.Told ⟨enteredLeads, []⟩ :=
    AuditTrail.Tells.empty.silent (fun key lead found => by simp at found)
      fun key lead _ found => congrArg some (areNew lead (List.mem_of_getElem? found)).symm
  exact leadTrail_run sampleJourneySettings told recordedDay _


example : (runAll (LeadOffice.step sampleJourneySettings) ⟨enteredLeads, []⟩ recordedDay).history.map (fun entry =>
    (entry.lead, entry.fromStatus, entry.toStatus, entry.notes)) = [
      (2, none, .new, "Lead created from admin API."),
      (2, some .new, .contacted, "Marked contacted from admin list."),
      (0, some .new, .contacted, "Marked contacted from admin list."),
      (1, some .new, .contacted, "Marked contacted from admin list."),
      (0, some .contacted, .converted, "Work order PS26010001 created.")] := by
  decide +kernel

end PsCore
