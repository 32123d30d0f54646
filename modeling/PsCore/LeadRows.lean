import PsCore.LeadJourneys
import PsCore.Effects

/-!
The rows of leads. A save checks an object that may be older than its row, and writes some fields of the one into the
other; the checks hold of the row all the same.
-/

namespace PsCore

open Fallible RowTable TransitionRun Relation

def Lead.Apart (first second : Lead) : Prop :=
  ∀ bookingId : BookingId, (first.convertedBooking = some bookingId → second.convertedBooking ≠ some bookingId) ∧
    (first.pendingBooking = some bookingId → second.pendingBooking ≠ some bookingId)

structure LeadsSound (leads : List Lead) : Prop where
  fields : ∀ lead ∈ leads, lead.fieldErrors = []
  linked : ∀ lead ∈ leads, lead.convertedBooking ≠ none → lead.status = .converted
  apart : ∀ (first second : LeadId) (left right : Lead), first ≠ second → leads[first]? = some left →
    leads[second]? = some right → left.Apart right

theorem LeadsSound.nil : LeadsSound [] := by
  constructor
  · exact List.forall_mem_nil _
  · exact List.forall_mem_nil _
  · intro first second left right _ isLeft
    rw [List.getElem?_nil] at isLeft
    cases isLeft

structure SameLinks (before after : Lead) : Prop where
  status : after.status = before.status
  convertedBooking : after.convertedBooking = before.convertedBooking
  pendingBooking : after.pendingBooking = before.pendingBooking

/-- A lead is added or written after its checks: the checked fields are those of the checked object or of the row. -/
inductive LeadSaved (leads : List Lead) : List Lead → Prop
  | added {lead : Lead} (clean : lead.fullCleanErrors leads none = []) : LeadSaved leads (leads ++ [lead])
  | saved {leadId : LeadId} {row object after : Lead} (found : leads[leadId]? = some row)
      (clean : object.fullCleanErrors leads (some leadId) = [])
      (fields : after.fieldErrors = object.fieldErrors ∨ after.fieldErrors = row.fieldErrors)
      (links : SameLinks object after ∨ SameLinks row after) : LeadSaved leads (leads.set leadId after)

abbrev LeadsSaved : List Lead → List Lead → Prop := ReflTransGen LeadSaved

section

variable {leads next : List Lead} {leadId : LeadId} {lead after : Lead}

theorem Lead.Apart.symm {first second : Lead} (apart : first.Apart second) : second.Apart first := by
  intro bookingId
  constructor
  · intro isSecond isFirst
    exact (apart bookingId).1 isFirst isSecond
  · intro isSecond isFirst
    exact (apart bookingId).2 isFirst isSecond

theorem SameLinks.apart {first second other : Lead} (same : SameLinks first second) (apart : first.Apart other) :
    second.Apart other := by
  intro bookingId
  rw [same.convertedBooking, same.pendingBooking]
  exact apart bookingId

theorem uniqueErrors_iff {self : Option LeadId} :
    lead.uniqueErrors leads self = [] ↔ ∀ other ∈ otherLeads leads self, lead.Apart other := by
  simp only [Lead.uniqueErrors, List.append_eq_nil_iff, ite_eq_right_iff, List.cons_ne_nil, imp_false, not_and,
    List.any_eq_true, beq_iff_eq, not_exists, ne_eq]
  constructor
  · rintro ⟨converted, pending⟩ other member bookingId
    refine ⟨fun isOwn isOther => ?_, fun isOwn isOther => ?_⟩
    · exact converted (by rw [isOwn]; exact Option.some_ne_none _) other member (isOther.trans isOwn.symm)
    · exact pending (by rw [isOwn]; exact Option.some_ne_none _) other member (isOther.trans isOwn.symm)
  · intro apart
    refine ⟨fun isSome other member same => ?_, fun isSome other member same => ?_⟩
    · obtain ⟨bookingId, isOwn⟩ := Option.ne_none_iff_exists'.mp isSome
      exact (apart other member bookingId).1 isOwn (same.trans isOwn)
    · obtain ⟨bookingId, isOwn⟩ := Option.ne_none_iff_exists'.mp isSome
      exact (apart other member bookingId).2 isOwn (same.trans isOwn)

theorem LeadsSound.append (sound : LeadsSound leads) (clean : lead.fullCleanErrors leads none = []) :
    LeadsSound (leads ++ [lead]) := by
  simp only [Lead.fullCleanErrors, List.append_eq_nil_iff] at clean
  obtain ⟨⟨fields, cleaned⟩, unique⟩ := clean
  have alone (other : Lead) (member : other ∈ leads) : lead.Apart other := uniqueErrors_iff.mp unique other member
  constructor
  · exact List.forall_mem_append.mpr ⟨sound.fields, List.forall_mem_singleton.mpr fields⟩
  · exact List.forall_mem_append.mpr ⟨sound.linked, List.forall_mem_singleton.mpr (Lead.clean_iff.mp cleaned).linked.mp⟩
  · intro first second left right differs isLeft isRight
    rcases append_cases isLeft with oldLeft | ⟨firstNew, rfl⟩
    · rcases append_cases isRight with oldRight | ⟨_, rfl⟩
      · exact sound.apart first second left right differs oldLeft oldRight
      · exact (alone left (List.mem_of_getElem? oldLeft)).symm
    · rcases append_cases isRight with oldRight | ⟨secondNew, _⟩
      · exact alone right (List.mem_of_getElem? oldRight)
      · exact absurd (firstNew.trans secondNew.symm) differs

theorem LeadsSound.set (sound : LeadsSound leads) (fields : after.fieldErrors = [])
    (linked : after.convertedBooking ≠ none → after.status = .converted)
    (alone : ∀ other ∈ otherLeads leads (some leadId), after.Apart other) : LeadsSound (leads.set leadId after) := by
  constructor
  · intro lead member
    rcases List.mem_or_eq_of_mem_set member with old | rfl
    · exact sound.fields lead old
    · exact fields
  · intro lead member
    rcases List.mem_or_eq_of_mem_set member with old | rfl
    · exact sound.linked lead old
    · exact linked
  · have written (second : LeadId) (right : Lead) (differs : leadId ≠ second)
        (isRight : (leads.set leadId after)[second]? = some right) : after.Apart right := by
      rw [List.getElem?_set_ne differs] at isRight
      exact alone right (mem_otherLeads.mpr ⟨second, differs.symm, isRight⟩)
    intro first second left right differs isLeft isRight
    rcases set_cases isLeft with ⟨rfl, rfl⟩ | oldLeft
    · exact written second right differs isRight
    · rcases set_cases isRight with ⟨rfl, rfl⟩ | oldRight
      · exact (written first left differs.symm isLeft).symm
      · exact sound.apart first second left right differs oldLeft oldRight

theorem LeadsSound.alone (sound : LeadsSound leads) (found : leads[leadId]? = some lead) :
    ∀ other ∈ otherLeads leads (some leadId), lead.Apart other := by
  intro other member
  obtain ⟨otherId, differs, foundOther⟩ := mem_otherLeads.mp member
  exact sound.apart leadId otherId lead other differs.symm found foundOther

theorem LeadsSound.saved (sound : LeadsSound leads) (saved : LeadSaved leads next) : LeadsSound next := by
  cases saved with
  | added clean => exact sound.append clean
  | @saved leadId row object after found clean fields links =>
      simp only [Lead.fullCleanErrors, List.append_eq_nil_iff] at clean
      obtain ⟨⟨ownFields, cleaned⟩, unique⟩ := clean
      have rowMember := List.mem_of_getElem? found
      refine sound.set ?fields ?linked ?alone
      case fields =>
        rcases fields with ofObject | ofRow
        · exact ofObject.trans ownFields
        · exact ofRow.trans (sound.fields row rowMember)
      case linked =>
        rcases links with ofObject | ofRow
        · rw [ofObject.convertedBooking, ofObject.status]
          exact (Lead.clean_iff.mp cleaned).linked.mp
        · rw [ofRow.convertedBooking, ofRow.status]
          exact sound.linked row rowMember
      case alone =>
        intro other member
        rcases links with ofObject | ofRow
        · exact ofObject.apart (uniqueErrors_iff.mp unique other member)
        · exact ofRow.apart (sound.alone found other member)

theorem LeadsSound.run (sound : LeadsSound leads) (saved : LeadsSaved leads next) : LeadsSound next := by
  induction saved with
  | refl => exact sound
  | tail _ saved ih => exact ih.saved saved

theorem LeadsSound.clean_of_converted (sound : LeadsSound leads) (found : leads[leadId]? = some lead)
    (fields : after.fieldErrors = lead.fieldErrors) (links : SameLinks lead after)
    (isLinked : lead.convertedBooking ≠ none) : after.fullCleanErrors leads (some leadId) = [] := by
  have member := List.mem_of_getElem? found
  have valid : after.fieldErrors = [] := fields.trans (sound.fields lead member)
  have isConverted : after.status = .converted := links.status.trans (sound.linked lead member isLinked)
  have stillLinked : after.convertedBooking ≠ none := by
    rw [links.convertedBooking]
    exact isLinked
  have cleaned : after.cleanErrors leads (some leadId) = [] :=
    Lead.clean_iff.mpr (Lead.clean_of_converted _ isConverted stillLinked)
  have unique : after.uniqueErrors leads (some leadId) = [] :=
    uniqueErrors_iff.mpr fun other isOther => links.apart (sound.alone found other isOther)
  simp only [Lead.fullCleanErrors, valid, cleaned, unique, List.append_nil]

end

/-! The writers. -/

section

variable {now : Instant} {leads saved next : List Lead} {leadId : LeadId} {db after : Db}

theorem SameLinks.refl (lead : Lead) : SameLinks lead lead := ⟨rfl, rfl, rfl⟩

theorem LeadSaved.whole {row object : Lead} (found : leads[leadId]? = some row)
    (clean : object.fullCleanErrors leads (some leadId) = []) : LeadSaved leads (leads.set leadId object) :=
  .saved found clean (.inl rfl) (.inl (.refl object))

theorem upsertLead_saved {event : LeadEvent} (accepted : upsertLead now leads event = .ok (leadId, saved)) :
    LeadSaved leads saved := by
  rcases upsertLead_checked accepted with ⟨lead, best, clean, rfl⟩ | ⟨_, clean, _, rfl⟩
  · exact .whole (bestRow_some best).1 clean
  · exact .added clean

theorem linkBookingToLead_saved (now : Instant) (leads : List Lead) (customer : User) (slot : TimeSlot)
    (bookingId : BookingId) (booking : Booking) :
    LeadsSaved leads (linkBookingToLead now leads customer slot bookingId booking).2 := by
  rcases linkBookingToLead_cases now leads customer slot bookingId booking with
    ⟨error, _, stopped⟩ | ⟨leadId, saved, lead, upserted, stored, ⟨_, error, stopped⟩ | ⟨clean, linked⟩⟩
  · rw [stopped]
  · rw [stopped]
    exact .single (upsertLead_saved upserted)
  · rw [linked]
    exact .tail (.single (upsertLead_saved upserted)) (.whole stored clean)

theorem leadOfBooking_saved (now : Instant) (leads : List Lead) (customer : User) (slot : TimeSlot)
    (bookingId : BookingId) (booking : Booking) :
    LeadsSaved leads (leadOfBooking now leads customer slot bookingId booking).2 := by
  unfold leadOfBooking
  split
  · exact .refl
  · exact linkBookingToLead_saved ..

theorem syncPaidLead_saved (now : Instant) (db : Db) (bookingId : BookingId) (booking : Booking) :
    LeadsSaved db.leads (syncPaidLead now db bookingId booking) := by
  unfold syncPaidLead
  split
  · rename_i customer slot _ _
    have located := leadOfBooking_saved now db.leads customer slot bookingId booking
    rcases markBookingPaymentPaid_cases now db.leads customer slot bookingId booking with
      ⟨error, _, stopped⟩ | ⟨leadId, saved, lead, found, stored, ⟨_, stopped⟩ | ⟨clean, paid⟩⟩
    · rw [stopped]
      exact located
    · rw [stopped]
      rw [found] at located
      exact located
    · rw [paid]
      rw [found] at located
      exact located.tail (.whole stored clean)
  · exact .refl

theorem verifyRazorpayPayment_saved (settings : Settings) (now : Instant) (orderId paymentId signature : String)
    (user : Option UserId) (db : Db) :
    LeadsSaved db.leads (verifyRazorpayPayment settings now orderId paymentId signature user db).2.leads := by
  rw [verifyRazorpayPayment_leads]
  split
  · rename_i change _
    cases change with
    | confirm locked payments => exact syncPaidLead_saved ..
    | unchanged paymentId => exact .refl
    | fail locked payments => exact .refl
  · exact .refl

theorem dispatchWebhook_saved (settings : Settings) (now : Instant) (eventName : String) (payload : Json) (db : Db) :
    LeadsSaved db.leads (dispatchWebhook settings now eventName payload db).2.leads := by
  rcases dispatchWebhook_leads settings now eventName payload db with same | ⟨orderId, paymentId, _, _, verified⟩
  · rw [same]
  · rw [verified]
    exact verifyRazorpayPayment_saved ..

theorem createBooking_saved {customer : UserId} {request : BookingRequest} {bookingId : BookingId}
    (accepted : createBooking now customer request db = .ok (bookingId, after)) : LeadsSaved db.leads after.leads := by
  obtain ⟨user, slot, booking, _, _, written⟩ := createBooking_leads accepted
  rw [written]
  exact linkBookingToLead_saved ..

theorem convertLeadToWorkOrder_saved {loaded : LoadedLead} {performedBy : Option UserId}
    {booking : Option LoadedBooking} {notes : String} {lead : Lead}
    (accepted : convertLeadToWorkOrder now loaded performedBy booking notes db = .ok (lead, after)) :
    LeadsSaved db.leads after.leads := by
  rcases convertLeadToWorkOrder_cases accepted with ⟨_, _, rfl⟩ | ⟨object, booked, leads, _, ordered, stored, rfl⟩
  · exact .refl
  · have before : LeadsSaved db.leads booked.leads := by
      cases booking with
      | some given =>
          obtain ⟨_, row, _, rfl⟩ := workOrderBooking_given ordered
          exact .refl
      | none =>
          obtain ⟨made, service, created, _, _, rfl⟩ := workOrderBooking_new ordered
          obtain ⟨customer, request, prepared, prepares, created⟩ := createBookingFromLead_creates created
          have written : LeadsSaved db.leads made.leads := prepares.leads ▸ createBooking_saved created
          exact written
    obtain ⟨row, internalNotes, found, rfl, saved⟩ := saveConvertedLead_saves stored
    obtain ⟨clean, rfl⟩ := saveLead_iff.mp saved
    exact before.tail (.saved found clean (.inr rfl) (.inl ⟨rfl, rfl, rfl⟩))

theorem recordManualLeadPayment_saved {loaded : LoadedLead} {amount : Money} {method reference note : String}
    {paymentId : PaymentId}
    (accepted : recordManualLeadPayment now loaded amount method reference note db = .ok (paymentId, after)) :
    LeadSaved db.leads after.leads := by
  obtain ⟨entry, row, _, _, _, _, _, found, saved, _, rfl⟩ := recordManualLeadPayment_cases accepted
  obtain ⟨clean, written⟩ := saveLead_iff.mp saved
  rw [written]
  exact .saved found clean (.inr rfl) (.inr ⟨rfl, rfl, rfl⟩)

theorem recordLeadContact_saved {loaded : Lead} {note : String}
    (accepted : recordLeadContact now leads leadId loaded note = .ok next) : LeadSaved leads next := by
  simp only [recordLeadContact, accepted_bind, accepted_orRaise, saveLead_iff] at accepted
  obtain ⟨row, found, clean, rfl⟩ := accepted
  exact .saved found clean (.inr rfl) (.inr ⟨rfl, rfl, rfl⟩)

end

section

variable {settings : Settings} {state : System}

theorem commit_saved {α : Type} {db : Db} {transaction : Except ServiceError (α × Db)}
    (saved : ∀ result next, transaction = .ok (result, next) → LeadsSaved db.leads next.leads) :
    LeadsSaved db.leads (commit db transaction).2.leads := by
  cases transaction with
  | error error => exact .refl
  | ok committed => exact saved committed.1 committed.2 rfl

theorem write_saved {α : Type} {program : Except ServiceError α} {store : α → Db}
    (saved : ∀ result, program = .ok result → LeadsSaved state.db.leads (store result).leads) :
    LeadsSaved state.db.leads (state.write program store).db.leads := by
  cases program with
  | error error => exact .refl
  | ok result => exact saved result rfl

theorem loads_saved {op : Op} (loads : op.onlyLoads = true) :
    LeadsSaved state.db.leads (System.step settings state op).db.leads := by
  rw [step_onlyLoads settings state loads]

theorem slots_saved {op : Op} (writes : op.writesSlots = true) :
    LeadsSaved state.db.leads (System.step settings state op).db.leads := by
  obtain ⟨slots, written⟩ := step_writesSlots settings state writes
  rw [written]

theorem job_saved {op : Op} (rewrites : op.rewritesJob = true) :
    LeadsSaved state.db.leads (System.step settings state op).db.leads := by
  rcases step_rewritesJob settings state rewrites with unchanged | ⟨_, _, _, _, _, written⟩
  · rw [unchanged]
  · rw [written.leads]

theorem createBookings_saved {now : Instant} {customer : UserId} {requests : List BookingRequest} {db next : Db}
    {bookingIds : List BookingId} (accepted : createBookings now customer requests db = .ok (bookingIds, next)) :
    LeadsSaved db.leads next.leads :=
  createBookings_induction (motive := fun _ db next => LeadsSaved db.leads next.leads) (fun _ => .refl)
    (fun _ _ _ _ _ _ created remaining => (createBooking_saved created).trans remaining) accepted

theorem recordBalanceCollection_saved {now : Instant} {bookingId : BookingId} {amount : Money} {method : String}
    {changedBy : Option UserId} {notes : String} {paymentId : PaymentId} {db next : Db}
    (accepted : recordBalanceCollection now bookingId amount method changedBy notes db = .ok (paymentId, next)) :
    LeadsSaved db.leads next.leads := by
  simp only [recordBalanceCollection, accepted_bind, accepted_pure, Prod.mk.injEq] at accepted
  obtain ⟨_, _, _, rfl⟩ := accepted
  exact .refl

theorem createRefund_saved {now : Instant} {sourceId refundId : PaymentId} {amount : Money} {key : String}
    {providerRefund : Except ServiceError ProviderRefund} {db next : Db}
    (accepted : createRefund now sourceId amount key providerRefund db = .ok (refundId, next)) :
    LeadsSaved db.leads next.leads := by
  rcases createRefund_cases accepted with rfl | ⟨_, _, _, settled⟩
  · exact .refl
  · rw [(settleRefund_kept settled).1]

theorem reconcileRefund_saved {now : Instant} {refundId answerId : PaymentId} {providerStatus : Except ServiceError Json}
    {db next : Db} (accepted : reconcileRefund now refundId providerStatus db = .ok (answerId, next)) :
    LeadsSaved db.leads next.leads := by
  simp only [reconcileRefund, accepted_bind, accepted_pure, Prod.mk.injEq] at accepted
  obtain ⟨_, _, _, settled, _, rfl⟩ := accepted
  rw [(settleRefund_kept settled).1]

theorem convert_saved {now : Instant} {lead : Nat} {performedBy : Option UserId} {booking : Option Nat}
    {notes : String} {result : Lead} {next : Db}
    (accepted : state.convert now lead performedBy booking notes = .ok (result, next)) :
    LeadsSaved state.db.leads next.leads := by
  simp only [System.convert, accepted_bind] at accepted
  obtain ⟨loaded, _, converted⟩ := accepted
  cases booking with
  | none => exact convertLeadToWorkOrder_saved converted
  | some position =>
      simp only [accepted_bind] at converted
      obtain ⟨object, _, converted⟩ := converted
      exact convertLeadToWorkOrder_saved converted

theorem addLead_saved {leads : List Lead} {lead : Lead} {saved : LeadId × List Lead}
    (accepted : addLead leads lead = .ok saved) : LeadsSaved leads saved.2 := by
  simp only [addLead, Lead.fullClean, accepted_bind, accepted_require, accepted_pure] at accepted
  obtain ⟨_, clean, rfl⟩ := accepted
  exact .single (.added clean)

theorem editLead_saved {leads next : List Lead} {leadId : LeadId} {lead : Lead}
    (accepted : editLead leads leadId lead = .ok next) : LeadsSaved leads next := by
  simp only [editLead, accepted_bind, accepted_orRaise, saveLead_iff] at accepted
  obtain ⟨row, found, clean, rfl⟩ := accepted
  exact .single (.whole found clean)

theorem step_saved (settings : Settings) (state : System) (op : Op) :
    LeadsSaved state.db.leads (System.step settings state op).db.leads := by
  cases op with
  | createBooking now customer request => exact commit_saved fun _ _ accepted => createBooking_saved accepted
  | checkout now customer requests => exact commit_saved fun _ _ accepted => createBookings_saved accepted
  | rescheduleBooking | cancelBooking | startBooking | markTechnicianEnRoute | completeBooking | closeBooking
  | assignTechnician | removeTechnicianAssignment => exact job_saved rfl
  | recordBalanceCollection now bookingId amount method changedBy notes =>
      exact commit_saved fun _ _ accepted => recordBalanceCollection_saved accepted
  | createAdvancePaymentOrder bookingId user key providerOrder =>
      exact commit_saved fun _ _ accepted => by rw [createAdvancePaymentOrder_leads accepted]
  | verifyRazorpayPayment now orderId paymentId signature user => exact verifyRazorpayPayment_saved ..
  | dispatchWebhook now eventName payload => exact dispatchWebhook_saved ..
  | createRefund now sourceId amount key providerRefund =>
      exact commit_saved fun _ _ accepted => createRefund_saved accepted
  | reconcileRefund now refundId providerStatus =>
      exact commit_saved fun _ _ accepted => reconcileRefund_saved accepted
  | convertLeadToWorkOrder now lead performedBy booking notes =>
      exact commit_saved fun _ _ accepted => convert_saved accepted
  | recordManualLeadPayment now lead amount method reference note =>
      refine commit_saved fun _ next accepted => ?_
      simp only [accepted_bind] at accepted
      obtain ⟨loaded, _, paid⟩ := accepted
      exact .single (recordManualLeadPayment_saved paid)
  | recordLeadContact now lead note =>
      refine write_saved fun leads accepted => ?_
      simp only [accepted_bind] at accepted
      obtain ⟨loaded, _, contacted⟩ := accepted
      exact .single (recordLeadContact_saved contacted)
  | upsertLead now event => exact write_saved fun _ accepted => .single (upsertLead_saved accepted)
  | addLead lead => exact write_saved fun _ accepted => addLead_saved accepted
  | editLead leadId lead => exact write_saved fun _ accepted => editLead_saved accepted
  | ensureDailySlots | createSlot | saveSlot => exact slots_saved rfl
  | loadLead | loadBooking | loadSlot | validateSlotEdit => exact loads_saved rfl
  | editDirectory directory => exact .refl

/-- In every reachable state the leads pass the checks that they share. -/
theorem leadsSound_run {start : System} (sound : LeadsSound start.db.leads) (ops : List Op) :
    LeadsSound (runAll (System.step settings) start ops).db.leads := by
  induction ops generalizing start with
  | nil => exact sound
  | cons op rest ih => exact ih (sound.run (step_saved settings start op))

end

end PsCore
