import PsCore.LeadJourneys

/-!
The leads that bookings belong to. The two columns of a lead are unique each for itself, so a booking that one lead
awaits can become the work order of another one.
-/

namespace PsCore

open Fallible RowTable TransitionRun

def Lead.refersTo (bookingId : BookingId) (lead : Lead) : Bool :=
  lead.pendingBooking == some bookingId || lead.convertedBooking == some bookingId

def References (leads : List Lead) (leadId : LeadId) (bookingId : BookingId) : Prop :=
  ∃ lead, leads[leadId]? = some lead ∧ lead.refersTo bookingId = true

def OneOwner (leads : List Lead) : Prop :=
  ∀ first second bookingId, References leads first bookingId → References leads second bookingId → first = second

/-- Whichever lead refers to the booking is its paid work order. -/
def PaymentReaches (leads : List Lead) (bookingId : BookingId) : Prop :=
  ∀ (leadId : LeadId) (lead : Lead), leads[leadId]? = some lead → lead.refersTo bookingId = true →
    lead.convertedBooking = some bookingId ∧ lead.status = .converted ∧ lead.paymentStatus = .paid

def PaymentChange.confirmed : PaymentChange → Option BookingId
  | .confirm locked _ => some locked.payment.booking
  | .unchanged _ | .fail _ _ => none

def JourneyOp.verifies (settings : Settings) (db : Db) : JourneyOp → Option BookingId
  | .verifyRazorpayPayment now orderId paymentId signature user =>
      match verificationChange settings now orderId paymentId signature user db with
      | .ok change => change.confirmed
      | .error _ => none
  | .dispatchWebhook now eventName payload =>
      if eventName = "payment.captured" then
        match capturedPayment payload db with
        | .ok (orderId, paymentId) =>
            match verificationChange settings now orderId paymentId (makePaymentSignature settings orderId paymentId)
              none db with
            | .ok change => change.confirmed
            | .error _ => none
        | .error _ => none
      else none
  | _ => none

/-- The lead that an upsert for the lead's own mobile and service takes. -/
def Lead.upsertedAs (leads : List Lead) (lead : Lead) : Option LeadId :=
  (bestRow (fun other => other.primaryMobile == lead.primaryMobile && other.requiredService == lead.requiredService &&
    activeLeadStatuses.contains other.status) Lead.lastActivityAt leads).map Prod.fst

def Keeps (leads next : List Lead) : Prop :=
  ∀ leadId bookingId, References next leadId bookingId → References leads leadId bookingId

def Gains (leads next : List Lead) (leadId : LeadId) (bookingId : BookingId) : Prop :=
  ∀ key other, References next key other → References leads key other ∨ key = leadId ∧ other = bookingId

def OwnedBy (leads : List Lead) (bookingId : BookingId) (leadId : LeadId) : Prop :=
  ∀ key, References leads key bookingId → key = leadId

section

variable {leads middle next : List Lead} {leadId : LeadId} {bookingId : BookingId} {lead after : Lead}

theorem Keeps.refl (leads : List Lead) : Keeps leads leads := fun _ _ refers => refers

theorem Keeps.gains (keeps : Keeps leads next) (leadId : LeadId) (bookingId : BookingId) :
    Gains leads next leadId bookingId :=
  fun key other refers => .inl (keeps key other refers)

theorem Keeps.then_gains (keeps : Keeps leads middle) (gains : Gains middle next leadId bookingId) :
    Gains leads next leadId bookingId :=
  fun key other refers => (gains key other refers).imp_left (keeps key other)

theorem Gains.trans (one : Gains leads middle leadId bookingId) (two : Gains middle next leadId bookingId) :
    Gains leads next leadId bookingId :=
  fun key other refers => (two key other refers).elim (one key other) .inr

theorem Gains.ownedBy (gains : Gains leads next leadId bookingId) (owned : OwnedBy leads bookingId leadId) :
    OwnedBy next bookingId leadId :=
  fun key refers => (gains key bookingId refers).elim (owned key) And.left

theorem OneOwner.keeps (one : OneOwner leads) (keeps : Keeps leads next) : OneOwner next :=
  fun first second bookingId left right => one first second bookingId (keeps _ _ left) (keeps _ _ right)

theorem OneOwner.gains (one : OneOwner leads) (gains : Gains leads next leadId bookingId)
    (owned : OwnedBy leads bookingId leadId) : OneOwner next := by
  intro first second other left right
  rcases gains first other left with oldLeft | ⟨isFirst, isOther⟩
  · rcases gains second other right with oldRight | ⟨isSecond, isOther⟩
    · exact one first second other oldLeft oldRight
    · rw [isSecond]
      rw [isOther] at oldLeft
      exact owned first oldLeft
  · rw [isFirst]
    rw [isOther] at right
    exact (gains.ownedBy owned second right).symm

theorem references_set {key : LeadId} {other : BookingId}
    (refers : References (leads.set leadId after) key other) :
    (key = leadId ∧ after.refersTo other = true) ∨ References leads key other := by
  obtain ⟨lead, present, isOf⟩ := refers
  rcases set_cases present with ⟨rfl, rfl⟩ | old
  · exact .inl ⟨rfl, isOf⟩
  · exact .inr ⟨lead, old, isOf⟩

theorem Keeps.set (found : leads[leadId]? = some lead)
    (same : ∀ other, after.refersTo other = true → lead.refersTo other = true) :
    Keeps leads (leads.set leadId after) := by
  intro key other refers
  rcases references_set refers with ⟨rfl, isOf⟩ | old
  · exact ⟨lead, found, same other isOf⟩
  · exact old

theorem Gains.set (found : leads[leadId]? = some lead)
    (same : ∀ other, after.refersTo other = true → lead.refersTo other = true ∨ other = bookingId) :
    Gains leads (leads.set leadId after) leadId bookingId := by
  intro key other refers
  rcases references_set refers with ⟨rfl, isOf⟩ | old
  · exact (same other isOf).imp (fun isOfLead => ⟨lead, found, isOfLead⟩) fun isOther => ⟨rfl, isOther⟩
  · exact .inl old

theorem refersTo_iff : lead.refersTo bookingId = true ↔
    lead.pendingBooking = some bookingId ∨ lead.convertedBooking = some bookingId := by
  simp only [Lead.refersTo, Bool.or_eq_true, beq_iff_eq]

theorem linked_refers {now : Instant} {booking : Booking} {slot : TimeSlot} {other : BookingId}
    (refers : (lead.linked now bookingId booking slot).refersTo other = true) :
    lead.refersTo other = true ∨ other = bookingId := by
  rcases refersTo_iff.mp refers with pending | converted
  · exact .inr (Option.some.inj pending).symm
  · exact .inl (refersTo_iff.mpr (.inr converted))

theorem converted_refers {now : Instant} {customer : UserId} {notes : String} {other : BookingId}
    (refers : (lead.converted now customer bookingId notes).refersTo other = true) :
    lead.refersTo other = true ∨ other = bookingId := by
  rcases refersTo_iff.mp refers with pending | converted
  · cases pending
  · exact .inr (Option.some.inj converted).symm

theorem paid_refers {now : Instant} {other : BookingId} (refers : (lead.paid now bookingId).refersTo other = true) :
    lead.refersTo other = true ∨ other = bookingId := by
  rcases refersTo_iff.mp refers with pending | converted
  · cases pending
  · exact .inr (Option.some.inj converted).symm

theorem LeadWrite.fields (write : LeadWrite leads next) (valid : ∀ lead ∈ leads, lead.fieldErrors = []) :
    ∀ lead ∈ next, lead.fieldErrors = [] := by
  have replaced : ∀ {leadId : LeadId} {after : Lead}, after.fieldErrors = [] →
      ∀ lead ∈ leads.set leadId after, lead.fieldErrors = [] := by
    intro leadId after afterValid lead member
    rcases List.mem_or_eq_of_mem_set member with old | rfl
    · exact valid lead old
    · exact afterValid
  have stored : ∀ {leadId : LeadId} {lead : Lead}, leads[leadId]? = some lead → lead.fieldErrors = [] :=
    fun found => valid _ (List.mem_of_getElem? found)
  cases write with
  | added now event isModest clean =>
      intro lead member
      rcases List.mem_append.mp member with old | new
      · exact valid lead old
      · rw [List.mem_singleton.mp new]
        exact fieldErrors_of_clean clean
  | merged now event found isModest clean => exact replaced (fieldErrors_of_clean clean)
  | linked now bookingId booking slot found clean => exact replaced (fieldErrors_of_clean clean)
  | linkSent now found unpaid clean => exact replaced (fieldErrors_of_clean clean)
  | converted now customer bookingId notes found unconverted =>
      have before := stored found
      exact replaced before
  | paid now bookingId found clean => exact replaced (fieldErrors_of_clean clean)
  | paidManually now found isConverted =>
      have before := stored found
      exact replaced before

theorem LeadWrites.fields (writes : LeadWrites leads next) (valid : ∀ lead ∈ leads, lead.fieldErrors = []) :
    ∀ lead ∈ next, lead.fieldErrors = [] := by
  induction writes with
  | refl => exact valid
  | tail _ write ih => exact write.fields ih

end

def upsertTarget (leads : List Lead) (event : LeadEvent) : LeadId :=
  match bestRow event.matches Lead.lastActivityAt leads with
  | some (leadId, _) => leadId
  | none => leads.length

def SameBookings (before after : Lead) : Prop :=
  after.pendingBooking = before.pendingBooking ∧ after.convertedBooking = before.convertedBooking

section

variable {now : Instant} {leads saved : List Lead} {event : LeadEvent} {leadId : LeadId} {customer : User}
  {slot : TimeSlot} {bookingId : BookingId} {booking : Booking}

theorem upsertLead_refs (accepted : upsertLead now leads event = .ok (leadId, saved)) :
    leadId = upsertTarget leads event ∧ Keeps leads saved ∧ KeptBy SameBookings leads saved := by
  rcases upsertLead_checked accepted with ⟨lead, best, _, rfl⟩ | ⟨absent, _, rfl, rfl⟩
  · refine ⟨by simp only [upsertTarget, best], .set (bestRow_some best).1 fun _ refers => refers,
      .set (fun _ => ⟨rfl, rfl⟩) (bestRow_some best).1 ⟨rfl, rfl⟩⟩
  · refine ⟨by simp only [upsertTarget, absent], fun key other refers => ?_, .append (fun _ => ⟨rfl, rfl⟩) leads _⟩
    obtain ⟨lead, present, isOf⟩ := refers
    rcases append_cases present with old | ⟨_, rfl⟩
    · exact ⟨lead, old, isOf⟩
    · cases isOf

theorem linkBookingToLead_refs (now : Instant) (leads : List Lead) (customer : User) (slot : TimeSlot)
    (bookingId : BookingId) (booking : Booking) :
    (∃ error, (linkBookingToLead now leads customer slot bookingId booking).1 = .error error ∧
      Keeps leads (linkBookingToLead now leads customer slot bookingId booking).2) ∨
    ((linkBookingToLead now leads customer slot bookingId booking).1 =
        .ok (upsertTarget leads (bookingEvent customer booking)) ∧
      Gains leads (linkBookingToLead now leads customer slot bookingId booking).2
        (upsertTarget leads (bookingEvent customer booking)) bookingId ∧
      ∀ key lead, leads[key]? = some lead → lead.pendingBooking = some bookingId →
        key = upsertTarget leads (bookingEvent customer booking)) := by
  rcases linkBookingToLead_cases now leads customer slot bookingId booking with
    ⟨error, _, stopped⟩ | ⟨leadId, saved, lead, upserted, stored, ⟨_, error, stopped⟩ | ⟨clean, linked⟩⟩
  · rw [stopped]
    exact .inl ⟨error, rfl, .refl leads⟩
  · rw [stopped]
    exact .inl ⟨error, rfl, (upsertLead_refs upserted).2.1⟩
  · rw [linked]
    obtain ⟨rfl, keeps, kept⟩ := upsertLead_refs upserted
    refine .inr ⟨rfl, keeps.then_gains (.set stored fun _ => linked_refers), fun key row present pending => ?_⟩
    obtain ⟨after, foundAfter, samePending, _⟩ := kept key row present
    simp only [Lead.fullCleanErrors, List.append_eq_nil_iff] at clean
    have unique := clean.2
    refine Decidable.by_contra fun differs => ?_
    have clash : (otherLeads saved (some (upsertTarget leads (bookingEvent customer booking)))).any
        (·.pendingBooking == some bookingId) = true :=
      List.any_eq_true.mpr ⟨after, mem_otherLeads.mpr ⟨key, differs, foundAfter⟩, by simp [samePending, pending]⟩
    simp [Lead.uniqueErrors, Lead.linked, clash] at unique

theorem paid_clean (now : Instant) {lead : Lead} (valid : ∀ lead ∈ leads, lead.fieldErrors = [])
    (stored : leads[leadId]? = some lead) (owned : OwnedBy leads bookingId leadId) :
    (lead.paid now bookingId).fullCleanErrors leads (some leadId) = [] := by
  have fields : (lead.paid now bookingId).fieldErrors = [] := valid lead (List.mem_of_getElem? stored)
  have cleaned : (lead.paid now bookingId).cleanErrors leads (some leadId) = [] :=
    Lead.clean_iff.mpr (Lead.clean_of_converted _ rfl (Option.some_ne_none bookingId))
  have alone : (otherLeads leads (some leadId)).any (·.convertedBooking == some bookingId) = false := by
    simp only [List.any_eq_false, beq_iff_eq]
    intro other member isLinked
    obtain ⟨otherId, differs, found⟩ := mem_otherLeads.mp member
    exact differs (owned otherId ⟨other, found, refersTo_iff.mpr (.inr isLinked)⟩)
  have unique : (lead.paid now bookingId).uniqueErrors leads (some leadId) = [] := by
    simp only [Lead.uniqueErrors, Lead.paid, alone]
    simp
  simp only [Lead.fullCleanErrors, fields, cleaned, unique, List.append_nil]

theorem markBookingPaymentPaid_owned (now : Instant) (customer : User) (slot : TimeSlot) (bookingId : BookingId)
    (booking : Booking) (one : OneOwner leads) (valid : ∀ lead ∈ leads, lead.fieldErrors = []) :
    ∃ owner, Gains leads (markBookingPaymentPaid now leads customer slot bookingId booking).2 owner bookingId ∧
      OwnedBy leads bookingId owner ∧
      PaymentReaches (markBookingPaymentPaid now leads customer slot bookingId booking).2 bookingId := by
  have located : (∃ error, (leadOfBooking now leads customer slot bookingId booking).1 = .error error ∧
        Keeps leads (leadOfBooking now leads customer slot bookingId booking).2 ∧
        ∀ key, ¬ References leads key bookingId) ∨
      ∃ owner, (leadOfBooking now leads customer slot bookingId booking).1 = .ok owner ∧
        Gains leads (leadOfBooking now leads customer slot bookingId booking).2 owner bookingId ∧
        OwnedBy leads bookingId owner := by
    unfold leadOfBooking
    split
    · rename_i leadId lead best
      obtain ⟨found, isOf⟩ := bestRow_some best
      exact .inr ⟨leadId, rfl, (Keeps.refl leads).gains leadId bookingId,
        fun key refers => one key leadId bookingId refers ⟨lead, found, isOf⟩⟩
    · rename_i absent
      have nobody : ∀ key, ¬ References leads key bookingId := by
        rintro key ⟨lead, found, isOf⟩
        have isNot := bestRow_none.mp absent lead (List.mem_of_getElem? found)
        rw [Lead.refersTo, isNot] at isOf
        cases isOf
      rcases linkBookingToLead_refs now leads customer slot bookingId booking with
        ⟨error, stopped, keeps⟩ | ⟨linked, gains, _⟩
      · exact .inl ⟨error, stopped, keeps, nobody⟩
      · exact .inr ⟨_, linked, gains, fun key refers => absurd refers (nobody key)⟩
  rcases markBookingPaymentPaid_cases now leads customer slot bookingId booking with
    ⟨error, failed, same⟩ | ⟨owner, saved, lead, found, stored, outcome⟩
  · rcases located with ⟨_, _, keeps, nobody⟩ | ⟨owner, answered, _⟩
    · rw [same]
      refine ⟨0, keeps.gains 0 bookingId, fun key refers => absurd refers (nobody key), ?_⟩
      intro key lead present isOf
      exact absurd (keeps key bookingId ⟨lead, present, isOf⟩) (nobody key)
    · rw [failed] at answered
      cases answered
  · have written : LeadWrites leads (leadOfBooking now leads customer slot bookingId booking).2 := leadOfBooking_writes
    rw [found] at located written
    rcases located with ⟨_, answered, _⟩ | ⟨_, answered, gains, owned⟩
    · cases answered
    · cases answered
      have ownedSaved := gains.ownedBy owned
      have clean := paid_clean now (written.fields valid) stored ownedSaved
      have paid := (outcome.resolve_left fun rejected => rejected.1 clean).2
      rw [paid]
      refine ⟨owner, gains.trans (.set stored fun _ => paid_refers), owned, fun key row present isOf => ?_⟩
      have isOwner : key = owner := by
        rcases set_cases present with ⟨isOwner, _⟩ | old
        · exact isOwner
        · exact ownedSaved key ⟨row, old, isOf⟩
      rw [isOwner, List.getElem?_set_self (List.getElem?_eq_some_iff.mp stored).1, Option.some.injEq] at present
      rw [← present]
      exact ⟨rfl, rfl, rfl⟩

end

/-! The database. -/

structure DbGrows (db next : Db) : Prop where
  users : db.directory.users.length ≤ next.directory.users.length
  slots : db.slots.length ≤ next.slots.length
  count : db.bookings.length ≤ next.bookings.length
  bookings : ∀ (bookingId : BookingId) (booking : Booking), next.bookings[bookingId]? = some booking →
    (∃ before, db.bookings[bookingId]? = some before ∧ booking.customer = before.customer ∧
      booking.timeSlot = before.timeSlot) ∨
    (booking.customer < next.directory.users.length ∧ booking.timeSlot < next.slots.length)

/-- Every booking has its customer and its slot, as the foreign keys have it. -/
def PartiesKnown (db : Db) : Prop :=
  ∀ (bookingId : BookingId) (booking : Booking), db.bookings[bookingId]? = some booking →
    booking.customer < db.directory.users.length ∧ booking.timeSlot < db.slots.length

structure OwnedDb (db : Db) : Prop where
  one : OneOwner db.leads
  booked : ∀ leadId bookingId, References db.leads leadId bookingId → bookingId < db.bookings.length
  fields : ∀ lead ∈ db.leads, lead.fieldErrors = []
  parties : PartiesKnown db

section

variable {db next : Db} {leadId : LeadId} {bookingId : BookingId} {now : Instant}

theorem DbGrows.same (users : next.directory.users = db.directory.users) (slots : next.slots = db.slots)
    (bookings : next.bookings = db.bookings) : DbGrows db next where
  users := Nat.le_of_eq (congrArg List.length users).symm
  slots := Nat.le_of_eq (congrArg List.length slots).symm
  count := Nat.le_of_eq (congrArg List.length bookings).symm
  bookings := fun _ booking present => .inl ⟨booking, bookings ▸ present, rfl, rfl⟩

theorem DbGrows.set {before after : Booking} (found : db.bookings[bookingId]? = some before)
    (customer : after.customer = before.customer) (timeSlot : after.timeSlot = before.timeSlot)
    (users : next.directory.users = db.directory.users) (slots : next.slots = db.slots)
    (bookings : next.bookings = db.bookings.set bookingId after) : DbGrows db next where
  users := Nat.le_of_eq (congrArg List.length users).symm
  slots := Nat.le_of_eq (congrArg List.length slots).symm
  count := Nat.le_of_eq (by rw [bookings, List.length_set])
  bookings := by
    intro key booking present
    rw [bookings] at present
    rcases set_cases present with ⟨rfl, rfl⟩ | old
    · exact .inl ⟨before, found, customer, timeSlot⟩
    · exact .inl ⟨booking, old, rfl, rfl⟩

theorem PartiesKnown.grows (known : PartiesKnown db) (grows : DbGrows db next) : PartiesKnown next := by
  intro bookingId booking present
  rcases grows.bookings bookingId booking present with ⟨before, found, customer, timeSlot⟩ | fresh
  · rw [customer, timeSlot]
    obtain ⟨hasCustomer, hasSlot⟩ := known bookingId before found
    exact ⟨Nat.lt_of_lt_of_le hasCustomer grows.users, Nat.lt_of_lt_of_le hasSlot grows.slots⟩
  · exact fresh

theorem OwnedDb.keeps (owned : OwnedDb db) (grows : DbGrows db next)
    (fields : ∀ lead ∈ next.leads, lead.fieldErrors = []) (keeps : Keeps db.leads next.leads) : OwnedDb next where
  one := owned.one.keeps keeps
  booked := fun key other refers => Nat.lt_of_lt_of_le (owned.booked key other (keeps key other refers)) grows.count
  fields := fields
  parties := owned.parties.grows grows

theorem OwnedDb.gains (owned : OwnedDb db) (grows : DbGrows db next)
    (fields : ∀ lead ∈ next.leads, lead.fieldErrors = [])
    (gains : Gains db.leads next.leads leadId bookingId) (ownedBy : OwnedBy db.leads bookingId leadId)
    (known : bookingId < next.bookings.length) : OwnedDb next where
  one := owned.one.gains gains ownedBy
  booked := by
    intro key other refers
    rcases gains key other refers with old | ⟨_, rfl⟩
    · exact Nat.lt_of_lt_of_le (owned.booked key other old) grows.count
    · exact known
  fields := fields
  parties := owned.parties.grows grows

theorem OwnedDb.unreferenced (owned : OwnedDb db) (leadId : LeadId) :
    ¬ References db.leads leadId db.bookings.length :=
  fun refers => Nat.lt_irrefl _ (owned.booked leadId _ refers)

theorem createBooking_grows {customer : UserId} {request : BookingRequest}
    (accepted : createBooking now customer request db = .ok (bookingId, next)) :
    bookingId = db.bookings.length ∧ next.bookings.length = db.bookings.length + 1 ∧ DbGrows db next := by
  obtain ⟨_, _, _, _, _, _, _, _, _, locked, foundUser, _, rfl, rfl, rfl⟩ := createBooking_made accepted
  refine ⟨rfl, by simp, ⟨Nat.le_refl _, Nat.le_refl _, by simp, fun key booking present => ?_⟩⟩
  rcases append_cases present with old | ⟨_, rfl⟩
  · exact .inl ⟨booking, old, rfl, rfl⟩
  · exact .inr ⟨(List.getElem?_eq_some_iff.mp foundUser).1,
      (List.getElem?_eq_some_iff.mp (lockAndValidateSlot_accepted locked).1).1⟩

theorem applied_grows {changedBy : Option UserId} {change : PaymentChange} (sound : change.Sound now changedBy db) :
    DbGrows db (change.apply now changedBy db) := by
  rcases sound with same | ⟨effect, isEffect, effective⟩
  · rw [same]
    exact .same rfl rfl rfl
  · cases change with
    | unchanged paymentId => exact .same rfl rfl rfl
    | confirm locked payments =>
        cases isEffect
        cases effective with
        | confirmed _ _ _ foundBooking =>
            have written := confirmBookingAfterPayment_bookings now locked changedBy { db with payments := payments }
            refine .set foundBooking ?_ ?_ ?_ (confirmBookingAfterPayment_slots ..) written
            · rfl
            · rfl
            · simp only [PaymentChange.apply, confirmBookingAfterPayment]
              split <;> rfl
    | fail locked payments =>
        cases isEffect
        cases effective with
        | failed _ _ _ foundBooking =>
            have written := markPaymentFailed_bookings locked { db with payments := payments }
            refine .set foundBooking ?_ ?_ ?_ (markPaymentFailed_slots ..) written
            · simp only [Booking.markedFailed]
              split <;> rfl
            · simp only [Booking.markedFailed]
              split <;> rfl
            · simp only [PaymentChange.apply, markPaymentFailed]
              split <;> rfl

theorem verificationChange_locked {settings : Settings} {orderId paymentId signature : String} {user : Option UserId}
    {locked : LockedPayment} {payments : PaymentTable}
    (confirms : verificationChange settings now orderId paymentId signature user db = .ok (.confirm locked payments)) :
    db.bookings[locked.payment.booking]? = some locked.booking := by
  simp only [verificationChange, accepted_bind, accepted_require] at confirms
  obtain ⟨other, lockedRow, _, _, _, _, decided⟩ := confirms
  split at decided
  · cases decided
  · simp only [accepted_bind] at decided
    obtain ⟨genuine, _, stored⟩ := decided
    split at stored
    · simp only [accepted_bind, accepted_pure, PaymentChange.confirm.injEq] at stored
      obtain ⟨_, _, rfl, _⟩ := stored
      exact (lockOrderPayment_accepted lockedRow).2.2
    · simp only [accepted_bind, accepted_pure] at stored
      obtain ⟨_, _, same⟩ := stored
      cases same

theorem OwnedDb.verify (owned : OwnedDb db) (settings : Settings) (now : Instant) (orderId paymentId signature : String)
    (user : Option UserId) :
    OwnedDb (verifyRazorpayPayment settings now orderId paymentId signature user db).2 ∧
      ∀ change bookingId, verificationChange settings now orderId paymentId signature user db = .ok change →
        change.confirmed = some bookingId →
        PaymentReaches (verifyRazorpayPayment settings now orderId paymentId signature user db).2.leads bookingId := by
  have writes : LeadWrites db.leads (verifyRazorpayPayment settings now orderId paymentId signature user db).2.leads :=
    verifyRazorpayPayment_writes orderId paymentId signature user db
  have leads := verifyRazorpayPayment_leads settings now orderId paymentId signature user db
  cases changed : verificationChange settings now orderId paymentId signature user db with
  | error error =>
      refine ⟨?_, fun change bookingId accepted => by cases accepted⟩
      simp only [verifyRazorpayPayment, changed]
      exact owned
  | ok change =>
      have grows : DbGrows db (verifyRazorpayPayment settings now orderId paymentId signature user db).2 := by
        simp only [verifyRazorpayPayment, changed]
        exact applied_grows (verificationChange_accepted changed)
      rw [changed] at leads
      simp only at leads
      cases change with
      | unchanged other =>
          refine ⟨owned.keeps grows (writes.fields owned.fields) ?_, fun change bookingId accepted confirms => ?_⟩
          · rw [leads]
            exact .refl db.leads
          · cases accepted
            cases confirms
      | fail locked payments =>
          refine ⟨owned.keeps grows (writes.fields owned.fields) ?_, fun change bookingId accepted confirms => ?_⟩
          · rw [leads]
            exact .refl db.leads
          · cases accepted
            cases confirms
      | confirm locked payments =>
          have found := verificationChange_locked changed
          obtain ⟨hasCustomer, hasSlot⟩ := owned.parties _ _ found
          have synced : syncPaidLead now db locked.payment.booking
                (locked.booking.confirmedBy now locked.payment.amount) =
              (markBookingPaymentPaid now db.leads (db.directory.users.get ⟨_, hasCustomer⟩)
                (db.slots.get ⟨_, hasSlot⟩) locked.payment.booking
                (locked.booking.confirmedBy now locked.payment.amount)).2 := by
            have knownCustomer : db.directory.users[(locked.booking.confirmedBy now locked.payment.amount).customer]? =
                some (db.directory.users.get ⟨_, hasCustomer⟩) := List.getElem?_eq_getElem hasCustomer
            have knownSlot : db.slots[(locked.booking.confirmedBy now locked.payment.amount).timeSlot]? =
                some (db.slots.get ⟨_, hasSlot⟩) := List.getElem?_eq_getElem hasSlot
            simp only [syncPaidLead, knownCustomer, knownSlot]
          rw [PaymentChange.syncedLeads, synced] at leads
          obtain ⟨owner, gains, ownedBy, reached⟩ := markBookingPaymentPaid_owned now
            (db.directory.users.get ⟨_, hasCustomer⟩) (db.slots.get ⟨_, hasSlot⟩) locked.payment.booking
            (locked.booking.confirmedBy now locked.payment.amount) owned.one owned.fields
          rw [← leads] at gains reached
          have known := Nat.lt_of_lt_of_le (List.getElem?_eq_some_iff.mp found).1 grows.count
          have verifiedDb := owned.gains grows (writes.fields owned.fields) gains ownedBy known
          refine ⟨verifiedDb, fun change bookingId accepted confirms => ?_⟩
          cases accepted
          cases confirms
          exact reached

theorem processRefund_grows {payload : Json} {done : Unit}
    (accepted : processRefundWebhook now payload db = .ok (done, next)) : DbGrows db next := by
  simp only [processRefundWebhook, accepted_bind, accepted_pure, Prod.mk.injEq] at accepted
  obtain ⟨⟨previous, settlement⟩, delivered, settled, accepted, _, rfl⟩ := accepted
  obtain ⟨_, directory⟩ := settleRefund_kept accepted
  obtain ⟨bookings, _, slots⟩ := settleRefund_accepted accepted
  refine .set (deliveredRefund_grounded delivered).booking ?_ ?_ (congrArg Directory.users directory) slots bookings
  · simp only [Booking.afterRefund]
    split
    · rfl
    · split
      · rfl
      · split <;> rfl
  · simp only [Booking.afterRefund]
    split
    · rfl
    · split
      · rfl
      · split <;> rfl

theorem dispatchWebhook_grows (db : Db) (settings : Settings) (now : Instant) {eventName : String} (payload : Json)
    (isOther : eventName ≠ "payment.captured") :
    DbGrows db (dispatchWebhook settings now eventName payload db).2 := by
  simp only [dispatchWebhook, if_neg isOther]
  split
  · cases changed : failedPaymentChange payload db with
    | error error => exact .same rfl rfl rfl
    | ok change => exact applied_grows (failedPaymentChange_accepted changed)
  · split
    · cases refunded : processRefundWebhook now payload db with
      | error error => exact .same rfl rfl rfl
      | ok processed => exact processRefund_grows refunded
    · exact .same rfl rfl rfl

theorem OwnedDb.dispatch (owned : OwnedDb db) (settings : Settings) (now : Instant) (eventName : String)
    (payload : Json) :
    OwnedDb (dispatchWebhook settings now eventName payload db).2 ∧
      ∀ bookingId, (JourneyOp.dispatchWebhook now eventName payload).verifies settings db = some bookingId →
        PaymentReaches (dispatchWebhook settings now eventName payload db).2.leads bookingId := by
  simp only [JourneyOp.verifies]
  by_cases isCapture : eventName = "payment.captured"
  · simp only [dispatchWebhook, isCapture, if_pos]
    cases captured : capturedPayment payload db with
    | error error => exact ⟨owned, fun bookingId verified => by cases verified⟩
    | ok names =>
        obtain ⟨verifiedDb, reached⟩ := owned.verify settings now names.1 names.2
          (makePaymentSignature settings names.1 names.2) none
        refine ⟨verifiedDb, fun bookingId verified => ?_⟩
        simp only at verified
        split at verified
        · rename_i change accepted
          exact reached change bookingId accepted verified
        · cases verified
  · simp only [isCapture, if_neg, not_false_eq_true]
    have grows := dispatchWebhook_grows db settings now payload isCapture
    have writes : LeadWrites db.leads (dispatchWebhook settings now eventName payload db).2.leads :=
      dispatchWebhook_writes eventName payload db
    refine ⟨owned.keeps grows (writes.fields owned.fields) ?_, fun bookingId verified => by cases verified⟩
    rcases dispatchWebhook_leads settings now eventName payload db with same | ⟨_, _, isOther, _⟩
    · rw [same]
      exact .refl db.leads
    · exact absurd isOther isCapture

theorem upsertTarget_own {leads : List Lead} {event : LeadEvent} {lead : Lead}
    (mobile : event.mobileNumber = lead.primaryMobile) (service : event.service = lead.requiredService)
    (own : lead.upsertedAs leads = some leadId) : upsertTarget leads event = leadId := by
  obtain ⟨row, best, isLead⟩ := Option.map_eq_some_iff.mp own
  have isBest : bestRow event.matches Lead.lastActivityAt leads = some row := by
    rw [← best]
    refine congrArg (fun accept => bestRow accept Lead.lastActivityAt leads) (funext fun other => ?_)
    rw [LeadEvent.matches, mobile, service]
  simp only [upsertTarget, isBest]
  exact isLead

theorem OwnedDb.createBooking (owned : OwnedDb db) {customer : UserId} {request : BookingRequest}
    (accepted : createBooking now customer request db = .ok (bookingId, next)) :
    OwnedDb next ∧ bookingId < next.bookings.length ∧ ∃ event : LeadEvent,
      OwnedBy next.leads bookingId (upsertTarget db.leads event) ∧ event.service = some request.serviceId ∧
      ∃ user, db.directory.users[customer]? = some user ∧ event.mobileNumber = user.phoneNumber := by
  obtain ⟨user, slot, booking, known, ofService, leads⟩ := createBooking_leads accepted
  obtain ⟨rfl, count, grows⟩ := createBooking_grows accepted
  have nobody (leadId : LeadId) : OwnedBy db.leads db.bookings.length leadId :=
    fun key refers => absurd refers (owned.unreferenced key)
  have gains : Gains db.leads next.leads (upsertTarget db.leads (bookingEvent user booking)) db.bookings.length := by
    rw [leads]
    rcases linkBookingToLead_refs now db.leads user slot db.bookings.length booking with
      ⟨_, _, keeps⟩ | ⟨_, gains, _⟩
    · exact keeps.gains _ _
    · exact gains
  have below : db.bookings.length < next.bookings.length := count ▸ Nat.lt_succ_self _
  refine ⟨owned.gains grows ((createBooking_writes accepted).fields owned.fields) gains (nobody _) below, below,
    bookingEvent user booking, gains.ownedBy (nobody _), congrArg some ofService, user, known, rfl⟩

theorem OwnedDb.link (owned : OwnedDb db)
    (free : ∀ lead ∈ db.leads, lead.convertedBooking ≠ some bookingId) :
    OwnedDb (LeadOp.step db (.linkBookingToLead now bookingId)) := by
  simp only [LeadOp.step]
  split
  · rename_i booking customer slot parts
    have found : ∃ booking, db.bookings[bookingId]? = some booking := by
      simp only [bookingParts, Option.bind_eq_bind, Option.bind_eq_some_iff] at parts
      obtain ⟨row, found, _⟩ := parts
      exact ⟨row, found⟩
    obtain ⟨row, found⟩ := found
    have fields : ∀ lead ∈ (linkBookingToLead now db.leads customer slot bookingId booking).2, lead.fieldErrors = [] :=
      linkBookingToLead_writes.fields owned.fields
    rcases linkBookingToLead_refs now db.leads customer slot bookingId booking with
      ⟨_, _, keeps⟩ | ⟨_, gains, awaited⟩
    · exact owned.keeps (.same rfl rfl rfl) fields keeps
    · refine owned.gains (.same rfl rfl rfl) fields gains ?_ (List.getElem?_eq_some_iff.mp found).1
      rintro key ⟨lead, present, isOf⟩
      rcases refersTo_iff.mp isOf with pending | converted
      · exact awaited key lead present pending
      · exact absurd converted (free lead (List.mem_of_getElem? present))
  · exact owned

theorem OwnedDb.workOrder (owned : OwnedDb db) {loaded : LoadedLead} {booking : Option LoadedBooking}
    {object : LoadedBooking}
    (given : ∀ object, booking = some object → ∀ key lead, db.leads[key]? = some lead →
      lead.pendingBooking = some object.bookingId → key = loaded.leadId)
    (own : booking = none → loaded.lead.upsertedAs db.leads = some loaded.leadId)
    (accepted : workOrderBooking now loaded booking db = .ok (object, next)) :
    OwnedDb next ∧ object.bookingId < next.bookings.length ∧
      ∀ key lead, next.leads[key]? = some lead → lead.pendingBooking = some object.bookingId → key = loaded.leadId := by
  cases booking with
  | some named =>
      obtain ⟨rfl, row, found, rfl⟩ := workOrderBooking_given accepted
      have known : object.bookingId < (db.bookings.set object.bookingId row.asWorkOrder).length := by
        rw [List.length_set]
        exact (List.getElem?_eq_some_iff.mp found).1
      have sameCustomer : row.asWorkOrder.customer = row.customer := rfl
      have sameSlot : row.asWorkOrder.timeSlot = row.timeSlot := rfl
      exact ⟨owned.keeps (.set found sameCustomer sameSlot rfl rfl rfl) owned.fields (.refl db.leads), known,
        given object rfl⟩
  | none =>
      obtain ⟨bookingId, row⟩ := object
      obtain ⟨made, service, created, foundRow, _, rfl⟩ := workOrderBooking_new accepted
      obtain ⟨customer, request, prepared, prepares, created⟩ := createBookingFromLead_creates created
      have preparedGrows : DbGrows db prepared := {
        users := prepares.users
        slots := prepares.slots
        count := Nat.le_of_eq (congrArg List.length prepares.bookings).symm
        bookings := fun _ booking present => .inl ⟨booking, prepares.bookings ▸ present, rfl, rfl⟩
      }
      have preparedOwned : OwnedDb prepared := by
        refine owned.keeps preparedGrows ?_ ?_
        · rw [prepares.leads]
          exact owned.fields
        · rw [prepares.leads]
          exact .refl db.leads
      obtain ⟨madeOwned, below, event, ownedBy, ofService, user, known, ofUser⟩ := preparedOwned.createBooking created
      have isLead : upsertTarget prepared.leads event = loaded.leadId := by
        rw [prepares.leads]
        exact upsertTarget_own (ofUser.trans (prepares.mobile user known)) (ofService.trans prepares.service.symm)
          (own rfl)
      rw [isLead] at ownedBy
      have sameCustomer : (row.repriced loaded.lead service.toServiceFields).asWorkOrder.customer = row.customer := by
        simp only [Booking.repriced]
        split <;> rfl
      have sameSlot : (row.repriced loaded.lead service.toServiceFields).asWorkOrder.timeSlot = row.timeSlot := by
        simp only [Booking.repriced]
        split <;> rfl
      refine ⟨madeOwned.keeps (.set foundRow sameCustomer sameSlot rfl rfl rfl) madeOwned.fields (.refl made.leads), ?_,
        fun key lead present pending => ownedBy key ⟨lead, present, refersTo_iff.mpr (.inl pending)⟩⟩
      show bookingId < (made.bookings.set bookingId _).length
      rw [List.length_set]
      exact below

theorem OwnedDb.convert (owned : OwnedDb db) {performedBy : Option UserId} {booking : Option BookingId}
    {notes : String} {lead : Lead}
    (given : ∀ stored bookingId, booking = some bookingId → db.leads[leadId]? = some stored →
      stored.isConverted = false → ∀ key other, db.leads[key]? = some other →
      other.pendingBooking = some bookingId → key = leadId)
    (own : ∀ stored, booking = none → db.leads[leadId]? = some stored → stored.isConverted = false →
      stored.upsertedAs db.leads = some leadId)
    (accepted : convertFreshLead now leadId performedBy booking notes db = .ok (lead, next)) : OwnedDb next := by
  have fields : ∀ lead ∈ next.leads, lead.fieldErrors = [] := (convertFreshLead_writes accepted).fields owned.fields
  obtain ⟨loaded, object, found, rfl, isBooking, converted⟩ := convertFreshLead_loads accepted
  rcases convertLeadToWorkOrder_cases converted with ⟨_, _, rfl⟩ | ⟨made, booked, leads, notYet, ordered, stored, rfl⟩
  · exact owned
  · obtain ⟨bookedOwned, known, awaited⟩ := owned.workOrder
      (fun object isObject => given loaded.lead object.bookingId (by rw [← isBooking, isObject]; rfl) found notYet)
      (fun isNone => own loaded.lead (by rw [← isBooking, isNone]; rfl) found notYet) ordered
    obtain ⟨row, internalNotes, foundRow, rfl, saved⟩ := saveConvertedLead_saves stored
    obtain ⟨clean, rfl⟩ := saveLead_iff.mp saved
    refine bookedOwned.gains (.same rfl rfl rfl) fields (.set foundRow fun _ => converted_refers) ?_ known
    rintro key ⟨other, present, isOf⟩
    rcases refersTo_iff.mp isOf with pending | linked
    · exact awaited key other present pending
    · simp only [Lead.fullCleanErrors, List.append_eq_nil_iff] at clean
      refine Decidable.by_contra fun differs => ?_
      have clash : (otherLeads booked.leads (some loaded.leadId)).any
          (·.convertedBooking == some made.bookingId) = true :=
        List.any_eq_true.mpr ⟨other, mem_otherLeads.mpr ⟨key, differs, present⟩, by simp [linked]⟩
      have unique := clean.2
      simp [Lead.uniqueErrors, Lead.converted, clash] at unique

end

structure LeadBook.Unlinked (book : LeadBook) : Prop where
  fields : ∀ lead ∈ book.leads, lead.fieldErrors = []
  unlinked : ∀ lead ∈ book.leads, lead.pendingBooking = none ∧ lead.convertedBooking = none
  parties : PartiesKnown book.db

theorem LeadBook.Unlinked.owned {book : LeadBook} (unlinked : book.Unlinked) : OwnedDb book.db := by
  have nobody : ∀ leadId bookingId, ¬ References book.db.leads leadId bookingId := by
    rintro leadId bookingId ⟨lead, present, isOf⟩
    obtain ⟨pending, converted⟩ := unlinked.unlinked lead (List.mem_of_getElem? present)
    rcases refersTo_iff.mp isOf with isPending | isConverted
    · rw [pending] at isPending
      cases isPending
    · rw [converted] at isConverted
      cases isConverted
  exact ⟨fun first second bookingId refers => absurd refers (nobody first bookingId),
    fun leadId bookingId refers => absurd refers (nobody leadId bookingId), unlinked.fields, unlinked.parties⟩

section

variable {settings : JourneySettings} {book : LeadBook} {op : JourneyOp}

end

end PsCore
