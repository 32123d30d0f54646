import PsCore.SystemCore
import PsCore.Bookings
import PsCore.Library.TransitionRun

/-!
Leads that can be saved again. Every save cleans its own lead only, and a lead without a
service clashes with leads that do not clash with it.
-/

namespace PsCore

open Fallible RowTable TransitionRun

/-! The operations on leads, one at a time: each loads what it works on and runs to its end. -/

/-- `^([01]\d|2[0-3]):[0-5]\d$`, in at most five characters. -/
def isSlotStart (text : String) : Bool :=
  match text.toList with
  | [hourTens, hourDigit, ':', minuteTens, minuteDigit] =>
      (((hourTens == '0' || hourTens == '1') && (digitValue hourDigit).isSome) ||
        (hourTens == '2' && '0' ≤ hourDigit && hourDigit ≤ '3')) &&
      '0' ≤ minuteTens && minuteTens ≤ '5' && (digitValue minuteDigit).isSome
  | _ => false

structure LeadSchedule where
  preferredDate : Date
  preferredSlot : String
  wellFormed : isSlotStart preferredSlot = true

def scheduleLead (now : Instant) (leads : List Lead) (leadId : LeadId) (schedule : LeadSchedule) :
    Except ServiceError (List Lead) := do
  let lead ← orRaise leads[leadId]? (.doesNotExist "Lead")
  require (localDate now ≤ schedule.preferredDate) (.validation "Schedule date cannot be in the past.")
  let scheduled := { lead with
    preferredDate := some schedule.preferredDate
    preferredSlot := schedule.preferredSlot
    lastActivityAt := now
    updatedAt := now }
  saveLead leads leadId scheduled scheduled

inductive LeadOp
  | upsertLead (now : Instant) (event : LeadEvent)
  | linkBookingToLead (now : Instant) (bookingId : BookingId)
  | markBookingPaymentPaid (now : Instant) (bookingId : BookingId)
  | convertLeadToWorkOrder (now : Instant) (leadId : LeadId) (performedBy : Option UserId)
      (booking : Option BookingId) (notes : String)
  | scheduleLead (now : Instant) (leadId : LeadId) (schedule : LeadSchedule)
  | recordLeadContact (now : Instant) (leadId : LeadId) (note : String)

def bookingParts (db : Db) (bookingId : BookingId) : Option (Booking × User × TimeSlot) := do
  let booking ← db.bookings[bookingId]?
  let customer ← db.directory.users[booking.customer]?
  let slot ← db.slots[booking.timeSlot]?
  pure (booking, customer, slot)

def freshBooking (db : Db) (bookingId : BookingId) : Except ServiceError LoadedBooking := do
  let booking ← orRaise db.bookings[bookingId]? (.doesNotExist "Booking")
  pure { bookingId := bookingId, booking := booking }

def convertFreshLead (now : Instant) (leadId : LeadId) (performedBy : Option UserId) (booking : Option BookingId)
    (notes : String) (db : Db) : Except ServiceError (Lead × Db) := do
  let loaded ← loadLead db leadId
  match booking with
  | none => convertLeadToWorkOrder now loaded performedBy none notes db
  | some bookingId => do
      let object ← freshBooking db bookingId
      convertLeadToWorkOrder now loaded performedBy (some object) notes db

def recordFreshContact (now : Instant) (leads : List Lead) (leadId : LeadId) (note : String) :
    Except ServiceError (List Lead) := do
  let lead ← orRaise leads[leadId]? (.doesNotExist "Lead")
  recordLeadContact now leads leadId lead note

def savedOr (leads : List Lead) : Except ServiceError (List Lead) → List Lead
  | .ok saved => saved
  | .error _ => leads

def LeadOp.step (db : Db) : LeadOp → Db
  | .upsertLead now event =>
      { db with leads := savedOr db.leads ((PsCore.upsertLead now db.leads event).map Prod.snd) }
  | .linkBookingToLead now bookingId => match bookingParts db bookingId with
      | some (booking, customer, slot) =>
          { db with leads := (PsCore.linkBookingToLead now db.leads customer slot bookingId booking).2 }
      | none => db
  | .markBookingPaymentPaid now bookingId => match bookingParts db bookingId with
      | some (booking, customer, slot) =>
          { db with leads := (PsCore.markBookingPaymentPaid now db.leads customer slot bookingId booking).2 }
      | none => db
  | .convertLeadToWorkOrder now leadId performedBy booking notes =>
      (commit db (convertFreshLead now leadId performedBy booking notes db)).2
  | .scheduleLead now leadId schedule =>
      { db with leads := savedOr db.leads (PsCore.scheduleLead now db.leads leadId schedule) }
  | .recordLeadContact now leadId note =>
      { db with leads := savedOr db.leads (recordFreshContact now db.leads leadId note) }

/-- Every stored lead passes its own cleaning. -/
def LeadsSaveable (leads : List Lead) : Prop :=
  ∀ (leadId : LeadId) (lead : Lead), leads[leadId]? = some lead → lead.cleanErrors leads (some leadId) = []

def Lead.isActive (lead : Lead) : Bool :=
  activeLeadStatuses.contains lead.status

/-- An upsert finds no lead of its own for the service, where the mobile has an active one without any. -/
def createsBeside (leads : List Lead) (mobile : String) (service : Option ServiceId) : Bool :=
  service.isSome &&
  !(leads.any fun lead => lead.isActive && lead.primaryMobile == mobile && lead.requiredService == service) &&
  leads.any fun lead => lead.isActive && lead.primaryMobile == mobile && lead.requiredService == none

def hasLeadOf (leads : List Lead) (bookingId : BookingId) : Bool :=
  leads.any fun lead => lead.pendingBooking == some bookingId || lead.convertedBooking == some bookingId

/-- The operation creates no lead beside one without a service. -/
def LeadOp.keepsSaveable (db : Db) : LeadOp → Bool
  | .upsertLead _ event => !createsBeside db.leads event.mobileNumber event.service
  | .linkBookingToLead _ bookingId => (bookingParts db bookingId).all fun (booking, customer, _) =>
      !createsBeside db.leads customer.phoneNumber (some booking.service)
  | .markBookingPaymentPaid _ bookingId => (bookingParts db bookingId).all fun (booking, customer, _) =>
      hasLeadOf db.leads bookingId || !createsBeside db.leads customer.phoneNumber (some booking.service)
  | .convertLeadToWorkOrder _ leadId _ none _ => (db.leads[leadId]?).all fun lead =>
      lead.isConverted || !createsBeside db.leads lead.primaryMobile lead.requiredService
  | .convertLeadToWorkOrder _ _ _ (some _) _ | .scheduleLead _ _ _ | .recordLeadContact _ _ _ => true

theorem mem_otherLeads {leads : List Lead} {leadId : LeadId} {other : Lead} :
    other ∈ otherLeads leads (some leadId) ↔ ∃ otherId, otherId ≠ leadId ∧ leads[otherId]? = some other := by
  simp only [otherLeads, List.mem_eraseIdx_iff_getElem?]

structure Lead.Clean (lead : Lead) (others : List Lead) : Prop where
  linked : lead.convertedBooking ≠ none ↔ lead.status = .converted
  alone : lead.isActive = true → ∀ other ∈ others, other.primaryMobile = lead.primaryMobile →
    other.isActive = true → lead.requiredService ≠ none ∧ other.requiredService ≠ lead.requiredService

theorem Lead.clean_iff {leads : List Lead} {self : Option LeadId} {lead : Lead} :
    lead.cleanErrors leads self = [] ↔ lead.Clean (otherLeads leads self) := by
  simp only [Lead.cleanErrors, List.append_eq_nil_iff, ite_eq_right_iff, List.cons_ne_nil, imp_false, not_and,
    Bool.and_eq_true, List.any_eq_true, beq_iff_eq, Bool.or_eq_true, not_exists, not_or, ne_eq, Decidable.not_not]
  constructor
  · rintro ⟨⟨unlinked, unconverted⟩, alone⟩
    exact ⟨⟨unconverted, unlinked⟩, fun active other member mobile otherActive =>
      alone active other member ⟨mobile, otherActive⟩⟩
  · rintro ⟨linked, alone⟩
    exact ⟨⟨linked.mpr, linked.mp⟩, fun active other member same =>
      alone active other member same.1 same.2⟩

structure SameIdentity (before after : Lead) : Prop where
  primaryMobile : after.primaryMobile = before.primaryMobile
  requiredService : after.requiredService = before.requiredService
  status : after.status = before.status

theorem SameIdentity.isActive {before after : Lead} (same : SameIdentity before after) :
    after.isActive = before.isActive := by
  rw [Lead.isActive, same.status, Lead.isActive]

theorem Lead.clean_of_converted {lead : Lead} (others : List Lead) (status : lead.status = .converted)
    (linked : lead.convertedBooking ≠ none) : lead.Clean others where
  linked := ⟨fun _ => status, fun _ => linked⟩
  alone := fun active => by
    rw [Lead.isActive, status] at active
    cases active

theorem saveLead_accepted {leads next : List Lead} {leadId : LeadId} {object row : Lead}
    (accepted : saveLead leads leadId object row = .ok next) :
    object.Clean (otherLeads leads (some leadId)) ∧ next = leads.set leadId row := by
  simp only [saveLead, Lead.fullClean, accepted_bind, accepted_require, accepted_pure, Lead.fullCleanErrors,
    List.append_eq_nil_iff] at accepted
  obtain ⟨_, ⟨⟨_, clean⟩, _⟩, rfl⟩ := accepted
  exact ⟨Lead.clean_iff.mp clean, rfl⟩

theorem leadsSaveable_iff {leads : List Lead} :
    LeadsSaveable leads ↔ ∀ (leadId : LeadId) (lead : Lead), leads[leadId]? = some lead →
      lead.Clean (otherLeads leads (some leadId)) :=
  forall_congr' fun _ => forall_congr' fun _ => imp_congr_right fun _ => Lead.clean_iff

theorem LeadsSaveable.set {leads : List Lead} {leadId : LeadId} {before after : Lead} (saveable : LeadsSaveable leads)
    (found : leads[leadId]? = some before) (clean : after.Clean (otherLeads leads (some leadId)))
    (kept : after.isActive = true → SameIdentity before after) : LeadsSaveable (leads.set leadId after) := by
  rw [leadsSaveable_iff] at saveable ⊢
  intro key lead present
  rcases set_cases present with ⟨rfl, rfl⟩ | old
  · refine ⟨clean.linked, fun active other member => clean.alone active other ?_⟩
    obtain ⟨otherId, differs, inNext⟩ := mem_otherLeads.mp member
    rw [List.getElem?_set_ne differs.symm] at inNext
    exact mem_otherLeads.mpr ⟨otherId, differs, inNext⟩
  · by_cases isTarget : leadId = key
    · subst isTarget
      rw [List.getElem?_set_self (List.getElem?_eq_some_iff.mp found).1, Option.some.injEq] at present
      subst present
      refine ⟨clean.linked, fun active other member => clean.alone active other ?_⟩
      obtain ⟨otherId, differs, inNext⟩ := mem_otherLeads.mp member
      rw [List.getElem?_set_ne differs.symm] at inNext
      exact mem_otherLeads.mpr ⟨otherId, differs, inNext⟩
    · have own := saveable key lead old
      refine ⟨own.linked, fun active other member mobile otherActive => ?_⟩
      obtain ⟨otherId, differs, inNext⟩ := mem_otherLeads.mp member
      rcases set_cases inNext with ⟨rfl, rfl⟩ | inLeads
      · have same := kept otherActive
        have apart := own.alone active before (mem_otherLeads.mpr ⟨_, differs, found⟩)
          (same.primaryMobile ▸ mobile) (same.isActive ▸ otherActive)
        rw [same.requiredService]
        exact apart
      · exact own.alone active other (mem_otherLeads.mpr ⟨otherId, differs, inLeads⟩) mobile otherActive

theorem LeadsSaveable.append {leads : List Lead} {added : Lead} (saveable : LeadsSaveable leads)
    (clean : added.Clean leads)
    (beside : added.isActive = true → ∀ other ∈ leads, other.primaryMobile = added.primaryMobile →
      other.isActive = true → other.requiredService ≠ none) : LeadsSaveable (leads ++ [added]) := by
  rw [leadsSaveable_iff] at saveable ⊢
  intro key lead present
  rcases append_cases present with old | ⟨rfl, rfl⟩
  · have own := saveable key lead old
    refine ⟨own.linked, fun active other member mobile otherActive => ?_⟩
    obtain ⟨otherId, differs, inNext⟩ := mem_otherLeads.mp member
    rcases append_cases inNext with inLeads | ⟨rfl, rfl⟩
    · exact own.alone active other (mem_otherLeads.mpr ⟨otherId, differs, inLeads⟩) mobile otherActive
    · have isMember := List.mem_of_getElem? old
      have apart := clean.alone otherActive lead isMember mobile.symm active
      exact ⟨beside otherActive lead isMember mobile.symm active, apart.2.symm⟩
  · refine ⟨clean.linked, fun active other member mobile otherActive => ?_⟩
    obtain ⟨otherId, differs, inNext⟩ := mem_otherLeads.mp member
    rcases append_cases inNext with inLeads | ⟨atEnd, _⟩
    · exact clean.alone active other (List.mem_of_getElem? inLeads) mobile otherActive
    · exact absurd atEnd differs

theorem saveLead_saveable {leads next : List Lead} {leadId : LeadId} {before after : Lead}
    (saveable : LeadsSaveable leads) (found : leads[leadId]? = some before)
    (accepted : saveLead leads leadId after after = .ok next) (same : SameIdentity before after) :
    LeadsSaveable next := by
  obtain ⟨clean, rfl⟩ := saveLead_accepted accepted
  exact saveable.set found clean fun _ => same

theorem createsBeside_false {leads : List Lead} {mobile : String} {service : Option ServiceId}
    (beside : createsBeside leads mobile service = false) :
    service = none ∨
      (∃ lead ∈ leads, lead.isActive = true ∧ lead.primaryMobile = mobile ∧ lead.requiredService = service) ∨
      ∀ other ∈ leads, other.primaryMobile = mobile → other.isActive = true → other.requiredService ≠ none := by
  cases service with
  | none => exact .inl rfl
  | some serviceId =>
      refine .inr ?_
      simp only [createsBeside, Option.isSome_some, Bool.true_and, Bool.and_eq_false_iff, Bool.not_eq_false',
        List.any_eq_true, List.any_eq_false, Bool.and_eq_true, beq_iff_eq, not_and, and_assoc] at beside
      rcases beside with ⟨lead, member, active, sameMobile, sameService⟩ | alone
      · exact .inl ⟨lead, member, active, sameMobile, sameService⟩
      · exact .inr fun other member sameMobile active => alone other member active sameMobile

theorem LeadEvent.matches_iff {event : LeadEvent} {lead : Lead} :
    event.matches lead = true ↔
      lead.primaryMobile = event.mobileNumber ∧ lead.requiredService = event.service ∧ lead.isActive = true := by
  simp only [LeadEvent.matches, Bool.and_eq_true, beq_iff_eq, Lead.isActive, and_assoc]

theorem upsertLead_accepted {now : Instant} {leads next : List Lead} {event : LeadEvent} {leadId : LeadId}
    (accepted : upsertLead now leads event = .ok (leadId, next)) :
    (∃ lead, leads[leadId]? = some lead ∧ event.matches lead = true ∧
      (event.merge now lead).Clean (otherLeads leads (some leadId)) ∧
      next = leads.set leadId (event.merge now lead)) ∨
    ((∀ lead ∈ leads, event.matches lead = false) ∧ (event.merge now (event.newLead now)).Clean leads ∧
      leadId = leads.length ∧ next = leads ++ [event.merge now (event.newLead now)]) := by
  unfold upsertLead at accepted
  split at accepted
  · rename_i key lead best
    simp only [accepted_bind, accepted_pure, Prod.mk.injEq] at accepted
    obtain ⟨saved, stored, rfl, rfl⟩ := accepted
    obtain ⟨found, isMatch⟩ := bestRow_some best
    obtain ⟨clean, written⟩ := saveLead_accepted stored
    exact .inl ⟨lead, found, isMatch, clean, written⟩
  · rename_i absent
    simp only [Lead.fullClean, accepted_bind, accepted_require, accepted_pure, Lead.fullCleanErrors,
      List.append_eq_nil_iff, Prod.mk.injEq] at accepted
    obtain ⟨_, ⟨⟨_, clean⟩, _⟩, rfl, rfl⟩ := accepted
    exact .inr ⟨bestRow_none.mp absent, Lead.clean_iff.mp clean, rfl, rfl⟩

theorem upsertLead_saveable {now : Instant} {leads next : List Lead} {event : LeadEvent} {leadId : LeadId}
    (saveable : LeadsSaveable leads) (beside : createsBeside leads event.mobileNumber event.service = false)
    (accepted : upsertLead now leads event = .ok (leadId, next)) : LeadsSaveable next := by
  rcases upsertLead_accepted accepted with ⟨lead, found, _, clean, rfl⟩ | ⟨absent, clean, _, rfl⟩
  · exact saveable.set found clean fun _ => ⟨rfl, rfl, rfl⟩
  · refine saveable.append clean fun active other member mobile otherActive => ?_
    rcases createsBeside_false beside with noService | ⟨lead, present, isMatch⟩ | services
    · exact absurd noService (clean.alone active other member mobile otherActive).1
    · have matched := LeadEvent.matches_iff.mpr ⟨isMatch.2.1, isMatch.2.2, isMatch.1⟩
      rw [absent lead present] at matched
      cases matched
    · exact services other member mobile otherActive

section

variable {now : Instant} {leads : List Lead} {customer : User} {slot : TimeSlot} {bookingId : BookingId}
  {booking : Booking}

theorem linkBookingToLead_saveable (saveable : LeadsSaveable leads)
    (beside : createsBeside leads customer.phoneNumber (some booking.service) = false) :
    LeadsSaveable (linkBookingToLead now leads customer slot bookingId booking).2 := by
  simp only [linkBookingToLead]
  split
  · exact saveable
  · rename_i leadId saved upserted
    have afterUpsert := upsertLead_saveable saveable beside upserted
    split
    · exact afterUpsert
    · rename_i lead found
      split
      · exact afterUpsert
      · rename_i next stored
        exact saveLead_saveable afterUpsert found stored ⟨rfl, rfl, rfl⟩

theorem leadOfBooking_saveable (saveable : LeadsSaveable leads)
    (beside : hasLeadOf leads bookingId = true ∨
      createsBeside leads customer.phoneNumber (some booking.service) = false) :
    LeadsSaveable (leadOfBooking now leads customer slot bookingId booking).2 := by
  unfold leadOfBooking
  split
  · exact saveable
  · rename_i absent
    rcases beside with present | beside
    · obtain ⟨lead, member, owns⟩ := List.any_eq_true.mp present
      rw [bestRow_none.mp absent lead member] at owns
      cases owns
    · exact linkBookingToLead_saveable saveable beside

theorem markBookingPaymentPaid_saveable (saveable : LeadsSaveable leads)
    (beside : hasLeadOf leads bookingId = true ∨
      createsBeside leads customer.phoneNumber (some booking.service) = false) :
    LeadsSaveable (markBookingPaymentPaid now leads customer slot bookingId booking).2 := by
  have found : LeadsSaveable (leadOfBooking now leads customer slot bookingId booking).2 :=
    leadOfBooking_saveable saveable beside
  unfold markBookingPaymentPaid
  split
  · rename_i error saved located
    rw [located] at found
    exact found
  · rename_i leadId saved located
    rw [located] at found
    split
    · exact found
    · rename_i lead present
      dsimp only
      split
      · exact found
      · rename_i next stored
        obtain ⟨clean, rfl⟩ := saveLead_accepted stored
        exact found.set present clean fun active => by cases active

end

theorem createBooking_leads {now : Instant} {customer : UserId} {request : BookingRequest} {db next : Db}
    {bookingId : BookingId} (accepted : createBooking now customer request db = .ok (bookingId, next)) :
    ∃ user slot booking, db.directory.users[customer]? = some user ∧ booking.service = request.serviceId ∧
      next.leads = (linkBookingToLead now db.leads user slot db.bookings.length booking).2 := by
  obtain ⟨_, _, slot, user, _, _, _, _, _, _, found, _, rfl, _, rfl⟩ := createBooking_made accepted
  exact ⟨user, slot, _, found, rfl, rfl⟩

theorem customerOfLead_phone {users : List User} {lead : Lead} {user : User}
    (found : (customerOfLead users lead).2[(customerOfLead users lead).1]? = some user) :
    user.phoneNumber = lead.primaryMobile := by
  unfold customerOfLead at found
  split at found
  · rename_i userId known located
    obtain ⟨present, isCustomer⟩ := firstRow_some located
    rw [List.getElem?_set_self (List.getElem?_eq_some_iff.mp present).1, Option.some.injEq] at found
    rw [← found]
    exact beq_iff_eq.mp isCustomer
  · simp only [List.getElem?_concat_length, Option.some.injEq] at found
    rw [← found]

theorem createBookingFromLead_saveable {now : Instant} {lead : Lead} {db next : Db} {bookingId : BookingId}
    (saveable : LeadsSaveable db.leads)
    (beside : createsBeside db.leads lead.primaryMobile lead.requiredService = false)
    (accepted : createBookingFromLead now lead db = .ok (bookingId, next)) : LeadsSaveable next.leads := by
  obtain ⟨preparation, sound, created⟩ := createBookingFromLead_prepares accepted
  obtain ⟨user, slot, booking, found, ofService, leads⟩ := createBooking_leads created
  rw [leads]
  refine linkBookingToLead_saveable saveable ?_
  rw [customerOfLead_phone found, ofService]
  exact sound.service ▸ beside

theorem saveConvertedLead_saveable {now : Instant} {loaded : LoadedLead} {object : LoadedBooking} {notes : String}
    {leads next : List Lead} {lead : Lead} (saveable : LeadsSaveable leads)
    (accepted : saveConvertedLead now loaded object notes leads = .ok (lead, next)) : LeadsSaveable next := by
  obtain ⟨row, internalNotes, found, rfl, stored⟩ := saveConvertedLead_saves accepted
  obtain ⟨_, rfl⟩ := saveLead_accepted stored
  exact saveable.set found (Lead.clean_of_converted _ rfl (Option.some_ne_none _)) fun active => by cases active

theorem convertLeadToWorkOrder_saveable {now : Instant} {loaded : LoadedLead} {performedBy : Option UserId}
    {booking : Option LoadedBooking} {notes : String} {db next : Db} {lead : Lead}
    (saveable : LeadsSaveable db.leads)
    (beside : booking = none → loaded.lead.isConverted = true ∨
      createsBeside db.leads loaded.lead.primaryMobile loaded.lead.requiredService = false)
    (accepted : convertLeadToWorkOrder now loaded performedBy booking notes db = .ok (lead, next)) :
    LeadsSaveable next.leads := by
  rcases convertLeadToWorkOrder_cases accepted with ⟨_, _, rfl⟩ |
    ⟨object, booked, leads, unconverted, ordered, stored, rfl⟩
  · exact saveable
  · refine saveConvertedLead_saveable ?_ stored
    cases booking with
    | none =>
        obtain ⟨made, service, created, _, _, rfl⟩ := workOrderBooking_new ordered
        have alone := (beside rfl).resolve_left (Bool.eq_false_iff.mp unconverted)
        have madeSaveable : LeadsSaveable made.leads := createBookingFromLead_saveable saveable alone created
        exact madeSaveable
    | some given =>
        obtain ⟨_, row, _, rfl⟩ := workOrderBooking_given ordered
        exact saveable

theorem savedOr_saveable {leads : List Lead} {program : Except ServiceError (List Lead)} (saveable : LeadsSaveable leads)
    (accepted : ∀ saved, program = .ok saved → LeadsSaveable saved) : LeadsSaveable (savedOr leads program) := by
  cases program with
  | error error => exact saveable
  | ok saved => exact accepted saved rfl

theorem step_saveable {db : Db} {op : LeadOp} (saveable : LeadsSaveable db.leads) (keeps : op.keepsSaveable db = true) :
    LeadsSaveable (LeadOp.step db op).leads := by
  cases op with
  | upsertLead now event =>
      refine savedOr_saveable saveable fun saved accepted => ?_
      cases upserted : upsertLead now db.leads event with
      | error error =>
          rw [upserted] at accepted
          cases accepted
      | ok result =>
          rw [upserted] at accepted
          cases accepted
          exact upsertLead_saveable saveable (by simpa [LeadOp.keepsSaveable] using keeps) upserted
  | linkBookingToLead now bookingId =>
      simp only [LeadOp.step]
      split
      · rename_i booking customer slot parts
        simp only [LeadOp.keepsSaveable, parts, Option.all_some, Bool.not_eq_true'] at keeps
        exact linkBookingToLead_saveable saveable keeps
      · exact saveable
  | markBookingPaymentPaid now bookingId =>
      simp only [LeadOp.step]
      split
      · rename_i booking customer slot parts
        simp only [LeadOp.keepsSaveable, parts, Option.all_some, Bool.or_eq_true, Bool.not_eq_true'] at keeps
        exact markBookingPaymentPaid_saveable saveable keeps
      · exact saveable
  | convertLeadToWorkOrder now leadId performedBy booking notes =>
      simp only [LeadOp.step]
      cases converted : convertFreshLead now leadId performedBy booking notes db with
      | error error => exact saveable
      | ok result =>
          simp only [convertFreshLead, loadLead, accepted_bind, accepted_orRaise, accepted_pure] at converted
          obtain ⟨loaded, ⟨lead, found, rfl⟩, converted⟩ := converted
          cases booking with
          | none =>
              refine convertLeadToWorkOrder_saveable saveable (fun _ => ?_) converted
              simpa only [LeadOp.keepsSaveable, found, Option.all_some, Bool.or_eq_true, Bool.not_eq_true'] using keeps
          | some bookingId =>
              simp only [accepted_bind] at converted
              obtain ⟨object, _, converted⟩ := converted
              exact convertLeadToWorkOrder_saveable saveable (fun absent => by cases absent) converted
  | scheduleLead now leadId schedule =>
      refine savedOr_saveable saveable fun saved accepted => ?_
      simp only [scheduleLead, accepted_bind, accepted_orRaise] at accepted
      obtain ⟨lead, found, _, _, stored⟩ := accepted
      exact saveLead_saveable saveable found stored ⟨rfl, rfl, rfl⟩
  | recordLeadContact now leadId note =>
      refine savedOr_saveable saveable fun saved accepted => ?_
      simp only [recordFreshContact, recordLeadContact, accepted_bind, accepted_orRaise] at accepted
      obtain ⟨lead, found, row, foundRow, stored⟩ := accepted
      rw [found, Option.some.injEq] at foundRow
      subst foundRow
      exact saveLead_saveable saveable found stored ⟨rfl, rfl, rfl⟩

/-- Every stored lead can be saved again, as long as no lead is created beside one that has no service. -/
theorem leadsSaveable_run {start : Db} {ops : List LeadOp} (saveable : LeadsSaveable start.leads)
    (guarded : Guarded LeadOp.step (fun db op => op.keepsSaveable db = true) start ops) :
    LeadsSaveable (runAll LeadOp.step start ops).leads := by
  have preserved : ∀ db op, LeadsSaveable db.leads → op.keepsSaveable db = true →
      LeadsSaveable (LeadOp.step db op).leads := fun _ _ => step_saveable
  exact guarded.invariant preserved saveable

def sampleCallback (mobileNumber : String) (service : Option ServiceId) : LeadOp :=
  .upsertLead sampleNow {
    mobileNumber := mobileNumber
    customerName := "Asha"
    service := service
    customer := none
    source := .callbackRequest
    funnelStatus := .visited
    paymentStatus := .notRequired
  }

def bookedDb : Db :=
  { (runAll (System.step sampleSettings) sampleSystem [sampleBookingBy 0]).db with leads := [] }

def followedUp : List LeadOp := [
  sampleCallback "+919000000002" none,
  sampleCallback "+919000000003" (some 0),
  .linkBookingToLead sampleNow 0,
  .scheduleLead sampleNow 1 { preferredDate := 20460, preferredSlot := "10:00", wellFormed := by decide },
  .recordLeadContact sampleNow 0 "Call back on Monday.",
  .markBookingPaymentPaid sampleNow 0]

theorem leadsSaveable_run_followedUp : LeadsSaveable (runAll LeadOp.step bookedDb followedUp).leads :=
  leadsSaveable_run (fun leadId lead present => by cases present) (by decide)

theorem lead_unsaveable :
    ¬ ∀ (start : Db) (ops : List LeadOp), start.leads = [] → LeadsSaveable (runAll LeadOp.step start ops).leads := by
  intro always
  have saveable := always sampleSystem.db
    [sampleCallback "+919000000001" none, sampleCallback "+919000000001" (some 0)] rfl
  have errors : ((runAll LeadOp.step sampleSystem.db
      [sampleCallback "+919000000001" none, sampleCallback "+919000000001" (some 0)]).leads[0]?).map
        (fun lead => lead.cleanErrors (runAll LeadOp.step sampleSystem.db
          [sampleCallback "+919000000001" none, sampleCallback "+919000000001" (some 0)]).leads (some 0)) =
      some [("primary_mobile", "An active lead already exists for this mobile number and service.")] := by decide
  obtain ⟨lead, present, unclean⟩ := Option.map_eq_some_iff.mp errors
  rw [saveable 0 lead present] at unclean
  cases unclean

end PsCore
