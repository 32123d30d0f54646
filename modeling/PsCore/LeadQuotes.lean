import PsCore.InvoiceAmounts
import PsCore.LeadJourneys

/-!
The price shown on a lead: its quote, or else the price of its service, and the training fee of the service in both
cases. A conversion without a booking takes it over; a linked booking stores its total as the quote.
-/

namespace PsCore

open Fallible RowTable TransitionRun

def LoadedLead.subtotal (loaded : LoadedLead) : Money :=
  match loaded.lead.quotedAmount with
  | some quotedAmount => quotedAmount
  | none => match loaded.requiredService with
      | some service => service.effectivePrice
      | none => 0

def LoadedLead.trainingFee (loaded : LoadedLead) : Money :=
  match loaded.requiredService with
  | some service => service.trainingFee
  | none => 0

def LoadedLead.totalAmount (loaded : LoadedLead) : Money :=
  loaded.subtotal + loaded.trainingFee

theorem upsertLead_service {now : Instant} {leads saved : List Lead} {event : LeadEvent} {leadId : LeadId}
    (accepted : upsertLead now leads event = .ok (leadId, saved)) :
    ∃ lead, saved[leadId]? = some lead ∧ lead.requiredService = event.service := by
  rcases upsertLead_checked accepted with ⟨lead, best, _, rfl⟩ | ⟨_, _, rfl, rfl⟩
  · obtain ⟨found, isMatch⟩ := bestRow_some best
    refine ⟨_, List.getElem?_set_self (List.getElem?_eq_some_iff.mp found).1, ?_⟩
    exact (LeadEvent.matches_iff.mp isMatch).2.1
  · exact ⟨_, List.getElem?_concat_length, rfl⟩

theorem linkBookingToLead_lead {now : Instant} {leads saved : List Lead} {customer : User} {slot : TimeSlot}
    {bookingId : BookingId} {booking : Booking} {leadId : LeadId}
    (linked : linkBookingToLead now leads customer slot bookingId booking = (.ok leadId, saved)) :
    ∃ lead : Lead, saved[leadId]? = some (lead.linked now bookingId booking slot) ∧
      lead.requiredService = some booking.service := by
  rcases linkBookingToLead_cases now leads customer slot bookingId booking with
    ⟨error, _, stopped⟩ | ⟨target, upserted, lead, accepted, stored, ⟨_, error, stopped⟩ | ⟨_, written⟩⟩
  · rw [stopped] at linked
    cases linked
  · rw [stopped] at linked
    cases linked
  · rw [written, Prod.mk.injEq, Except.ok.injEq] at linked
    obtain ⟨rfl, rfl⟩ := linked
    obtain ⟨other, isOther, service⟩ := upsertLead_service accepted
    rw [stored, Option.some.injEq] at isOther
    subst isOther
    exact ⟨lead, List.getElem?_set_self (List.getElem?_eq_some_iff.mp stored).1, service⟩

theorem linkedLead_totalAmount {now : Instant} {leads saved : List Lead} {customer : User} {slot : TimeSlot}
    {bookingId : BookingId} {booking : Booking} {leadId : LeadId} {db : Db} {service : Service} {loaded : LoadedLead}
    (linked : linkBookingToLead now leads customer slot bookingId booking = (.ok leadId, saved))
    (found : db.directory.services[booking.service]? = some service)
    (isLoaded : loadLead { db with leads := saved } leadId = .ok loaded) :
    loaded.totalAmount = booking.totalAmount + service.trainingFee := by
  obtain ⟨lead, stored, required⟩ := linkBookingToLead_lead linked
  simp only [loadLead, stored, accepted_bind, accepted_orRaise, accepted_pure, Option.some.injEq] at isLoaded
  obtain ⟨row, rfl, rfl⟩ := isLoaded
  have isService : (lead.linked now bookingId booking slot).requiredService = some booking.service := required
  simp only [LoadedLead.totalAmount, LoadedLead.subtotal, LoadedLead.trainingFee, isService, Option.bind_some, found]
  rfl

/-- A lead that is linked to a new booking shows the price of the booking exactly if its service takes no fee. -/
theorem showsBookingPrice_iff {now linkedAt : Instant} {customer : UserId} {request : BookingRequest} {db made : Db}
    {bookingId : BookingId} {service : Service} {booking : Booking} {user : User} {slot : TimeSlot}
    {leads saved : List Lead} {leadId : LeadId} {loaded : LoadedLead}
    (found : db.directory.services[request.serviceId]? = some service)
    (created : createBooking now customer request db = .ok (bookingId, made))
    (parts : bookingParts made bookingId = some (booking, user, slot))
    (linked : linkBookingToLead linkedAt leads user slot bookingId booking = (.ok leadId, saved))
    (isLoaded : loadLead { made with leads := saved } leadId = .ok loaded) :
    loaded.totalAmount = booking.totalAmount ↔ service.trainingFee = 0 := by
  obtain ⟨_, _, _, _, _, _, _, new, _, _, _, _, isNew, rfl, rfl⟩ := createBooking_made created
  have isBooking : new = booking := by
    simp only [bookingParts, Option.bind_eq_bind, Option.bind_eq_some_iff, List.getElem?_concat_length,
      Option.pure_def, Option.some.injEq, Prod.mk.injEq] at parts
    obtain ⟨_, rfl, _, _, _, _, same, _⟩ := parts
    exact same
  have sameService : booking.service = request.serviceId := by
    rw [← isBooking, isNew]
    rfl
  rw [linkedLead_totalAmount linked (by rw [sameService]; exact found) isLoaded]
  unfold Money
  omega

/-- The totals that a new lead and its booking show, where the one is filled from the other. -/
def shownTotals (db : Db) (bookingId : BookingId) : Option (Money × Money) :=
  match bookingParts db bookingId with
  | none => none
  | some (booking, user, slot) => match linkBookingToLead sampleNow [] user slot bookingId booking with
      | (.error _, _) => none
      | (.ok leadId, saved) => match loadLead { db with leads := saved } leadId with
          | .error _ => none
          | .ok loaded => some (loaded.totalAmount, booking.totalAmount)

theorem shownTotals_some {db : Db} {bookingId : BookingId} {onLead onBooking : Money}
    (shown : shownTotals db bookingId = some (onLead, onBooking)) :
    ∃ booking user slot leadId saved loaded, bookingParts db bookingId = some (booking, user, slot) ∧
      linkBookingToLead sampleNow [] user slot bookingId booking = (.ok leadId, saved) ∧
      loadLead { db with leads := saved } leadId = .ok loaded ∧
      loaded.totalAmount = onLead ∧ booking.totalAmount = onBooking := by
  unfold shownTotals at shown
  split at shown
  · cases shown
  · rename_i booking user slot parts
    split at shown
    · cases shown
    · rename_i leadId saved linked
      split at shown
      · cases shown
      · rename_i loaded isLoaded
        rw [Option.some.injEq, Prod.mk.injEq] at shown
        exact ⟨booking, user, slot, leadId, saved, loaded, parts, linked, isLoaded, shown⟩

theorem showsBookingPrice_iff_free : ∃ booking user slot leadId saved loaded,
    bookingParts (sampleBooked sampleSystem).db 0 = some (booking, user, slot) ∧
      linkBookingToLead sampleNow [] user slot 0 booking = (.ok leadId, saved) ∧
      loadLead { (sampleBooked sampleSystem).db with leads := saved } leadId = .ok loaded ∧
      loaded.totalAmount = booking.totalAmount := by
  have shown : shownTotals (sampleBooked sampleSystem).db 0 = some (100000, 100000) := by decide
  obtain ⟨booking, user, slot, leadId, saved, loaded, parts, linked, isLoaded, _, _⟩ := shownTotals_some shown
  refine ⟨booking, user, slot, leadId, saved, loaded, parts, linked, isLoaded, ?_⟩
  have found : sampleSystem.db.directory.services[0]? = some sampleService := rfl
  have created := sampleBooked_created (by decide : (createBooking sampleNow 0 _ sampleSystem.db).isOk = true) rfl
  exact (showsBookingPrice_iff found created parts linked isLoaded).mpr rfl

/-- The fee of 50.00 is shown twice. -/
theorem training_shown_twice :
    ¬ ∀ (now linkedAt : Instant) (customer : UserId) (request : BookingRequest) (db made : Db) (bookingId : BookingId)
      (booking : Booking) (user : User) (slot : TimeSlot) (leads saved : List Lead) (leadId : LeadId)
      (loaded : LoadedLead), createBooking now customer request db = .ok (bookingId, made) →
      bookingParts made bookingId = some (booking, user, slot) →
      linkBookingToLead linkedAt leads user slot bookingId booking = (.ok leadId, saved) →
      loadLead { made with leads := saved } leadId = .ok loaded → loaded.totalAmount = booking.totalAmount := by
  intro always
  have shown : shownTotals (sampleBooked trainingSystem).db 0 = some (110000, 105000) := by decide
  obtain ⟨booking, user, slot, leadId, saved, loaded, parts, linked, isLoaded, onLead, onBooking⟩ :=
    shownTotals_some shown
  have same := always _ _ _ _ _ _ _ _ _ _ _ _ _ _ (sampleBooked_created (by decide) rfl) parts linked isLoaded
  rw [onLead, onBooking] at same
  cases same

/-! A lead that is converted. -/

/-- The quote shown before a conversion is the total of the new work order, which is the sum of its parts. A lead that
is converted already gets no other one. -/
theorem quoteIsPrice {now : Instant} {leadId : LeadId} {performedBy : Option UserId} {notes : String} {db next : Db}
    {loaded : LoadedLead} {lead : Lead} (isLoaded : loadLead db leadId = .ok loaded)
    (accepted : convertLeadToWorkOrder now loaded performedBy none notes db = .ok (lead, next)) :
    (loaded.lead.isConverted = true ∧ next = db) ∨
      ∃ booking, next.bookings = db.bookings ++ [booking] ∧ loaded.totalAmount = booking.totalAmount ∧
        booking.totalAmount = booking.subtotal - booking.discountAmount + booking.trainingFee + booking.taxAmount := by
  rcases convertFromLead_made accepted with unchanged |
    ⟨serviceId, current, service, amounts, booking, required, found, isService, priced, made, bookings⟩
  · exact .inl unchanged
  · refine .inr ⟨_, bookings, ?_⟩
    have same : service = current := by
      simp only [loadLead, accepted_bind, accepted_orRaise, accepted_pure] at isLoaded
      obtain ⟨row, _, rfl⟩ := isLoaded
      simp only at required isService
      rw [required, Option.bind_some, found, Option.some.injEq] at isService
      exact isService.symm
    subst same
    obtain ⟨number, customer, addressId, address, slotId, slot, rfl⟩ := made
    obtain ⟨subtotal, discountAmount, fee, taxAmount⟩ := bookingAmounts_parts priced
    have total := (bookingAmounts_accepted priced).1
    have unit : service.feeFor 1 = service.trainingFee := by
      simp [ServiceFields.feeFor]
    simp only [LoadedLead.totalAmount, LoadedLead.subtotal, LoadedLead.trainingFee, isService, Booking.repriced]
    cases loaded.lead.quotedAmount with
    | none =>
        simp only [newBooking, Booking.asWorkOrder]
        unfold Money at *
        omega
    | some quotedAmount =>
        refine ⟨rfl, ?_⟩
        simp [Booking.asWorkOrder]

def quotedLead : LoadedLead where
  leadId := 0
  lead := { sampleLead with quotedAmount := some 90000 }
  requiredService := some sampleService

theorem quoteIsPrice_quoted : ∃ (lead : Lead) (next : Db) (booking : Booking),
    convertLeadToWorkOrder sampleNow quotedLead none none "" { sampleSystem.db with leads := [quotedLead.lead] } =
        .ok (lead, next) ∧
      next.bookings = [] ++ [booking] ∧ quotedLead.totalAmount = booking.totalAmount ∧
      booking.totalAmount = booking.subtotal - booking.discountAmount + booking.trainingFee + booking.taxAmount := by
  have accepted : (convertLeadToWorkOrder sampleNow quotedLead none none ""
      { sampleSystem.db with leads := [quotedLead.lead] }).isOk = true := by decide
  obtain ⟨⟨lead, next⟩, converted⟩ := isOk_iff.mp accepted
  have isLoaded : loadLead { sampleSystem.db with leads := [quotedLead.lead] } 0 = .ok quotedLead := rfl
  rcases quoteIsPrice isLoaded converted with ⟨isConverted, _⟩ | ⟨booking, bookings, amounts⟩
  · cases isConverted
  · exact ⟨lead, next, booking, converted, bookings, amounts⟩

end PsCore
