import PsCore.OperationsCore

/-!
What an accepted conversion or manual payment of a lead has found and checked, and all that it writes.
-/

namespace PsCore

open Fallible RowTable

/-- What a conversion looks up and sets up before it books for the lead. -/
structure LeadPreparation where
  serviceId : ServiceId
  preferredDate : Date
  areaId : ServiceAreaId
  area : ServiceArea
  addressId : AddressId
  addresses : List Address
  startTime : TimeOfDay
  slotId : SlotId
  slots : List TimeSlot

namespace LeadPreparation

variable (preparation : LeadPreparation)

def window : SlotFields where
  serviceArea := preparation.areaId
  date := preparation.preferredDate
  startTime := preparation.startTime
  endTime := (preparation.startTime + hour) % day
  capacity := 5
  isActive := true

def request : BookingRequest where
  serviceId := preparation.serviceId
  addressId := preparation.addressId
  slotId := preparation.slotId
  quantity := 1

def prepared (lead : Lead) (db : Db) : Db :=
  { db with
    directory := { db.directory with
      users := (customerOfLead db.directory.users lead).2
      addresses := preparation.addresses }
    slots := preparation.slots }

structure Sound (lead : Lead) (db : Db) : Prop where
  service : lead.requiredService = some preparation.serviceId
  date : lead.preferredDate = some preparation.preferredDate
  scheduled : lead.preferredSlot ≠ ""
  located : lead.address ≠ "" ∧ lead.city ≠ "" ∧ lead.pincode ≠ ""
  area : serviceAreaWithCode db.directory.serviceAreas lead.pincode = some (preparation.areaId, preparation.area)
  supported : preparation.area.supportsService preparation.serviceId = true
  address : addressOfLead db.directory.addresses (customerOfLead db.directory.users lead).1 lead preparation.area =
    .ok (preparation.addressId, preparation.addresses)
  start : strptimeHourMinute lead.preferredSlot = some preparation.startTime
  slot : getOrCreateSlot db.slots preparation.window = .ok (preparation.slotId, preparation.slots)

end LeadPreparation

section

variable {now : Instant} {loaded : LoadedLead} {performedBy : Option UserId} {notes : String} {db next : Db}

theorem createBookingFromLead_prepares {lead : Lead} {bookingId : BookingId}
    (accepted : createBookingFromLead now lead db = .ok (bookingId, next)) :
    ∃ preparation : LeadPreparation, preparation.Sound lead db ∧
      createBooking now (customerOfLead db.directory.users lead).1 preparation.request (preparation.prepared lead db) =
        .ok (bookingId, next) := by
  simp only [createBookingFromLead, accepted_bind, accepted_orRaise, accepted_require] at accepted
  obtain ⟨serviceId, service, preferredDate, date, _, scheduled, _, located, ⟨areaId, area⟩, foundArea, _, supported,
    ⟨addressId, addresses⟩, address, startTime, start, ⟨slotId, slots⟩, slot, created⟩ := accepted
  exact ⟨⟨serviceId, preferredDate, areaId, area, addressId, addresses, startTime, slotId, slots⟩,
    ⟨service, date, scheduled, located, foundArea, supported, address, start, slot⟩, created⟩

theorem workOrderBooking_given {given object : LoadedBooking}
    (accepted : workOrderBooking now loaded (some given) db = .ok (object, next)) :
    object = given ∧ ∃ row, db.bookings[given.bookingId]? = some row ∧
      next = { db with bookings := db.bookings.set given.bookingId row.asWorkOrder } := by
  simp only [workOrderBooking, accepted_bind, accepted_orRaise, accepted_pure, Prod.mk.injEq] at accepted
  obtain ⟨row, found, rfl, rfl⟩ := accepted
  exact ⟨rfl, row, found, rfl⟩

theorem workOrderBooking_new {object : LoadedBooking}
    (accepted : workOrderBooking now loaded none db = .ok (object, next)) :
    ∃ made service, createBookingFromLead now loaded.lead db = .ok (object.bookingId, made) ∧
      made.bookings[object.bookingId]? = some object.booking ∧ loaded.requiredService = some service ∧
      next = { made with
        bookings := made.bookings.set object.bookingId
          (object.booking.repriced loaded.lead service.toServiceFields).asWorkOrder } := by
  simp only [workOrderBooking, accepted_bind, accepted_orRaise, accepted_pure, Prod.mk.injEq] at accepted
  obtain ⟨⟨bookingId, made⟩, created, row, found, service, isService, rfl, rfl⟩ := accepted
  exact ⟨made, service, created, found, isService, rfl⟩

theorem saveConvertedLead_saves {object : LoadedBooking} {leads saved : List Lead} {lead : Lead}
    (accepted : saveConvertedLead now loaded object notes leads = .ok (lead, saved)) :
    ∃ row internalNotes, leads[loaded.leadId]? = some row ∧
      lead = loaded.lead.converted now object.booking.customer object.bookingId internalNotes ∧
      saveLead leads loaded.leadId lead
        (row.converted now object.booking.customer object.bookingId internalNotes) = .ok saved := by
  simp only [saveConvertedLead, accepted_bind, accepted_pure, accepted_orRaise, Prod.mk.injEq] at accepted
  obtain ⟨row, found, saved, stored, rfl, rfl⟩ := accepted
  exact ⟨row, _, found, rfl, stored⟩

theorem convertLeadToWorkOrder_cases {booking : Option LoadedBooking} {lead : Lead}
    (accepted : convertLeadToWorkOrder now loaded performedBy booking notes db = .ok (lead, next)) :
    (loaded.lead.isConverted = true ∧ lead = loaded.lead ∧ next = db) ∨
      ∃ object booked leads, loaded.lead.isConverted = false ∧
        workOrderBooking now loaded booking db = .ok (object, booked) ∧
        saveConvertedLead now loaded object notes booked.leads = .ok (lead, leads) ∧
        next = { booked with
          statusHistory := booked.statusHistory ++ workOrderHistory performedBy object notes
          leads := leads } := by
  unfold convertLeadToWorkOrder at accepted
  split at accepted
  · rename_i converted
    rw [Except.ok.injEq, Prod.mk.injEq] at accepted
    exact .inl ⟨converted, accepted.1.symm, accepted.2.symm⟩
  · rename_i unconverted
    simp only [accepted_bind, accepted_pure, Prod.mk.injEq] at accepted
    obtain ⟨⟨object, booked⟩, ordered, ⟨_, leads⟩, stored, rfl, rfl⟩ := accepted
    exact .inr ⟨object, booked, leads, Bool.eq_false_iff.mpr unconverted, ordered, stored, rfl⟩

theorem recordManualLeadPayment_cases {amount : Money} {method reference note : String} {paymentId : PaymentId}
    (accepted : recordManualLeadPayment now loaded amount method reference note db = .ok (paymentId, next)) :
    ∃ entry row, manualPaymentEntry now loaded amount method reference note db = .ok entry ∧ 0 < amount ∧
      loaded.lead.convertedBooking = some entry.bookingId ∧ db.bookings[entry.bookingId]? = some entry.booking ∧
      db.payments.insert? (newManualPayment now loaded.leadId entry.bookingId amount reference) =
        some entry.payments ∧
      db.leads[loaded.leadId]? = some row ∧
      saveLead db.leads loaded.leadId (loaded.lead.paidManually now) (row.paidManually now) = .ok entry.leads ∧
      paymentId = db.payments.rows.length ∧ next = { db with
        payments := entry.payments
        bookings := db.bookings.set entry.bookingId (entry.booking.paidManually amount)
        leads := entry.leads } := by
  simp only [recordManualLeadPayment, accepted_bind, accepted_pure, Prod.mk.injEq] at accepted
  obtain ⟨entry, entered, rfl, rfl⟩ := accepted
  have checked := entered
  simp only [manualPaymentEntry, accepted_bind, accepted_orRaise, accepted_require, accepted_pure] at checked
  obtain ⟨_, _, _, _, _, positive, bookingId, linked, booking, found, payments, inserted, row, foundRow, leads, saved,
    rfl⟩ := checked
  exact ⟨_, row, entered, positive, linked, found, inserted, foundRow, saved, rfl, rfl⟩

end

end PsCore
