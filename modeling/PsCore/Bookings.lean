import PsCore.Jobs
import PsCore.WorkOrders

/-!
What an accepted slot, booking or technician operation has checked, and what it leaves.
-/

namespace PsCore

open Fallible RowTable

theorem lockSlotForReservation_accepted {now : Instant} {db : Db} {slotId : SlotId} {slot : TimeSlot}
    (accepted : lockSlotForReservation now db slotId = .ok slot) :
    db.slots[slotId]? = some slot ∧ 0 < getAvailableCapacity db.bookings slotId slot := by
  simp only [lockSlotForReservation, accepted_bind, accepted_orRaise, accepted_require,
    accepted_pure] at accepted
  obtain ⟨_, found, _, bookable, rfl⟩ := accepted
  refine ⟨found, ?_⟩
  simp only [isSlotBookable, Bool.and_eq_true, decide_eq_true_eq] at bookable
  exact bookable.2

theorem lockAndValidateSlot_accepted {now : Instant} {db : Db} {slotId : SlotId} {address : Address}
    {service : ServiceId} {slot : TimeSlot}
    (accepted : lockAndValidateSlot now db slotId address service = .ok slot) :
    db.slots[slotId]? = some slot ∧ 0 < getAvailableCapacity db.bookings slotId slot := by
  simp only [lockAndValidateSlot, accepted_bind, accepted_orRaise, accepted_require, accepted_pure,
    accepted_mapError] at accepted
  obtain ⟨_, _, _, _, _, locked, _, _, rfl⟩ := accepted
  exact lockSlotForReservation_accepted locked

theorem getOrCreateSlot_accepted {slots next : List TimeSlot} {fields : SlotFields} {slotId : SlotId}
    (accepted : getOrCreateSlot slots fields = .ok (slotId, next)) :
    next = slots ∨ ∃ slot, next = slots ++ [slot] := by
  unfold getOrCreateSlot at accepted
  split at accepted
  · simp only [Except.ok.injEq, Prod.mk.injEq] at accepted
    exact .inl accepted.2.symm
  · simp only [accepted_bind, accepted_pure, Prod.mk.injEq] at accepted
    obtain ⟨slot, _, _, rfl⟩ := accepted
    exact .inr ⟨slot, rfl⟩

theorem newBooking_fresh (number : String) (customer : UserId) (serviceId : ServiceId) (addressId : AddressId)
    (address : Address) (slotId : SlotId) (slot : TimeSlot) (quantity : Nat) (amounts : BookingAmounts) :
    FreshBooking (newBooking number customer serviceId addressId address slotId slot quantity amounts) where
  bookingStatus := rfl
  paymentStatus := rfl
  advancePaid := rfl
  balanceCollected := rfl
  balanceDue := rfl
  assignedTechnician := rfl
  confirmedAt := rfl
  completedAt := rfl
  cancelledAt := rfl

theorem createBooking_made {now : Instant} {customer : UserId} {request : BookingRequest} {db next : Db}
    {bookingId : BookingId} (accepted : createBooking now customer request db = .ok (bookingId, next)) :
    ∃ service address slot user amounts number sequences booking,
      db.directory.services[request.serviceId]? = some service ∧
      lockAndValidateSlot now db request.slotId address request.serviceId = .ok slot ∧
      db.directory.users[customer]? = some user ∧
      bookingAmounts service.toServiceFields request.quantity = .ok amounts ∧
      booking = newBooking number customer request.serviceId request.addressId address request.slotId slot
        request.quantity amounts ∧
      bookingId = db.bookings.length ∧
      next = { db with
        bookings := db.bookings ++ [booking]
        sequences := sequences
        statusHistory := db.statusHistory ++ [{
          booking := db.bookings.length
          fromStatus := none
          toStatus := .pendingPayment
          changedBy := some customer
          notes := "Booking created."
        }]
        leads := (linkBookingToLead now db.leads user slot db.bookings.length booking).2 } := by
  simp only [createBooking, getActiveService, accepted_bind, accepted_pure, accepted_orRaise, accepted_require,
    Prod.mk.injEq] at accepted
  obtain ⟨_, ⟨service, found, _, _, rfl⟩, address, _, slot, locked, user, foundUser, amounts, priced,
    ⟨number, sequences⟩, _, _, _, rfl, rfl⟩ := accepted
  exact ⟨service, address, slot, user, amounts, number, sequences, _, found, locked, foundUser, priced, rfl, rfl, rfl⟩

theorem createBooking_accepted {now : Instant} {customer : UserId} {request : BookingRequest} {db next : Db}
    {bookingId : BookingId} (accepted : createBooking now customer request db = .ok (bookingId, next)) :
    ∃ booking slot, FreshBooking booking ∧ db.slots[booking.timeSlot]? = some slot ∧
      0 < getAvailableCapacity db.bookings booking.timeSlot slot ∧ bookingId = db.bookings.length ∧
      next.bookings = db.bookings ++ [booking] ∧ next.payments = db.payments ∧ next.slots = db.slots := by
  obtain ⟨_, address, slot, _, amounts, number, _, booking, _, locked, _, _, isNew, rfl, rfl⟩ :=
    createBooking_made accepted
  have slotFacts := lockAndValidateSlot_accepted locked
  have fresh := newBooking_fresh number customer request.serviceId request.addressId address request.slotId slot
    request.quantity amounts
  subst isNew
  exact ⟨_, slot, fresh, slotFacts.1, slotFacts.2, rfl, rfl, rfl, rfl⟩

theorem createBookings_induction {now : Instant} {customer : UserId}
    {motive : List BookingRequest → Db → Db → Prop} (none_ : ∀ db, motive [] db db)
    (one : ∀ request rest db bookingId middle last, createBooking now customer request db = .ok (bookingId, middle) →
      motive rest middle last → motive (request :: rest) db last)
    {requests : List BookingRequest} {db next : Db} {bookingIds : List BookingId}
    (accepted : createBookings now customer requests db = .ok (bookingIds, next)) : motive requests db next := by
  induction requests generalizing db bookingIds with
  | nil =>
      simp only [createBookings, Except.ok.injEq, Prod.mk.injEq] at accepted
      rw [accepted.2]
      exact none_ next
  | cons request rest ih =>
      simp only [createBookings, accepted_bind, accepted_pure, Prod.mk.injEq] at accepted
      obtain ⟨⟨first, middle⟩, created, ⟨others, last⟩, remaining, _, rfl⟩ := accepted
      exact one request rest db first middle last created (ih remaining)

theorem createBookings_routine {now : Instant} {customer : UserId} {requests : List BookingRequest} {db next : Db}
    {bookingIds : List BookingId}
    (accepted : createBookings now customer requests db = .ok (bookingIds, next)) :
    Relation.ReflTransGen Routine db next := by
  refine createBookings_induction (motive := fun _ db next => Relation.ReflTransGen Routine db next)
    (fun _ => .refl) (fun request rest db bookingId middle last created path => ?_) accepted
  obtain ⟨booking, slot, fresh, found, free, _, bookings, payments, slots⟩ := createBooking_accepted created
  exact .head (.bookingCreated booking slot fresh found free bookings payments slots) path

theorem ensureDailySlots_routine {now : Instant} {db : Db} {area : ServiceAreaId} {date : Date}
    {slots : List TimeSlot} (accepted : ensureDailySlots now db area date = .ok slots) :
    Relation.ReflTransGen Routine db { db with slots := slots } := by
  unfold ensureDailySlots at accepted
  split at accepted
  · simp only [Except.ok.injEq] at accepted
    subst accepted
    exact .refl
  · rename_i openDay
    clear openDay
    generalize defaultDailySlotWindows = windows at accepted
    induction windows generalizing db with
    | nil =>
        simp only [List.foldlM_nil, accepted_pure] at accepted
        subst accepted
        exact .refl
    | cons window rest ih =>
        simp only [List.foldlM_cons, accepted_bind, accepted_pure] at accepted
        obtain ⟨middle, ⟨⟨slotId, created⟩, made, rfl⟩, remaining⟩ := accepted
        have tail : Relation.ReflTransGen Routine { db with slots := created } { db with slots := slots } :=
          ih remaining
        rcases getOrCreateSlot_accepted made with rfl | ⟨slot, rfl⟩
        · exact tail
        · have added : Routine db { db with slots := db.slots ++ [slot] } := .slotAdded slot rfl rfl rfl
          exact .head added tail

theorem startBooking_accepted {bookingId : BookingId} {changedBy : Option UserId} {notes : String}
    {db next : Db} (accepted : startBooking bookingId changedBy notes db = .ok ((), next)) :
    Routine db next := by
  obtain ⟨booking, from_, _, written⟩ := startBooking_job accepted
  exact written.routine (.start from_)

theorem markTechnicianEnRoute_accepted {bookingId : BookingId} {changedBy : Option UserId} {notes : String}
    {db next : Db} (accepted : markTechnicianEnRoute bookingId changedBy notes db = .ok ((), next)) :
    Routine db next := by
  obtain ⟨booking, from_, written⟩ := markTechnicianEnRoute_job accepted
  exact written.routine (.enRoute from_)

theorem completeBooking_accepted {settings : Settings} {now : Instant} {bookingId : BookingId}
    {changedBy : Option UserId} {notes : String} {db next : Db}
    (accepted : completeBooking settings now bookingId changedBy notes db = .ok ((), next)) :
    Routine db next := by
  obtain ⟨booking, from_, _, _, written⟩ := completeBooking_job accepted
  exact written.routine (.complete now from_)

theorem closeBooking_accepted {bookingId : BookingId} {changedBy : Option UserId} {notes : String}
    {db next : Db} (accepted : closeBooking bookingId changedBy notes db = .ok ((), next)) :
    Routine db next := by
  obtain ⟨booking, from_, written⟩ := closeBooking_job accepted
  exact written.routine (.close from_)

theorem cancelBooking_accepted {settings : Settings} {now : Instant} {bookingId : BookingId}
    {changedBy : Option UserId} {notes : String} {actor : CancellationActor} {db next : Db}
    (accepted : cancelBooking settings now bookingId changedBy notes actor db = .ok ((), next)) :
    Routine db next := by
  obtain ⟨booking, from_, _, written⟩ := cancelBooking_job accepted
  exact written.routine (.cancel now actor from_)

theorem rescheduleBooking_accepted {settings : Settings} {now : Instant} {bookingId : BookingId}
    {slotId : SlotId} {changedBy : UserId} {notes : String} {db next : Db}
    (accepted : rescheduleBooking settings now bookingId slotId changedBy notes db = .ok ((), next)) :
    Routine db next := by
  obtain ⟨booking, address, slot, _, from_, locked, written⟩ := rescheduleBooking_job accepted
  have slotFacts := lockAndValidateSlot_accepted locked
  exact .bookingMoved bookingId booking slotId slot written.found from_ slotFacts.1 slotFacts.2 written.bookings
    written.payments written.slots

theorem assignTechnician_accepted {now : Instant} {bookingId : BookingId} {technicianId : TechnicianId}
    {assignedBy : Option UserId} {notes reason : String} {db next : Db} {assignmentId : AssignmentId}
    (accepted : assignTechnician now bookingId technicianId assignedBy notes reason db =
      .ok (assignmentId, next)) : Routine db next := by
  obtain ⟨booking, technician, slot, address, assignments, from_, _, _, _, _, written⟩ := assignTechnician_job accepted
  exact written.routine (.assign technician.user from_)

theorem removeTechnicianAssignment_accepted {now : Instant} {bookingId : BookingId}
    {changedBy : Option UserId} {notes : String} {db next : Db}
    (accepted : removeTechnicianAssignment now bookingId changedBy notes db = .ok ((), next)) :
    Routine db next := by
  obtain ⟨booking, _, _, _, _, _, written⟩ := removeTechnicianAssignment_job accepted
  exact written.routine .unassign

theorem balanceEntry_accepted {now : Instant} {bookingId : BookingId} {amount : Money} {db : Db}
    {booking : Booking} {payments : PaymentTable}
    (accepted : balanceEntry now bookingId amount db = .ok (booking, payments)) :
    db.bookings[bookingId]? = some booking ∧
      (booking.bookingStatus = .inProgress ∨ booking.bookingStatus = .technicianAssigned) ∧ 0 < amount ∧
      amount ≤ booking.balanceDue - booking.balanceCollected ∧
      payments.rows = db.payments.rows ++ [newBalancePayment now bookingId amount] := by
  simp only [balanceEntry, lockBooking, accepted_bind, accepted_pure, accepted_orRaise, accepted_require,
    Prod.mk.injEq] at accepted
  obtain ⟨_, found, _, from_, _, positive, _, remaining, _, inserted, rfl, rfl⟩ := accepted
  exact ⟨found, from_, positive, remaining, (UniqueTable.insert?_some inserted).1⟩

end PsCore
