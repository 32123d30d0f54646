import PsCore.Effects

/-!
The seats of a slot. Capacity is looked at when a slot is locked for a reservation; a
confirmed payment, a work order, a failed refund and a saved slot edit do not look at it.
-/

namespace PsCore

open RowTable TransitionRun

def SlotsWithinCapacity (db : Db) : Prop :=
  ∀ slotId slot, db.slots[slotId]? = some slot → countReservedBookings db.bookings slotId ≤ slot.capacity

def hasSeat (db : Db) (booking : Booking) : Bool :=
  bookingCapacityStatuses.contains booking.bookingStatus ||
  (db.slots[booking.timeSlot]?).any fun slot => 0 < getAvailableCapacity db.bookings booking.timeSlot slot

/-- Who comes back has a seat, and a saved slot still seats its reservations. -/
def seatCondition (db : Db) : Effect → Bool
  | .confirmation _ _ locked _ => hasSeat db locked.booking
  | .workOrder _ row => hasSeat db row
  | .refund settlement => !settlement.restoresConfirmed || hasSeat db settlement.booking
  | .slotSave slotId slot => countReservedBookings db.bookings slotId ≤ slot.capacity
  | _ => true

structure Seated (db : Db) : Prop where
  capacity : SlotsWithinCapacity db
  slots : ∀ booking ∈ db.bookings, booking.timeSlot < db.slots.length

theorem reserves_iff {slotId : SlotId} {booking : Booking} :
    booking.reserves slotId = true ↔
      booking.timeSlot = slotId ∧ bookingCapacityStatuses.contains booking.bookingStatus = true := by
  simp [Booking.reserves]

def TakesSeat (db : Db) (held : Bool) (slotId : SlotId) : Prop :=
  held = true ∨ ∃ slot, db.slots[slotId]? = some slot ∧ 0 < getAvailableCapacity db.bookings slotId slot

theorem hasSeat_takes {db : Db} {booking : Booking} (seat : hasSeat db booking = true) :
    TakesSeat db (booking.reserves booking.timeSlot) booking.timeSlot := by
  simp only [hasSeat, Bool.or_eq_true, Option.any_eq_true, decide_eq_true_eq] at seat
  rcases seat with held | ⟨slot, found, free⟩
  · exact .inl (reserves_iff.mpr ⟨rfl, held⟩)
  · exact .inr ⟨slot, found, free⟩

theorem Seated.append {db next : Db} (seated : Seated db) {booking : Booking} {slot : TimeSlot}
    (found : db.slots[booking.timeSlot]? = some slot)
    (free : 0 < getAvailableCapacity db.bookings booking.timeSlot slot)
    (bookings : next.bookings = db.bookings ++ [booking]) (slots : next.slots = db.slots) : Seated next := by
  refine ⟨?_, ?_⟩
  · intro slotId other present
    rw [slots] at present
    have before := seated.capacity slotId other present
    simp only [bookings, countReservedBookings, countWhere_append] at before ⊢
    split
    · rename_i reserved
      obtain ⟨rfl, _⟩ := reserves_iff.mp reserved
      rw [found] at present
      simp only [Option.some.injEq] at present
      subst present
      simp only [getAvailableCapacity, countReservedBookings] at free
      omega
    · exact before
  · intro other member
    rw [bookings, List.mem_append, List.mem_singleton] at member
    rw [slots]
    rcases member with old | rfl
    · exact seated.slots other old
    · exact (List.getElem?_eq_some_iff.mp found).1

theorem Seated.rewrite {db next : Db} (seated : Seated db) {bookingId : BookingId} {booking changed : Booking}
    (found : db.bookings[bookingId]? = some booking)
    (bookings : next.bookings = db.bookings.set bookingId changed) (slots : next.slots = db.slots)
    (placed : changed.timeSlot < db.slots.length)
    (seat : changed.reserves changed.timeSlot = true →
      TakesSeat db (booking.reserves changed.timeSlot) changed.timeSlot) : Seated next := by
  refine ⟨?_, ?_⟩
  · intro slotId slot present
    rw [slots] at present
    have before := seated.capacity slotId slot present
    have counted := countWhere_set (Booking.reserves slotId) changed found
    simp only [bookings, countReservedBookings] at before ⊢
    by_cases reserved : changed.reserves slotId = true
    · obtain ⟨rfl, _⟩ := reserves_iff.mp reserved
      rcases seat reserved with held | ⟨other, foundSlot, free⟩
      · simp only [reserved, held, if_true] at counted
        omega
      · rw [present] at foundSlot
        simp only [Option.some.injEq] at foundSlot
        subst foundSlot
        simp only [getAvailableCapacity, countReservedBookings] at free
        simp only [reserved, if_true] at counted
        omega
    · simp only [reserved] at counted
      simp only [Bool.false_eq_true, if_false] at counted
      omega
  · intro other member
    rw [bookings] at member
    rw [slots]
    rcases List.mem_or_eq_of_mem_set member with old | rfl
    · exact seated.slots other old
    · exact placed

theorem Seated.restatus {db next : Db} (seated : Seated db) {bookingId : BookingId} {booking changed : Booking}
    (found : db.bookings[bookingId]? = some booking)
    (bookings : next.bookings = db.bookings.set bookingId changed) (slots : next.slots = db.slots)
    (sameSlot : changed.timeSlot = booking.timeSlot)
    (seat : bookingCapacityStatuses.contains changed.bookingStatus = true →
      bookingCapacityStatuses.contains booking.bookingStatus = true ∨ hasSeat db booking = true) :
    Seated next := by
  refine seated.rewrite found bookings slots ?_ ?_
  · rw [sameSlot]
    exact seated.slots booking (List.mem_of_getElem? found)
  · intro reserved
    rw [sameSlot]
    rcases seat (reserves_iff.mp reserved).2 with held | free
    · exact .inl (reserves_iff.mpr ⟨rfl, held⟩)
    · exact hasSeat_takes free

theorem Seated.slotAdded {db next : Db} (seated : Seated db) {slot : TimeSlot}
    (bookings : next.bookings = db.bookings) (slots : next.slots = db.slots ++ [slot]) : Seated next := by
  refine ⟨?_, ?_⟩
  · intro slotId other present
    rw [slots] at present
    rw [bookings]
    by_cases old : slotId < db.slots.length
    · rw [List.getElem?_append_left old] at present
      exact seated.capacity slotId other present
    · -- nothing refers to the slot that was just added
      have unreserved : countReservedBookings db.bookings slotId = 0 := by
        unfold countReservedBookings countWhere
        rw [List.countP_eq_zero]
        intro booking member reserved
        have placed := seated.slots booking member
        rw [(reserves_iff.mp reserved).1] at placed
        exact old placed
      omega
  · intro booking member
    rw [bookings] at member
    rw [slots, List.length_append]
    exact Nat.lt_add_right _ (seated.slots booking member)

theorem Seated.slotSaved {db next : Db} (seated : Seated db) {slotId : SlotId} {slot : TimeSlot}
    (bookings : next.bookings = db.bookings) (slots : next.slots = db.slots.set slotId slot)
    (enough : countReservedBookings db.bookings slotId ≤ slot.capacity) : Seated next := by
  refine ⟨?_, ?_⟩
  · intro otherId other present
    rw [slots] at present
    rw [bookings]
    by_cases same : slotId = otherId
    · subst same
      rw [List.getElem?_set] at present
      simp only [if_true] at present
      split at present
      · simp only [Option.some.injEq] at present
        subst present
        exact enough
      · simp at present
    · rw [List.getElem?_set_ne same] at present
      exact seated.capacity otherId other present
  · intro booking member
    rw [bookings] at member
    rw [slots, List.length_set]
    exact seated.slots booking member

theorem withoutTechnician_counted (status : BookingStatus) :
    bookingCapacityStatuses.contains status.withoutTechnician = bookingCapacityStatuses.contains status := by
  cases status <;> rfl

theorem Transition.keepsSeat {booking changed : Booking} (transition : Transition booking changed) :
    changed.timeSlot = booking.timeSlot ∧
      (bookingCapacityStatuses.contains changed.bookingStatus = true →
        bookingCapacityStatuses.contains booking.bookingStatus = true) := by
  cases transition with
  | start from_ =>
      refine ⟨rfl, fun _ => ?_⟩
      revert from_
      cases booking.bookingStatus <;> decide
  | enRoute from_ => exact ⟨rfl, fun _ => by rw [from_]; decide⟩
  | complete now from_ => exact ⟨rfl, fun counted => by simp [bookingCapacityStatuses] at counted⟩
  | close from_ => exact ⟨rfl, fun counted => by simp [bookingCapacityStatuses] at counted⟩
  | cancel now actor from_ => exact ⟨rfl, fun counted => by simp [bookingCapacityStatuses] at counted⟩
  | assign technician from_ =>
      refine ⟨rfl, fun _ => ?_⟩
      revert from_
      cases booking.bookingStatus <;> decide
  | unassign =>
      refine ⟨rfl, fun counted => ?_⟩
      simpa only [withoutTechnician_counted] using counted

theorem Seated.routine {db next : Db} (seated : Seated db) (change : Routine db next) : Seated next := by
  cases change with
  | auxiliary bookings payments slots =>
      exact ⟨by intro slotId slot; rw [bookings, slots]; exact seated.capacity slotId slot,
        by rw [bookings, slots]; exact seated.slots⟩
  | slotAdded slot bookings payments slots => exact seated.slotAdded bookings slots
  | bookingCreated booking slot fresh found free bookings payments slots =>
      exact seated.append found free bookings slots
  | workOrderCreated booking slot lead service fresh found free bookings payments slots =>
      have sameSlot : ((booking.repriced lead service).asWorkOrder).timeSlot = booking.timeSlot := by
        unfold Booking.repriced Booking.asWorkOrder
        split <;> rfl
      exact seated.append (by rw [sameSlot]; exact found) (by rw [sameSlot]; exact free) bookings slots
  | bookingMoved bookingId booking slotId slot found from_ foundSlot free bookings payments slots =>
      refine seated.rewrite found bookings slots (List.getElem?_eq_some_iff.mp foundSlot).1 fun _ => ?_
      exact .inr ⟨slot, foundSlot, free⟩
  | transition bookingId booking changed found transition bookings payments slots =>
      exact seated.restatus found bookings slots transition.keepsSeat.1
        fun counted => .inl (transition.keepsSeat.2 counted)
  | orderCreated bookingId booking orderId key found awaiting bookings payments slots =>
      exact ⟨by intro slotId slot; rw [bookings, slots]; exact seated.capacity slotId slot,
        by rw [bookings, slots]; exact seated.slots⟩

theorem RefundSettlement.counted {settlement : RefundSettlement}
    (counted : bookingCapacityStatuses.contains (settlement.booking.afterRefund settlement.payments.rows
      settlement.sourceId settlement.source).bookingStatus = true) :
    bookingCapacityStatuses.contains settlement.booking.bookingStatus = true ∨
      settlement.restoresConfirmed = true := by
  unfold Booking.afterRefund at counted
  unfold RefundSettlement.restoresConfirmed
  split at counted
  · simp [bookingCapacityStatuses] at counted
  · rename_i notWhole
    split at counted
    · simp [bookingCapacityStatuses] at counted
    · rename_i nonePending
      split at counted
      · rename_i pending
        cases cancelled : settlement.booking.cancelledAt with
        | none => simp_all
        | some now => simp [cancelled, bookingCapacityStatuses] at counted
      · exact .inl counted

theorem Seated.effective {db next : Db} {effect : Effect} (seated : Seated db)
    (condition : seatCondition db effect = true) (written : Effective effect db next) : Seated next := by
  cases written with
  | confirmed orderId paymentId found foundBooking ordered amount open_ rows writtenEq =>
      subst writtenEq
      exact seated.restatus foundBooking (confirmBookingAfterPayment_bookings ..)
        (confirmBookingAfterPayment_slots ..) rfl fun _ => .inr condition
  | failed orderId paymentId found foundBooking ordered open_ rows writtenEq =>
      subst writtenEq
      refine seated.restatus foundBooking (markPaymentFailed_bookings ..) (markPaymentFailed_slots ..) ?_ ?_
      · unfold Booking.markedFailed
        split <;> rfl
      · intro counted
        unfold Booking.markedFailed at counted
        split at counted
        · simp [bookingCapacityStatuses] at counted
        · exact .inl counted
  | refundSettled found foundBooking grounded bookings rows slots =>
      rename_i settlement
      refine seated.restatus foundBooking bookings slots ?_ ?_
      · unfold Booking.afterRefund
        split
        · rfl
        · split
          · rfl
          · split <;> rfl
      · intro counted
        rcases settlement.counted counted with held | restored
        · exact .inl held
        · simp only [seatCondition, restored, Bool.not_true, Bool.false_or] at condition
          exact .inr condition
  | refundLost => exact seated
  | workOrder found bookings payments slots =>
      exact seated.restatus found bookings slots rfl fun _ => .inr condition
  | manuallyPaid now leadId reference positive found inserted bookings payments slots =>
      exact seated.restatus found bookings slots rfl .inl
  | balanceCollected now found from_ positive remaining inserted bookings payments slots =>
      exact seated.restatus found bookings slots rfl .inl
  | slotSaved bookings payments slots =>
      exact seated.slotSaved bookings slots (by simpa [seatCondition] using condition)

theorem System.Initial.seated {start : System} (initial : start.Initial) : Seated start.db := by
  refine ⟨?_, ?_⟩
  · intro slotId slot _
    rw [initial.bookings]
    exact Nat.zero_le _
  · rw [initial.bookings]
    simp

/-- No slot is overbooked as long as whoever comes back finds a seat. -/
theorem slotsWithinCapacity_run {settings : Settings} {start : System} {ops : List Op} (initial : start.Initial)
    (guarded : Guarded (System.step settings) (Op.meets settings seatCondition) start ops) :
    SlotsWithinCapacity (runAll (System.step settings) start ops).db :=
  (run_invariant (fun _ _ => Seated.routine) (fun _ _ _ => Seated.effective) guarded initial.seated).capacity

def retryInTime : List Op := [
  sampleBookingBy 0,
  .createAdvancePaymentOrder 0 0 "payment-key-1" (.ok "order_1"),
  samplePaymentEvent "payment.failed" "order_1" "pay_1" 20000,
  samplePaymentEvent "payment.captured" "order_1" "pay_2" 20000]

theorem slotsWithinCapacity_run_retryInTime :
    SlotsWithinCapacity (runAll (System.step sampleSettings) sampleSystem retryInTime).db :=
  slotsWithinCapacity_run sampleSystem_initial (by decide)

/-- The failed attempt frees the only seat, another customer takes it, and the retry is confirmed anyway. -/
def retryAfterSale : List Op := [
  sampleBookingBy 0,
  .createAdvancePaymentOrder 0 0 "payment-key-1" (.ok "order_1"),
  samplePaymentEvent "payment.failed" "order_1" "pay_1" 20000,
  sampleBookingBy 1,
  samplePaymentEvent "payment.captured" "order_1" "pay_2" 20000]

theorem slot_overbooked :
    ¬ ∀ (settings : Settings) (start : System) (ops : List Op), start.Initial →
      SlotsWithinCapacity (runAll (System.step settings) start ops).db := by
  intro always
  have bound := always sampleSettings sampleSystem retryAfterSale sampleSystem_initial 0 sampleSlot (by decide)
  revert bound
  decide

end PsCore
