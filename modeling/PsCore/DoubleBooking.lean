import PsCore.Library.Roster
import PsCore.ServiceDates

/-!
Technicians at two places. The overlap is looked for when a technician is assigned, and not
when a booking that has one is moved to another slot.
-/

namespace PsCore

open RowTable Relation TransitionRun

/-- Two busy bookings of a technician on one day have no moment of their slots in common. -/
def NoDoubleBooking (db : Db) : Prop :=
  ∀ (firstId secondId : BookingId) (first second : Booking) (technician : UserId) (firstSlot secondSlot : TimeSlot),
    firstId ≠ secondId → db.bookings[firstId]? = some first → db.bookings[secondId]? = some second →
    first.assignedTechnician = some technician → second.assignedTechnician = some technician →
    first.isBusy = true → second.isBusy = true → first.serviceDate = second.serviceDate →
    db.slots[first.timeSlot]? = some firstSlot → db.slots[second.timeSlot]? = some secondSlot →
    Disjoint (Set.Ico firstSlot.startTime firstSlot.endTime) (Set.Ico secondSlot.startTime secondSlot.endTime)

/-- The code's own search for an overlap, for the technician that a moved booking keeps in its new slot. -/
def Op.movesApart (db : Db) : Op → Bool
  | .rescheduleBooking _ bookingId slotId _ _ =>
      match db.bookings[bookingId]?, db.slots[slotId]? with
      | some booking, some slot => !booking.isBusy || booking.assignedTechnician.all fun technician =>
          !(db.bookings.eraseIdx bookingId).any (Booking.overlaps db.slots technician slot)
      | _, _ => true
  | _ => true

def timesCondition (db : Db) : Effect → Bool
  | .slotSave slotId slot =>
      !db.bookings.any (·.timeSlot == slotId) || (db.slots[slotId]?).all fun earlier =>
        earlier.date == slot.date && earlier.startTime == slot.startTime && earlier.endTime == slot.endTime
  | _ => true

/-- Nobody moves a booking that has a technician onto another of his bookings. -/
def Op.keepsApart (settings : Settings) (state : System) (op : Op) : Prop :=
  op.movesApart state.db = true ∧ op.meets settings timesCondition state

instance (settings : Settings) (state : System) (op : Op) : Decidable (op.keepsApart settings state) :=
  inferInstanceAs (Decidable (_ ∧ _))

/-! The roster of the technicians. -/

def Booking.shift (slots : List TimeSlot) (booking : Booking) : Option (Shift UserId Date TimeOfDay) :=
  match booking.assignedTechnician, slots[booking.timeSlot]? with
  | some technician, some slot =>
      if booking.isBusy then
        some { worker := technician, day := booking.serviceDate, start := slot.startTime, finish := slot.endTime }
      else none
  | _, _ => none

def Db.roster (db : Db) : List (Option (Shift UserId Date TimeOfDay)) :=
  db.bookings.map (Booking.shift db.slots)

theorem Booking.shift_some {slots : List TimeSlot} {booking : Booking} {technician : UserId} {slot : TimeSlot}
    (assigned : booking.assignedTechnician = some technician) (found : slots[booking.timeSlot]? = some slot)
    (busy : booking.isBusy = true) :
    booking.shift slots =
      some { worker := technician, day := booking.serviceDate, start := slot.startTime, finish := slot.endTime } := by
  simp [Booking.shift, assigned, found, busy]

theorem Booking.shift_idle {slots : List TimeSlot} {booking : Booking} (idle : booking.isBusy = false) :
    booking.shift slots = none := by
  unfold Booking.shift
  split
  · simp [idle]
  · rfl

theorem Booking.shift_unassigned {slots : List TimeSlot} {booking : Booking}
    (unassigned : booking.assignedTechnician = none) : booking.shift slots = none := by
  unfold Booking.shift
  rw [unassigned]

theorem Booking.shift_eq_some {slots : List TimeSlot} {booking : Booking} {shift : Shift UserId Date TimeOfDay}
    (present : booking.shift slots = some shift) :
    ∃ slot, booking.assignedTechnician = some shift.worker ∧ slots[booking.timeSlot]? = some slot ∧
      booking.isBusy = true ∧ shift.day = booking.serviceDate ∧ shift.start = slot.startTime ∧
      shift.finish = slot.endTime := by
  unfold Booking.shift at present
  split at present
  · rename_i technician slot assigned found
    split at present
    · rename_i busy
      cases present
      exact ⟨slot, assigned, found, busy, rfl, rfl, rfl⟩
    · cases present
  · cases present

structure Booking.Released (before after : Booking) : Prop where
  timeSlot : after.timeSlot = before.timeSlot
  serviceDate : after.serviceDate = before.serviceDate
  shift : ∀ slots, after.shift slots = before.shift slots ∨ after.shift slots = none

theorem Booking.Released.of_place {before after : Booking}
    (technician : after.assignedTechnician = before.assignedTechnician) (timeSlot : after.timeSlot = before.timeSlot)
    (serviceDate : after.serviceDate = before.serviceDate)
    (isBusy : after.isBusy = before.isBusy ∨ after.isBusy = false) : before.Released after := by
  refine ⟨timeSlot, serviceDate, fun slots => ?_⟩
  rcases isBusy with same | idle
  · exact .inl (by simp only [Booking.shift, technician, timeSlot, serviceDate, same])
  · exact .inr (Booking.shift_idle idle)

theorem JobStep.released {before after : Booking} (step : JobStep before after) : before.Released after :=
  .of_place step.assignedTechnician step.place.1 step.place.2 step.isBusy_cases

theorem Effect.Rewrites.released {effect : Effect} {bookingId : BookingId} {before after : Booking}
    (rewrites : effect.Rewrites bookingId before after) : before.Released after :=
  .of_place rewrites.place.2.2 rewrites.place.1 rewrites.place.2.1 rewrites.isBusy_cases

/-- Every booking stands in a slot of its own date, and no technician is wanted twice. -/
structure Timetabled (db : Db) : Prop where
  dated : ∀ (bookingId : BookingId) (booking : Booking), db.bookings[bookingId]? = some booking →
    ∃ slot, db.slots[booking.timeSlot]? = some slot ∧ booking.serviceDate = slot.date
  apart : Roster.Apart db.roster

theorem Db.roster_found {db : Db} {bookingId : BookingId} {shift : Shift UserId Date TimeOfDay}
    (present : db.roster[bookingId]? = some (some shift)) :
    ∃ booking, db.bookings[bookingId]? = some booking ∧ booking.shift db.slots = some shift := by
  simpa [Db.roster] using present

theorem Db.roster_at {db : Db} {bookingId : BookingId} {booking : Booking}
    (found : db.bookings[bookingId]? = some booking) :
    db.roster[bookingId]? = some (booking.shift db.slots) := by
  simp [Db.roster, found]

theorem Timetabled.noDoubleBooking {db : Db} (timetabled : Timetabled db) : NoDoubleBooking db := by
  intro firstId secondId first second technician firstSlot secondSlot differ foundFirst foundSecond
    assignedFirst assignedSecond busyFirst busySecond sameDate slotFirst slotSecond
  have left := Db.roster_at foundFirst
  have right := Db.roster_at foundSecond
  rw [Booking.shift_some assignedFirst slotFirst busyFirst] at left
  rw [Booking.shift_some assignedSecond slotSecond busySecond] at right
  have noClash := timetabled.apart firstId secondId _ _ differ left right
  refine Shift.disjoint_of_not_clash ?_ sameDate noClash
  rfl

section

variable {db next : Db} {bookingId : BookingId} {before after booking : Booking} {slot : TimeSlot}

theorem Timetabled.retimed (timetabled : Timetabled db) (bookings : next.bookings = db.bookings)
    (times : ∀ booking ∈ db.bookings, ∀ slot, db.slots[booking.timeSlot]? = some slot →
      ∃ later, next.slots[booking.timeSlot]? = some later ∧ later.date = slot.date ∧
        later.startTime = slot.startTime ∧ later.endTime = slot.endTime) : Timetabled next where
  dated := ServiceDated.retimed timetabled.dated bookings fun booking member slot found => by
    obtain ⟨later, foundLater, sameDate, _⟩ := times booking member slot found
    exact ⟨later, foundLater, sameDate⟩
  apart := timetabled.apart.released fun bookingId shift present => by
    obtain ⟨booking, found, isShift⟩ := Db.roster_found present
    rw [bookings] at found
    obtain ⟨later, assigned, foundLater, busy, day, start, finish⟩ := Booking.shift_eq_some isShift
    obtain ⟨slot, foundSlot, date⟩ := timetabled.dated bookingId booking found
    obtain ⟨same, foundSame, _, sameStart, sameFinish⟩ :=
      times booking (List.mem_of_getElem? found) slot foundSlot
    rw [foundLater, Option.some.injEq] at foundSame
    subst foundSame
    rw [Db.roster_at found, Booking.shift_some assigned foundSlot busy, ← day, ← sameStart, ← sameFinish, ← start,
      ← finish]

theorem Timetabled.same (timetabled : Timetabled db) (bookings : next.bookings = db.bookings)
    (slots : next.slots = db.slots) : Timetabled next :=
  timetabled.retimed bookings fun _ _ slot found => ⟨slot, by rw [slots, found], rfl, rfl, rfl⟩

theorem Timetabled.appended {added : List TimeSlot} (timetabled : Timetabled db)
    (bookings : next.bookings = db.bookings) (slots : next.slots = db.slots ++ added) : Timetabled next := by
  refine timetabled.retimed bookings fun booking _ slot found => ⟨slot, ?_, rfl, rfl, rfl⟩
  rw [slots, List.getElem?_append_left (List.getElem?_eq_some_iff.mp found).1, found]

theorem Timetabled.created (timetabled : Timetabled db) (foundSlot : db.slots[booking.timeSlot]? = some slot)
    (date : booking.serviceDate = slot.date) (idle : booking.isBusy = false)
    (bookings : next.bookings = db.bookings ++ [booking]) (slots : next.slots = db.slots) : Timetabled next where
  dated := ServiceDated.created timetabled.dated foundSlot date bookings slots
  apart := timetabled.apart.released fun key shift present => by
    obtain ⟨other, found, isShift⟩ := Db.roster_found present
    rw [bookings] at found
    rw [slots] at isShift
    rcases append_cases found with earlier | ⟨_, isNew⟩
    · rw [Db.roster_at earlier, isShift]
    · rw [isNew, Booking.shift_idle idle] at isShift
      cases isShift

theorem Timetabled.released (timetabled : Timetabled db) (bookings : next.bookings = db.bookings.set bookingId after)
    (found : db.bookings[bookingId]? = some before) (released : before.Released after)
    (slots : next.slots = db.slots) : Timetabled next where
  dated :=
    ServiceDated.rewritten timetabled.dated found bookings ⟨released.timeSlot, released.serviceDate⟩ slots
  apart := timetabled.apart.released fun key shift present => by
    obtain ⟨other, present, isShift⟩ := Db.roster_found present
    rw [bookings] at present
    rw [slots] at isShift
    rcases set_cases present with ⟨isKey, isNew⟩ | earlier
    · rw [isKey, Db.roster_at found]
      rw [isNew] at isShift
      rcases released.shift db.slots with kept | given
      · rw [← kept, isShift]
      · rw [given] at isShift
        cases isShift
    · rw [Db.roster_at earlier, isShift]

theorem Booking.overlaps_of_clash {slots : List TimeSlot} {taken present : Shift UserId Date TimeOfDay}
    (day : taken.day = slot.date) (start : taken.start = slot.startTime) (finish : taken.finish = slot.endTime)
    (isShift : booking.shift slots = some present) (clash : taken.Clash present) :
    booking.overlaps slots taken.worker slot = true := by
  obtain ⟨other, assigned, foundOther, busy, presentDay, presentStart, presentFinish⟩ :=
    Booking.shift_eq_some isShift
  obtain ⟨worker, sameDay, before, after⟩ := clash
  unfold Booking.isBusy at busy
  rw [presentDay, day] at sameDay
  rw [start, presentFinish] at before
  rw [finish, presentStart] at after
  simp only [Booking.overlaps, assigned, worker, sameDay, busy, foundOther, beq_self_eq_true, Bool.true_and,
    Option.any_some, Bool.and_eq_true, decide_eq_true_eq]
  exact ⟨after, before⟩

theorem Timetabled.placed (timetabled : Timetabled db) (bookings : next.bookings = db.bookings.set bookingId after)
    (foundSlot : db.slots[after.timeSlot]? = some slot) (date : after.serviceDate = slot.date)
    (free : ∀ technician, after.assignedTechnician = some technician → after.isBusy = true →
      (db.bookings.eraseIdx bookingId).any (Booking.overlaps db.slots technician slot) = false)
    (slots : next.slots = db.slots) :
    Timetabled next where
  dated := ServiceDated.placed timetabled.dated foundSlot date bookings slots
  apart := by
    have roster : next.roster = db.roster.set bookingId (after.shift db.slots) := by
      simp [Db.roster, bookings, slots, List.map_set]
    rw [roster]
    refine timetabled.apart.taken fun taken isShift other present differ atOther clash => ?_
    obtain ⟨own, assigned, foundOwn, busy, day, start, finish⟩ := Booking.shift_eq_some isShift
    rw [foundSlot, Option.some.injEq] at foundOwn
    subst foundOwn
    obtain ⟨otherBooking, foundOther, isOther⟩ := Db.roster_found atOther
    have overlapping := Booking.overlaps_of_clash (day.trans date) start finish isOther clash
    have remaining : otherBooking ∈ db.bookings.eraseIdx bookingId :=
      List.mem_eraseIdx_iff_getElem?.mpr ⟨other, differ, foundOther⟩
    exact List.any_eq_false.mp (free taken.worker assigned busy) otherBooking remaining overlapping

end

theorem Timetabled.quiet {db next : Db} (timetabled : Timetabled db) (quiet : Quiet db next) : Timetabled next := by
  cases quiet with
  | auxiliary same added slots => exact timetabled.appended same.bookings slots
  | created booking slot fresh foundSlot dated bookings noted payments staff =>
      have idle : booking.isBusy = false := by
        rw [Booking.isBusy, fresh.bookingStatus]
        rfl
      exact timetabled.created foundSlot dated idle bookings staff.slots
  | workOrderCreated middle booking slot lead service fresh foundSlot dated bookings created noted payments staff =>
      have sameSlot : ((booking.repriced lead service).asWorkOrder).timeSlot = booking.timeSlot := by
        unfold Booking.repriced
        split <;> rfl
      have sameDate : ((booking.repriced lead service).asWorkOrder).serviceDate = booking.serviceDate := by
        unfold Booking.repriced
        split <;> rfl
      exact timetabled.created (by rw [sameSlot]; exact foundSlot) (sameDate.trans dated) rfl bookings staff.slots

section

variable {settings : Settings} {state : System} {op : Op} {next : Db}

theorem Timetabled.effective {effect : Effect} (timetabled : Timetabled state.db)
    (keeps : timesCondition state.db effect = true) (written : Effective effect state.db next)
    (slots : next.slots = effect.slots state.db.slots) : Timetabled next := by
  rcases written.slots_cases slots with ⟨slotId, slot, rfl, bookings, saved⟩ |
    ⟨sameSlots, same | ⟨bookingId, before, after, rewrites, found, bookings⟩⟩
  · refine timetabled.retimed bookings fun booking member earlier found => ?_
    rw [saved, List.getElem?_set]
    simp only [timesCondition, Bool.or_eq_true, Bool.not_eq_true', List.any_eq_false, beq_iff_eq] at keeps
    by_cases here : slotId = booking.timeSlot
    · rcases keeps with vacant | kept
      · exact (vacant booking member here.symm).elim
      · rw [here, found] at kept
        simp only [Option.all_some, Bool.and_eq_true, beq_iff_eq] at kept
        rw [if_pos here, if_pos (here ▸ (List.getElem?_eq_some_iff.mp found).1)]
        exact ⟨slot, rfl, kept.1.1.symm, kept.1.2.symm, kept.2.symm⟩
    · rw [if_neg here]
      exact ⟨earlier, found, rfl, rfl, rfl⟩
  · exact timetabled.same same sameSlots
  · exact timetabled.released bookings found rewrites.released sameSlots

theorem Timetabled.leaves (timetabled : Timetabled state.db) (keeps : op.keepsApart settings state)
    (leaves : Leaves settings state op next) : Timetabled next := by
  cases leaves with
  | quiet chain =>
      induction chain with
      | refl => exact timetabled
      | tail _ quiet ih => exact ih.quiet quiet
  | directory directory isOp written =>
      rw [written]
      exact timetabled.same rfl rfl
  | ordered bookingId booking user key orderId isOp planned bookings statusHistory payments staff =>
      exact timetabled.same bookings staff.slots
  | jobStep bookingId before after step found bookings noted payments staff =>
      exact timetabled.released bookings found step.released staff.slots
  | moved now bookingId slotId changedBy notes booking slot isOp found from_ foundSlot bookings noted payments staff =>
      have apart := keeps.1
      rw [isOp] at apart
      simp only [Op.movesApart, found, foundSlot, Bool.or_eq_true, Bool.not_eq_true', Option.all_eq_true] at apart
      refine timetabled.placed bookings foundSlot rfl (fun technician assigned busy => ?_) staff.slots
      rcases apart with idle | free
      · exact absurd (idle.symm.trans busy) (by decide)
      · exact free technician assigned
  | assigned now bookingId technicianId assignedBy notes reason assignmentId booking technician slot found from_
      foundTechnician foundSlot free reassigned bookings noted payments slots directory =>
      obtain ⟨own, foundOwn, date⟩ := timetabled.dated bookingId booking found
      rw [foundSlot, Option.some.injEq] at foundOwn
      subst foundOwn
      refine timetabled.placed bookings foundSlot date (fun user isUser _ => ?_) slots
      rw [Option.some.injEq] at isUser
      rw [← isUser]
      exact free
  | removed now bookingId changedBy notes booking assignmentId assignment isOp found active assignments bookings noted
      payments slots directory =>
      exact timetabled.released bookings found ⟨rfl, rfl, fun _ => .inr (Booking.shift_unassigned rfl)⟩ slots
  | effective effect isEffect written notes assignments slots directory =>
      have condition : timesCondition state.db effect = true := by
        simpa [Op.meets, isEffect] using keeps.2
      exact timetabled.effective condition written slots

end

/-- As long as nobody moves a booking onto another of its technician's, no technician is booked twice. -/
theorem noDoubleBooking_run {settings : Settings} {start : System} {ops : List Op} (initial : start.Initial)
    (guarded : Guarded (System.step settings) (Op.keepsApart settings) start ops) :
    NoDoubleBooking (runAll (System.step settings) start ops).db := by
  have initially : Timetabled start.db := by
    refine ⟨fun bookingId booking found => ?_, ?_⟩
    · rw [initial.bookings] at found
      cases found
    · rw [Db.roster, initial.bookings]
      exact .nil
  have timetabled := leaves_invariant Timetabled (fun _ _ _ holds keeps leaves => holds.leaves keeps leaves)
    guarded initially
  exact timetabled.noDoubleBooking

def twoVisits : List Op := [
  .createSlot {
    serviceArea := 0
    date := 20460
    startTime := 14 * hour
    endTime := 16 * hour
    capacity := 2
    isActive := true
  },
  .createBooking sampleNow 0 { serviceId := 0, addressId := 0, slotId := 1, quantity := 1 },
  .createAdvancePaymentOrder 0 0 "payment-key-1" (.ok "order_1"),
  samplePaymentEvent "payment.captured" "order_1" "pay_1" 20000,
  sampleBookingBy 1,
  .createAdvancePaymentOrder 1 1 "payment-key-2" (.ok "order_2"),
  samplePaymentEvent "payment.captured" "order_2" "pay_2" 20000,
  .assignTechnician sampleNow 0 0 none "" "",
  .assignTechnician sampleNow 1 0 none "" ""]

/-- The first visit is over before the second booking moves to its slot. -/
theorem noDoubleBooking_run_afterVisit :
    NoDoubleBooking (runAll (System.step sampleSettings) sampleSystem (twoVisits ++ [
      .startBooking 0 none "",
      .recordBalanceCollection sampleNow 0 80000 "CASH" none "",
      .completeBooking sampleNow 0 none "",
      .rescheduleBooking sampleNow 1 1 1 ""])).db :=
  noDoubleBooking_run sampleSystem_initial (by decide)

def movedTogether : List Op := twoVisits ++ [.rescheduleBooking sampleNow 1 1 1 ""]

theorem rescheduled_booking_doubles_technician :
    ¬ ∀ (settings : Settings) (start : System) (ops : List Op), start.Initial →
      NoDoubleBooking (runAll (System.step settings) start ops).db := by
  intro always
  have apart := always sampleSettings sampleSystem movedTogether sampleSystem_initial
  have first : ((runAll (System.step sampleSettings) sampleSystem movedTogether).db.bookings[0]?).map (fun booking =>
      (booking.assignedTechnician, booking.isBusy, booking.serviceDate, booking.timeSlot)) =
        some (some 2, true, 20460, 1) := by decide
  have second : ((runAll (System.step sampleSettings) sampleSystem movedTogether).db.bookings[1]?).map (fun booking =>
      (booking.assignedTechnician, booking.isBusy, booking.serviceDate, booking.timeSlot)) =
        some (some 2, true, 20460, 1) := by decide
  have slot : ((runAll (System.step sampleSettings) sampleSystem movedTogether).db.slots[1]?).map
      (fun slot => (slot.startTime, slot.endTime)) = some (14 * hour, 16 * hour) := by decide
  obtain ⟨firstBooking, foundFirst, isFirst⟩ := Option.map_eq_some_iff.mp first
  obtain ⟨secondBooking, foundSecond, isSecond⟩ := Option.map_eq_some_iff.mp second
  obtain ⟨visit, foundSlot, isVisit⟩ := Option.map_eq_some_iff.mp slot
  simp only [Prod.mk.injEq] at isFirst isSecond isVisit
  obtain ⟨technicianFirst, busyFirst, dateFirst, slotFirst⟩ := isFirst
  obtain ⟨technicianSecond, busySecond, dateSecond, slotSecond⟩ := isSecond
  have disjoint := apart 0 1 firstBooking secondBooking 2 visit visit (by decide) foundFirst foundSecond
    technicianFirst technicianSecond busyFirst busySecond (dateFirst.trans dateSecond.symm)
    (by rw [slotFirst, foundSlot]) (by rw [slotSecond, foundSlot])
  rw [isVisit.1, isVisit.2] at disjoint
  have begins : 14 * hour ∈ Set.Ico (14 * hour) (16 * hour) := ⟨le_refl _, by decide⟩
  exact Set.disjoint_left.mp disjoint begins begins

end PsCore
