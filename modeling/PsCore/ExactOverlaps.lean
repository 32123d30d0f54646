import PsCore.Library.Roster
import PsCore.ServiceDates

/-!
The search for overlapping bookings. It compares the copied date of a booking with the date of a
slot, and is exact as long as every booking has the date of its own slot.
-/

namespace PsCore

open Fallible RowTable TransitionRun

/-- The slot editor's request is three steps, between which other requests can come. -/
def Op.isSlotEditPart : Op → Bool
  | .loadSlot _ | .validateSlotEdit _ _ | .saveSlot _ => true
  | _ => false

inductive SerialOp
  | operation (op : Op) (whole : op.isSlotEditPart = false)
  | editSlot (slotId : SlotId) (edit : SlotEdit)

/-- A slot edit loads the row, validates the changes and saves, each on what it has just obtained. -/
def System.serialStep (settings : Settings) (state : System) : SerialOp → System
  | .operation op _ => System.step settings state op
  | .editSlot slotId edit => runAll (System.step settings) state [
      .loadSlot slotId,
      .validateSlotEdit state.loadedSlots.length edit,
      .saveSlot state.validatedSlots.length]

/-- The local date-times of a slot, from its start to before its end. -/
def TimeSlot.moments (slot : TimeSlot) : Set (Lex (Date × TimeOfDay)) :=
  DayInterval.moments slot.date slot.startTime slot.endTime

def MeetsAnother (db : Db) (technician : UserId) (bookingId : BookingId) (slot : TimeSlot) : Prop :=
  ∃ (otherId : BookingId) (other : Booking) (otherSlot : TimeSlot), otherId ≠ bookingId ∧
    db.bookings[otherId]? = some other ∧ other.assignedTechnician = some technician ∧ other.isBusy = true ∧
    db.slots[other.timeSlot]? = some otherSlot ∧ (slot.moments ∩ otherSlot.moments).Nonempty

def OverlapsExact (db : Db) : Prop :=
  ∀ (technician : TechnicianProfile) (bookingId : BookingId) (booking : Booking) (slot : TimeSlot),
    db.bookings[bookingId]? = some booking → db.slots[booking.timeSlot]? = some slot →
    (hasOverlappingBooking db technician bookingId slot = true ↔ MeetsAnother db technician.user bookingId slot)

theorem Booking.overlaps_iff {slots : List TimeSlot} {technician : UserId} {slot otherSlot : TimeSlot} {other : Booking}
    (found : slots[other.timeSlot]? = some otherSlot) (dated : other.serviceDate = otherSlot.date) :
    other.overlaps slots technician slot = true ↔
      other.assignedTechnician = some technician ∧ other.isBusy = true ∧
        (slot.moments ∩ otherSlot.moments).Nonempty := by
  rw [TimeSlot.moments, TimeSlot.moments, DayInterval.moments_meet_iff slot.ordered otherSlot.ordered]
  simp only [Booking.overlaps, Booking.isBusy, found, dated, Option.any_some, Bool.and_eq_true, beq_iff_eq,
    decide_eq_true_eq]
  constructor
  · rintro ⟨⟨⟨assigned, sameDate⟩, busy⟩, before, after⟩
    exact ⟨assigned, busy, sameDate, before, after⟩
  · rintro ⟨assigned, busy, sameDate, before, after⟩
    exact ⟨⟨⟨assigned, sameDate⟩, busy⟩, before, after⟩

theorem ServiceDated.overlapsExact {db : Db} (dated : ServiceDated db) : OverlapsExact db := by
  intro technician bookingId booking slot _ _
  rw [hasOverlappingBooking, List.any_eq_true]
  constructor
  · rintro ⟨other, remains, overlaps⟩
    obtain ⟨otherId, differs, foundOther⟩ := List.mem_eraseIdx_iff_getElem?.mp remains
    obtain ⟨otherSlot, foundSlot, date⟩ := dated otherId other foundOther
    obtain ⟨assigned, busy, meet⟩ := (Booking.overlaps_iff foundSlot date).mp overlaps
    exact ⟨otherId, other, otherSlot, differs, foundOther, assigned, busy, foundSlot, meet⟩
  · rintro ⟨otherId, other, otherSlot, differs, foundOther, assigned, busy, foundSlot, meet⟩
    refine ⟨other, List.mem_eraseIdx_iff_getElem?.mpr ⟨otherId, differs, foundOther⟩, ?_⟩
    obtain ⟨ownSlot, foundOwn, date⟩ := dated otherId other foundOther
    rw [foundSlot, Option.some.injEq] at foundOwn
    subst foundOwn
    exact (Booking.overlaps_iff foundSlot date).mpr ⟨assigned, busy, meet⟩

/-! The date of the slot through every request. -/

section

variable {settings : Settings} {state : System}

theorem PaymentChange.effect_ne_slotSave {now : Instant} {changedBy : Option UserId} {change : PaymentChange}
    {slotId : SlotId} {slot : TimeSlot} : change.effect now changedBy ≠ some (.slotSave slotId slot) := by
  cases change <;> simp [PaymentChange.effect]

theorem verificationEffect_ne_slotSave {now : Instant} {orderId paymentId signature : String} {user : Option UserId}
    {db : Db} {slotId : SlotId} {slot : TimeSlot} :
    verificationEffect settings now orderId paymentId signature user db ≠ some (.slotSave slotId slot) := by
  intro isEffect
  obtain ⟨change, _, isChange⟩ := Option.bind_eq_some_iff.mp isEffect
  exact PaymentChange.effect_ne_slotSave isChange

theorem webhookEffect_ne_slotSave {now : Instant} {eventName : String} {payload : Json} {db : Db} {slotId : SlotId}
    {slot : TimeSlot} : webhookEffect settings now eventName payload db ≠ some (.slotSave slotId slot) := by
  unfold webhookEffect
  split
  · intro isEffect
    obtain ⟨captured, _, isVerified⟩ := Option.bind_eq_some_iff.mp isEffect
    exact verificationEffect_ne_slotSave isVerified
  · split
    · intro isEffect
      obtain ⟨change, _, isChange⟩ := Option.bind_eq_some_iff.mp isEffect
      exact PaymentChange.effect_ne_slotSave isChange
    · split
      · simp
      · exact nofun

theorem workOrderEffect_ne_slotSave {now : Instant} {loaded : LoadedLead} {object : LoadedBooking} {notes : String}
    {db : Db} {slotId : SlotId} {slot : TimeSlot} :
    workOrderEffect now loaded object notes db ≠ some (.slotSave slotId slot) := by
  unfold workOrderEffect
  split
  · exact nofun
  · split <;> simp

theorem isSlotEditPart_of_slotSave {op : Op} {slotId : SlotId} {slot : TimeSlot}
    (isEffect : op.effect settings state = some (.slotSave slotId slot)) : op.isSlotEditPart = true := by
  cases op with
  | saveSlot position => rfl
  | verifyRazorpayPayment => exact (verificationEffect_ne_slotSave isEffect).elim
  | dispatchWebhook => exact (webhookEffect_ne_slotSave isEffect).elim
  | convertLeadToWorkOrder now lead performedBy booking notes =>
      cases booking with
      | none => cases isEffect
      | some position =>
          simp only [Op.effect] at isEffect
          split at isEffect
          · exact (workOrderEffect_ne_slotSave isEffect).elim
          · cases isEffect
  | recordManualLeadPayment =>
      simp only [Op.effect] at isEffect
      split at isEffect
      · simp at isEffect
      · cases isEffect
  | createRefund => simp [Op.effect] at isEffect
  | reconcileRefund => simp [Op.effect] at isEffect
  | recordBalanceCollection => simp [Op.effect] at isEffect
  | _ => cases isEffect

theorem savedSlot_date {slots : List TimeSlot} {slotId : SlotId} {fields : SlotFields} {slot : TimeSlot}
    (saved : savedSlot slots slotId fields = .ok slot) : slot.date = fields.date := by
  simp only [savedSlot, accepted_bind, accepted_require, accepted_pure] at saved
  obtain ⟨_, cleaned, _, _, rfl⟩ := saved
  unfold SlotFields.clean at cleaned
  split at cleaned
  · cases cleaned
    rfl
  · cases cleaned

theorem validateSlotEdit_keepsDate {db : Db} {slotId : SlotId} {loaded slot : TimeSlot} {edit : SlotEdit}
    {fields : SlotFields} (found : db.slots[slotId]? = some loaded)
    (validated : validateSlotEdit db slotId loaded edit = .ok fields)
    (saved : savedSlot db.slots slotId fields = .ok slot) : KeepsDate db slotId slot := by
  intro booking member here earlier foundEarlier
  simp only [validateSlotEdit, accepted_bind, accepted_require, accepted_pure] at validated
  obtain ⟨_, unchanged, _, _, rfl⟩ := validated
  have booked : db.bookings.any (·.timeSlot == slotId) = true :=
    List.any_eq_true.mpr ⟨booking, member, beq_iff_eq.mpr here⟩
  rw [found, Option.some.injEq] at foundEarlier
  subst foundEarlier
  rw [savedSlot_date saved]
  have sameSchedule : edit.scheduleChanged loaded = false := by
    by_cases changed : edit.scheduleChanged loaded = true
    · exact (unchanged ⟨changed, booked⟩).elim
    · exact Bool.eq_false_iff.mpr changed
  simp only [SlotEdit.scheduleChanged, Bool.or_eq_false_iff] at sameSchedule
  simp only [SlotEdit.apply]
  cases date : edit.date with
  | none => rfl
  | some value =>
      have same := sameSchedule.1.1
      rw [date, Option.any_some, decide_eq_false_iff_not, Decidable.not_not] at same
      exact same

def editedSlot (slotId : SlotId) (edit : SlotEdit) (db : Db) : Except ServiceError TimeSlot := do
  let loaded ← orRaise db.slots[slotId]? (.doesNotExist "TimeSlot")
  let fields ← PsCore.validateSlotEdit db slotId loaded edit
  savedSlot db.slots slotId fields

theorem serialStep_editSlot (slotId : SlotId) (edit : SlotEdit) :
    (state.serialStep settings (.editSlot slotId edit)).db =
      match editedSlot slotId edit state.db with
      | .ok slot => { state.db with slots := state.db.slots.set slotId slot }
      | .error _ => state.db := by
  simp only [System.serialStep, runAll_cons, runAll_nil, editedSlot]
  cases found : state.db.slots[slotId]? with
  | none =>
      simp [System.step, found, orRaise]
      rfl
  | some loaded =>
      cases validated : PsCore.validateSlotEdit state.db slotId loaded edit with
      | error error =>
          simp [System.step, found, validated, orRaise, ok_bind]
          rfl
      | ok fields =>
          simp [System.step, System.write, found, validated, orRaise, ok_bind]
          cases savedSlot state.db.slots slotId fields <;> rfl

theorem ServiceDated.serial {op : SerialOp} (dated : ServiceDated state.db) :
    ServiceDated (state.serialStep settings op).db := by
  cases op with
  | operation op whole =>
      refine dated.leaves (fun slotId slot isEffect => ?_) (step_leaves settings state op)
      have isPart := isSlotEditPart_of_slotSave isEffect
      rw [whole] at isPart
      cases isPart
  | editSlot slotId edit =>
      rw [serialStep_editSlot]
      cases edited : editedSlot slotId edit state.db with
      | error error => exact dated
      | ok slot =>
          simp only [editedSlot, accepted_bind, accepted_orRaise] at edited
          obtain ⟨loaded, found, fields, validated, saved⟩ := edited
          exact dated.saved (validateSlotEdit_keepsDate found validated saved) rfl rfl

end

/-- When requests come one at a time, every booking has the date of its slot, and the search for
overlaps finds what overlaps and nothing else. -/
theorem overlapsExact_run {settings : Settings} {start : System} (initial : start.Initial) (ops : List SerialOp) :
    ServiceDated (runAll (System.serialStep settings) start ops).db ∧
      OverlapsExact (runAll (System.serialStep settings) start ops).db := by
  have initially : ServiceDated start.db := by
    intro bookingId booking found
    rw [initial.bookings] at found
    cases found
  have guarded : Guarded (System.serialStep settings) (fun _ _ => True) start ops :=
    .always (fun _ _ => trivial) start ops
  have kept : ∀ (state : System) (op : SerialOp), ServiceDated state.db → True →
      ServiceDated (state.serialStep settings op).db :=
    fun _ _ holds _ => holds.serial
  have dated := guarded.invariant kept initially
  exact ⟨dated, dated.overlapsExact⟩

def crossedVisits : List SerialOp := [
  .operation (sampleBookingBy 0) rfl,
  .operation (.createAdvancePaymentOrder 0 0 "payment-key-1" (.ok "order_1")) rfl,
  .operation (samplePaymentEvent "payment.captured" "order_1" "pay_1" 20000) rfl,
  .operation (.assignTechnician sampleNow 0 0 none "" "") rfl,
  .operation (.createSlot {
    serviceArea := 0
    date := 20460
    startTime := 14 * hour
    endTime := 16 * hour
    capacity := 2
    isActive := true
  }) rfl,
  .editSlot 1 {
    date := none
    startTime := some (11 * hour)
    endTime := some (13 * hour)
    capacity := none
    isActive := none
  },
  .operation (.createBooking sampleNow 0 { serviceId := 0, addressId := 0, slotId := 1, quantity := 1 }) rfl]

def crossedState : System := runAll (System.serialStep sampleSettings) sampleSystem crossedVisits

theorem overlapsExact_run_crossed :
    MeetsAnother crossedState.db 2 1 (crossedState.db.slots.get ⟨1, by decide⟩) := by
  have searched : ServiceDated crossedState.db ∧ OverlapsExact crossedState.db :=
    overlapsExact_run sampleSystem_initial crossedVisits
  have overlapping : hasOverlappingBooking crossedState.db (sampleDirectory.technicians.get ⟨0, by decide⟩) 1
      (crossedState.db.slots.get ⟨1, by decide⟩) = true := by decide
  have foundBooking : crossedState.db.bookings[1]? = some (crossedState.db.bookings.get ⟨1, by decide⟩) := by simp
  have foundSlot : crossedState.db.slots[(crossedState.db.bookings.get ⟨1, by decide⟩).timeSlot]? =
      some (crossedState.db.slots.get ⟨1, by decide⟩) := by decide
  exact (searched.2 _ 1 _ _ foundBooking foundSlot).mp overlapping

end PsCore
