import PsCore.Records

/-!
The date of a booking and the date of its slot. A booking copies the date when it is made or moved,
and a slot keeps its date while it has bookings.
-/

namespace PsCore

open RowTable Relation TransitionRun

/-- Every booking stands in a slot of its own date. -/
def ServiceDated (db : Db) : Prop :=
  ∀ (bookingId : BookingId) (booking : Booking), db.bookings[bookingId]? = some booking →
    ∃ slot, db.slots[booking.timeSlot]? = some slot ∧ booking.serviceDate = slot.date

def KeepsDate (db : Db) (slotId : SlotId) (slot : TimeSlot) : Prop :=
  ∀ booking ∈ db.bookings, booking.timeSlot = slotId → ∀ earlier, db.slots[slotId]? = some earlier →
    slot.date = earlier.date

theorem Effective.slots_cases {effect : Effect} {db next : Db} (written : Effective effect db next)
    (slots : next.slots = effect.slots db.slots) :
    (∃ slotId slot, effect = .slotSave slotId slot ∧ next.bookings = db.bookings ∧
        next.slots = db.slots.set slotId slot) ∨
      next.slots = db.slots ∧ (next.bookings = db.bookings ∨ ∃ bookingId before after,
        effect.Rewrites bookingId before after ∧ db.bookings[bookingId]? = some before ∧
          next.bookings = db.bookings.set bookingId after) := by
  cases effect with
  | slotSave slotId slot =>
      left
      cases written with
      | slotSaved bookings payments saved => exact ⟨slotId, slot, rfl, bookings, saved⟩
  | _ => exact .inr ⟨slots, written.rewrites⟩

namespace ServiceDated

variable {db next : Db} {bookingId : BookingId} {after booking : Booking} {slot : TimeSlot}

theorem retimed (dated : ServiceDated db) (bookings : next.bookings = db.bookings)
    (dates : ∀ booking ∈ db.bookings, ∀ slot, db.slots[booking.timeSlot]? = some slot →
      ∃ later, next.slots[booking.timeSlot]? = some later ∧ later.date = slot.date) : ServiceDated next := by
  intro bookingId booking found
  rw [bookings] at found
  obtain ⟨slot, foundSlot, date⟩ := dated bookingId booking found
  obtain ⟨later, foundLater, sameDate⟩ := dates booking (List.mem_of_getElem? found) slot foundSlot
  exact ⟨later, foundLater, date.trans sameDate.symm⟩

theorem same (dated : ServiceDated db) (bookings : next.bookings = db.bookings) (slots : next.slots = db.slots) :
    ServiceDated next :=
  dated.retimed bookings fun _ _ slot found => ⟨slot, by rw [slots, found], rfl⟩

theorem appended {added : List TimeSlot} (dated : ServiceDated db) (bookings : next.bookings = db.bookings)
    (slots : next.slots = db.slots ++ added) : ServiceDated next := by
  refine dated.retimed bookings fun booking _ slot found => ⟨slot, ?_, rfl⟩
  rw [slots, List.getElem?_append_left (List.getElem?_eq_some_iff.mp found).1, found]

theorem saved {slotId : SlotId} (dated : ServiceDated db) (keeps : KeepsDate db slotId slot)
    (bookings : next.bookings = db.bookings) (slots : next.slots = db.slots.set slotId slot) : ServiceDated next := by
  refine dated.retimed bookings fun booking member earlier found => ?_
  rw [slots, List.getElem?_set]
  by_cases here : slotId = booking.timeSlot
  · rw [if_pos here, if_pos (here ▸ (List.getElem?_eq_some_iff.mp found).1)]
    rw [← here] at found
    exact ⟨slot, rfl, keeps booking member here.symm earlier found⟩
  · rw [if_neg here]
    exact ⟨earlier, found, rfl⟩

theorem created (dated : ServiceDated db) (foundSlot : db.slots[booking.timeSlot]? = some slot)
    (date : booking.serviceDate = slot.date) (bookings : next.bookings = db.bookings ++ [booking])
    (slots : next.slots = db.slots) : ServiceDated next := by
  intro key other found
  rw [bookings] at found
  rw [slots]
  rcases append_cases found with earlier | ⟨_, isNew⟩
  · exact dated key other earlier
  · rw [isNew]
    exact ⟨slot, foundSlot, date⟩

theorem placed (dated : ServiceDated db) (foundSlot : db.slots[after.timeSlot]? = some slot)
    (date : after.serviceDate = slot.date) (bookings : next.bookings = db.bookings.set bookingId after)
    (slots : next.slots = db.slots) : ServiceDated next := by
  intro key other present
  rw [bookings] at present
  rw [slots]
  rcases set_cases present with ⟨_, isNew⟩ | earlier
  · rw [isNew]
    exact ⟨slot, foundSlot, date⟩
  · exact dated key other earlier

theorem rewritten {before : Booking} (dated : ServiceDated db) (found : db.bookings[bookingId]? = some before)
    (bookings : next.bookings = db.bookings.set bookingId after)
    (place : after.timeSlot = before.timeSlot ∧ after.serviceDate = before.serviceDate)
    (slots : next.slots = db.slots) : ServiceDated next := by
  obtain ⟨slot, foundSlot, date⟩ := dated bookingId before found
  exact dated.placed (by rw [place.1, foundSlot]) (place.2.trans date) bookings slots

theorem quiet (dated : ServiceDated db) (quiet : Quiet db next) : ServiceDated next := by
  cases quiet with
  | auxiliary same added slots => exact dated.appended same.bookings slots
  | created booking slot fresh foundSlot onDate bookings noted payments staff =>
      exact dated.created foundSlot onDate bookings staff.slots
  | workOrderCreated middle booking slot lead service fresh foundSlot onDate bookings created noted payments staff =>
      have place : ((booking.repriced lead service).asWorkOrder).timeSlot = booking.timeSlot ∧
          ((booking.repriced lead service).asWorkOrder).serviceDate = booking.serviceDate := by
        unfold Booking.repriced
        split <;> exact ⟨rfl, rfl⟩
      exact dated.created (by rw [place.1]; exact foundSlot) (place.2.trans onDate) bookings staff.slots

theorem effective {effect : Effect} (dated : ServiceDated db)
    (keeps : ∀ slotId slot, effect = .slotSave slotId slot → KeepsDate db slotId slot)
    (written : Effective effect db next) (slots : next.slots = effect.slots db.slots) : ServiceDated next := by
  rcases written.slots_cases slots with ⟨slotId, slot, rfl, bookings, saved⟩ |
    ⟨sameSlots, same | ⟨bookingId, before, after, rewrites, found, bookings⟩⟩
  · exact dated.saved (keeps slotId slot rfl) bookings saved
  · exact dated.same same sameSlots
  · exact dated.rewritten found bookings ⟨rewrites.place.1, rewrites.place.2.1⟩ sameSlots

theorem leaves {settings : Settings} {state : System} {op : Op} (dated : ServiceDated state.db)
    (keeps : ∀ slotId slot, op.effect settings state = some (.slotSave slotId slot) → KeepsDate state.db slotId slot)
    (leaves : Leaves settings state op next) : ServiceDated next := by
  cases leaves with
  | quiet chain =>
      clear keeps
      induction chain with
      | refl => exact dated
      | tail _ quiet ih => exact ih.quiet quiet
  | directory directory isOp written =>
      rw [written]
      exact dated.same rfl rfl
  | ordered bookingId booking user key orderId isOp planned bookings statusHistory payments staff =>
      exact dated.same bookings staff.slots
  | jobStep bookingId before after step found bookings noted payments staff =>
      exact dated.rewritten found bookings step.place staff.slots
  | moved now bookingId slotId changedBy notes booking slot isOp found from_ foundSlot bookings noted payments staff =>
      exact dated.placed foundSlot rfl bookings staff.slots
  | assigned now bookingId technicianId assignedBy notes reason assignmentId booking technician slot found from_
      foundTechnician foundSlot free reassigned bookings noted payments slots directory =>
      exact dated.rewritten found bookings ⟨rfl, rfl⟩ slots
  | removed now bookingId changedBy notes booking assignmentId assignment isOp found active assignments bookings noted
      payments slots directory =>
      exact dated.rewritten found bookings ⟨rfl, rfl⟩ slots
  | effective effect isEffect written notes assignments slots directory =>
      exact dated.effective (fun slotId slot isSave => keeps slotId slot (isSave ▸ isEffect)) written slots

end ServiceDated

end PsCore
