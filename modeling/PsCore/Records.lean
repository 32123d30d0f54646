import PsCore.Effects
import PsCore.RecordsCore

/-!
Every step of the machine leaves one of a few kinds of record, so an invariant of the
history, the assignments or the orders needs one case per kind.
-/

namespace PsCore

open Fallible RowTable Relation TransitionRun

theorem Directory.Extended.trans {earlier middle later : Directory} (first : earlier.Extended middle)
    (second : middle.Extended later) : earlier.Extended later :=
  ⟨Nat.le_trans first.users second.users, second.services.trans first.services,
    second.technicians.trans first.technicians⟩

theorem SameStaff.refl (db : Db) : SameStaff db db := ⟨rfl, rfl, .refl _⟩

theorem SameRecords.refl (db : Db) : SameRecords db db := ⟨rfl, rfl, rfl, rfl, .refl _⟩

theorem createBooking_quiet {now : Instant} {customer : UserId} {request : BookingRequest} {db next : Db}
    {bookingId : BookingId} (accepted : createBooking now customer request db = .ok (bookingId, next)) :
    ∃ booking slot, FreshBooking booking ∧ db.slots[booking.timeSlot]? = some slot ∧
      booking.serviceDate = slot.date ∧ bookingId = db.bookings.length ∧ next.bookings = db.bookings ++ [booking] ∧
      Noted db next db.bookings.length none .pendingPayment ∧ next.payments = db.payments ∧ SameStaff db next := by
  obtain ⟨_, address, slot, _, amounts, number, _, booking, _, locked, _, _, isNew, rfl, rfl⟩ :=
    createBooking_made accepted
  have slotFacts := lockAndValidateSlot_accepted locked
  have fresh := newBooking_fresh number customer request.serviceId request.addressId address request.slotId slot
    request.quantity amounts
  subst isNew
  exact ⟨_, slot, fresh, slotFacts.1, rfl, rfl, rfl, ⟨_, _, rfl⟩, rfl, ⟨rfl, rfl, .refl _⟩⟩

theorem createBookings_quiet {now : Instant} {customer : UserId} {requests : List BookingRequest} {db next : Db}
    {bookingIds : List BookingId}
    (accepted : createBookings now customer requests db = .ok (bookingIds, next)) : ReflTransGen Quiet db next := by
  refine createBookings_induction (motive := fun _ db next => ReflTransGen Quiet db next) (fun _ => .refl)
    (fun request rest db bookingId middle last created path => ?_) accepted
  obtain ⟨booking, slot, fresh, found, dated, _, bookings, noted, payments, staff⟩ := createBooking_quiet created
  exact .head (.created booking slot fresh found dated bookings noted payments staff) path

theorem getOrCreateSlot_appends {slots next : List TimeSlot} {fields : SlotFields} {slotId : SlotId}
    (accepted : getOrCreateSlot slots fields = .ok (slotId, next)) : ∃ added, next = slots ++ added := by
  rcases getOrCreateSlot_accepted accepted with rfl | ⟨slot, rfl⟩
  · exact ⟨[], by simp⟩
  · exact ⟨[slot], rfl⟩

theorem ensureDailySlots_appends {now : Instant} {db : Db} {area : ServiceAreaId} {date : Date}
    {slots : List TimeSlot} (accepted : ensureDailySlots now db area date = .ok slots) :
    ∃ added, slots = db.slots ++ added := by
  unfold ensureDailySlots at accepted
  split at accepted
  · rw [Except.ok.injEq] at accepted
    exact ⟨[], by simp [accepted]⟩
  · generalize defaultDailySlotWindows = windows at accepted
    generalize db.slots = start at accepted ⊢
    induction windows generalizing start with
    | nil =>
        simp only [List.foldlM_nil, accepted_pure] at accepted
        exact ⟨[], by simp [accepted]⟩
    | cons window rest ih =>
        simp only [List.foldlM_cons, accepted_bind, accepted_pure] at accepted
        obtain ⟨middle, ⟨⟨slotId, created⟩, made, rfl⟩, remaining⟩ := accepted
        obtain ⟨first, rfl⟩ := getOrCreateSlot_appends made
        obtain ⟨others, rfl⟩ := ih _ remaining
        exact ⟨first ++ others, by simp⟩

theorem customerOfLead_grows (users : List User) (lead : Lead) :
    users.length ≤ (customerOfLead users lead).2.length := by
  unfold customerOfLead
  split
  · exact Nat.le_of_eq (List.length_set ..).symm
  · rw [List.length_append]
    exact Nat.le_add_right ..

theorem createBookingFromLead_quiet {now : Instant} {lead : Lead} {db next : Db} {bookingId : BookingId}
    (accepted : createBookingFromLead now lead db = .ok (bookingId, next)) :
    ∃ middle booking slot, Quiet db middle ∧ FreshBooking booking ∧
      middle.slots[booking.timeSlot]? = some slot ∧ booking.serviceDate = slot.date ∧
      bookingId = middle.bookings.length ∧
      next.bookings = middle.bookings ++ [booking] ∧
      Noted middle next middle.bookings.length none .pendingPayment ∧ next.payments = middle.payments ∧
      SameStaff middle next := by
  obtain ⟨preparation, sound, created⟩ := createBookingFromLead_prepares accepted
  obtain ⟨booking, slot, fresh, found, dated, idEq, bookings, noted, payments, staff⟩ := createBooking_quiet created
  obtain ⟨added, appended⟩ := getOrCreateSlot_appends sound.slot
  refine ⟨_, booking, slot, ?quiet, fresh, found, dated, idEq, bookings, noted, payments, staff⟩
  case quiet => exact .auxiliary ⟨rfl, rfl, rfl, rfl, customerOfLead_grows .., rfl, rfl⟩ added appended

theorem convertFromLead_quiet {now : Instant} {loaded : LoadedLead} {performedBy : Option UserId}
    {notes : String} {db next : Db} {lead : Lead}
    (accepted : convertLeadToWorkOrder now loaded performedBy none notes db = .ok (lead, next)) :
    ReflTransGen Quiet db next := by
  rcases convertLeadToWorkOrder_cases accepted with ⟨_, _, rfl⟩ |
    ⟨⟨bookingId, row⟩, booked, leads, _, ordered, _, rfl⟩
  · exact .refl
  · obtain ⟨made, service, created, foundRow, _, rfl⟩ := workOrderBooking_new ordered
    obtain ⟨middle, booking, slot, quiet, fresh, found, dated, idEq, bookings, noted, payments, staff⟩ :=
      createBookingFromLead_quiet created
    subst idEq
    have isRow : booking = row := by
      simpa [bookings] using foundRow
    subst isRow
    have written : made.bookings.set middle.bookings.length
        (booking.repriced loaded.lead service.toServiceFields).asWorkOrder =
        middle.bookings ++ [(booking.repriced loaded.lead service.toServiceFields).asWorkOrder] := by
      simp [bookings, List.set_append_right]
    refine .head quiet (.single (.workOrderCreated made booking slot loaded.lead service.toServiceFields fresh found
      dated written noted ?_ payments ⟨staff.assignments, staff.slots, staff.directory⟩))
    exact ⟨performedBy, orText notes "Work order created from lead by admin.", by
      simp [workOrderHistory, fresh.bookingStatus]⟩

/-! Jobs and technicians. -/

section

variable {settings : Settings} {state : System} {op : Op} {next : Db} {bookingId : BookingId}
  {changedBy : Option UserId} {notes : String} {now : Instant}

theorem JobWritten.leaves {before after : Booking}
    (written : JobWritten state.db next state.db.assignments bookingId before after) (step : JobStep before after) :
    Leaves settings state op next :=
  .jobStep bookingId before after step written.found written.bookings written.noted written.payments written.staff

theorem startBooking_leaves (accepted : startBooking bookingId changedBy notes state.db = .ok ((), next)) :
    Leaves settings state op next := by
  obtain ⟨booking, from_, staffed, written⟩ := startBooking_job accepted
  exact written.leaves (.start from_ staffed)

theorem markTechnicianEnRoute_leaves
    (accepted : markTechnicianEnRoute bookingId changedBy notes state.db = .ok ((), next)) :
    Leaves settings state op next := by
  obtain ⟨booking, from_, written⟩ := markTechnicianEnRoute_job accepted
  exact written.leaves (.enRoute from_)

theorem completeBooking_leaves
    (accepted : completeBooking settings now bookingId changedBy notes state.db = .ok ((), next)) :
    Leaves settings state op next := by
  obtain ⟨booking, from_, staffed, _, written⟩ := completeBooking_job accepted
  exact written.leaves (.complete now from_ staffed)

theorem closeBooking_leaves (accepted : closeBooking bookingId changedBy notes state.db = .ok ((), next)) :
    Leaves settings state op next := by
  obtain ⟨booking, from_, written⟩ := closeBooking_job accepted
  exact written.leaves (.close from_)

theorem cancelBooking_leaves {actor : CancellationActor}
    (accepted : cancelBooking settings now bookingId changedBy notes actor state.db = .ok ((), next)) :
    Leaves settings state op next := by
  obtain ⟨booking, from_, _, written⟩ := cancelBooking_job accepted
  exact written.leaves (.cancel now actor from_)

theorem rescheduleBooking_leaves {slotId : SlotId} {customer : UserId}
    (accepted : rescheduleBooking settings now bookingId slotId customer notes state.db = .ok ((), next)) :
    Leaves settings state (.rescheduleBooking now bookingId slotId customer notes) next := by
  obtain ⟨booking, address, slot, _, from_, locked, written⟩ := rescheduleBooking_job accepted
  have slotFacts := lockAndValidateSlot_accepted locked
  exact .moved now bookingId slotId customer notes booking slot rfl written.found from_ slotFacts.1 written.bookings
    written.noted written.payments written.staff

theorem eligible_free {db : Db} {technician : TechnicianProfile} {booking : Booking} {slot : TimeSlot}
    {address : Address} (eligible : getTechnicianEligibilityErrors db technician bookingId booking slot address = []) :
    hasOverlappingBooking db technician bookingId slot = false := by
  simp only [getTechnicianEligibilityErrors, List.append_eq_nil_iff, ite_eq_right_iff, List.cons_ne_nil,
    imp_false, Bool.not_eq_true] at eligible
  exact eligible.2

theorem assignTechnician_leaves {technicianId : TechnicianId} {assignedBy : Option UserId} {reason : String}
    {assignmentId : AssignmentId}
    (accepted : assignTechnician now bookingId technicianId assignedBy notes reason state.db =
      .ok (assignmentId, next)) : Leaves settings state op next := by
  obtain ⟨booking, technician, slot, address, assignments, from_, foundTechnician, foundSlot, eligible, reassigned,
    written⟩ := assignTechnician_job accepted
  have stored : reassign now state.db.assignments bookingId technicianId assignedBy notes reason =
      .ok (assignmentId, next.assignments) := by
    rw [written.assignments]
    exact reassigned
  exact .assigned now bookingId technicianId assignedBy notes reason assignmentId booking technician slot written.found
    from_ foundTechnician foundSlot (eligible_free eligible) stored written.bookings written.noted written.payments
    written.slots written.extended

theorem storeAssignment_accepted {assignments after : AssignmentTable} {assignmentId : AssignmentId}
    {assignment : TechnicianAssignment} (accepted : storeAssignment assignments assignmentId assignment = .ok after) :
    after.rows = assignments.rows.set assignmentId assignment := by
  simp only [storeAssignment, accepted_orRaise] at accepted
  exact UniqueTable.replace?_some accepted

theorem removeTechnicianAssignment_leaves
    (accepted : removeTechnicianAssignment now bookingId changedBy notes state.db = .ok ((), next)) :
    Leaves settings state (.removeTechnicianAssignment now bookingId changedBy notes) next := by
  obtain ⟨booking, assignmentId, assignment, assignments, active, stored, written⟩ :=
    removeTechnicianAssignment_job accepted
  have ended : next.assignments.rows = state.db.assignments.rows.set assignmentId { assignment with
      unassignedAt := some now, notes := joinParts "\n" [assignment.notes, notes] } := by
    rw [written.assignments]
    exact storeAssignment_accepted stored
  exact .removed now bookingId changedBy notes booking assignmentId assignment rfl written.found active ended
    written.bookings written.noted written.payments written.slots written.extended

end

section

variable {settings : Settings} {state : System} {op : Op} {next : Db}

theorem Leaves.unchanged (settings : Settings) (state : System) (op : Op) : Leaves settings state op state.db :=
  .quiet .refl

theorem createAdvancePaymentOrder_leaves {bookingId : BookingId} {user : UserId} {key : String}
    {providerOrder : Except ServiceError String} {answer : PaymentId × OrderResponse}
    (accepted : createAdvancePaymentOrder settings bookingId user key providerOrder state.db = .ok (answer, next)) :
    Leaves settings state (.createAdvancePaymentOrder bookingId user key providerOrder) next := by
  rcases createAdvancePaymentOrder_cases accepted with
    ⟨_, _, _, _, _, rfl⟩ | ⟨booking, orderId, payments, planned, rfl, inserted, _, rfl⟩
  · exact .unchanged ..
  · exact .ordered bookingId booking user key orderId rfl planned rfl rfl (UniqueTable.insert?_some inserted).1
      ⟨rfl, rfl, .refl _⟩

theorem confirmBookingAfterPayment_staff (now : Instant) (locked : LockedPayment) (changedBy : Option UserId)
    (db : Db) : SameStaff db (confirmBookingAfterPayment now locked changedBy db) := by
  unfold confirmBookingAfterPayment
  split <;> exact ⟨rfl, rfl, .refl _⟩

theorem confirmBookingAfterPayment_notes (now : Instant) (locked : LockedPayment) (changedBy : Option UserId)
    (db : Db) :
    if locked.booking.bookingStatus = .confirmed then
      (confirmBookingAfterPayment now locked changedBy db).statusHistory = db.statusHistory
    else Noted db (confirmBookingAfterPayment now locked changedBy db) locked.payment.booking
      (some locked.booking.bookingStatus) .confirmed := by
  unfold confirmBookingAfterPayment
  split
  · rfl
  · exact ⟨_, _, rfl⟩

theorem markPaymentFailed_staff (locked : LockedPayment) (db : Db) : SameStaff db (markPaymentFailed locked db) := by
  unfold markPaymentFailed
  split <;> exact ⟨rfl, rfl, .refl _⟩

theorem markPaymentFailed_statusHistory (locked : LockedPayment) (db : Db) :
    (markPaymentFailed locked db).statusHistory = db.statusHistory := by
  unfold markPaymentFailed
  split <;> rfl

theorem PaymentChange.Sound.leaves {now : Instant} {changedBy : Option UserId} {change : PaymentChange}
    (sound : change.Sound now changedBy state.db) (isEffect : op.effect settings state = change.effect now changedBy) :
    Leaves settings state op (change.apply now changedBy state.db) := by
  rcases sound with unchanged | ⟨effect, present, effective⟩
  · rw [unchanged]
    exact .unchanged ..
  · rw [present] at isEffect
    cases change with
    | unchanged paymentId => cases present
    | confirm locked payments =>
        cases present
        have staff := confirmBookingAfterPayment_staff now locked changedBy { state.db with payments := payments }
        exact .effective _ isEffect effective
          (confirmBookingAfterPayment_notes now locked changedBy { state.db with payments := payments })
          staff.assignments staff.slots staff.directory
    | fail locked payments =>
        cases present
        have staff := markPaymentFailed_staff locked { state.db with payments := payments }
        exact .effective _ isEffect effective
          (markPaymentFailed_statusHistory locked { state.db with payments := payments })
          staff.assignments staff.slots staff.directory

theorem verifyRazorpayPayment_leaves {now : Instant} {orderId paymentId signature : String} {user : Option UserId}
    (isEffect : op.effect settings state =
      verificationEffect settings now orderId paymentId signature user state.db) :
    Leaves settings state op
      (verifyRazorpayPayment settings now orderId paymentId signature user state.db).2 := by
  unfold verificationEffect at isEffect
  unfold verifyRazorpayPayment
  cases decided : verificationChange settings now orderId paymentId signature user state.db with
  | error error => exact .unchanged ..
  | ok change =>
      rw [decided] at isEffect
      exact (verificationChange_accepted decided).leaves isEffect

theorem settleRefund_leaves {settlement : RefundSettlement} {initiated completed : Bool}
    (isEffect : op.effect settings state = some (.refund settlement)) (grounded : settlement.Grounded state.db)
    (accepted : settleRefund settlement initiated completed state.db = .ok next) :
    Leaves settings state op next := by
  have effective := settleRefund_effective grounded accepted
  simp only [settleRefund, applyRefundState, accepted_bind, accepted_pure] at accepted
  obtain ⟨applied, written, rfl⟩ := accepted
  have aside : applied.statusHistory = state.db.statusHistory ∧ SameStaff state.db applied := by
    split at written
    · simp only [accepted_bind, accepted_pure] at written
      obtain ⟨payments, _, rfl⟩ := written
      exact ⟨rfl, rfl, rfl, .refl _⟩
    · simp only [accepted_pure] at written
      subst written
      exact ⟨rfl, rfl, rfl, .refl _⟩
  obtain ⟨history, assignments, slots, directory⟩ := aside
  refine .effective _ isEffect effective ?_ ?_ ?_ ?_
  · cases initiated <;> cases completed <;> exact history
  · cases initiated <;> cases completed <;> exact assignments
  · cases initiated <;> cases completed <;> exact slots
  · cases initiated <;> cases completed <;> exact directory

theorem createRefund_leaves {now : Instant} {sourceId refundId : PaymentId} {amount : Money} {key : String}
    {providerRefund : Except ServiceError ProviderRefund}
    (accepted : createRefund now sourceId amount key providerRefund state.db = .ok (refundId, next)) :
    Leaves settings state (.createRefund now sourceId amount key providerRefund) next := by
  rcases createRefund_cases accepted with rfl | ⟨settlement, completed, requested, settled⟩
  · exact .unchanged ..
  · exact settleRefund_leaves (by rw [Op.effect, requested]; rfl) (requestedRefund_grounded requested) settled

theorem reconcileRefund_leaves {now : Instant} {refundId answerId : PaymentId}
    {providerStatus : Except ServiceError Json}
    (accepted : reconcileRefund now refundId providerStatus state.db = .ok (answerId, next)) :
    Leaves settings state (.reconcileRefund now refundId providerStatus) next := by
  simp only [reconcileRefund, accepted_bind, accepted_pure, Prod.mk.injEq] at accepted
  obtain ⟨⟨previous, settlement⟩, reconciled, _, settled, _, rfl⟩ := accepted
  exact settleRefund_leaves (by rw [Op.effect, reconciled]; rfl) (reconciledRefund_grounded reconciled) settled

theorem dispatchWebhook_leaves {now : Instant} {eventName : String} {payload : Json} :
    Leaves settings state (.dispatchWebhook now eventName payload)
      (dispatchWebhook settings now eventName payload state.db).2 := by
  have isEffect : (Op.dispatchWebhook now eventName payload).effect settings state =
      webhookEffect settings now eventName payload state.db := rfl
  unfold webhookEffect at isEffect
  unfold dispatchWebhook
  split
  · rename_i isCapture
    rw [if_pos isCapture] at isEffect
    cases captured : capturedPayment payload state.db with
    | error error => exact .unchanged ..
    | ok ids =>
        rw [captured] at isEffect
        exact verifyRazorpayPayment_leaves isEffect
  · rename_i noCapture
    rw [if_neg noCapture] at isEffect
    split
    · rename_i isFailure
      rw [if_pos isFailure] at isEffect
      cases decided : failedPaymentChange payload state.db with
      | error error => exact .unchanged ..
      | ok change =>
          rw [decided] at isEffect
          exact (failedPaymentChange_accepted decided).leaves isEffect
    · rename_i noFailure
      rw [if_neg noFailure] at isEffect
      split
      · rename_i isRefund
        rw [if_pos isRefund] at isEffect
        cases processed : processRefundWebhook now payload state.db with
        | error error => exact .unchanged ..
        | ok result =>
            have accepted := processed
            simp only [processRefundWebhook, accepted_bind, accepted_pure] at accepted
            obtain ⟨⟨previous, settlement⟩, delivered, after, settled, rfl⟩ := accepted
            rw [delivered] at isEffect
            exact settleRefund_leaves isEffect (deliveredRefund_grounded delivered) settled
      · exact .unchanged ..

theorem recordManualLeadPayment_leaves {now : Instant} {lead : Nat} {loaded : LoadedLead} {amount : Money}
    {method reference note : String} {paymentId : PaymentId} (foundLead : state.loadedLeads[lead]? = some loaded)
    (accepted : recordManualLeadPayment now loaded amount method reference note state.db = .ok (paymentId, next)) :
    Leaves settings state (.recordManualLeadPayment now lead amount method reference note) next := by
  obtain ⟨entry, entered, effective⟩ := recordManualLeadPayment_effect accepted
  simp only [recordManualLeadPayment, entered, ok_bind, accepted_pure, Prod.mk.injEq] at accepted
  obtain ⟨_, rfl⟩ := accepted
  exact .effective _ (by simp only [Op.effect, foundLead, entered]; rfl) effective rfl rfl rfl (.refl _)

theorem recordBalanceCollection_leaves {now : Instant} {bookingId : BookingId} {amount : Money}
    {method notes : String} {changedBy : Option UserId} {paymentId : PaymentId}
    (accepted : recordBalanceCollection now bookingId amount method changedBy notes state.db =
      .ok (paymentId, next)) :
    Leaves settings state (.recordBalanceCollection now bookingId amount method changedBy notes) next := by
  obtain ⟨booking, payments, entered, effective⟩ := recordBalanceCollection_effect accepted
  simp only [recordBalanceCollection, entered, ok_bind, accepted_pure, Prod.mk.injEq] at accepted
  obtain ⟨_, rfl⟩ := accepted
  exact .effective _ (by rw [Op.effect, entered]; rfl) effective ⟨_, _, rfl⟩ rfl rfl (.refl _)

theorem convertBooking_leaves {now : Instant} {lead : Nat} {loaded : LoadedLead} {performedBy : Option UserId}
    {position : Nat} {object : LoadedBooking} {notes : String} {converted : Lead}
    (foundLead : state.loadedLeads[lead]? = some loaded) (foundObject : state.loadedBookings[position]? = some object)
    (accepted : convertLeadToWorkOrder now loaded performedBy (some object) notes state.db = .ok (converted, next)) :
    Leaves settings state (.convertLeadToWorkOrder now lead performedBy (some position) notes) next := by
  rcases convertBooking_effect accepted with rfl | ⟨effect, isEffect, effective⟩
  · exact .unchanged ..
  · have present : (Op.convertLeadToWorkOrder now lead performedBy (some position) notes).effect settings state =
        some effect := by
      simp only [Op.effect, foundLead, foundObject, isEffect]
    rcases convertLeadToWorkOrder_cases accepted with ⟨isConverted, _, _⟩ |
      ⟨_, _, leads, unconverted, ordered, stored, rfl⟩
    · rw [workOrderEffect, if_pos isConverted] at isEffect
      cases isEffect
    · obtain ⟨rfl, row, found, rfl⟩ := workOrderBooking_given ordered
      simp only [workOrderEffect, unconverted, Bool.false_eq_true, if_false, found, stored] at isEffect
      cases isEffect
      exact .effective _ present effective
        ⟨now, lead, performedBy, position, notes, _, rfl, foundObject, rfl, rfl⟩ rfl rfl (.refl _)

end

section

variable {settings : Settings} {state : System} {op : Op}

theorem commit_leaves {α : Type} {transaction : Except ServiceError (α × Db)}
    (leaves : ∀ result next, transaction = .ok (result, next) → Leaves settings state op next) :
    Leaves settings state op (commit state.db transaction).2 := by
  cases transaction with
  | error error => exact .unchanged ..
  | ok committed => exact leaves committed.1 committed.2 rfl

theorem write_leaves {α : Type} {program : Except ServiceError α} {store : α → Db}
    (leaves : ∀ result, program = .ok result → Leaves settings state op (store result)) :
    Leaves settings state op (state.write program store).db := by
  cases program with
  | error error => exact .unchanged ..
  | ok result => exact leaves result rfl

theorem Leaves.auxiliary (leads : List Lead) (added : List TimeSlot) :
    Leaves settings state op { state.db with leads := leads, slots := state.db.slots ++ added } :=
  .quiet (.single (.auxiliary ⟨rfl, rfl, rfl, rfl, .refl _⟩ added rfl))

theorem Leaves.leads (leads : List Lead) : Leaves settings state op { state.db with leads := leads } :=
  .quiet (.single (.auxiliary ⟨rfl, rfl, rfl, rfl, .refl _⟩ [] (by simp)))

theorem convert_leaves (now : Instant) (lead : Nat) (performedBy : Option UserId) (booking : Option Nat)
    (notes : String) :
    Leaves settings state (.convertLeadToWorkOrder now lead performedBy booking notes)
      (commit state.db (state.convert now lead performedBy booking notes)).2 := by
  refine commit_leaves fun result next accepted => ?_
  simp only [System.convert, accepted_bind, accepted_orRaise] at accepted
  obtain ⟨loaded, foundLead, converted⟩ := accepted
  cases booking with
  | none => exact .quiet (convertFromLead_quiet converted)
  | some position =>
      simp only [accepted_bind, accepted_orRaise] at converted
      obtain ⟨object, foundObject, converted⟩ := converted
      exact convertBooking_leaves foundLead foundObject converted

theorem saveSlot_leaves (position : Nat) :
    Leaves settings state (.saveSlot position) (System.step settings state (.saveSlot position)).db := by
  cases validated : state.validatedSlots[position]? with
  | none =>
      simp only [System.step, validated]
      exact .unchanged ..
  | some edit =>
      simp only [System.step, validated]
      refine write_leaves fun slot accepted => ?_
      have isEffect : (Op.saveSlot position).effect settings state = some (.slotSave edit.1 slot) := by
        simp only [Op.effect, validated, accepted]
        rfl
      exact .effective _ isEffect (.slotSaved rfl rfl rfl) rfl rfl rfl (.refl _)

theorem loads_leaves {op : Op} (loads : op.onlyLoads = true) :
    Leaves settings state op (System.step settings state op).db := by
  rw [step_onlyLoads settings state loads]
  exact .unchanged ..

theorem leads_leaves {op : Op} (writes : op.writesLeads = true) :
    Leaves settings state op (System.step settings state op).db := by
  obtain ⟨leads, written⟩ := step_writesLeads settings state writes
  rw [written]
  exact .leads leads

theorem step_leaves (settings : Settings) (state : System) (op : Op) :
    Leaves settings state op (System.step settings state op).db := by
  cases op with
  | createBooking now customer request =>
      refine commit_leaves fun bookingId next accepted => ?_
      obtain ⟨booking, slot, fresh, found, dated, _, bookings, noted, payments, staff⟩ := createBooking_quiet accepted
      exact .quiet (.single (.created booking slot fresh found dated bookings noted payments staff))
  | checkout now customer requests =>
      exact commit_leaves fun _ _ accepted => .quiet (createBookings_quiet accepted)
  | rescheduleBooking now bookingId slotId changedBy notes =>
      exact commit_leaves fun _ _ accepted => rescheduleBooking_leaves accepted
  | cancelBooking now bookingId changedBy notes actor =>
      exact commit_leaves fun _ _ accepted => cancelBooking_leaves accepted
  | startBooking bookingId changedBy notes =>
      exact commit_leaves fun _ _ accepted => startBooking_leaves accepted
  | markTechnicianEnRoute bookingId changedBy notes =>
      exact commit_leaves fun _ _ accepted => markTechnicianEnRoute_leaves accepted
  | completeBooking now bookingId changedBy notes =>
      exact commit_leaves fun _ _ accepted => completeBooking_leaves accepted
  | closeBooking bookingId changedBy notes =>
      exact commit_leaves fun _ _ accepted => closeBooking_leaves accepted
  | recordBalanceCollection now bookingId amount method changedBy notes =>
      exact commit_leaves fun _ _ accepted => recordBalanceCollection_leaves accepted
  | assignTechnician now bookingId technicianId assignedBy notes reason =>
      exact commit_leaves fun _ _ accepted => assignTechnician_leaves accepted
  | removeTechnicianAssignment now bookingId changedBy notes =>
      exact commit_leaves fun _ _ accepted => removeTechnicianAssignment_leaves accepted
  | createAdvancePaymentOrder bookingId user key providerOrder =>
      exact commit_leaves fun _ _ accepted => createAdvancePaymentOrder_leaves accepted
  | verifyRazorpayPayment now orderId paymentId signature user => exact verifyRazorpayPayment_leaves rfl
  | dispatchWebhook now eventName payload => exact dispatchWebhook_leaves
  | createRefund now sourceId amount key providerRefund =>
      exact commit_leaves fun _ _ accepted => createRefund_leaves accepted
  | reconcileRefund now refundId providerStatus =>
      exact commit_leaves fun _ _ accepted => reconcileRefund_leaves accepted
  | convertLeadToWorkOrder now lead performedBy booking notes => exact convert_leaves now lead performedBy booking notes
  | recordManualLeadPayment now lead amount method reference note =>
      refine commit_leaves fun paymentId next accepted => ?_
      simp only [accepted_bind, accepted_orRaise] at accepted
      obtain ⟨loaded, foundLead, paid⟩ := accepted
      exact recordManualLeadPayment_leaves foundLead paid
  | recordLeadContact | upsertLead | addLead | editLead => exact leads_leaves rfl
  | ensureDailySlots now area date =>
      refine write_leaves fun slots accepted => ?_
      obtain ⟨added, rfl⟩ := ensureDailySlots_appends accepted
      exact .auxiliary state.db.leads added
  | createSlot fields =>
      refine write_leaves fun created accepted => ?_
      simp only [createSlot, accepted_bind, accepted_require, accepted_pure] at accepted
      obtain ⟨slot, _, _, _, rfl⟩ := accepted
      exact .auxiliary state.db.leads [slot]
  | loadLead | loadBooking | loadSlot | validateSlotEdit => exact loads_leaves rfl
  | saveSlot position => exact saveSlot_leaves position
  | editDirectory directory => exact .directory directory rfl rfl

end

/-- The rule for invariants of guarded runs, by what the steps leave. -/
theorem leaves_invariant {settings : Settings} {guard : System → Op → Prop} (invariant : Db → Prop)
    (kept : ∀ state op next, invariant state.db → guard state op → Leaves settings state op next → invariant next)
    {start : System} {ops : List Op} (guarded : Guarded (System.step settings) guard start ops)
    (initial : invariant start.db) : invariant (runAll (System.step settings) start ops).db :=
  guarded.invariant (fun state op holds meets => kept state op _ holds meets (step_leaves settings state op)) initial

/-! The bookings. -/

theorem JobStep.assignedTechnician {before after : Booking} (step : JobStep before after) :
    after.assignedTechnician = before.assignedTechnician := by
  cases step <;> rfl

theorem JobStep.place {before after : Booking} (step : JobStep before after) :
    after.timeSlot = before.timeSlot ∧ after.serviceDate = before.serviceDate := by
  cases step <;> exact ⟨rfl, rfl⟩

theorem JobStep.isBusy_cases {before after : Booking} (step : JobStep before after) :
    after.isBusy = before.isBusy ∨ after.isBusy = false := by
  cases step with
  | start from_ staffed =>
      have busy : before.isBusy = true := by
        revert from_
        unfold Booking.isBusy
        cases before.bookingStatus <;> decide
      exact .inl (by rw [busy]; rfl)
  | enRoute from_ =>
      have busy : before.isBusy = true := by
        rw [Booking.isBusy, from_]
        rfl
      exact .inl (by rw [busy]; rfl)
  | complete now from_ staffed => exact .inr rfl
  | close from_ => exact .inr rfl
  | cancel now actor from_ => exact .inr rfl

section

variable {effect : Effect} {bookingId : BookingId} {before after : Booking}

theorem Effect.Rewrites.place (rewrites : effect.Rewrites bookingId before after) :
    after.timeSlot = before.timeSlot ∧ after.serviceDate = before.serviceDate ∧
      after.assignedTechnician = before.assignedTechnician := by
  cases rewrites with
  | failure locked payments =>
      unfold Booking.markedFailed
      split <;> exact ⟨rfl, rfl, rfl⟩
  | refund settlement =>
      unfold Booking.afterRefund
      split
      · exact ⟨rfl, rfl, rfl⟩
      · split
        · exact ⟨rfl, rfl, rfl⟩
        · split <;> exact ⟨rfl, rfl, rfl⟩
  | _ => exact ⟨rfl, rfl, rfl⟩

theorem Effect.Rewrites.isBusy_cases (rewrites : effect.Rewrites bookingId before after) :
    after.isBusy = before.isBusy ∨ after.isBusy = false := by
  cases rewrites with
  | confirmation now changedBy locked payments => exact .inr rfl
  | failure locked payments =>
      unfold Booking.markedFailed
      split
      · exact .inr rfl
      · exact .inl rfl
  | refund settlement =>
      unfold Booking.afterRefund
      split
      · exact .inr rfl
      · split
        · exact .inr rfl
        · split
          · refine .inr ?_
            cases settlement.booking.cancelledAt <;> rfl
          · exact .inl rfl
  | workOrder => exact .inr rfl
  | manualPayment amount entry => exact .inl rfl
  | balance _ _ amount payments => exact .inl rfl

end

section

variable {settings : Settings} {state : System} {op : Op} {db next : Db}

theorem Quiet.bookings_append (quiet : Quiet db next) : ∃ added, next.bookings = db.bookings ++ added := by
  cases quiet with
  | auxiliary same added slots => exact ⟨[], by rw [same.bookings, List.append_nil]⟩
  | created booking slot fresh foundSlot dated bookings noted payments staff => exact ⟨[booking], bookings⟩
  | workOrderCreated middle booking slot lead service fresh foundSlot dated bookings created noted payments staff =>
      exact ⟨_, bookings⟩

theorem Quiet.payments (quiet : Quiet db next) : next.payments = db.payments := by
  cases quiet with
  | auxiliary same added slots => exact same.payments
  | created booking slot fresh foundSlot dated bookings noted payments staff => exact payments
  | workOrderCreated middle booking slot lead service fresh foundSlot dated bookings created noted payments staff =>
      exact payments

theorem quiet_appends (chain : ReflTransGen Quiet db next) :
    (∃ added, next.bookings = db.bookings ++ added) ∧ next.payments = db.payments := by
  induction chain with
  | refl => exact ⟨⟨[], by rw [List.append_nil]⟩, rfl⟩
  | tail _ quiet ih =>
      obtain ⟨⟨earlier, appended⟩, payments⟩ := ih
      obtain ⟨added, bookings⟩ := quiet.bookings_append
      exact ⟨⟨earlier ++ added, by rw [bookings, appended, List.append_assoc]⟩, quiet.payments.trans payments⟩

theorem Quiet.directory (quiet : Quiet db next) : db.directory.Extended next.directory := by
  cases quiet with
  | auxiliary same added slots => exact same.directory
  | created booking slot fresh foundSlot dated bookings noted payments staff => exact staff.directory
  | workOrderCreated middle booking slot lead service fresh foundSlot dated bookings created noted payments staff =>
      exact staff.directory

theorem Leaves.directory_cases (leaves : Leaves settings state op next) :
    state.db.directory.Extended next.directory ∨
      ∃ directory, op = .editDirectory directory ∧ next.directory = directory := by
  cases leaves with
  | quiet chain =>
      refine .inl ?_
      induction chain with
      | refl => exact .refl _
      | tail _ quiet ih => exact ih.trans quiet.directory
  | directory directory isOp written => exact .inr ⟨directory, isOp, by rw [written]⟩
  | ordered bookingId booking user key orderId isOp planned bookings statusHistory payments staff =>
      exact .inl staff.directory
  | jobStep bookingId before after step found bookings noted payments staff => exact .inl staff.directory
  | moved now bookingId slotId changedBy notes booking slot isOp found from_ foundSlot bookings noted payments staff =>
      exact .inl staff.directory
  | assigned now bookingId technicianId assignedBy notes reason assignmentId booking technician slot found from_
      foundTechnician foundSlot free reassigned bookings noted payments slots directory => exact .inl directory
  | removed now bookingId changedBy notes booking assignmentId assignment isOp found active assignments bookings noted
      payments slots directory => exact .inl directory
  | effective effect isEffect effective notes assignments slots directory => exact .inl directory

theorem Leaves.payments_cases (leaves : Leaves settings state op next) :
    next.payments = state.db.payments ∨
      (∃ bookingId booking user key orderId, op = .createAdvancePaymentOrder bookingId user key (.ok orderId) ∧
        advanceOrderPlan bookingId user key state.db = .ok (booking, .request) ∧
        next.payments.rows = state.db.payments.rows ++ [newAdvancePayment bookingId booking orderId key]) ∨
      ∃ effect, op.effect settings state = some effect ∧ Effective effect state.db next := by
  cases leaves with
  | quiet chain => exact .inl (quiet_appends chain).2
  | directory directory isOp written => exact .inl (by rw [written])
  | ordered bookingId booking user key orderId isOp planned bookings statusHistory payments staff =>
      exact .inr (.inl ⟨bookingId, booking, user, key, orderId, isOp, planned, payments⟩)
  | jobStep bookingId before after step found bookings noted payments staff => exact .inl payments
  | moved now bookingId slotId changedBy notes booking slot isOp found from_ foundSlot bookings noted payments staff =>
      exact .inl payments
  | assigned now bookingId technicianId assignedBy notes reason assignmentId booking technician slot found from_
      foundTechnician foundSlot free reassigned bookings noted payments slots directory => exact .inl payments
  | removed now bookingId changedBy notes booking assignmentId assignment isOp found active assignments bookings noted
      payments slots directory => exact .inl payments
  | effective effect isEffect effective notes assignments slots directory =>
      exact .inr (.inr ⟨effect, isEffect, effective⟩)

theorem Leaves.bookings_cases (leaves : Leaves settings state op next) :
    ReflTransGen Quiet state.db next ∨ next.bookings = state.db.bookings ∨
      ∃ bookingId before after, BookingWritten settings state op bookingId before after ∧
        state.db.bookings[bookingId]? = some before ∧ next.bookings = state.db.bookings.set bookingId after := by
  cases leaves with
  | quiet chain => exact .inl chain
  | directory directory isOp written => exact .inr (.inl (by rw [written]))
  | ordered bookingId booking user key orderId isOp planned bookings statusHistory payments staff =>
      exact .inr (.inl bookings)
  | jobStep bookingId before after step found bookings noted payments staff =>
      exact .inr (.inr ⟨bookingId, before, after, .jobStep step, found, bookings⟩)
  | moved now bookingId slotId changedBy notes booking slot isOp found from_ foundSlot bookings noted payments staff =>
      exact .inr (.inr ⟨bookingId, booking, _, .moved now slotId changedBy notes slot isOp from_ foundSlot, found,
        bookings⟩)
  | assigned now bookingId technicianId assignedBy notes reason assignmentId booking technician slot found from_
      foundTechnician foundSlot free reassigned bookings noted payments slots directory =>
      exact .inr (.inr ⟨bookingId, booking, _, .assigned technician slot from_ foundSlot free, found, bookings⟩)
  | removed now bookingId changedBy notes booking assignmentId assignment isOp found active assignments bookings noted
      payments slots directory =>
      exact .inr (.inr ⟨bookingId, booking, _, .removed now changedBy notes isOp, found, bookings⟩)
  | effective effect isEffect effective notes assignments slots directory =>
      rcases effective.rewrites with same | ⟨bookingId, before, after, rewrites, found, bookings⟩
      · exact .inr (.inl same)
      · exact .inr (.inr ⟨bookingId, before, after, .effective effect isEffect rewrites, found, bookings⟩)

theorem Leaves.bookings_kept {related : Booking → Booking → Prop} (reflexive : ∀ booking, related booking booking)
    (written : ∀ bookingId before after, BookingWritten settings state op bookingId before after →
      related before after) (leaves : Leaves settings state op next) :
    KeptBy related state.db.bookings next.bookings := by
  rcases leaves.bookings_cases with chain | same | ⟨bookingId, before, after, change, found, bookings⟩
  · obtain ⟨added, bookings⟩ := (quiet_appends chain).1
    rw [bookings]
    exact .append reflexive _ _
  · rw [same]
    exact .refl reflexive _
  · rw [bookings]
    exact .set reflexive found (written bookingId before after change)

theorem EveryBooking.quiet {property : Booking → Prop} (made : RoutinelyMade property)
    (holds : EveryBooking property db) (quiet : Quiet db next) : EveryBooking property next := by
  cases quiet with
  | auxiliary same added slots =>
      unfold EveryBooking
      rw [same.bookings]
      exact holds
  | created booking slot fresh foundSlot dated bookings noted payments staff =>
      exact holds.append bookings (made.fresh booking fresh)
  | workOrderCreated middle booking slot lead service fresh foundSlot dated bookings created noted payments staff =>
      exact holds.append bookings (made.workOrder booking lead service fresh)

/-- The rule for what holds of every booking by itself. -/
theorem Leaves.everyBooking {property : Booking → Prop} (made : RoutinelyMade property)
    (written : ∀ bookingId before after, BookingWritten settings state op bookingId before after →
      state.db.bookings[bookingId]? = some before → property before → property after)
    (leaves : Leaves settings state op next) (holds : EveryBooking property state.db) : EveryBooking property next := by
  rcases leaves.bookings_cases with chain | same | ⟨bookingId, before, after, change, found, bookings⟩
  · clear leaves
    induction chain with
    | refl => exact holds
    | tail _ quiet ih => exact ih.quiet made quiet
  · unfold EveryBooking
    rw [same]
    exact holds
  · exact holds.rewrite found bookings (written bookingId before after change found)

end

end PsCore
