import PsCore.Bookings
import PsCore.Payments
import PsCore.Steps
import PsCore.Library.TransitionRun

/-!
Every step of the machine is either its operation's effect or a chain of routine changes,
so an invariant of whole runs needs one case per kind of change and none per operation.
-/

namespace PsCore

open Fallible RowTable Relation

theorem createBookingFromLead_accepted {now : Instant} {lead : Lead} {db next : Db} {bookingId : BookingId}
    (accepted : createBookingFromLead now lead db = .ok (bookingId, next)) :
    ∃ middle booking slot, ReflTransGen Routine db middle ∧ middle.bookings = db.bookings ∧
      FreshBooking booking ∧ middle.slots[booking.timeSlot]? = some slot ∧
      0 < getAvailableCapacity middle.bookings booking.timeSlot slot ∧ bookingId = middle.bookings.length ∧
      next.bookings = middle.bookings ++ [booking] ∧ next.payments = middle.payments ∧
      next.slots = middle.slots := by
  obtain ⟨preparation, sound, created⟩ := createBookingFromLead_prepares accepted
  obtain ⟨booking, slot, fresh, found, free, idEq, bookings, payments, slotsEq⟩ :=
    createBooking_accepted created
  refine ⟨_, booking, slot, ?path, ?same, fresh, found, free, idEq, bookings, payments, slotsEq⟩
  case same => rfl
  case path =>
    rcases getOrCreateSlot_accepted sound.slot with same | ⟨slot, added⟩
    · exact .single (.auxiliary rfl rfl same)
    · exact .single (.slotAdded slot rfl rfl added)

theorem convertFromLead_routine {now : Instant} {loaded : LoadedLead} {performedBy : Option UserId}
    {notes : String} {db next : Db} {lead : Lead}
    (accepted : convertLeadToWorkOrder now loaded performedBy none notes db = .ok (lead, next)) :
    ReflTransGen Routine db next ∧ ∃ added, next.bookings = db.bookings ++ added := by
  rcases convertLeadToWorkOrder_cases accepted with ⟨_, _, rfl⟩ |
    ⟨⟨bookingId, row⟩, booked, leads, _, ordered, _, rfl⟩
  · exact ⟨.refl, [], by simp⟩
  · obtain ⟨made, service, created, foundRow, _, rfl⟩ := workOrderBooking_new ordered
    obtain ⟨middle, booking, slot, path, untouched, fresh, found, free, idEq, bookings, payments, slots⟩ :=
      createBookingFromLead_accepted created
    subst idEq
    have isRow : booking = row := by
      simpa [bookings] using foundRow
    subst isRow
    have written : made.bookings.set middle.bookings.length
        (booking.repriced loaded.lead service.toServiceFields).asWorkOrder =
        middle.bookings ++ [(booking.repriced loaded.lead service.toServiceFields).asWorkOrder] := by
      simp [bookings, List.set_append_right]
    refine ⟨.tail path (.workOrderCreated booking slot loaded.lead service.toServiceFields fresh found free
      written payments slots), [(booking.repriced loaded.lead service.toServiceFields).asWorkOrder], ?_⟩
    rw [← untouched]
    exact written

theorem convertBooking_effect {now : Instant} {loaded : LoadedLead} {performedBy : Option UserId}
    {object : LoadedBooking} {notes : String} {db next : Db} {lead : Lead}
    (accepted : convertLeadToWorkOrder now loaded performedBy (some object) notes db = .ok (lead, next)) :
    next = db ∨ ∃ effect, workOrderEffect now loaded object notes db = some effect ∧ Effective effect db next := by
  rcases convertLeadToWorkOrder_cases accepted with ⟨_, _, isNext⟩ | ⟨_, _, leads, unconverted, ordered, stored, rfl⟩
  · exact .inl isNext
  · obtain ⟨rfl, row, found, rfl⟩ := workOrderBooking_given ordered
    refine .inr ⟨_, ?_, .workOrder found rfl rfl rfl⟩
    simp only [workOrderEffect, unconverted, Bool.false_eq_true, if_false, found, stored]

theorem recordManualLeadPayment_effect {now : Instant} {loaded : LoadedLead} {amount : Money}
    {method reference note : String} {db next : Db} {paymentId : PaymentId}
    (accepted : recordManualLeadPayment now loaded amount method reference note db = .ok (paymentId, next)) :
    ∃ entry, manualPaymentEntry now loaded amount method reference note db = .ok entry ∧
      Effective (.manualPayment amount entry) db next := by
  obtain ⟨entry, _, entered, positive, _, found, inserted, _, _, _, rfl⟩ := recordManualLeadPayment_cases accepted
  exact ⟨entry, entered, .manuallyPaid now loaded.leadId reference positive found
    (UniqueTable.insert?_some inserted).1 rfl rfl rfl⟩

theorem recordBalanceCollection_effect {now : Instant} {bookingId : BookingId} {amount : Money}
    {method notes : String} {changedBy : Option UserId} {db next : Db} {paymentId : PaymentId}
    (accepted : recordBalanceCollection now bookingId amount method changedBy notes db = .ok (paymentId, next)) :
    ∃ booking payments, balanceEntry now bookingId amount db = .ok (booking, payments) ∧
      Effective (.balance bookingId booking amount payments) db next := by
  simp only [recordBalanceCollection, accepted_bind, accepted_pure, Prod.mk.injEq] at accepted
  obtain ⟨⟨booking, payments⟩, entered, _, rfl⟩ := accepted
  obtain ⟨found, from_, positive, remaining, inserted⟩ := balanceEntry_accepted entered
  exact ⟨booking, payments, entered,
    .balanceCollected now found from_ positive remaining inserted rfl rfl rfl⟩

theorem createRefund_effect {now : Instant} {sourceId : PaymentId} {amount : Money} {key : String}
    {providerRefund : Except ServiceError ProviderRefund} {db next : Db} {refundId : PaymentId}
    (accepted : createRefund now sourceId amount key providerRefund db = .ok (refundId, next)) :
    next = db ∨ ∃ settlement, requestedRefund now sourceId amount key providerRefund db = some settlement ∧
      Effective (.refund settlement) db next := by
  rcases createRefund_cases accepted with isNext | ⟨settlement, completed, requested, settled⟩
  · exact .inl isNext
  · exact .inr ⟨settlement, requested, settleRefund_effective (requestedRefund_grounded requested) settled⟩

theorem reconcileRefund_effect {now : Instant} {refundId answerId : PaymentId}
    {providerStatus : Except ServiceError Json} {db next : Db}
    (accepted : reconcileRefund now refundId providerStatus db = .ok (answerId, next)) :
    ∃ reconciled, reconciledRefund now refundId providerStatus db = .ok reconciled ∧
      Effective (.refund reconciled.2) db next := by
  simp only [reconcileRefund, accepted_bind, accepted_pure, Prod.mk.injEq] at accepted
  obtain ⟨⟨previous, settlement⟩, reconciled, _, settled, _, rfl⟩ := accepted
  exact ⟨_, reconciled, settleRefund_effective (reconciledRefund_grounded reconciled) settled⟩

theorem processRefundWebhook_effect {now : Instant} {payload : Json} {db next : Db}
    (accepted : processRefundWebhook now payload db = .ok ((), next)) :
    ∃ delivered, deliveredRefund now payload db = .ok delivered ∧
      Effective (.refund delivered.2) db next := by
  simp only [processRefundWebhook, accepted_bind, accepted_pure, Prod.mk.injEq] at accepted
  obtain ⟨⟨previous, settlement⟩, delivered, _, settled, _, rfl⟩ := accepted
  exact ⟨_, delivered, settleRefund_effective (deliveredRefund_grounded delivered) settled⟩

/-- The operation had its effect, or did nothing. -/
def Answered (effect : Option Effect) (db next : Db) : Prop :=
  (∃ present, effect = some present ∧ Effective present db next) ∨ next = db

def Explained (effect : Option Effect) (db next : Db) : Prop :=
  (∃ present, effect = some present ∧ Effective present db next) ∨ ReflTransGen Routine db next

theorem Explained.refl (effect : Option Effect) (db : Db) : Explained effect db db :=
  .inr .refl

theorem Explained.routine {effect : Option Effect} {db next : Db} (change : Routine db next) :
    Explained effect db next :=
  .inr (.single change)

theorem Answered.explained {effect : Option Effect} {db next : Db} (answered : Answered effect db next) :
    Explained effect db next := by
  rcases answered with effective | unchanged
  · exact .inl effective
  · rw [unchanged]
    exact .refl _ db

theorem PaymentChange.Sound.answered {now : Instant} {changedBy : Option UserId} {db : Db}
    {change : PaymentChange} (sound : change.Sound now changedBy db) :
    Answered (change.effect now changedBy) db (change.apply now changedBy db) := by
  rcases sound with unchanged | effective
  · exact .inr unchanged
  · exact .inl effective

theorem verifyRazorpayPayment_cases (settings : Settings) (now : Instant)
    (orderId paymentId signature : String) (user : Option UserId) (db : Db) :
    (verificationEffect settings now orderId paymentId signature user db = none ∧
        (verifyRazorpayPayment settings now orderId paymentId signature user db).2 = db) ∨
      ∃ effect, verificationEffect settings now orderId paymentId signature user db = some effect ∧
        Effective effect db (verifyRazorpayPayment settings now orderId paymentId signature user db).2 := by
  unfold verificationEffect verifyRazorpayPayment
  cases decided : verificationChange settings now orderId paymentId signature user db with
  | error error => exact .inl ⟨rfl, rfl⟩
  | ok change =>
      rcases verificationChange_decided decided with ⟨_, rfl⟩ | effective
      · exact .inl ⟨rfl, rfl⟩
      · exact .inr effective

theorem verifyRazorpayPayment_answered (settings : Settings) (now : Instant)
    (orderId paymentId signature : String) (user : Option UserId) (db : Db) :
    Answered (verificationEffect settings now orderId paymentId signature user db) db
      (verifyRazorpayPayment settings now orderId paymentId signature user db).2 := by
  rcases verifyRazorpayPayment_cases settings now orderId paymentId signature user db with ⟨_, unchanged⟩ | effective
  · exact .inr unchanged
  · exact .inl effective

theorem dispatchWebhook_answered (settings : Settings) (now : Instant) (eventName : String) (payload : Json)
    (db : Db) :
    Answered (webhookEffect settings now eventName payload db) db
      (dispatchWebhook settings now eventName payload db).2 := by
  unfold webhookEffect dispatchWebhook
  split
  · cases captured : capturedPayment payload db with
    | error error => exact .inr rfl
    | ok ids => exact verifyRazorpayPayment_answered settings now ids.1 ids.2 _ none db
  · split
    · cases decided : failedPaymentChange payload db with
      | error error => exact .inr rfl
      | ok change => exact (failedPaymentChange_accepted decided).answered
    · split
      · cases processed : processRefundWebhook now payload db with
        | error error => exact .inr rfl
        | ok result =>
            obtain ⟨delivered, deliveredEq, effective⟩ := processRefundWebhook_effect processed
            exact .inl ⟨_, by rw [deliveredEq]; rfl, effective⟩
      · exact .inr rfl

/-! The machine. -/

theorem commit_explained {α : Type} {effect : Option Effect} {db : Db}
    {transaction : Except ServiceError (α × Db)}
    (explained : ∀ result next, transaction = .ok (result, next) → Explained effect db next) :
    Explained effect db (commit db transaction).2 := by
  cases transaction with
  | error error => exact .refl _ db
  | ok committed => exact explained committed.1 committed.2 rfl

theorem write_explained {α : Type} {effect : Option Effect} {state : System}
    {program : Except ServiceError α} {store : α → Db}
    (explained : ∀ result, program = .ok result → Explained effect state.db (store result)) :
    Explained effect state.db (state.write program store).db := by
  cases program with
  | error error => exact .refl _ state.db
  | ok result => exact explained result rfl

theorem convert_explained (settings : Settings) (state : System) (now : Instant) (lead : Nat)
    (performedBy : Option UserId) (booking : Option Nat) (notes : String) :
    Explained (Op.effect settings state (.convertLeadToWorkOrder now lead performedBy booking notes)) state.db
      (commit state.db (state.convert now lead performedBy booking notes)).2 := by
  refine commit_explained fun result next accepted => ?_
  simp only [System.convert, accepted_bind, accepted_orRaise] at accepted
  obtain ⟨loaded, foundLead, converted⟩ := accepted
  cases booking with
  | none => exact .inr (convertFromLead_routine converted).1
  | some position =>
      simp only [accepted_bind, accepted_orRaise] at converted
      obtain ⟨object, foundBooking, converted⟩ := converted
      simp only [Op.effect, foundLead, foundBooking]
      rcases convertBooking_effect converted with rfl | effective
      · exact .refl _ _
      · exact .inl effective

section

variable {settings : Settings} {state : System} {op : Op}

theorem loads_explained (loads : op.onlyLoads = true) :
    Explained (op.effect settings state) state.db (System.step settings state op).db := by
  rw [step_onlyLoads settings state loads]
  exact .refl _ _

theorem leads_explained (writes : op.writesLeads = true) :
    Explained (op.effect settings state) state.db (System.step settings state op).db := by
  obtain ⟨leads, written⟩ := step_writesLeads settings state writes
  rw [written]
  exact .routine (.auxiliary rfl rfl rfl)

theorem createBooking_explained {now : Instant} {customer : UserId} {request : BookingRequest} {db next : Db}
    {bookingId : BookingId} {effect : Option Effect}
    (accepted : createBooking now customer request db = .ok (bookingId, next)) : Explained effect db next := by
  obtain ⟨booking, slot, fresh, found, free, _, bookings, payments, slots⟩ := createBooking_accepted accepted
  exact .routine (.bookingCreated booking slot fresh found free bookings payments slots)

theorem recordBalanceCollection_explained {now : Instant} {bookingId : BookingId} {amount : Money} {method : String}
    {changedBy : Option UserId} {notes : String} {paymentId : PaymentId} {next : Db}
    (accepted : recordBalanceCollection now bookingId amount method changedBy notes state.db = .ok (paymentId, next)) :
    Explained (Op.effect settings state (.recordBalanceCollection now bookingId amount method changedBy notes)) state.db
      next := by
  obtain ⟨booking, payments, entered, effective⟩ := recordBalanceCollection_effect accepted
  exact .inl ⟨_, by rw [Op.effect, entered]; rfl, effective⟩

theorem createAdvancePaymentOrder_explained {bookingId : BookingId} {user : UserId} {key : String}
    {providerOrder : Except ServiceError String} {answer : PaymentId × OrderResponse} {db next : Db} {effect : Option Effect}
    (accepted : createAdvancePaymentOrder settings bookingId user key providerOrder db = .ok (answer, next)) :
    Explained effect db next := by
  rcases createAdvancePaymentOrder_accepted accepted with rfl | change
  · exact .refl _ _
  · exact .routine change

theorem createRefund_explained {now : Instant} {sourceId : PaymentId} {amount : Money} {key : String}
    {providerRefund : Except ServiceError ProviderRefund} {refundId : PaymentId} {next : Db}
    (accepted : createRefund now sourceId amount key providerRefund state.db = .ok (refundId, next)) :
    Explained (Op.effect settings state (.createRefund now sourceId amount key providerRefund)) state.db next := by
  rcases createRefund_effect accepted with rfl | ⟨settlement, requested, effective⟩
  · exact .refl _ _
  · exact .inl ⟨_, by rw [Op.effect, requested]; rfl, effective⟩

theorem reconcileRefund_explained {now : Instant} {refundId answerId : PaymentId}
    {providerStatus : Except ServiceError Json} {next : Db}
    (accepted : reconcileRefund now refundId providerStatus state.db = .ok (answerId, next)) :
    Explained (Op.effect settings state (.reconcileRefund now refundId providerStatus)) state.db next := by
  obtain ⟨reconciled, reconciledEq, effective⟩ := reconcileRefund_effect accepted
  exact .inl ⟨_, by rw [Op.effect, reconciledEq]; rfl, effective⟩

theorem recordManualLeadPayment_explained (now : Instant) (lead : Nat) (amount : Money) (method reference note : String) :
    Explained (Op.effect settings state (.recordManualLeadPayment now lead amount method reference note)) state.db
      (System.step settings state (.recordManualLeadPayment now lead amount method reference note)).db := by
  refine commit_explained fun paymentId next accepted => ?_
  simp only [accepted_bind, accepted_orRaise] at accepted
  obtain ⟨loaded, foundLead, paid⟩ := accepted
  obtain ⟨entry, entered, effective⟩ := recordManualLeadPayment_effect paid
  exact .inl ⟨_, by simp only [Op.effect, foundLead, entered]; rfl, effective⟩

theorem createSlot_explained (fields : SlotFields) :
    Explained (Op.effect settings state (.createSlot fields)) state.db
      (System.step settings state (.createSlot fields)).db := by
  refine write_explained fun created accepted => ?_
  simp only [createSlot, accepted_bind, accepted_require, accepted_pure] at accepted
  obtain ⟨slot, _, _, _, rfl⟩ := accepted
  exact .routine (.slotAdded slot rfl rfl rfl)

theorem saveSlot_explained (position : Nat) :
    Explained (Op.effect settings state (.saveSlot position)) state.db
      (System.step settings state (.saveSlot position)).db := by
  cases validated : state.validatedSlots[position]? with
  | none =>
      simp only [System.step, validated]
      exact .refl _ _
  | some edit =>
      simp only [System.step, Op.effect, validated]
      refine write_explained fun slot accepted => ?_
      exact .inl ⟨.slotSave edit.1 slot, by rw [accepted]; rfl, .slotSaved rfl rfl rfl⟩

end

theorem step_explained (settings : Settings) (state : System) (op : Op) :
    Explained (op.effect settings state) state.db (System.step settings state op).db := by
  cases op with
  | createBooking now customer request => exact commit_explained fun _ _ accepted => createBooking_explained accepted
  | checkout now customer requests =>
      exact commit_explained fun _ _ accepted => .inr (createBookings_routine accepted)
  | rescheduleBooking now bookingId slotId changedBy notes =>
      exact commit_explained fun _ _ accepted => .routine (rescheduleBooking_accepted accepted)
  | cancelBooking now bookingId changedBy notes actor =>
      exact commit_explained fun _ _ accepted => .routine (cancelBooking_accepted accepted)
  | startBooking bookingId changedBy notes =>
      exact commit_explained fun _ _ accepted => .routine (startBooking_accepted accepted)
  | markTechnicianEnRoute bookingId changedBy notes =>
      exact commit_explained fun _ _ accepted => .routine (markTechnicianEnRoute_accepted accepted)
  | completeBooking now bookingId changedBy notes =>
      exact commit_explained fun _ _ accepted => .routine (completeBooking_accepted accepted)
  | closeBooking bookingId changedBy notes =>
      exact commit_explained fun _ _ accepted => .routine (closeBooking_accepted accepted)
  | recordBalanceCollection now bookingId amount method changedBy notes =>
      exact commit_explained fun _ _ accepted => recordBalanceCollection_explained accepted
  | assignTechnician now bookingId technicianId assignedBy notes reason =>
      exact commit_explained fun _ _ accepted => .routine (assignTechnician_accepted accepted)
  | removeTechnicianAssignment now bookingId changedBy notes =>
      exact commit_explained fun _ _ accepted => .routine (removeTechnicianAssignment_accepted accepted)
  | createAdvancePaymentOrder bookingId user key providerOrder =>
      exact commit_explained fun _ _ accepted => createAdvancePaymentOrder_explained accepted
  | verifyRazorpayPayment now orderId paymentId signature user =>
      exact (verifyRazorpayPayment_answered settings now orderId paymentId signature user state.db).explained
  | dispatchWebhook now eventName payload =>
      exact (dispatchWebhook_answered settings now eventName payload state.db).explained
  | createRefund now sourceId amount key providerRefund =>
      exact commit_explained fun _ _ accepted => createRefund_explained accepted
  | reconcileRefund now refundId providerStatus =>
      exact commit_explained fun _ _ accepted => reconcileRefund_explained accepted
  | convertLeadToWorkOrder now lead performedBy booking notes =>
      exact convert_explained settings state now lead performedBy booking notes
  | recordManualLeadPayment now lead amount method reference note =>
      exact recordManualLeadPayment_explained now lead amount method reference note
  | recordLeadContact | upsertLead | addLead | editLead => exact leads_explained rfl
  | ensureDailySlots now area date => exact write_explained fun _ accepted => .inr (ensureDailySlots_routine accepted)
  | createSlot fields => exact createSlot_explained fields
  | saveSlot position => exact saveSlot_explained position
  | loadLead | loadBooking | loadSlot | validateSlotEdit => exact loads_explained rfl
  | editDirectory directory => exact .routine (.auxiliary rfl rfl rfl)

/-- The rule for invariants of guarded runs: one goal for the routine changes, one for the effects. -/
theorem run_invariant {settings : Settings} {condition : Db → Effect → Bool} {invariant : Db → Prop}
    (routine : ∀ db next, invariant db → Routine db next → invariant next)
    (effective : ∀ db next effect, invariant db → condition db effect = true → Effective effect db next →
      invariant next)
    {start : System} {ops : List Op}
    (guarded : TransitionRun.Guarded (System.step settings) (Op.meets settings condition) start ops)
    (initial : invariant start.db) :
    invariant (TransitionRun.runAll (System.step settings) start ops).db := by
  have preserved : ∀ state op, invariant state.db → Op.meets settings condition state op →
      invariant (System.step settings state op).db := by
    intro state op holds meets
    have chain : ∀ next, ReflTransGen Routine state.db next → invariant next := by
      intro next path
      induction path with
      | refl => exact holds
      | tail _ change ih => exact routine _ _ ih change
    rcases step_explained settings state op with ⟨effect, present, written⟩ | path
    · refine effective _ _ effect holds ?_ written
      rw [Op.meets, present] at meets
      exact meets
    · exact chain _ path
  exact guarded.invariant preserved initial

theorem guarded_true (settings : Settings) (start : System) (ops : List Op) :
    TransitionRun.Guarded (System.step settings) (Op.meets settings fun _ _ => true) start ops := by
  refine .always (fun state op => ?_) start ops
  cases effect : op.effect settings state <;> simp [Op.meets, effect]

theorem Routine.payments_cases {db next : Db} (change : Routine db next) :
    next.payments = db.payments ∨ ∃ bookingId booking orderId key, db.bookings[bookingId]? = some booking ∧
      next.bookings = db.bookings ∧
      next.payments.rows = db.payments.rows ++ [newAdvancePayment bookingId booking orderId key] := by
  cases change with
  | orderCreated bookingId booking orderId key found awaiting bookings payments slots =>
      exact .inr ⟨bookingId, booking, orderId, key, found, bookings, payments⟩
  | auxiliary bookings payments slots => exact .inl payments
  | slotAdded slot bookings payments slots => exact .inl payments
  | bookingCreated booking slot fresh found free bookings payments slots => exact .inl payments
  | workOrderCreated booking slot lead service fresh found free bookings payments slots => exact .inl payments
  | bookingMoved bookingId booking slotId slot found from_ foundSlot free bookings payments slots =>
      exact .inl payments
  | transition bookingId booking changed found transition bookings payments slots => exact .inl payments

theorem Effective.rewrites {effect : Effect} {db next : Db} (written : Effective effect db next) :
    next.bookings = db.bookings ∨ ∃ bookingId before after, effect.Rewrites bookingId before after ∧
      db.bookings[bookingId]? = some before ∧ next.bookings = db.bookings.set bookingId after := by
  cases written with
  | confirmed orderId paymentId found foundBooking ordered amount open_ rows writtenEq =>
      subst writtenEq
      exact .inr ⟨_, _, _, .confirmation .., foundBooking, confirmBookingAfterPayment_bookings ..⟩
  | failed orderId paymentId found foundBooking ordered open_ rows writtenEq =>
      subst writtenEq
      exact .inr ⟨_, _, _, .failure .., foundBooking, markPaymentFailed_bookings ..⟩
  | refundSettled found foundBooking grounded bookings rows slots =>
      exact .inr ⟨_, _, _, .refund .., foundBooking, bookings⟩
  | refundLost => exact .inl rfl
  | workOrder found bookings payments slots => exact .inr ⟨_, _, _, .workOrder .., found, bookings⟩
  | manuallyPaid now leadId reference positive found inserted bookings payments slots =>
      exact .inr ⟨_, _, _, .manualPayment .., found, bookings⟩
  | balanceCollected now found from_ positive remaining inserted bookings payments slots =>
      exact .inr ⟨_, _, _, .balance .., found, bookings⟩
  | slotSaved bookings payments slots => exact .inl bookings

/-- What the routine changes have to preserve of a booking. -/
structure RoutinelyKept (property : Booking → Prop) : Prop where
  moved : ∀ booking slotId date, customerReschedulableStatuses.contains booking.bookingStatus = true →
    property booking → property { booking with timeSlot := slotId, serviceDate := date }
  transition : ∀ booking changed, Transition booking changed → property booking → property changed

structure RoutinelyMade (property : Booking → Prop) : Prop where
  fresh : ∀ booking, FreshBooking booking → property booking
  workOrder : ∀ booking lead service, FreshBooking booking →
    property ((booking.repriced lead service).asWorkOrder)

def EveryBooking (property : Booking → Prop) (db : Db) : Prop :=
  ∀ booking ∈ db.bookings, property booking

def BookingAt (bookingId : BookingId) (property : Booking → Prop) (db : Db) : Prop :=
  ∃ booking, db.bookings[bookingId]? = some booking ∧ property booking

theorem EveryBooking.rewrite {property : Booking → Prop} {db next : Db} (holds : EveryBooking property db)
    {bookingId : BookingId} {before after : Booking} (found : db.bookings[bookingId]? = some before)
    (bookings : next.bookings = db.bookings.set bookingId after) (kept : property before → property after) :
    EveryBooking property next := by
  intro booking member
  rw [bookings] at member
  rcases List.mem_or_eq_of_mem_set member with old | rfl
  · exact holds booking old
  · exact kept (holds before (List.mem_of_getElem? found))

theorem EveryBooking.append {property : Booking → Prop} {db next : Db} (holds : EveryBooking property db)
    {added : Booking} (bookings : next.bookings = db.bookings ++ [added]) (new : property added) :
    EveryBooking property next := by
  intro booking member
  rw [bookings, List.mem_append, List.mem_singleton] at member
  rcases member with old | rfl
  · exact holds booking old
  · exact new

theorem BookingAt.rewrite {property : Booking → Prop} {db next : Db} {target bookingId : BookingId}
    (holds : BookingAt target property db) {before after : Booking}
    (found : db.bookings[bookingId]? = some before)
    (bookings : next.bookings = db.bookings.set bookingId after) (kept : property before → property after) :
    BookingAt target property next := by
  obtain ⟨booking, present, has⟩ := holds
  by_cases same : bookingId = target
  · subst same
    rw [found] at present
    simp only [Option.some.injEq] at present
    subst present
    refine ⟨after, ?_, kept has⟩
    rw [bookings, List.getElem?_set_self (List.getElem?_eq_some_iff.mp found).1]
  · exact ⟨booking, by rw [bookings, List.getElem?_set_ne same, present], has⟩

theorem BookingAt.append {property : Booking → Prop} {db next : Db} {target : BookingId}
    (holds : BookingAt target property db) {added : Booking}
    (bookings : next.bookings = db.bookings ++ [added]) : BookingAt target property next := by
  obtain ⟨booking, present, has⟩ := holds
  refine ⟨booking, ?_, has⟩
  rw [bookings, List.getElem?_append_left (List.getElem?_eq_some_iff.mp present).1, present]

theorem EveryBooking.routine {property : Booking → Prop} (kept : RoutinelyKept property)
    (made : RoutinelyMade property) {db next : Db} (holds : EveryBooking property db)
    (change : Routine db next) : EveryBooking property next := by
  cases change with
  | auxiliary bookings payments slots => unfold EveryBooking; rw [bookings]; exact holds
  | slotAdded slot bookings payments slots => unfold EveryBooking; rw [bookings]; exact holds
  | bookingCreated booking slot fresh found free bookings payments slots =>
      exact holds.append bookings (made.fresh booking fresh)
  | workOrderCreated booking slot lead service fresh found free bookings payments slots =>
      exact holds.append bookings (made.workOrder booking lead service fresh)
  | bookingMoved bookingId booking slotId slot found from_ foundSlot free bookings payments slots =>
      exact holds.rewrite found bookings (kept.moved booking slotId slot.date from_)
  | transition bookingId booking changed found transition bookings payments slots =>
      exact holds.rewrite found bookings (kept.transition booking changed transition)
  | orderCreated bookingId booking orderId key found awaiting bookings payments slots =>
      unfold EveryBooking; rw [bookings]; exact holds

theorem BookingAt.routine {property : Booking → Prop} (kept : RoutinelyKept property) {target : BookingId}
    {db next : Db} (holds : BookingAt target property db) (change : Routine db next) :
    BookingAt target property next := by
  cases change with
  | auxiliary bookings payments slots => unfold BookingAt; rw [bookings]; exact holds
  | slotAdded slot bookings payments slots => unfold BookingAt; rw [bookings]; exact holds
  | bookingCreated booking slot fresh found free bookings payments slots => exact holds.append bookings
  | workOrderCreated booking slot lead service fresh found free bookings payments slots =>
      exact holds.append bookings
  | bookingMoved bookingId booking slotId slot found from_ foundSlot free bookings payments slots =>
      exact holds.rewrite found bookings (kept.moved booking slotId slot.date from_)
  | transition bookingId booking changed found transition bookings payments slots =>
      exact holds.rewrite found bookings (kept.transition booking changed transition)
  | orderCreated bookingId booking orderId key found awaiting bookings payments slots =>
      unfold BookingAt; rw [bookings]; exact holds

/-- What a guarded run keeps of every booking, by one goal for each way to rewrite it. -/
theorem bookings_invariant {settings : Settings} {condition : Db → Effect → Bool} {property : Booking → Prop}
    (kept : RoutinelyKept property) (made : RoutinelyMade property)
    (rewritten : ∀ db effect bookingId before after, condition db effect = true →
      effect.Rewrites bookingId before after → property before → property after)
    {start : System} {ops : List Op} (initial : start.Initial)
    (guarded : TransitionRun.Guarded (System.step settings) (Op.meets settings condition) start ops) :
    EveryBooking property (TransitionRun.runAll (System.step settings) start ops).db := by
  refine run_invariant (fun db next holds change => holds.routine kept made change) ?_ guarded ?_
  · intro db next effect holds meets written
    rcases written.rewrites with same | ⟨bookingId, before, after, rewrites, found, bookings⟩
    · unfold EveryBooking
      rw [same]
      exact holds
    · exact holds.rewrite found bookings (rewritten db effect bookingId before after meets rewrites)
  · intro booking member
    rw [initial.bookings] at member
    cases member

theorem booking_invariant {settings : Settings} {condition : Db → Effect → Bool} {property : Booking → Prop}
    (kept : RoutinelyKept property)
    (rewritten : ∀ db effect bookingId before after, condition db effect = true →
      effect.Rewrites bookingId before after → property before → property after)
    {target : BookingId} {start : System} {ops : List Op}
    (guarded : TransitionRun.Guarded (System.step settings) (Op.meets settings condition) start ops)
    (holds : BookingAt target property start.db) :
    BookingAt target property (TransitionRun.runAll (System.step settings) start ops).db := by
  refine run_invariant (fun db next holds change => holds.routine kept change) ?_ guarded holds
  intro db next effect holds meets written
  rcases written.rewrites with same | ⟨bookingId, before, after, rewrites, found, bookings⟩
  · unfold BookingAt
    rw [same]
    exact holds
  · exact holds.rewrite found bookings (rewritten db effect bookingId before after meets rewrites)

end PsCore
