import PsCore.Library.Journal
import PsCore.Records

/-!
The status history as an audit trail. Fifteen places write the status of a booking, most of
them with a row of the history; a failed payment and a refund write the status alone, and a
work order writes the row from the booking that it has loaded.
-/

namespace PsCore

open RowTable Relation TransitionRun

def statusJournal : Journal Booking BookingStatusHistory BookingStatus where
  subject := BookingStatusHistory.booking
  origin := BookingStatusHistory.fromStatus
  target := BookingStatusHistory.toStatus
  current := Booking.bookingStatus
  start := .pendingPayment

/-- The history of every booking starts from nothing with PENDING_PAYMENT and goes on without a gap
to the status that the booking has. -/
def HistoryComplete (db : Db) : Prop :=
  ∀ (bookingId : BookingId) (booking : Booking), db.bookings[bookingId]? = some booking →
    statusJournal.Complete (statusJournal.entriesOf db.statusHistory bookingId) booking.bookingStatus

def RefundSettlement.leavesStatus (settlement : RefundSettlement) : Bool :=
  if settlement.source.amount ≤ successfulRefunds settlement.payments.rows settlement.sourceId then
    settlement.booking.bookingStatus == .refunded
  else if hasPendingRefund settlement.payments.rows settlement.sourceId then
    settlement.booking.bookingStatus == .refundPending
  else settlement.booking.bookingStatus != .refundPending

/-- The status in which a work order finds the booking that it has loaded. -/
def Op.loadedStatus (state : System) : Op → Option BookingStatus
  | .convertLeadToWorkOrder _ _ _ (some position) _ =>
      (state.loadedBookings[position]?).map fun object => object.booking.bookingStatus
  | _ => none

/-- No failed payment finds its booking in PENDING_PAYMENT, no refund moves a status, and a work order
is made from a booking loaded in the status that it still has. -/
def Op.keepsHistory (settings : Settings) (state : System) (op : Op) : Prop :=
  match op.effect settings state with
  | some (.failure locked _) => locked.booking.bookingStatus ≠ .pendingPayment
  | some (.refund settlement) => settlement.leavesStatus = true
  | some (.workOrder _ row) => op.loadedStatus state = some row.bookingStatus
  | _ => True

instance (settings : Settings) (state : System) (op : Op) : Decidable (op.keepsHistory settings state) := by
  unfold Op.keepsHistory
  split <;> infer_instance

theorem RefundSettlement.leavesStatus_after {settlement : RefundSettlement} (leaves : settlement.leavesStatus = true) :
    (settlement.booking.afterRefund settlement.payments.rows settlement.sourceId settlement.source).bookingStatus =
      settlement.booking.bookingStatus := by
  unfold RefundSettlement.leavesStatus at leaves
  unfold Booking.afterRefund
  by_cases whole : settlement.source.amount ≤ successfulRefunds settlement.payments.rows settlement.sourceId
  · rw [if_pos whole] at leaves ⊢
    exact (beq_iff_eq.mp leaves).symm
  · rw [if_neg whole] at leaves ⊢
    by_cases pending : hasPendingRefund settlement.payments.rows settlement.sourceId = true
    · rw [if_pos pending] at leaves ⊢
      exact (beq_iff_eq.mp leaves).symm
    · rw [if_neg pending] at leaves ⊢
      rw [if_neg (bne_iff_ne.mp leaves)]

/-! What the steps leave is tracked. -/

def HistoryTracked (db : Db) : Prop :=
  statusJournal.Tracked db.bookings db.statusHistory

section

variable {db next : Db} {bookingId : BookingId} {before after : Booking}

theorem HistoryTracked.same (tracked : HistoryTracked db) (bookings : next.bookings = db.bookings)
    (statusHistory : next.statusHistory = db.statusHistory) : HistoryTracked next := by
  unfold HistoryTracked
  rw [bookings, statusHistory]
  exact tracked

theorem HistoryTracked.silent (tracked : HistoryTracked db) (found : db.bookings[bookingId]? = some before)
    (bookings : next.bookings = db.bookings.set bookingId after)
    (statusHistory : next.statusHistory = db.statusHistory) (same : after.bookingStatus = before.bookingStatus) :
    HistoryTracked next := by
  unfold HistoryTracked
  rw [bookings, statusHistory]
  exact Journal.Tracked.silent tracked found same

theorem HistoryTracked.noted (tracked : HistoryTracked db) (found : db.bookings[bookingId]? = some before)
    (bookings : next.bookings = db.bookings.set bookingId after)
    (noted : Noted db next bookingId (some before.bookingStatus) after.bookingStatus) : HistoryTracked next := by
  obtain ⟨changedBy, notes, statusHistory⟩ := noted
  unfold HistoryTracked
  rw [bookings, statusHistory]
  exact Journal.Tracked.noted tracked found rfl rfl rfl

theorem HistoryTracked.created (tracked : HistoryTracked db) (bookings : next.bookings = db.bookings ++ [after])
    (status : after.bookingStatus = .pendingPayment)
    (noted : Noted db next db.bookings.length none .pendingPayment) : HistoryTracked next := by
  obtain ⟨changedBy, notes, statusHistory⟩ := noted
  unfold HistoryTracked
  rw [bookings, statusHistory]
  exact Journal.Tracked.created tracked rfl rfl rfl status

theorem HistoryTracked.quiet (tracked : HistoryTracked db) (quiet : Quiet db next) : HistoryTracked next := by
  cases quiet with
  | auxiliary same added slots => exact tracked.same same.bookings same.statusHistory
  | created booking slot fresh foundSlot dated bookings noted payments staff =>
      exact tracked.created bookings fresh.bookingStatus noted
  | workOrderCreated middle booking slot lead service fresh foundSlot dated bookings created noted payments staff =>
      -- the work order is the new booking, rewritten once
      have made : HistoryTracked { middle with bookings := db.bookings ++ [booking] } :=
        tracked.created rfl fresh.bookingStatus created
      have found : (db.bookings ++ [booking])[db.bookings.length]? = some booking := by simp
      have rewritten : next.bookings =
          (db.bookings ++ [booking]).set db.bookings.length (booking.repriced lead service).asWorkOrder := by
        simp [bookings, List.set_append_right]
      rw [← fresh.bookingStatus] at noted
      exact made.noted found rewritten noted

end

section

variable {settings : Settings} {state : System} {op : Op} {next : Db}

theorem HistoryTracked.effective {effect : Effect} (tracked : HistoryTracked state.db)
    (keeps : op.keepsHistory settings state) (isEffect : op.effect settings state = some effect)
    (written : Effective effect state.db next) (notes : effect.Notes state op next) : HistoryTracked next := by
  unfold Op.keepsHistory at keeps
  rw [isEffect] at keeps
  cases written with
  | @confirmed _ _ now changedBy locked payments orderId paymentId found foundBooking ordered amount open_ rows written =>
      have bookings : next.bookings = state.db.bookings.set locked.payment.booking
          (locked.booking.confirmedBy now locked.payment.amount) := by
        rw [written]
        exact confirmBookingAfterPayment_bookings ..
      simp only [Effect.Notes] at notes
      by_cases confirmed : locked.booking.bookingStatus = .confirmed
      · rw [if_pos confirmed] at notes
        exact tracked.silent foundBooking bookings notes confirmed.symm
      · rw [if_neg confirmed] at notes
        exact tracked.noted foundBooking bookings notes
  | @failed _ _ locked payments orderId paymentId found foundBooking ordered open_ rows written =>
      have bookings : next.bookings = state.db.bookings.set locked.payment.booking locked.booking.markedFailed := by
        rw [written]
        exact markPaymentFailed_bookings ..
      have same : locked.booking.markedFailed.bookingStatus = locked.booking.bookingStatus := by
        unfold Booking.markedFailed
        split
        · rename_i awaiting
          exact (awaiting.resolve_left keeps).symm
        · rfl
      exact tracked.silent foundBooking bookings notes same
  | refundSettled found foundBooking written bookings rows slots =>
      exact tracked.silent foundBooking bookings notes (RefundSettlement.leavesStatus_after keeps)
  | refundLost => exact tracked
  | @workOrder _ _ bookingId row found bookings payments slots =>
      obtain ⟨now, lead, performedBy, position, notes, object, rfl, foundObject, rfl, statusHistory⟩ := notes
      have current : object.booking.bookingStatus = row.bookingStatus := by
        simpa [Op.loadedStatus, foundObject] using keeps
      by_cases confirmed : object.booking.bookingStatus = .confirmed
      · simp only [workOrderHistory, if_pos confirmed, List.append_nil] at statusHistory
        exact tracked.silent found bookings statusHistory (confirmed.symm.trans current)
      · simp only [workOrderHistory, if_neg confirmed] at statusHistory
        rw [current] at statusHistory
        exact tracked.noted found bookings ⟨_, _, statusHistory⟩
  | manuallyPaid now leadId reference positive found inserted bookings payments slots =>
      exact tracked.silent found bookings notes rfl
  | balanceCollected now found from_ positive remaining inserted bookings payments slots =>
      exact tracked.noted found bookings notes
  | slotSaved bookings payments slots => exact tracked.same bookings notes

theorem HistoryTracked.leaves (tracked : HistoryTracked state.db) (keeps : op.keepsHistory settings state)
    (leaves : Leaves settings state op next) : HistoryTracked next := by
  cases leaves with
  | quiet chain =>
      induction chain with
      | refl => exact tracked
      | tail _ quiet ih => exact ih.quiet quiet
  | directory directory isOp written =>
      rw [written]
      exact tracked.same rfl rfl
  | ordered bookingId booking user key orderId isOp planned bookings statusHistory payments staff =>
      exact tracked.same bookings statusHistory
  | jobStep bookingId before after step found bookings noted payments staff => exact tracked.noted found bookings noted
  | moved now bookingId slotId changedBy notes booking slot isOp found from_ foundSlot bookings noted payments staff =>
      exact tracked.noted found bookings noted
  | assigned now bookingId technicianId assignedBy notes reason assignmentId booking technician slot found from_
      foundTechnician foundSlot free reassigned bookings noted payments slots directory =>
      exact tracked.noted found bookings noted
  | removed now bookingId changedBy notes booking assignmentId assignment isOp found active assignments bookings noted
      payments slots directory => exact tracked.noted found bookings noted
  | effective effect isEffect written notes assignments slots directory =>
      exact tracked.effective keeps isEffect written notes

end

/-- As long as no payment fails first, no refund moves a status and work orders are made from
bookings loaded as they still are, the history misses nothing. -/
theorem historyComplete_run {settings : Settings} {start : System} {ops : List Op} (initial : start.Initial)
    (guarded : Guarded (System.step settings) (Op.keepsHistory settings) start ops) :
    HistoryComplete (runAll (System.step settings) start ops).db := by
  have initially : HistoryTracked start.db := by
    unfold HistoryTracked
    rw [initial.bookings, initial.statusHistory]
    exact .empty
  have tracked := leaves_invariant HistoryTracked (fun _ _ _ holds keeps leaves => holds.leaves keeps leaves)
    guarded initially
  exact tracked.complete

def servedHistory : List Op := workOrdered ++ [
  .assignTechnician sampleNow 0 0 none "" "",
  .removeTechnicianAssignment sampleNow 0 none "",
  .assignTechnician sampleNow 0 0 none "" "",
  .startBooking 0 none "",
  .recordBalanceCollection sampleNow 0 100000 "CASH" none "",
  .completeBooking sampleNow 0 none "",
  .closeBooking 0 none ""]

theorem historyComplete_run_served :
    HistoryComplete (runAll (System.step sampleSettings) sampleSystem servedHistory).db :=
  historyComplete_run sampleSystem_initial (by decide)

def failedHistory : List Op := [
  sampleBookingBy 0,
  .createAdvancePaymentOrder 0 0 "payment-key-1" (.ok "order_1"),
  samplePaymentEvent "payment.failed" "order_1" "pay_1" 20000]

theorem failed_payment_unrecorded :
    ¬ ∀ (settings : Settings) (start : System) (ops : List Op), start.Initial →
      HistoryComplete (runAll (System.step settings) start ops).db := by
  intro always
  have complete := always sampleSettings sampleSystem failedHistory sampleSystem_initial
  have status : ((runAll (System.step sampleSettings) sampleSystem failedHistory).db.bookings[0]?).map
      Booking.bookingStatus = some .paymentFailed := by decide
  have written : (statusJournal.entriesOf
      (runAll (System.step sampleSettings) sampleSystem failedHistory).db.statusHistory 0).getLast?.map
      BookingStatusHistory.toStatus = some .pendingPayment := by decide
  obtain ⟨booking, found, failed⟩ := Option.map_eq_some_iff.mp status
  have last := (complete 0 booking found).last
  rw [failed] at last
  exact absurd (written.symm.trans last) (by decide)

end PsCore
