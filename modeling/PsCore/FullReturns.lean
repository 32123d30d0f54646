import PsCore.Accounts

/-!
Whether a booking that says REFUNDED has got everything back. The mark is written for one
payment at a time, while a booking may hold several.
-/

namespace PsCore

open Fallible RowTable TransitionRun

def Payment.isPaidCharge (payment : Payment) : Bool :=
  (payment.paymentType == .bookingAdvance || payment.paymentType == .balance) && payment.status.isPaid

def Payment.isReturned (payment : Payment) : Bool :=
  payment.paymentType == .refund && payment.status == .success

def bookingSum (counts : Payment → Bool) (rows : List Payment) (bookingId : BookingId) : Money :=
  sumWhere (fun payment => payment.booking == bookingId && counts payment) Payment.amount rows

def paidCharges (rows : List Payment) (bookingId : BookingId) : Money :=
  bookingSum Payment.isPaidCharge rows bookingId

def returnedMoney (rows : List Payment) (bookingId : BookingId) : Money :=
  bookingSum Payment.isReturned rows bookingId

def heldMoney (rows : List Payment) (bookingId : BookingId) : Money :=
  paidCharges rows bookingId - returnedMoney rows bookingId

def Booking.saysRefunded (booking : Booking) : Bool :=
  booking.paymentStatus == .refunded || booking.bookingStatus == .refunded

def ReturnedInFull (db : Db) : Prop :=
  ∀ (bookingId : BookingId) (booking : Booking), db.bookings[bookingId]? = some booking →
    booking.paymentStatus = .refunded ∨ booking.bookingStatus = .refunded →
    returnedMoney db.payments.rows bookingId = paidCharges db.payments.rows bookingId

def Payment.charge (payment : Payment) : Money :=
  if payment.isPaidCharge then payment.amount else 0

/-- What the refund row newly returns to the booking, or takes back. -/
def RefundSettlement.returns (settlement : RefundSettlement) (db : Db) (bookingId : BookingId) : Money :=
  returnedMoney settlement.payments.rows bookingId - returnedMoney db.payments.rows bookingId

/-- A wholly refunded payment was all that its booking held; nothing else moves the money of
a booking that says REFUNDED. -/
def returnCondition (db : Db) : Effect → Bool
  | .failure locked _ => !locked.booking.saysRefunded || locked.payment.charge == 0
  | .refund settlement =>
      (if settlement.source.amount ≤ successfulRefunds settlement.payments.rows settlement.sourceId then
        heldMoney db.payments.rows settlement.bookingId + (settlement.source.amount - settlement.source.charge) ==
          settlement.returns db settlement.bookingId
      else !settlement.booking.saysRefunded || settlement.returns db settlement.bookingId == 0) &&
      (settlement.refund.booking == settlement.bookingId ||
        (db.bookings[settlement.refund.booking]?).all fun booking =>
          !booking.saysRefunded || settlement.returns db settlement.refund.booking == 0)
  | .manualPayment _ entry => entry.booking.bookingStatus != .refunded
  | .balance _ booking amount _ =>
      booking.paymentStatus != .refunded || booking.balanceDue ≤ booking.balanceCollected + amount
  | _ => true

theorem bookingSum_append (counts : Payment → Bool) (rows : List Payment) (payment : Payment) (bookingId : BookingId) :
    bookingSum counts (rows ++ [payment]) bookingId = bookingSum counts rows bookingId +
      if payment.booking = bookingId then (if counts payment then payment.amount else 0) else 0 := by
  unfold bookingSum
  rw [sumWhere_append]
  by_cases own : payment.booking = bookingId <;> simp [own]

theorem bookingSum_set (counts : Payment → Bool) {rows : List Payment} {key : PaymentId} {before after : Payment}
    (bookingId : BookingId) (found : rows[key]? = some before) (origin : SameOrigin before after) :
    bookingSum counts (rows.set key after) bookingId = bookingSum counts rows bookingId +
      if before.booking = bookingId then
        (if counts after then after.amount else 0) - (if counts before then before.amount else 0)
      else 0 := by
  unfold bookingSum
  rw [sumWhere_set _ _ _ found, origin.booking]
  by_cases own : before.booking = bookingId
  · simp only [own, beq_self_eq_true, Bool.true_and, if_true]
    unfold Money at *
    omega
  · simp [own]

theorem bookingSum_same {counts : Payment → Bool} {rows : List Payment} {key : PaymentId} {before after : Payment}
    (bookingId : BookingId) (found : rows[key]? = some before) (origin : SameOrigin before after)
    (uncounted : counts before = false ∧ counts after = false) :
    bookingSum counts (rows.set key after) bookingId = bookingSum counts rows bookingId := by
  rw [bookingSum_set counts bookingId found origin, uncounted.1, uncounted.2]
  simp

theorem Payment.charge_uncounted {payment : Payment} (kind : payment.paymentType = .refund) :
    payment.isPaidCharge = false := by
  simp [Payment.isPaidCharge, kind]

theorem Payment.unreturned {payment : Payment} (kind : payment.paymentType ≠ .refund) :
    payment.isReturned = false := by
  simp [Payment.isReturned, kind]

def HeldMore (rows next : List Payment) (target : BookingId) (amount : Money) : Prop :=
  ∀ bookingId, heldMoney next bookingId = heldMoney rows bookingId + if target = bookingId then amount else 0

theorem HeldMore.same (rows : List Payment) (target : BookingId) : HeldMore rows rows target 0 := by
  intro bookingId
  split <;> simp

theorem HeldMore.append (rows : List Payment) (payment : Payment) (kind : payment.paymentType ≠ .refund) :
    HeldMore rows (rows ++ [payment]) payment.booking payment.charge := by
  intro bookingId
  have unreturned := Payment.unreturned kind
  simp only [heldMoney, paidCharges, returnedMoney, bookingSum_append, unreturned, Payment.charge]
  by_cases own : payment.booking = bookingId
  · simp only [if_pos own]
    unfold Money at *
    simp
    omega
  · simp [own]

theorem HeldMore.set {rows : List Payment} {key : PaymentId} {before after : Payment}
    (found : rows[key]? = some before) (origin : SameOrigin before after) (kind : before.paymentType ≠ .refund) :
    HeldMore rows (rows.set key after) before.booking (after.charge - before.charge) := by
  intro bookingId
  have unreturned := Payment.unreturned kind
  have unreturnedAfter : after.isReturned = false := Payment.unreturned (by rw [origin.kind]; exact kind)
  have returned : returnedMoney (rows.set key after) bookingId = returnedMoney rows bookingId :=
    bookingSum_same bookingId found origin ⟨unreturned, unreturnedAfter⟩
  have paid := bookingSum_set Payment.isPaidCharge bookingId found origin
  unfold heldMoney
  rw [returned, paidCharges, paid, paidCharges]
  unfold Payment.charge Money at *
  split <;> omega

section

variable {db : Db} {settlement : RefundSettlement}

theorem paidCharges_recorded (sound : PaymentsSound db) (written : settlement.Written db) (bookingId : BookingId) :
    paidCharges settlement.payments.rows bookingId = paidCharges db.payments.rows bookingId := by
  have refund := sound.refund_kind written
  have uncounted := Payment.charge_uncounted refund
  unfold paidCharges
  cases written with
  | requested now key refundId amount status paid positive bounded free row booking rows =>
      rw [rows, bookingSum_append, uncounted]
      simp
  | delivered now currency refundId amount status paid free row new booking rows =>
      rw [rows, bookingSum_append, uncounted]
      simp
  | rewritten now earlier status foundRefund row owner rows =>
      have origin : SameOrigin earlier settlement.refund := by
        rw [row]
        exact earlier.withRefundStatus_origin now status
      have uncountedBefore : earlier.isPaidCharge = false := Payment.charge_uncounted (by rw [← origin.kind]; exact refund)
      rw [rows, bookingSum_same bookingId foundRefund origin ⟨uncountedBefore, uncounted⟩]

theorem returns_elsewhere (written : settlement.Written db) {bookingId : BookingId}
    (elsewhere : settlement.refund.booking ≠ bookingId) : settlement.returns db bookingId = 0 := by
  unfold RefundSettlement.returns returnedMoney
  cases written with
  | requested now key refundId amount status paid positive bounded free row booking rows =>
      rw [rows, bookingSum_append, if_neg elsewhere]
      simp
  | delivered now currency refundId amount status paid free row new booking rows =>
      rw [rows, bookingSum_append, if_neg elsewhere]
      simp
  | rewritten now earlier status foundRefund row owner rows =>
      have origin : SameOrigin earlier settlement.refund := by
        rw [row]
        exact earlier.withRefundStatus_origin now status
      rw [origin.booking] at elsewhere
      rw [rows, bookingSum_set _ bookingId foundRefund origin, if_neg elsewhere]
      simp

theorem heldMoney_recorded (sound : PaymentsSound db) (written : settlement.Written db) (bookingId : BookingId) :
    heldMoney settlement.payments.rows bookingId =
      heldMoney db.payments.rows bookingId - settlement.returns db bookingId := by
  simp only [heldMoney, paidCharges_recorded sound written, RefundSettlement.returns]
  unfold Money at *
  omega

def RefundSettlement.marks (settlement : RefundSettlement) : Money :=
  if settlement.source.amount ≤ successfulRefunds settlement.payments.rows settlement.sourceId then
    settlement.source.amount - settlement.source.charge
  else 0

theorem heldMoney_settled (sound : PaymentsSound db)
    (found : db.payments.rows[settlement.sourceId]? = some settlement.source) (written : settlement.Written db)
    (bookingId : BookingId) :
    heldMoney settlement.settledRows bookingId = heldMoney db.payments.rows bookingId -
      settlement.returns db bookingId + if settlement.bookingId = bookingId then settlement.marks else 0 := by
  have present := sound.source_untouched found written
  have advance := sound.source_advance found written
  obtain ⟨_, booking⟩ := sound.source_ordered found written
  rw [← heldMoney_recorded sound written bookingId]
  unfold RefundSettlement.settledRows RefundSettlement.marks
  by_cases whole : settlement.source.amount ≤ successfulRefunds settlement.payments.rows settlement.sourceId
  · have marked : Payment.charge { settlement.source with status := .refunded } = settlement.source.amount := by
      simp [Payment.charge, Payment.isPaidCharge, PaymentRecordStatus.isPaid, advance]
    have more := HeldMore.set present (settlement.source.status_origin .refunded) (by rw [advance]; decide) bookingId
    rw [if_pos whole, if_pos whole, more, marked, booking]
  · rw [if_neg whole, if_neg whole]
    split <;> simp

end

/-! The mark of a booking along a run. -/

def SettledBooking (rows : List Payment) (bookingId : BookingId) (booking : Booking) : Prop :=
  booking.saysRefunded = true → heldMoney rows bookingId = 0

def EverySettled (db : Db) : Prop :=
  ∀ (bookingId : BookingId) (booking : Booking), db.bookings[bookingId]? = some booking →
    SettledBooking db.payments.rows bookingId booking

theorem saysRefunded_same {before after : Booking} (payment : after.paymentStatus = before.paymentStatus)
    (status : after.bookingStatus = .refunded → before.bookingStatus = .refunded)
    (isMarked : after.saysRefunded = true) : before.saysRefunded = true := by
  simp only [Booking.saysRefunded, Bool.or_eq_true, beq_iff_eq] at isMarked ⊢
  rcases isMarked with paymentRefunded | statusRefunded
  · exact .inl (payment ▸ paymentRefunded)
  · exact .inr (status statusRefunded)

theorem Transition.saysRefunded {booking changed : Booking} (transition : Transition booking changed)
    (isMarked : changed.saysRefunded = true) : booking.saysRefunded = true := by
  refine saysRefunded_same transition.paymentStatus (fun refunded => ?_) isMarked
  cases transition with
  | unassign =>
      cases status : booking.bookingStatus <;> simp_all [BookingStatus.withoutTechnician]
  | _ => cases refunded

section

variable {db next : Db}

theorem EverySettled.same (settled : EverySettled db) (bookings : next.bookings = db.bookings)
    (held : ∀ bookingId, heldMoney next.payments.rows bookingId = heldMoney db.payments.rows bookingId) :
    EverySettled next := by
  intro bookingId booking present isMarked
  rw [bookings] at present
  rw [held]
  exact settled bookingId booking present isMarked

theorem EverySettled.rewrite (settled : EverySettled db) {target : BookingId} {before after : Booking}
    (found : db.bookings[target]? = some before) (bookings : next.bookings = db.bookings.set target after)
    (own : SettledBooking db.payments.rows target before → SettledBooking next.payments.rows target after)
    (others : ∀ bookingId booking, bookingId ≠ target → db.bookings[bookingId]? = some booking →
      SettledBooking db.payments.rows bookingId booking → SettledBooking next.payments.rows bookingId booking) :
    EverySettled next := by
  intro bookingId booking present
  rw [bookings] at present
  by_cases isTarget : target = bookingId
  · subst isTarget
    rw [List.getElem?_set_self (List.getElem?_eq_some_iff.mp found).1, Option.some.injEq] at present
    rw [← present]
    exact own (settled _ before found)
  · rw [List.getElem?_set_ne isTarget] at present
    exact others bookingId booking (Ne.symm isTarget) present (settled bookingId booking present)

theorem EverySettled.post (settled : EverySettled db) {target : BookingId} {before after : Booking} {amount : Money}
    (found : db.bookings[target]? = some before) (bookings : next.bookings = db.bookings.set target after)
    (more : HeldMore db.payments.rows next.payments.rows target amount)
    (own : after.saysRefunded = true → before.saysRefunded = true ∧ amount = 0) : EverySettled next := by
  refine settled.rewrite found bookings (fun before isMarked => ?_) fun bookingId booking differs _ holds isMarked => ?_
  · obtain ⟨saysBefore, nothing⟩ := own isMarked
    rw [more, if_pos rfl, nothing, before saysBefore, Int.add_zero]
  · rw [more, if_neg (Ne.symm differs), holds isMarked, Int.add_zero]

theorem EverySettled.settle (settled : EverySettled db) {settlement : RefundSettlement} (sound : PaymentsSound db)
    (condition : returnCondition db (.refund settlement) = true)
    (found : db.payments.rows[settlement.sourceId]? = some settlement.source)
    (foundBooking : db.bookings[settlement.bookingId]? = some settlement.booking)
    (written : settlement.Written db)
    (bookings : next.bookings = db.bookings.set settlement.bookingId
      (settlement.booking.afterRefund settlement.payments.rows settlement.sourceId settlement.source))
    (rows : next.payments.rows = settlement.settledRows) : EverySettled next := by
  have held := heldMoney_settled sound found written
  simp only [returnCondition, Bool.and_eq_true, Bool.or_eq_true, beq_iff_eq] at condition
  obtain ⟨own, elsewhere⟩ := condition
  refine settled.rewrite foundBooking bookings (fun before isMarked => ?_)
    fun bookingId booking differs present holds isMarked => ?_
  · rw [rows, held, if_pos rfl, RefundSettlement.marks]
    by_cases whole : settlement.source.amount ≤ successfulRefunds settlement.payments.rows settlement.sourceId
    · rw [if_pos whole, beq_iff_eq] at own
      rw [if_pos whole]
      unfold Money at *
      omega
    · rw [if_neg whole, Bool.or_eq_true, Bool.not_eq_true', beq_iff_eq] at own
      rw [if_neg whole]
      have saysBefore : settlement.booking.saysRefunded = true := by
        unfold Booking.afterRefund at isMarked
        rw [if_neg whole] at isMarked
        split at isMarked
        · exact saysRefunded_same (by rfl) (fun refunded => by cases refunded) isMarked
        · split at isMarked
          · refine saysRefunded_same (by rfl) (fun refunded => ?_) isMarked
            simp only at refunded
            split at refunded <;> cases refunded
          · exact isMarked
      rcases own with unmarked | nothing
      · rw [saysBefore] at unmarked
        cases unmarked
      · rw [nothing, before saysBefore]
        rfl
  · rw [rows, held, if_neg (Ne.symm differs), holds isMarked]
    by_cases isRefund : settlement.refund.booking = bookingId
    · rcases elsewhere with isOwn | unmoved
      · exact absurd (isRefund.symm.trans isOwn) differs
      · rw [isRefund, present, Option.all_some, Bool.or_eq_true, isMarked, beq_iff_eq] at unmoved
        rcases unmoved with unmarked | nothing
        · cases unmarked
        · rw [nothing]
          rfl
    · rw [returns_elsewhere written isRefund]
      rfl

theorem EverySettled.create (settled : EverySettled db) {added : Booking}
    (bookings : next.bookings = db.bookings ++ [added]) (payments : next.payments = db.payments)
    (unmarked : added.saysRefunded = false) : EverySettled next := by
  intro bookingId booking present isMarked
  rw [bookings] at present
  rw [payments]
  rcases append_cases present with old | ⟨_, rfl⟩
  · exact settled bookingId booking old isMarked
  · rw [unmarked] at isMarked
    cases isMarked

theorem EverySettled.routine (settled : EverySettled db) (change : Routine db next) : EverySettled next := by
  cases change with
  | auxiliary bookings payments slots => exact settled.same bookings fun _ => by rw [payments]
  | slotAdded slot bookings payments slots => exact settled.same bookings fun _ => by rw [payments]
  | bookingCreated booking slot fresh found free bookings payments slots =>
      refine settled.create bookings payments ?_
      simp [Booking.saysRefunded, fresh.paymentStatus, fresh.bookingStatus]
  | workOrderCreated booking slot lead service fresh found free bookings payments slots =>
      refine settled.create bookings payments ?_
      have unpaid : ((booking.repriced lead service).asWorkOrder).paymentStatus = .unpaid := by
        unfold Booking.repriced Booking.asWorkOrder
        split <;> exact fresh.paymentStatus
      have confirmed : ((booking.repriced lead service).asWorkOrder).bookingStatus = .confirmed := rfl
      simp [Booking.saysRefunded, unpaid, confirmed]
  | bookingMoved bookingId booking slotId slot found from_ foundSlot free bookings payments slots =>
      exact settled.post found bookings (by rw [payments]; exact .same _ _) fun isMarked => ⟨isMarked, rfl⟩
  | transition bookingId booking changed found transition bookings payments slots =>
      exact settled.post found bookings (by rw [payments]; exact .same _ _) fun isMarked =>
        ⟨transition.saysRefunded isMarked, rfl⟩
  | orderCreated bookingId booking orderId key found awaiting bookings payments slots =>
      -- an order that nobody has paid yet holds nothing
      have more := HeldMore.append db.payments.rows (newAdvancePayment bookingId booking orderId key)
        (by simp [newAdvancePayment])
      refine settled.same bookings fun other => ?_
      rw [payments, more]
      have unpaid : (newAdvancePayment bookingId booking orderId key).charge = 0 := rfl
      rw [unpaid]
      split <;> simp

theorem EverySettled.effective {effect : Effect} (settled : EverySettled db) (sound : PaymentsSound db)
    (condition : returnCondition db effect = true) (written : Effective effect db next) : EverySettled next := by
  cases written with
  | @confirmed _ _ now changedBy locked payments orderId paymentId found foundBooking ordered amount open_ rows writtenEq =>
      subst writtenEq
      have advance := (sound.rows _ (List.mem_of_getElem? found)).advance (by rw [ordered]; rfl)
      have origin := locked.payment.succeeded_origin now paymentId
      have more := HeldMore.set found origin (by rw [advance]; decide)
      rw [← rows] at more
      have posted : HeldMore db.payments.rows
          (confirmBookingAfterPayment now locked changedBy { db with payments := payments }).payments.rows
          locked.payment.booking ((locked.payment.succeeded now paymentId).charge - locked.payment.charge) := by
        rw [confirmBookingAfterPayment_payments]
        exact more
      exact settled.post foundBooking (confirmBookingAfterPayment_bookings ..) posted nofun
  | @failed _ _ locked payments orderId paymentId found foundBooking ordered open_ rows writtenEq =>
      subst writtenEq
      have advance := (sound.rows _ (List.mem_of_getElem? found)).advance (by rw [ordered]; rfl)
      have origin := locked.payment.markedFailed_origin paymentId
      have more := HeldMore.set found origin (by rw [advance]; decide)
      rw [← rows] at more
      have uncharged : (locked.payment.markedFailed paymentId).charge = 0 := by
        simp [Payment.charge, Payment.isPaidCharge, Payment.markedFailed, PaymentRecordStatus.isPaid]
      refine settled.post foundBooking (markPaymentFailed_bookings ..)
        (by rw [markPaymentFailed_payments]; exact more) fun isMarked => ?_
      have saysBefore : locked.booking.saysRefunded = true := by
        unfold Booking.markedFailed at isMarked
        split at isMarked
        · cases isMarked
        · exact isMarked
      simp only [returnCondition, saysBefore, Bool.not_true, Bool.false_or, beq_iff_eq] at condition
      rw [uncharged, condition]
      exact ⟨saysBefore, rfl⟩
  | refundSettled found foundBooking grounded bookings rows slots =>
      exact settled.settle sound condition found foundBooking grounded bookings rows
  | refundLost => exact settled
  | workOrder found bookings payments slots =>
      refine settled.post found bookings (by rw [payments]; exact .same _ _) fun isMarked => ?_
      exact ⟨saysRefunded_same (by rfl) (fun refunded => by cases refunded) isMarked, rfl⟩
  | @manuallyPaid _ _ amount entry now leadId reference positive found inserted bookings payments slots =>
      have more := HeldMore.append db.payments.rows
        (newManualPayment now leadId entry.bookingId amount reference) (by simp [newManualPayment])
      rw [← inserted, ← payments] at more
      refine settled.post found bookings more fun isMarked => ?_
      -- the payment status becomes PAID or PARTIALLY_PAID
      have notRefunded : entry.booking.bookingStatus ≠ .refunded := by
        simpa [returnCondition] using condition
      simp only [Booking.saysRefunded, Booking.paidManually, Bool.or_eq_true, beq_iff_eq] at isMarked
      rcases isMarked with paymentRefunded | statusRefunded
      · split at paymentRefunded <;> cases paymentRefunded
      · exact absurd statusRefunded notRefunded
  | @balanceCollected _ _ bookingId booking amount _ now found from_ positive remaining inserted bookings payments slots =>
      have more := HeldMore.append db.payments.rows (newBalancePayment now bookingId amount)
        (by simp [newBalancePayment])
      rw [← inserted, ← payments] at more
      refine settled.post found bookings more fun isMarked => ?_
      simp only [returnCondition, Bool.or_eq_true, bne_iff_ne, decide_eq_true_eq] at condition
      simp only [Booking.saysRefunded, Booking.collected, Bool.or_eq_true, beq_iff_eq] at isMarked
      rcases isMarked with paymentRefunded | statusRefunded
      · split at paymentRefunded
        · cases paymentRefunded
        · rename_i partly
          rcases condition with notRefunded | whole
          · exact absurd paymentRefunded notRefunded
          · exact absurd whole partly
      · rcases from_ with inProgress | assigned
        · rw [inProgress] at statusRefunded
          cases statusRefunded
        · rw [assigned] at statusRefunded
          cases statusRefunded
  | slotSaved bookings payments slots => exact settled.same bookings fun _ => by rw [payments]

end

structure SettledDb (db : Db) : Prop where
  sound : PaymentsSound db
  settled : EverySettled db

theorem EverySettled.returnedInFull {db : Db} (settled : EverySettled db) : ReturnedInFull db := by
  intro bookingId booking present isMarked
  have held := settled bookingId booking present (by simpa [Booking.saysRefunded] using isMarked)
  unfold heldMoney at held
  unfold Money at *
  omega

/-- A booking that says REFUNDED has got everything back, as long as its wholly refunded
payments were all that it held and no money moves afterwards. -/
theorem returnedInFull_run {settings : Settings} {start : System} {ops : List Op} (initial : start.Initial)
    (guarded : Guarded (System.step settings) (Op.meets settings returnCondition) start ops) :
    ReturnedInFull (runAll (System.step settings) start ops).db := by
  have initially : SettledDb start.db := by
    refine ⟨initial.paymentsSound, fun bookingId booking present => ?_⟩
    rw [initial.bookings] at present
    cases present
  have routine : ∀ db next, SettledDb db → Routine db next → SettledDb next :=
    fun db next holds change => ⟨holds.sound.routine change, holds.settled.routine change⟩
  have effective : ∀ db next effect, SettledDb db → returnCondition db effect = true →
      Effective effect db next → SettledDb next :=
    fun db next effect holds condition written =>
      ⟨holds.sound.effective written, holds.settled.effective holds.sound condition written⟩
  exact (run_invariant routine effective guarded initially).settled.returnedInFull

def refundedInParts : List Op := paidHistory ++ [
  .cancelBooking sampleNow 0 none "" .admin,
  .createRefund sampleNow 0 5000 "refund-key-1" (.ok { id := "rfnd_1", status := .text "processed" }),
  .createRefund sampleNow 0 15000 "refund-key-2" (.ok { id := "rfnd_2", status := .text "pending" }),
  .reconcileRefund sampleNow 2 (.ok (.text "processed"))]

theorem returnedInFull_run_refundedInParts :
    ReturnedInFull (runAll (System.step sampleSettings) sampleSystem refundedInParts).db :=
  returnedInFull_run sampleSystem_initial (by decide)

def refundedAfterCollection : List Op := paidHistory ++ [
  .assignTechnician sampleNow 0 0 none "" "",
  .recordBalanceCollection sampleNow 0 80000 "CASH" none "",
  .createRefund sampleNow 0 20000 "refund-key-1" (.ok { id := "rfnd_1", status := .text "processed" })]

theorem refunded_booking_holds_money :
    ¬ ∀ (settings : Settings) (start : System) (ops : List Op), start.Initial →
      ReturnedInFull (runAll (System.step settings) start ops).db := by
  intro always
  have returned := always sampleSettings sampleSystem refundedAfterCollection sampleSystem_initial
  have status : ((runAll (System.step sampleSettings) sampleSystem refundedAfterCollection).db.bookings[0]?).map
      Booking.bookingStatus = some .refunded := by decide
  have sums : (returnedMoney (runAll (System.step sampleSettings) sampleSystem refundedAfterCollection).db.payments.rows 0,
      paidCharges (runAll (System.step sampleSettings) sampleSystem refundedAfterCollection).db.payments.rows 0) =
        (20000, 100000) := by decide
  obtain ⟨booking, found, refunded⟩ := Option.map_eq_some_iff.mp status
  have same := returned 0 booking found (.inr refunded)
  simp only [Prod.mk.injEq] at sums
  rw [sums.1, sums.2] at same
  exact absurd same (by decide)

end PsCore
