import PsCore.EffectsCore

/-!
What an accepted payment or refund operation has checked, and what it leaves.
-/

namespace PsCore

open Fallible RowTable

@[simp] theorem emit_bookings (db : Db) (event : NotificationEvent) (recipient : UserId) (booking : BookingId)
    (payload : NotificationPayload) : (db.emit event recipient booking payload).bookings = db.bookings := rfl

@[simp] theorem emit_payments (db : Db) (event : NotificationEvent) (recipient : UserId) (booking : BookingId)
    (payload : NotificationPayload) : (db.emit event recipient booking payload).payments = db.payments := rfl

@[simp] theorem emit_slots (db : Db) (event : NotificationEvent) (recipient : UserId) (booking : BookingId)
    (payload : NotificationPayload) : (db.emit event recipient booking payload).slots = db.slots := rfl

@[simp] theorem confirmBookingAfterPayment_bookings (now : Instant) (locked : LockedPayment)
    (changedBy : Option UserId) (db : Db) :
    (confirmBookingAfterPayment now locked changedBy db).bookings =
      db.bookings.set locked.payment.booking (locked.booking.confirmedBy now locked.payment.amount) := by
  unfold confirmBookingAfterPayment
  split <;> rfl

@[simp] theorem confirmBookingAfterPayment_payments (now : Instant) (locked : LockedPayment)
    (changedBy : Option UserId) (db : Db) :
    (confirmBookingAfterPayment now locked changedBy db).payments = db.payments := by
  unfold confirmBookingAfterPayment
  split <;> rfl

@[simp] theorem confirmBookingAfterPayment_slots (now : Instant) (locked : LockedPayment)
    (changedBy : Option UserId) (db : Db) :
    (confirmBookingAfterPayment now locked changedBy db).slots = db.slots := by
  unfold confirmBookingAfterPayment
  split <;> rfl

@[simp] theorem markPaymentFailed_bookings (locked : LockedPayment) (db : Db) :
    (markPaymentFailed locked db).bookings =
      db.bookings.set locked.payment.booking locked.booking.markedFailed := by
  unfold markPaymentFailed
  split <;> rfl

@[simp] theorem markPaymentFailed_payments (locked : LockedPayment) (db : Db) :
    (markPaymentFailed locked db).payments = db.payments := by
  unfold markPaymentFailed
  split <;> rfl

@[simp] theorem markPaymentFailed_slots (locked : LockedPayment) (db : Db) :
    (markPaymentFailed locked db).slots = db.slots := by
  unfold markPaymentFailed
  split <;> rfl

theorem storePayment_accepted {payments next : PaymentTable} {paymentId : PaymentId} {payment : Payment}
    (accepted : storePayment payments paymentId payment = .ok next) :
    next.rows = payments.rows.set paymentId payment := by
  simp only [storePayment, accepted_orRaise] at accepted
  exact UniqueTable.replace?_some accepted

theorem advanceOrderPlan_accepted {bookingId : BookingId} {user : UserId} {key : String} {db : Db}
    {booking : Booking} {plan : OrderPlan} (accepted : advanceOrderPlan bookingId user key db = .ok (booking, plan)) :
    db.bookings[bookingId]? = some booking ∧
      (booking.bookingStatus = .pendingPayment ∨ booking.bookingStatus = .paymentFailed) := by
  simp only [advanceOrderPlan, accepted_bind, accepted_orRaise, accepted_require] at accepted
  obtain ⟨locked, found, _, _, _, awaiting, decided⟩ := accepted
  have same : locked = booking := by
    split at decided
    · simp only [accepted_bind, accepted_pure, Prod.mk.injEq] at decided
      obtain ⟨_, _, same, _⟩ := decided
      exact same
    · split at decided
      · simp only [accepted_pure, Prod.mk.injEq] at decided
        exact decided.1
      · simp only [accepted_bind, accepted_require] at decided
        obtain ⟨_, _, answered⟩ := decided
        split at answered
        · simp only [accepted_pure, Prod.mk.injEq] at answered
          exact answered.1
        · simp only [accepted_pure, Prod.mk.injEq] at answered
          exact answered.1
  subst same
  exact ⟨found, awaiting⟩

theorem createAdvancePaymentOrder_cases {settings : Settings} {bookingId : BookingId} {user : UserId}
    {key : String} {providerOrder : Except ServiceError String} {db next : Db}
    {answer : PaymentId × OrderResponse}
    (accepted : createAdvancePaymentOrder settings bookingId user key providerOrder db = .ok (answer, next)) :
    (∃ booking paymentId payment, advanceOrderPlan bookingId user key db = .ok (booking, .reuse paymentId payment) ∧
      answer = (paymentId, orderResponse settings paymentId payment) ∧ next = db) ∨
      ∃ booking orderId payments, advanceOrderPlan bookingId user key db = .ok (booking, .request) ∧
        providerOrder = .ok orderId ∧
        db.payments.insert? (newAdvancePayment bookingId booking orderId key) = some payments ∧
        answer = (db.payments.rows.length, orderResponse settings db.payments.rows.length
          (newAdvancePayment bookingId booking orderId key)) ∧
        next = { db with payments := payments } := by
  simp only [createAdvancePaymentOrder, accepted_bind] at accepted
  obtain ⟨⟨booking, plan⟩, planned, written⟩ := accepted
  cases plan with
  | reuse paymentId payment =>
      simp only [accepted_pure, Prod.mk.injEq] at written
      exact .inl ⟨booking, paymentId, payment, planned, written.1.symm, written.2.symm⟩
  | request =>
      simp only [accepted_bind, accepted_orRaise, accepted_pure, Prod.mk.injEq] at written
      obtain ⟨orderId, ordered, payments, inserted, isAnswer, isNext⟩ := written
      exact .inr ⟨booking, orderId, payments, planned, ordered, inserted, isAnswer.symm, isNext.symm⟩

theorem createAdvancePaymentOrder_accepted {settings : Settings} {bookingId : BookingId} {user : UserId}
    {key : String} {providerOrder : Except ServiceError String} {db next : Db}
    {answer : PaymentId × OrderResponse}
    (accepted : createAdvancePaymentOrder settings bookingId user key providerOrder db = .ok (answer, next)) :
    next = db ∨ Routine db next := by
  rcases createAdvancePaymentOrder_cases accepted with
    ⟨_, _, _, _, _, isNext⟩ | ⟨booking, orderId, payments, planned, _, inserted, _, rfl⟩
  · exact .inl isNext
  · obtain ⟨found, awaiting⟩ := advanceOrderPlan_accepted planned
    exact .inr (.orderCreated bookingId booking orderId key found awaiting rfl
      (UniqueTable.insert?_some inserted).1 rfl)

theorem lockOrderPayment_accepted {db : Db} {orderId : String} {locked : LockedPayment}
    (accepted : lockOrderPayment db orderId = .ok locked) :
    db.payments.rows[locked.paymentId]? = some locked.payment ∧
      locked.payment.providerOrderId = some orderId ∧
      db.bookings[locked.payment.booking]? = some locked.booking := by
  simp only [lockOrderPayment, accepted_bind, accepted_orRaise, accepted_pure] at accepted
  obtain ⟨⟨paymentId, payment⟩, found, booking, foundBooking, rfl⟩ := accepted
  have facts := firstRow_some found
  simp only [beq_iff_eq] at facts
  exact ⟨facts.1, facts.2, foundBooking⟩

def PaymentChange.Sound (now : Instant) (changedBy : Option UserId) (db : Db) (change : PaymentChange) : Prop :=
  change.apply now changedBy db = db ∨
    ∃ effect, change.effect now changedBy = some effect ∧ Effective effect db (change.apply now changedBy db)

theorem verificationChange_decided {settings : Settings} {now : Instant}
    {orderId paymentId signature : String} {user : Option UserId} {db : Db} {change : PaymentChange}
    (accepted : verificationChange settings now orderId paymentId signature user db = .ok change) :
    (∃ paymentId, change = .unchanged paymentId) ∨
      ∃ effect, change.effect now user = some effect ∧ Effective effect db (change.apply now user db) := by
  simp only [verificationChange, accepted_bind, accepted_require] at accepted
  obtain ⟨locked, lockedRow, _, _, _, amount, decided⟩ := accepted
  obtain ⟨found, ordered, foundBooking⟩ := lockOrderPayment_accepted lockedRow
  split at decided
  · simp only [accepted_pure] at decided
    subst decided
    exact .inl ⟨_, rfl⟩
  · rename_i open_
    simp only [accepted_bind] at decided
    obtain ⟨genuine, _, stored⟩ := decided
    split at stored
    · simp only [accepted_bind, accepted_pure] at stored
      obtain ⟨payments, saved, rfl⟩ := stored
      exact .inr ⟨_, rfl, .confirmed orderId paymentId found foundBooking ordered amount open_
        (storePayment_accepted saved) rfl⟩
    · simp only [accepted_bind, accepted_pure] at stored
      obtain ⟨payments, saved, rfl⟩ := stored
      exact .inr ⟨_, rfl, .failed orderId _ found foundBooking ordered open_
        (storePayment_accepted saved) rfl⟩

theorem verificationChange_accepted {settings : Settings} {now : Instant}
    {orderId paymentId signature : String} {user : Option UserId} {db : Db} {change : PaymentChange}
    (accepted : verificationChange settings now orderId paymentId signature user db = .ok change) :
    change.Sound now user db := by
  rcases verificationChange_decided accepted with ⟨_, rfl⟩ | effective
  · exact .inl rfl
  · exact .inr effective

theorem failedPaymentChange_accepted {now : Instant} {payload : Json} {db : Db} {change : PaymentChange}
    (accepted : failedPaymentChange payload db = .ok change) : change.Sound now none db := by
  simp only [failedPaymentChange, accepted_bind, accepted_require] at accepted
  obtain ⟨_, _, orderId, _, _, _, locked, lockedRow, decided⟩ := accepted
  obtain ⟨found, ordered, foundBooking⟩ := lockOrderPayment_accepted lockedRow
  split at decided
  · simp only [accepted_pure] at decided
    subst decided
    exact .inl rfl
  · rename_i open_
    simp only [accepted_bind, accepted_pure] at decided
    obtain ⟨paymentId, _, payments, saved, rfl⟩ := decided
    exact .inr ⟨_, rfl, .failed orderId.str _ found foundBooking ordered open_
      (storePayment_accepted saved) rfl⟩

/-! Refunds. -/

theorem settleRefund_accepted {settlement : RefundSettlement} {initiated completed : Bool} {db next : Db}
    (accepted : settleRefund settlement initiated completed db = .ok next) :
    next.bookings = db.bookings.set settlement.bookingId
        (settlement.booking.afterRefund settlement.payments.rows settlement.sourceId settlement.source) ∧
      next.payments.rows = settlement.settledRows ∧ next.slots = db.slots := by
  simp only [settleRefund, applyRefundState, accepted_bind, accepted_pure] at accepted
  obtain ⟨applied, state, rfl⟩ := accepted
  have announced : ∀ (flag : Bool) (event : NotificationEvent) (base : Db),
      (if flag then base.emitRefund event settlement else base).bookings = base.bookings ∧
      (if flag then base.emitRefund event settlement else base).payments = base.payments ∧
      (if flag then base.emitRefund event settlement else base).slots = base.slots := by
    intro flag event base
    cases flag <;> exact ⟨rfl, rfl, rfl⟩
  have outer := announced completed .refundCompleted
    (if initiated then applied.emitRefund .refundInitiated settlement else applied)
  have inner := announced initiated .refundInitiated applied
  rw [outer.1, outer.2.1, outer.2.2, inner.1, inner.2.1, inner.2.2]
  unfold RefundSettlement.settledRows
  split at state
  · rename_i full
    simp only [accepted_bind, accepted_pure] at state
    obtain ⟨payments, saved, rfl⟩ := state
    rw [if_pos full]
    exact ⟨rfl, storePayment_accepted saved, rfl⟩
  · rename_i partial_
    simp only [accepted_pure] at state
    subst state
    rw [if_neg partial_]
    exact ⟨rfl, rfl, rfl⟩

theorem insertRefund_accepted {sourceId : PaymentId} {source : Payment} {booking : Booking} {refund : Payment}
    {db : Db} {settlement : RefundSettlement}
    (accepted : insertRefund sourceId source booking refund db = .ok settlement) :
    settlement.sourceId = sourceId ∧ settlement.source = source ∧ settlement.bookingId = source.booking ∧
      settlement.booking = booking ∧ settlement.refund = refund ∧
      settlement.refundId = db.payments.rows.length ∧
      settlement.payments.rows = db.payments.rows ++ [refund] := by
  simp only [insertRefund, accepted_bind, accepted_orRaise, accepted_pure] at accepted
  obtain ⟨payments, inserted, rfl⟩ := accepted
  exact ⟨rfl, rfl, rfl, rfl, rfl, rfl, (UniqueTable.insert?_some inserted).1⟩

theorem updateRefund_accepted {now : Instant} {refundId : PaymentId} {refund : Payment}
    {status : PaymentRecordStatus} {sourceId : PaymentId} {source : Payment} {bookingId : BookingId}
    {booking : Booking} {db : Db} {settlement : RefundSettlement}
    (accepted : updateRefund now refundId refund status sourceId source bookingId booking db = .ok settlement) :
    settlement.sourceId = sourceId ∧ settlement.source = source ∧ settlement.bookingId = bookingId ∧
      settlement.booking = booking ∧ settlement.refund = refund.withRefundStatus now status ∧
      settlement.refundId = refundId ∧
      settlement.payments.rows = db.payments.rows.set refundId (refund.withRefundStatus now status) := by
  simp only [updateRefund, accepted_bind, accepted_pure] at accepted
  obtain ⟨payments, saved, rfl⟩ := accepted
  exact ⟨rfl, rfl, rfl, rfl, rfl, rfl, storePayment_accepted saved⟩

structure RefundSettlement.Grounded (settlement : RefundSettlement) (db : Db) : Prop where
  source : db.payments.rows[settlement.sourceId]? = some settlement.source
  booking : db.bookings[settlement.bookingId]? = some settlement.booking
  written : settlement.Written db

theorem webhookKey_nonempty (reference : String) : "webhook-" ++ reference ≠ "" := by
  intro empty
  have characters := congrArg String.toList empty
  simp at characters

theorem insertRefund_free {now : Instant} {sourceId : PaymentId} {source : Payment} {booking : Booking}
    {amount : Money} {currency key reference : String} {status : PaymentRecordStatus} {db : Db}
    {settlement : RefundSettlement} (keyed : key ≠ "")
    (accepted : insertRefund sourceId source booking
      (newRefund now sourceId source amount currency key reference status) db = .ok settlement) :
    ∀ payment ∈ db.payments.rows, payment.isKeyed source.booking .refund key = false := by
  intro payment member
  simp only [insertRefund, accepted_bind, accepted_orRaise] at accepted
  obtain ⟨payments, inserted, _⟩ := accepted
  have apart := (UniqueTable.insert?_some inserted).2 payment member
  rw [Bool.eq_false_iff]
  intro isKeyed
  simp only [Payment.isKeyed, Bool.and_eq_true, beq_iff_eq] at isKeyed
  exact apart (by simp [Payment.clashes, newRefund, isKeyed, keyed])

theorem createRefundPlan_accepted {sourceId : PaymentId} {amount : Money} {key : String} {db : Db}
    {source : Payment} {booking : Booking} {providerPaymentId : String}
    (accepted : createRefundPlan sourceId amount key db = .ok (.request source booking providerPaymentId)) :
    db.payments.rows[sourceId]? = some source ∧ db.bookings[source.booking]? = some booking ∧
      source.paymentType ≠ .refund ∧ (source.status = .success ∨ source.status = .refunded) ∧
      source.providerPaymentId = some providerPaymentId ∧
      (∀ payment ∈ db.payments.rows, payment.isKeyed source.booking .refund key = false) ∧ 0 < amount ∧
      amount ≤ source.amount - requestedRefunds db.payments.rows sourceId := by
  simp only [createRefundPlan, accepted_bind, accepted_orRaise, accepted_require] at accepted
  obtain ⟨source', found, booking', foundBooking, _, ⟨isSource, paid⟩, reference, present, decided⟩ := accepted
  split at decided
  · simp at decided
  · rename_i unkeyed
    simp only [accepted_bind, accepted_require, accepted_pure, RefundPlan.request.injEq] at decided
    obtain ⟨_, ⟨positive, bounded⟩, rfl, rfl, rfl⟩ := decided
    have reference' := (Option.filter_eq_some_iff.mp present).1
    exact ⟨found, foundBooking, isSource, paid, reference', latestRow_none.mp unkeyed, positive, bounded⟩

theorem requestedRefund_grounded {now : Instant} {sourceId : PaymentId} {amount : Money} {key : String}
    {providerRefund : Except ServiceError ProviderRefund} {db : Db} {settlement : RefundSettlement}
    (requested : requestedRefund now sourceId amount key providerRefund db = some settlement) :
    settlement.Grounded db := by
  unfold requestedRefund at requested
  split at requested
  · rename_i source booking providerPaymentId answer planned
    obtain ⟨found, foundBooking, _, _, paid, free, positive, bounded⟩ := createRefundPlan_accepted planned
    unfold succeeded at requested
    split at requested
    · rename_i inserted accepted
      simp only [Option.some.injEq] at requested
      subst requested
      obtain ⟨sourceIdEq, sourceEq, bookingIdEq, bookingEq, refundEq, _, rows⟩ := insertRefund_accepted accepted
      refine ⟨by rw [sourceIdEq, sourceEq, found], by rw [bookingIdEq, bookingEq, foundBooking], ?_⟩
      refine .requested now key answer.id amount (refundStatus answer.status) ?_ positive ?_ ?_ ?_ ?_ ?_
      · rw [sourceEq, paid]
        rfl
      · rw [sourceEq, sourceIdEq]
        exact bounded
      · rw [sourceEq]
        exact free
      · rw [refundEq, sourceIdEq, sourceEq]
      · rw [bookingIdEq, sourceEq]
      · rw [rows, refundEq]
    · simp at requested
  · simp at requested

theorem reconciledRefund_grounded {now : Instant} {refundId : PaymentId}
    {providerStatus : Except ServiceError Json} {db : Db} {previous : Payment} {settlement : RefundSettlement}
    (accepted : reconciledRefund now refundId providerStatus db = .ok (previous, settlement)) :
    settlement.Grounded db := by
  simp only [reconciledRefund, accepted_bind, accepted_orRaise, accepted_require, accepted_pure,
    Prod.mk.injEq] at accepted
  obtain ⟨refund, found, booking, foundBooking, _, _, sourceId, parent, source, foundSource, answer, _,
    updated, saved, _, rfl⟩ := accepted
  obtain ⟨sourceIdEq, sourceEq, bookingIdEq, bookingEq, refundEq, refundIdEq, rows⟩ :=
    updateRefund_accepted saved
  have stored := Option.filter_eq_some_iff.mp found
  refine ⟨by rw [sourceIdEq, sourceEq, foundSource], by rw [bookingIdEq, bookingEq, foundBooking], ?_⟩
  refine .rewritten now refund (refundStatus answer) ?_ refundEq (.inl ⟨?_, ?_, bookingIdEq⟩) ?_
  · rw [refundIdEq, stored.1]
  · rw [parent, sourceIdEq]
  · simpa using stored.2
  · rw [rows, refundIdEq, refundEq]

theorem deliveredRefund_grounded {now : Instant} {payload : Json} {db : Db}
    {previous : Option PaymentRecordStatus} {settlement : RefundSettlement}
    (accepted : deliveredRefund now payload db = .ok (previous, settlement)) : settlement.Grounded db := by
  simp only [deliveredRefund, accepted_bind, accepted_orRaise, accepted_require] at accepted
  obtain ⟨_, _, refundId, _, sourcePaymentId, _, _, _, ⟨sourceId, source⟩, found, booking, foundBooking,
    statusValue, _, amountValue, _, amount, _, currencyValue, _, decided⟩ := accepted
  have sourceFacts := firstRow_some found
  simp only [beq_iff_eq] at sourceFacts
  split at decided
  · rename_i existingId existing stored
    simp only [accepted_bind, accepted_pure, Prod.mk.injEq] at decided
    obtain ⟨updated, saved, _, rfl⟩ := decided
    obtain ⟨sourceIdEq, sourceEq, bookingIdEq, bookingEq, refundEq, refundIdEq, rows⟩ :=
      updateRefund_accepted saved
    have refundFacts := firstRow_some stored
    simp only [beq_iff_eq] at refundFacts
    refine ⟨by rw [sourceIdEq, sourceEq, sourceFacts.1], by rw [bookingIdEq, bookingEq, foundBooking], ?_⟩
    refine .rewritten now existing (refundStatus statusValue) ?_ refundEq (.inr ⟨?_, ?_, ?_⟩) ?_
    · rw [refundIdEq, refundFacts.1]
    · rw [refundFacts.2]
      rfl
    · rw [sourceEq, sourceFacts.2]
      rfl
    · rw [bookingIdEq, sourceEq]
    · rw [rows, refundIdEq, refundEq]
  · simp only [accepted_bind, accepted_pure, Prod.mk.injEq] at decided
    obtain ⟨inserted, saved, _, rfl⟩ := decided
    obtain ⟨sourceIdEq, sourceEq, bookingIdEq, bookingEq, refundEq, refundIdEq, rows⟩ := insertRefund_accepted saved
    refine ⟨by rw [sourceIdEq, sourceEq, sourceFacts.1], by rw [bookingIdEq, bookingEq, foundBooking], ?_⟩
    refine .delivered now _ refundId.str amount (refundStatus statusValue) ?_ ?_
      (by rw [refundEq, sourceIdEq, sourceEq]) refundIdEq (by rw [bookingIdEq, sourceEq]) (by rw [rows, refundEq])
    · rw [sourceEq, sourceFacts.2]
      rfl
    · rw [sourceEq]
      exact insertRefund_free (webhookKey_nonempty _) saved

theorem settleRefund_effective {settlement : RefundSettlement} {initiated completed : Bool} {db next : Db}
    (grounded : settlement.Grounded db)
    (accepted : settleRefund settlement initiated completed db = .ok next) :
    Effective (.refund settlement) db next := by
  obtain ⟨bookings, rows, slots⟩ := settleRefund_accepted accepted
  exact .refundSettled grounded.source grounded.booking grounded.written bookings rows slots

theorem createRefund_cases {now : Instant} {sourceId : PaymentId} {amount : Money} {key : String}
    {providerRefund : Except ServiceError ProviderRefund} {db next : Db} {refundId : PaymentId}
    (accepted : createRefund now sourceId amount key providerRefund db = .ok (refundId, next)) :
    next = db ∨ ∃ settlement completed, requestedRefund now sourceId amount key providerRefund db = some settlement ∧
      settleRefund settlement true completed db = .ok next := by
  simp only [createRefund, accepted_bind] at accepted
  obtain ⟨plan, planned, written⟩ := accepted
  cases plan with
  | existing existingId =>
      simp only [accepted_pure, Prod.mk.injEq] at written
      exact .inl written.2.symm
  | request source booking providerPaymentId =>
      simp only [accepted_bind, accepted_pure, Prod.mk.injEq] at written
      obtain ⟨answer, answered, settlement, inserted, _, settled, _, rfl⟩ := written
      refine .inr ⟨settlement, _, ?_, settled⟩
      simp only [requestedRefund, planned, answered, inserted, succeeded]

end PsCore
