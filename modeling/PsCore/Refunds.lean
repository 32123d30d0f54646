import PsCore.RefundLaws

/-!
The rows follow the refund machine: inserting or updating a refund and settling its source
takes a shown state to the settled one.
-/

namespace PsCore

open Fallible RowTable

structure Recorded (target : RefundTarget) (terms : RefundTerms) (db : Db) (settlement : RefundSettlement)
    (state : RefundState) (status : PaymentRecordStatus) : Prop where
  sourceId : settlement.sourceId = target.sourceId
  source : settlement.payments.rows[target.sourceId]? = some settlement.source
  stored : StoredSource target terms settlement.source
  sourceStatus : settlement.source.status = state.source
  bookingId : settlement.bookingId = target.bookingId
  booking : db.bookings[target.bookingId]? = some settlement.booking
  bookingStatus : settlement.booking.bookingStatus = state.booking
  paymentStatus : settlement.booking.paymentStatus = state.payment
  cancelled : settlement.booking.cancelledAt.isSome = terms.cancelled
  refund : StoredRefund target terms.amount settlement.payments.rows (some status)
  successful : successfulRefunds settlement.payments.rows target.sourceId =
    terms.otherRefunds + terms.paidBack (some status)
  pending : countWhere (Payment.isPendingRefundOf target.sourceId) settlement.payments.rows =
    terms.otherPending + if status.isPending then 1 else 0

theorem hasPendingRefund_iff (payments : List Payment) (sourceId : PaymentId) :
    hasPendingRefund payments sourceId = true ↔ 0 < countWhere (Payment.isPendingRefundOf sourceId) payments := by
  have same : ∀ payment : Payment, (payment.status == .created || payment.status == .pending) =
      payment.status.isPending := by
    intro payment
    cases payment.status <;> rfl
  simp only [hasPendingRefund, same, List.any_eq_true, countWhere, List.countP_pos_iff, Payment.isPendingRefundOf]

theorem Recorded.whole_iff {target : RefundTarget} {terms : RefundTerms} {db : Db}
    {settlement : RefundSettlement} {state : RefundState} {status : PaymentRecordStatus}
    (recorded : Recorded target terms db settlement state status) :
    settlement.source.amount ≤ successfulRefunds settlement.payments.rows settlement.sourceId ↔
      terms.isWhole status = true := by
  rw [recorded.sourceId, recorded.successful, recorded.stored.amount]
  simp [RefundTerms.isWhole]

theorem Recorded.awaited_iff {target : RefundTarget} {terms : RefundTerms} {db : Db}
    {settlement : RefundSettlement} {state : RefundState} {status : PaymentRecordStatus}
    (recorded : Recorded target terms db settlement state status) :
    hasPendingRefund settlement.payments.rows settlement.sourceId = true ↔ terms.isAwaited status = true := by
  rw [hasPendingRefund_iff, recorded.sourceId, recorded.pending]
  cases awaits : status.isPending <;> simp [RefundTerms.isAwaited, awaits]

theorem Recorded.afterRefund {target : RefundTarget} {terms : RefundTerms} {db : Db}
    {settlement : RefundSettlement} {state : RefundState} {status : PaymentRecordStatus}
    (recorded : Recorded target terms db settlement state status) {after : Booking}
    (written : after =
      settlement.booking.afterRefund settlement.payments.rows settlement.sourceId settlement.source) :
    after.bookingStatus = (state.settle terms status).booking ∧
      after.paymentStatus = (state.settle terms status).payment ∧
      after.cancelledAt.isSome = terms.cancelled := by
  subst written
  simp only [Booking.afterRefund, recorded.whole_iff, recorded.awaited_iff, RefundState.settle]
  by_cases whole : terms.isWhole status = true
  · simp only [if_pos whole]
    exact ⟨trivial, trivial, recorded.cancelled⟩
  · simp only [if_neg whole]
    by_cases awaited : terms.isAwaited status = true
    · simp only [if_pos awaited]
      exact ⟨trivial, recorded.paymentStatus, recorded.cancelled⟩
    · simp only [if_neg awaited, recorded.bookingStatus]
      by_cases pending : state.booking = .refundPending
      · simp only [if_pos pending]
        exact ⟨by simp only [RefundTerms.restored, recorded.cancelled], recorded.paymentStatus, recorded.cancelled⟩
      · simp only [if_neg pending]
        exact ⟨recorded.bookingStatus, recorded.paymentStatus, recorded.cancelled⟩

theorem StoredRefund.set_source {target : RefundTarget} {amount : Money} {rows : List Payment}
    {status : Option PaymentRecordStatus} (stored : StoredRefund target amount rows status)
    {sourceId : PaymentId} {source after : Payment} (found : rows[sourceId]? = some source)
    (notRefund : source.parentPayment = none) (reference : after.providerRefundId = none) :
    StoredRefund target amount (rows.set sourceId after) status := by
  cases stored with
  | absent unknown =>
      refine .absent fun payment member => ?_
      rcases List.mem_or_eq_of_mem_set member with old | rfl
      · exact unknown payment old
      · simp [reference]
  | present refundId refund foundRefund isReference parent kind amountOf =>
      have differs : sourceId ≠ refundId := by
        intro same
        rw [same, foundRefund, Option.some.injEq] at found
        rw [← found, parent] at notRefund
        cases notRefund
      exact .present refundId refund (by rw [List.getElem?_set_ne differs, foundRefund]) isReference parent
        kind amountOf

theorem refunds_set_source (sourceId : PaymentId) {rows : List Payment} {key : PaymentId} {before after : Payment}
    (found : rows[key]? = some before) (beforeParent : before.parentPayment = none)
    (afterParent : after.parentPayment = none) :
    successfulRefunds (rows.set key after) sourceId = successfulRefunds rows sourceId ∧
      countWhere (Payment.isPendingRefundOf sourceId) (rows.set key after) =
        countWhere (Payment.isPendingRefundOf sourceId) rows := by
  have sum := sumWhere_set (fun payment => payment.isRefundOf sourceId && payment.status == .success)
    Payment.amount after found
  have count := countWhere_set (Payment.isPendingRefundOf sourceId) after found
  simp only [Payment.isPendingRefundOf, Payment.isRefundOf, beforeParent, afterParent] at sum count
  refine ⟨?_, ?_⟩
  · simpa [successfulRefunds, Payment.isRefundOf] using sum
  · simpa [Payment.isPendingRefundOf, Payment.isRefundOf] using count

theorem Recorded.applied {target : RefundTarget} {terms : RefundTerms} {db : Db}
    {settlement : RefundSettlement} {state : RefundState} {status : PaymentRecordStatus}
    (recorded : Recorded target terms db settlement state status) :
    ∃ next, applyRefundState settlement db = .ok next ∧ next.notifications = db.notifications ∧
      next.bookings = db.bookings.set settlement.bookingId
        (settlement.booking.afterRefund settlement.payments.rows settlement.sourceId settlement.source) ∧
      next.payments.rows = settlement.settledRows := by
  unfold applyRefundState RefundSettlement.settledRows
  by_cases whole : settlement.source.amount ≤ successfulRefunds settlement.payments.rows settlement.sourceId
  · have found : settlement.payments.rows[settlement.sourceId]? = some settlement.source := by
      rw [recorded.sourceId]
      exact recorded.source
    have origin := settlement.source.status_origin .refunded
    obtain ⟨payments, saved⟩ := storePayment_inactive found origin rfl
      (by simp [Payment.isActiveAdvance, PaymentRecordStatus.isActiveAdvance])
    simp only [if_pos whole, saved, ok_bind]
    exact ⟨_, rfl, rfl, rfl, storePayment_accepted saved⟩
  · simp only [if_neg whole]
    exact ⟨_, rfl, rfl, rfl, rfl⟩

theorem Recorded.shows {target : RefundTarget} {terms : RefundTerms} {db next : Db}
    {settlement : RefundSettlement} {state : RefundState} {status : PaymentRecordStatus}
    (recorded : Recorded target terms db settlement state status)
    (bookings : next.bookings = db.bookings.set settlement.bookingId
      (settlement.booking.afterRefund settlement.payments.rows settlement.sourceId settlement.source))
    (rows : next.payments.rows = settlement.settledRows) :
    Shows target terms next (state.settle terms status) := by
  have inBounds := (List.getElem?_eq_some_iff.mp recorded.source).1
  obtain ⟨bookingStatus, paymentStatus, cancelled⟩ := recorded.afterRefund rfl
  have booking : ∃ booking, next.bookings[target.bookingId]? = some booking ∧
      booking.bookingStatus = (state.settle terms status).booking ∧
      booking.paymentStatus = (state.settle terms status).payment ∧
      booking.cancelledAt.isSome = terms.cancelled := by
    refine ⟨_, ?_, bookingStatus, paymentStatus, cancelled⟩
    rw [bookings, recorded.bookingId, List.getElem?_set_self (List.getElem?_eq_some_iff.mp recorded.booking).1]
  unfold RefundSettlement.settledRows at rows
  by_cases whole : terms.isWhole status = true
  · rw [if_pos (recorded.whole_iff.mpr whole), recorded.sourceId] at rows
    have marked : ({ settlement.source with status := .refunded } : Payment).parentPayment = none :=
      recorded.stored.parent
    obtain ⟨successful, pending⟩ :=
      refunds_set_source target.sourceId recorded.source recorded.stored.parent marked
    refine ⟨⟨{ settlement.source with status := .refunded }, ?_, ?_, ?_⟩, booking, ?_, ?_, ?_⟩
    · rw [rows, List.getElem?_set_self inBounds]
    · exact ⟨recorded.stored.reference, recorded.stored.booking, recorded.stored.amount, recorded.stored.parent,
        recorded.stored.refund⟩
    · rw [RefundState.settle_whole whole]
    · rw [rows, RefundState.settle_refund]
      exact recorded.refund.set_source recorded.source recorded.stored.parent recorded.stored.refund
    · rw [rows, RefundState.settle_refund, successful, recorded.successful]
    · rw [rows, RefundState.settle_refund, pending, recorded.pending]
      rfl
  · rw [if_neg fun isWhole => whole (recorded.whole_iff.mp isWhole)] at rows
    refine ⟨⟨settlement.source, ?_, recorded.stored, ?_⟩, booking, ?_, ?_, ?_⟩
    · rw [rows, recorded.source]
    · rw [recorded.sourceStatus, RefundState.settle, if_neg whole]
    · rw [rows, RefundState.settle_refund]
      exact recorded.refund
    · rw [rows, RefundState.settle_refund, recorded.successful]
    · rw [rows, RefundState.settle_refund, recorded.pending]
      rfl

theorem settleRefund_notifications {settlement : RefundSettlement} {applied db : Db} (initiated completed : Bool)
    (same : applied.notifications = db.notifications)
    (applies : applyRefundState settlement db = .ok applied) :
    ∃ next, settleRefund settlement initiated completed db = .ok next ∧ next.bookings = applied.bookings ∧
      next.payments = applied.payments ∧
      next.refundCompletions = db.refundCompletions + if completed then 1 else 0 := by
  simp only [settleRefund, applies, ok_bind]
  refine ⟨_, rfl, ?_⟩
  cases initiated <;> cases completed <;>
    simp [Db.emitRefund, Db.emit, Db.refundCompletions, countWhere, same]

theorem Recorded.settled {target : RefundTarget} {terms : RefundTerms} {db : Db}
    {settlement : RefundSettlement} {state : RefundState} {status : PaymentRecordStatus}
    (recorded : Recorded target terms db settlement state status) (initiated completed : Bool) :
    ∃ next, settleRefund settlement initiated completed db = .ok next ∧
      Shows target terms next (state.settle terms status) ∧
      next.refundCompletions = db.refundCompletions + if completed then 1 else 0 := by
  obtain ⟨applied, applies, same, bookings, rows⟩ := recorded.applied
  obtain ⟨next, settled, bookingsKept, paymentsKept, completions⟩ :=
    settleRefund_notifications initiated completed same applies
  refine ⟨next, settled, recorded.shows ?_ ?_, completions⟩
  · rw [bookingsKept, bookings]
  · rw [paymentsKept, rows]

theorem Shows.inserted {target : RefundTarget} {terms : RefundTerms} {db : Db} {state : RefundState}
    (shows : Shows target terms db state) (unknown : state.refund = none) {source : Payment} {booking : Booking}
    (found : db.payments.rows[target.sourceId]? = some source)
    (foundBooking : db.bookings[target.bookingId]? = some booking) {now : Instant} {currency key : String}
    {status : PaymentRecordStatus} {settlement : RefundSettlement}
    (accepted : insertRefund target.sourceId source booking
      (newRefund now target.sourceId source terms.amount currency key target.refundReference status) db =
        .ok settlement) : Recorded target terms db settlement state status := by
  obtain ⟨sourceIdEq, sourceEq, bookingIdEq, bookingEq, _, _, rows⟩ := insertRefund_accepted accepted
  obtain ⟨source', found', stored, sourceStatus⟩ := shows.source
  rw [found, Option.some.injEq] at found'
  subst found'
  obtain ⟨booking', foundBooking', bookingStatus, paymentStatus, cancelled⟩ := shows.booking
  rw [foundBooking, Option.some.injEq] at foundBooking'
  subst foundBooking'
  have successful := shows.successful
  have pending := shows.pending
  rw [unknown] at successful pending
  refine ⟨sourceIdEq, ?_, by rw [sourceEq]; exact stored, by rw [sourceEq, sourceStatus], ?_, ?_, ?_, ?_, ?_, ?_, ?_, ?_⟩
  · rw [rows, sourceEq, List.getElem?_append_left (List.getElem?_eq_some_iff.mp found).1, found]
  · rw [bookingIdEq, stored.booking]
  · rw [bookingEq, foundBooking]
  · rw [bookingEq, bookingStatus]
  · rw [bookingEq, paymentStatus]
  · rw [bookingEq, cancelled]
  · rw [rows]
    exact .present db.payments.rows.length
      (newRefund now target.sourceId source terms.amount currency key target.refundReference status)
      (by simp) rfl rfl rfl rfl
  · rw [rows, successfulRefunds, sumWhere_append]
    unfold successfulRefunds at successful
    rw [successful]
    cases status <;> simp [Payment.isRefundOf, newRefund, RefundTerms.paidBack]
  · rw [rows, countWhere_append, pending]
    cases status <;> simp [Payment.isPendingRefundOf, Payment.isRefundOf, newRefund, PaymentRecordStatus.isPending]

theorem StoredRefund.row {target : RefundTarget} {amount : Money} {payments : PaymentTable}
    {status : Option PaymentRecordStatus} (stored : StoredRefund target amount payments.rows status)
    {refundId : PaymentId} {refund : Payment} (found : payments.rows[refundId]? = some refund)
    (reference : refund.providerRefundId = some target.refundReference) :
    status = some refund.status ∧ refund.parentPayment = some target.sourceId ∧ refund.paymentType = .refund ∧
      refund.amount = amount := by
  cases stored with
  | absent unknown => exact absurd reference (unknown refund (List.mem_of_getElem? found))
  | present otherId other foundOther isReference parent kind amountOf =>
      by_cases same : otherId = refundId
      · subst same
        rw [found, Option.some.injEq] at foundOther
        subst foundOther
        exact ⟨rfl, parent, kind, amountOf⟩
      · have apart := payments.apart clashes_symm foundOther found same
        simp [Payment.clashes, sameValue, isReference, reference] at apart

theorem Shows.updated {target : RefundTarget} {terms : RefundTerms} {db : Db} {state : RefundState}
    (shows : Shows target terms db state) {source : Payment} {booking : Booking} {refundId : PaymentId}
    {refund : Payment} (found : db.payments.rows[target.sourceId]? = some source)
    (foundBooking : db.bookings[target.bookingId]? = some booking)
    (foundRefund : db.payments.rows[refundId]? = some refund)
    (reference : refund.providerRefundId = some target.refundReference) {now : Instant}
    {status : PaymentRecordStatus} {settlement : RefundSettlement}
    (accepted : updateRefund now refundId refund status target.sourceId source target.bookingId booking db =
      .ok settlement) : Recorded target terms db settlement state status := by
  obtain ⟨sourceIdEq, sourceEq, bookingIdEq, bookingEq, _, _, rows⟩ := updateRefund_accepted accepted
  obtain ⟨source', found', stored, sourceStatus⟩ := shows.source
  rw [found, Option.some.injEq] at found'
  subst found'
  obtain ⟨booking', foundBooking', bookingStatus, paymentStatus, cancelled⟩ := shows.booking
  rw [foundBooking, Option.some.injEq] at foundBooking'
  subst foundBooking'
  obtain ⟨isStatus, parent, kind, amountOf⟩ := shows.refund.row foundRefund reference
  have successful := shows.successful
  have pending := shows.pending
  rw [isStatus] at successful pending
  have differs : refundId ≠ target.sourceId := by
    intro same
    rw [same, found, Option.some.injEq] at foundRefund
    rw [← foundRefund, stored.parent] at parent
    cases parent
  refine ⟨sourceIdEq, ?_, by rw [sourceEq]; exact stored, by rw [sourceEq, sourceStatus], bookingIdEq, ?_, ?_, ?_,
    ?_, ?_, ?_, ?_⟩
  · rw [rows, sourceEq, List.getElem?_set_ne differs, found]
  · rw [bookingEq, foundBooking]
  · rw [bookingEq, bookingStatus]
  · rw [bookingEq, paymentStatus]
  · rw [bookingEq, cancelled]
  · rw [rows]
    exact .present refundId (refund.withRefundStatus now status)
      (by rw [List.getElem?_set_self (List.getElem?_eq_some_iff.mp foundRefund).1]) reference parent kind amountOf
  · rw [rows, successfulRefunds, sumWhere_set _ _ _ foundRefund]
    unfold successfulRefunds at successful
    rw [successful]
    cases refund.status <;> cases status <;>
      simp [Payment.isRefundOf, Payment.withRefundStatus, parent, amountOf, RefundTerms.paidBack]
  · have count := countWhere_set (Payment.isPendingRefundOf target.sourceId)
      (refund.withRefundStatus now status) foundRefund
    have before : refund.isPendingRefundOf target.sourceId = refund.status.isPending := by
      simp [Payment.isPendingRefundOf, Payment.isRefundOf, parent]
    have after : (refund.withRefundStatus now status).isPendingRefundOf target.sourceId = status.isPending := by
      simp [Payment.isPendingRefundOf, Payment.isRefundOf, Payment.withRefundStatus, parent]
    rw [before, after, pending, Option.any_some] at count
    rw [rows]
    omega

theorem updateRefund_stored {now : Instant} {refundId : PaymentId} {refund : Payment}
    {status : PaymentRecordStatus} {sourceId : PaymentId} {source : Payment} {bookingId : BookingId}
    {booking : Booking} {db : Db} (found : db.payments.rows[refundId]? = some refund)
    (kind : refund.paymentType = .refund) :
    ∃ settlement, updateRefund now refundId refund status sourceId source bookingId booking db = .ok settlement := by
  have origin := refund.withRefundStatus_origin now status
  obtain ⟨payments, saved⟩ := storePayment_inactive found origin rfl
    (by simp [Payment.isActiveAdvance, Payment.withRefundStatus, kind])
  exact ⟨_, by simp only [updateRefund, saved, ok_bind]; rfl⟩

theorem newRefund_clashes {now : Instant} {sourceId : PaymentId} {source payment : Payment} {amount : Money}
    {currency key reference : String} {status : PaymentRecordStatus}
    (unknown : payment.providerRefundId ≠ some reference) :
    payment.clashes (newRefund now sourceId source amount currency key reference status) =
      (payment.isKeyed source.booking .refund key && key != "") := by
  have other : sameValue payment.providerRefundId (some reference) = false := by
    rw [Bool.eq_false_iff, ne_eq, sameValue_some]
    exact unknown
  have inactive : (newRefund now sourceId source amount currency key reference status).isActiveAdvance = false := by
    simp [Payment.isActiveAdvance, newRefund]
  rw [Payment.clashes, inactive]
  by_cases sameKey : payment.idempotencyKey = key
  · simp [newRefund, Payment.isKeyed, other, sameKey]
  · have otherKey : (payment.idempotencyKey == key) = false := by simpa using sameKey
    simp [newRefund, Payment.isKeyed, other, otherKey]

theorem insertRefund_stored {now : Instant} {sourceId : PaymentId} {source : Payment} {booking : Booking}
    {amount : Money} {currency key reference : String} {status : PaymentRecordStatus} {db : Db}
    (unknown : ∀ payment ∈ db.payments.rows, payment.providerRefundId ≠ some reference)
    (free : ∀ payment ∈ db.payments.rows, payment.isKeyed source.booking .refund key = false) :
    ∃ settlement, insertRefund sourceId source booking
      (newRefund now sourceId source amount currency key reference status) db = .ok settlement := by
  have fresh : ∀ other ∈ db.payments.rows,
      ¬ other.clashes (newRefund now sourceId source amount currency key reference status) = true := by
    intro other member
    rw [newRefund_clashes (unknown other member), free other member]
    nofun
  obtain ⟨payments, inserted⟩ := UniqueTable.insert?_fresh fresh
  exact ⟨_, by simp only [insertRefund, inserted, orRaise, ok_bind]; rfl⟩

/-! The gateway's events. -/

theorem refundFields_accepted {payload : Json} {fields : RefundFields} (read : refundFields payload = .ok fields) :
    ∃ entity amountValue, webhookEntity payload "refund" = .ok entity ∧ entity.get "id" = .ok fields.id ∧
      entity.get "payment_id" = .ok fields.paymentId ∧ entity.get "status" = .ok fields.status ∧
      entity.getOr "amount" (.number 0) = .ok amountValue ∧ amountValue.decimal = .ok fields.amount ∧
      entity.get "currency" = .ok fields.currency := by
  simp only [refundFields, accepted_bind, accepted_pure] at read
  obtain ⟨entity, found, id, hasId, paymentId, hasPaymentId, status, hasStatus, amountValue, hasAmount, amount,
    isAmount, currency, hasCurrency, rfl⟩ := read
  exact ⟨entity, amountValue, found, hasId, hasPaymentId, hasStatus, hasAmount, isAmount, hasCurrency⟩

theorem firstRow_source {payments : PaymentTable} {sourceId : PaymentId} {source : Payment} {reference : String}
    (found : payments.rows[sourceId]? = some source) (named : source.providerPaymentId = some reference) :
    firstRow (·.providerPaymentId == some reference) payments.rows = some (sourceId, source) := by
  refine firstRow_unique found (by simp [named]) fun other row present sameReference => ?_
  refine Decidable.byContradiction fun differs => ?_
  have apart := payments.apart clashes_symm present found differs
  simp only [beq_iff_eq] at sameReference
  simp [Payment.clashes, sameValue, sameReference, named] at apart

def WebhookKeyFree (target : RefundTarget) (rows : List Payment) : Prop :=
  ∀ payment ∈ rows, payment.isKeyed target.bookingId .refund ("webhook-" ++ target.refundReference) = false

theorem deliver_settled {target : RefundTarget} {terms : RefundTerms} {db : Db} {state : RefundState}
    {event : RefundEvent} {status : PaymentRecordStatus} {previous : Option PaymentRecordStatus}
    {settlement : RefundSettlement}
    (delivered : deliveredRefund event.now event.payload db = .ok (previous, settlement))
    (isStatus : settlement.refund.status = status)
    (recorded : Recorded target terms db settlement state status) :
    Shows target terms (deliver db event) (state.settle terms status) ∧
      (deliver db event).refundCompletions =
        db.refundCompletions + if status = .success ∧ previous ≠ some .success then 1 else 0 := by
  obtain ⟨next, settled, shown, completions⟩ := recorded.settled (decide (previous = none))
    (decide (settlement.refund.status = .success ∧ previous ≠ some .success))
  have delivers : deliver db event = next := by
    simp only [deliver, processRefundWebhook, delivered, ok_bind, settled]
    rfl
  rw [delivers]
  refine ⟨shown, ?_⟩
  rw [completions, isStatus]
  simp only [decide_eq_true_eq]

theorem deliver_shows {target : RefundTarget} {terms : RefundTerms} {db : Db} {state : RefundState}
    {event : RefundEvent} {status : PaymentRecordStatus} (shows : Shows target terms db state)
    (reports : event.Reports target terms.amount status)
    (free : state.refund = none → WebhookKeyFree target db.payments.rows) :
    Shows target terms (deliver db event) (state.settle terms status) ∧
      (deliver db event).refundCompletions =
        db.refundCompletions + if status = .success ∧ state.refund ≠ some .success then 1 else 0 := by
  obtain ⟨source, found, stored, _⟩ := shows.source
  obtain ⟨booking, foundBooking, _⟩ := shows.booking
  obtain ⟨fields, read, id, paymentId, isStatus, amount, namesRefund, namesPayment⟩ := reports.read
  obtain ⟨entity, amountValue, foundEntity, hasId, hasPaymentId, hasStatus, hasAmount, isAmount, hasCurrency⟩ :=
    refundFields_accepted read
  have sourceRow := firstRow_source found stored.reference
  have complete : fields.id.truthy = true ∧ fields.paymentId.truthy = true := ⟨namesRefund, namesPayment⟩
  cases row : target.row db with
  | some existing =>
      obtain ⟨refundId, refund⟩ := existing
      have facts := firstRow_some row
      simp only [beq_iff_eq] at facts
      obtain ⟨isRefund, _, kind, _⟩ := shows.refund.row facts.1 facts.2
      have saves : ∃ settlement, updateRefund event.now refundId refund status target.sourceId source
          target.bookingId booking db = .ok settlement := updateRefund_stored facts.1 kind
      obtain ⟨settlement, saved⟩ := saves
      have delivered : deliveredRefund event.now event.payload db = .ok (some refund.status, settlement) := by
        unfold RefundTarget.row at row
        simp only [deliveredRefund, foundEntity, hasId, hasPaymentId, hasStatus, hasAmount, isAmount, hasCurrency,
          ok_bind, require_of _ complete, paymentId, sourceRow, orRaise, stored.booking, foundBooking, id, row,
          isStatus, saved]
        rfl
      have settledStatus : settlement.refund.status = status := by
        rw [(updateRefund_accepted saved).2.2.2.2.1]
        rfl
      rw [isRefund]
      exact deliver_settled delivered settledStatus
        (shows.updated found foundBooking facts.1 facts.2 saved)
  | none =>
      have unknown : ∀ payment ∈ db.payments.rows, payment.providerRefundId ≠ some target.refundReference := by
        intro payment member
        have other := firstRow_none.mp row payment member
        simpa using other
      have isAbsent : state.refund = none := by
        have refund := shows.refund
        cases status : state.refund with
        | none => rfl
        | some present =>
            rw [status] at refund
            cases refund with
            | present refundId refund foundRefund reference parent kind amountOf =>
                exact absurd reference (unknown refund (List.mem_of_getElem? foundRefund))
      have keyFree := free isAbsent
      unfold WebhookKeyFree at keyFree
      rw [← stored.booking] at keyFree
      have inserts : ∃ settlement, insertRefund target.sourceId source booking
          (newRefund event.now target.sourceId source terms.amount
            (if fields.currency.truthy then fields.currency.str else source.currency)
            ("webhook-" ++ target.refundReference) target.refundReference status) db = .ok settlement :=
        insertRefund_stored unknown keyFree
      obtain ⟨settlement, saved⟩ := inserts
      have delivered : deliveredRefund event.now event.payload db = .ok (none, settlement) := by
        unfold RefundTarget.row at row
        simp only [deliveredRefund, foundEntity, hasId, hasPaymentId, hasStatus, hasAmount, isAmount, hasCurrency,
          ok_bind, require_of _ complete, paymentId, sourceRow, orRaise, stored.booking, foundBooking, id, row,
          isStatus, amount, saved]
        rfl
      have settledStatus : settlement.refund.status = status := by
        rw [(insertRefund_accepted saved).2.2.2.2.1]
        rfl
      rw [isAbsent]
      exact deliver_settled delivered settledStatus (shows.inserted isAbsent found foundBooking saved)

theorem deliver_lost {target : RefundTarget} {terms : RefundTerms} {db : Db} {state : RefundState}
    {event : RefundEvent} {status : PaymentRecordStatus} (shows : Shows target terms db state)
    (reports : event.Reports target terms.amount status) (absent : state.refund = none)
    (taken : ¬ WebhookKeyFree target db.payments.rows) : deliver db event = db := by
  obtain ⟨source, found, stored, _⟩ := shows.source
  obtain ⟨booking, foundBooking, _⟩ := shows.booking
  obtain ⟨fields, read, id, paymentId, isStatus, amount, namesRefund, namesPayment⟩ := reports.read
  obtain ⟨entity, amountValue, foundEntity, hasId, hasPaymentId, hasStatus, hasAmount, isAmount, hasCurrency⟩ :=
    refundFields_accepted read
  have sourceRow := firstRow_source found stored.reference
  have complete : fields.id.truthy = true ∧ fields.paymentId.truthy = true := ⟨namesRefund, namesPayment⟩
  have refund := shows.refund
  rw [absent] at refund
  cases refund with
  | absent unknown =>
      have row : firstRow (·.providerRefundId == some target.refundReference) db.payments.rows = none := by
        rw [firstRow_none]
        intro payment member
        simpa using unknown payment member
      have keyed : "webhook-" ++ target.refundReference ≠ "" := webhookKey_nonempty _
      unfold WebhookKeyFree at taken
      rw [← stored.booking] at taken
      unfold deliver
      cases processed : processRefundWebhook event.now event.payload db with
      | error error => rfl
      | ok result =>
          simp only [processRefundWebhook, deliveredRefund, foundEntity, hasId, hasPaymentId, hasStatus, hasAmount,
            isAmount, hasCurrency, ok_bind, require_of _ complete, paymentId, sourceRow, orRaise, stored.booking,
            foundBooking, id, row, accepted_bind] at processed
          obtain ⟨_, ⟨settlement, inserted, _⟩, _⟩ := processed
          exact absurd (insertRefund_free keyed inserted) taken

theorem deliverAll_shows {target : RefundTarget} {terms : RefundTerms} {db : Db} {state : RefundState}
    {events : List RefundEvent} (shows : Shows target terms db state)
    (reports : ∀ event ∈ events, event.Reports target terms.amount event.answer)
    (free : state.refund = none → WebhookKeyFree target db.payments.rows) :
    Shows target terms (deliverAll db events)
        ((events.map RefundEvent.answer).foldl (RefundState.settle terms) state) ∧
      (deliverAll db events).refundCompletions =
        db.refundCompletions + RefundState.completions state.refund (events.map RefundEvent.answer) := by
  induction events generalizing db state with
  | nil => exact ⟨shows, rfl⟩
  | cons first rest ih =>
      obtain ⟨shown, completed⟩ := deliver_shows shows (reports first List.mem_cons_self) free
      have known : (state.settle terms first.answer).refund = none →
          WebhookKeyFree target (deliver db first).payments.rows := by
        rw [RefundState.settle_refund]
        intro absent
        cases absent
      obtain ⟨showsLast, completions⟩ := ih shown
        (fun event member => reports event (List.mem_cons_of_mem _ member)) known
      refine ⟨showsLast, ?_⟩
      rw [deliverAll, List.foldl_cons, ← deliverAll, completions, completed, RefundState.settle_refund,
        List.map_cons, RefundState.completions]
      omega

theorem deliverAll_lost {target : RefundTarget} {terms : RefundTerms} {db : Db} {state : RefundState}
    {events : List RefundEvent} (shows : Shows target terms db state)
    (reports : ∀ event ∈ events, event.Reports target terms.amount event.answer) (absent : state.refund = none)
    (taken : ¬ WebhookKeyFree target db.payments.rows) : deliverAll db events = db := by
  induction events with
  | nil => rfl
  | cons first rest ih =>
      rw [deliverAll, List.foldl_cons, deliver_lost shows (reports first List.mem_cons_self) absent taken]
      exact ih fun event member => reports event (List.mem_cons_of_mem _ member)

theorem createRefund_shows {target : RefundTarget} {terms : RefundTerms} {db : Db} {state : RefundState}
    {source : Payment} {booking : Booking} {key providerPaymentId : String} {answer : Json}
    {status : PaymentRecordStatus} (now : Instant) (shows : Shows target terms db state)
    (planned : createRefundPlan target.sourceId terms.amount key db = .ok (.request source booking providerPaymentId))
    (absent : state.refund = none) (isStatus : PsCore.refundStatus answer = status) :
    ∃ refundId next refund, createRefund now target.sourceId terms.amount key
        (.ok { id := target.refundReference, status := answer }) db = .ok (refundId, next) ∧
      Shows target terms next (state.settle terms status) ∧ next.payments.rows[refundId]? = some refund ∧
      refund.providerRefundId = some target.refundReference ∧ refund.booking = target.bookingId := by
  obtain ⟨found, foundBooking, _, _, _, free, _, _⟩ := createRefundPlan_accepted planned
  obtain ⟨source', found', stored, _⟩ := shows.source
  rw [found, Option.some.injEq] at found'
  subst found'
  rw [stored.booking] at foundBooking
  have unknown : ∀ payment ∈ db.payments.rows, payment.providerRefundId ≠ some target.refundReference := by
    have refund := shows.refund
    rw [absent] at refund
    cases refund with
    | absent unknown => exact unknown
  have inserts : ∃ settlement, insertRefund target.sourceId source booking
      (newRefund now target.sourceId source terms.amount source.currency key target.refundReference status) db =
        .ok settlement := insertRefund_stored unknown free
  obtain ⟨settlement, inserted⟩ := inserts
  have recorded := shows.inserted absent found foundBooking inserted
  obtain ⟨next, settled, shown, _⟩ := recorded.settled true (decide (status = .success))
  obtain ⟨sourceIdEq, _, _, _, refundEq, refundIdEq, rows⟩ := insertRefund_accepted inserted
  have created : createRefund now target.sourceId terms.amount key
      (.ok { id := target.refundReference, status := answer }) db = .ok (settlement.refundId, next) := by
    simp only [createRefund, planned, ok_bind, isStatus, inserted, settled]
    rfl
  refine ⟨_, next, settlement.refund, created, shown, ?_, ?_, ?_⟩
  · have differs : target.sourceId ≠ db.payments.rows.length :=
      Nat.ne_of_lt (List.getElem?_eq_some_iff.mp found).1
    rw [(settleRefund_accepted settled).2.1, refundIdEq, refundEq]
    unfold RefundSettlement.settledRows
    split
    · rw [sourceIdEq, List.getElem?_set_ne differs, rows]
      simp
    · rw [rows]
      simp
  · rw [refundEq]
    rfl
  · rw [refundEq, ← stored.booking]
    rfl

theorem reconcileRefund_shows {target : RefundTarget} {terms : RefundTerms} {db : Db} {state : RefundState}
    {refundId : PaymentId} {refund : Payment} {answer : Json} {status : PaymentRecordStatus} (now : Instant)
    (shows : Shows target terms db state) (found : db.payments.rows[refundId]? = some refund)
    (reference : refund.providerRefundId = some target.refundReference)
    (bookingOf : refund.booking = target.bookingId) (named : target.refundReference ≠ "")
    (isStatus : PsCore.refundStatus answer = status) :
    ∃ next, reconcileRefund now refundId (.ok answer) db = .ok (refundId, next) ∧
      Shows target terms next (state.settle terms status) := by
  obtain ⟨source, foundSource, stored, _⟩ := shows.source
  obtain ⟨booking, foundBooking, _⟩ := shows.booking
  obtain ⟨_, parent, kind, _⟩ := shows.refund.row found reference
  have saves : ∃ settlement, updateRefund now refundId refund status target.sourceId source target.bookingId
      booking db = .ok settlement := updateRefund_stored found kind
  obtain ⟨settlement, saved⟩ := saves
  have recorded := shows.updated foundSource foundBooking found reference saved
  obtain ⟨next, settled, shown, _⟩ := recorded.settled false
    (decide (refund.status ≠ .success ∧ settlement.refund.status = .success))
  refine ⟨next, ?_, shown⟩
  have isNamed : refund.providerRefundId.any (· ≠ "") = true := by simp [reference, named]
  have reconciled : reconciledRefund now refundId (.ok answer) db = .ok (refund, settlement) := by
    simp only [reconciledRefund, found, Option.filter_some, kind, decide_true, if_true, orRaise, ok_bind, bookingOf,
      foundBooking, require_of _ isNamed, parent, foundSource, isStatus, saved]
    rfl
  simp only [reconcileRefund, reconciled, ok_bind, settled]
  rfl

theorem Shows.refundStatus {target : RefundTarget} {terms : RefundTerms} {db : Db} {state : RefundState}
    (shows : Shows target terms db state) : target.refundStatus db = state.refund := by
  unfold RefundTarget.refundStatus
  cases row : target.row db with
  | some found =>
      have facts := firstRow_some row
      simp only [beq_iff_eq] at facts
      rw [(shows.refund.row facts.1 facts.2).1]
      rfl
  | none =>
      have refund := shows.refund
      cases status : state.refund with
      | none => rfl
      | some present =>
          rw [status] at refund
          cases refund with
          | present refundId refund found reference parent kind amountOf =>
              have other := firstRow_none.mp row refund (List.mem_of_getElem? found)
              simp [reference] at other

theorem Shows.sourceStatus {target : RefundTarget} {terms : RefundTerms} {db : Db} {state : RefundState}
    (shows : Shows target terms db state) : target.sourceStatus db = some state.source := by
  obtain ⟨source, found, _, status⟩ := shows.source
  simp [RefundTarget.sourceStatus, found, status]

theorem Shows.bookingStatuses {target : RefundTarget} {terms : RefundTerms} {db : Db} {state : RefundState}
    (shows : Shows target terms db state) : target.bookingStatuses db = some (state.booking, state.payment) := by
  obtain ⟨booking, found, bookingStatus, paymentStatus, _⟩ := shows.booking
  simp [RefundTarget.bookingStatuses, found, bookingStatus, paymentStatus]

theorem RefundOf.shows {db : Db} {target : RefundTarget} {amount : Money} {source : Payment} {booking : Booking}
    (refundOf : RefundOf db target amount source booking) (sound : PaymentsSound db) :
    Shows target (refundTerms db target amount source booking) db (refundState db target source booking) := by
  have isSound := sound.rows source (List.mem_of_getElem? refundOf.found)
  have isAdvance : source.paymentType = .bookingAdvance :=
    isSound.advance (isSound.paid (by rw [refundOf.reference]; rfl))
  have notRefund : ¬ (source.providerRefundId.isSome = true ∨ source.parentPayment.isSome = true) := by
    intro isRefund
    have kind := isSound.refund isRefund
    rw [isAdvance] at kind
    cases kind
  have parent : source.parentPayment = none := by
    cases parent : source.parentPayment with
    | none => rfl
    | some _ => exact absurd (.inr (by rw [parent]; rfl)) notRefund
  have noReference : source.providerRefundId = none := by
    cases reference : source.providerRefundId with
    | none => rfl
    | some _ => exact absurd (.inl (by rw [reference]; rfl)) notRefund
  refine ⟨⟨source, refundOf.found, ⟨refundOf.reference, refundOf.bookingId, rfl, parent, noReference⟩, rfl⟩,
    ⟨booking, refundOf.foundBooking, rfl, rfl, rfl⟩, ?_, ?_, ?_⟩
  · cases row : target.row db with
    | some existing =>
        obtain ⟨refundId, refund⟩ := existing
        have facts := firstRow_some row
        simp only [beq_iff_eq] at facts
        obtain ⟨parentOf, amountOf⟩ := refundOf.owned refundId refund row
        have kind := (sound.rows refund (List.mem_of_getElem? facts.1)).refund (.inr (by rw [parentOf]; rfl))
        have isStatus : (refundState db target source booking).refund = some refund.status := by
          simp [refundState, RefundTarget.refundStatus, row]
        rw [isStatus]
        exact .present refundId refund facts.1 facts.2 parentOf kind amountOf
    | none =>
        have isAbsent : (refundState db target source booking).refund = none := by
          simp [refundState, RefundTarget.refundStatus, row]
        rw [isAbsent]
        refine .absent fun payment member => ?_
        simpa using firstRow_none.mp row payment member
  · exact (Int.sub_add_cancel _ _).symm
  · have counted : (target.refundStatus db).any PaymentRecordStatus.isPending = true →
        0 < countWhere (Payment.isPendingRefundOf target.sourceId) db.payments.rows := by
      intro awaits
      unfold RefundTarget.refundStatus at awaits
      cases row : target.row db with
      | some existing =>
          obtain ⟨refundId, refund⟩ := existing
          have present := (firstRow_some row).1
          obtain ⟨parentOf, _⟩ := refundOf.owned refundId refund row
          rw [row] at awaits
          refine List.countP_pos_iff.mpr ⟨refund, List.mem_of_getElem? present, ?_⟩
          simpa [Payment.isPendingRefundOf, Payment.isRefundOf, parentOf] using awaits
      | none =>
          rw [row] at awaits
          cases awaits
    cases awaits : (target.refundStatus db).any PaymentRecordStatus.isPending with
    | true =>
        have positive := counted awaits
        simp only [refundTerms, refundState, awaits, if_true]
        omega
    | false => simp [refundTerms, refundState, awaits]

end PsCore
