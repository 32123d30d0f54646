import PsCore.CapturedMoney
import PsCore.Refunds

/-!
An event of the gateway that is dispatched again. The first dispatch leaves the rows such that the second one reads
what it would write.
-/

namespace PsCore

open Fallible RowTable TransitionRun

def Payment.timeless (payment : Payment) : Payment :=
  { payment with refundedAt := payment.refundedAt.map fun _ => 0 }

structure SameButTimes (db next : Db) : Prop where
  payments : next.payments.rows.map Payment.timeless = db.payments.rows.map Payment.timeless
  rest : { next with payments := db.payments } = db

/-- The refund that an event names, with the payment that it names as the refund's source. -/
def namedRefund (payload : Json) (db : Db) : Except ServiceError (String × PaymentId × Payment) := do
  let entity ← webhookEntity payload "refund"
  let refundId ← entity.get "id"
  let sourcePaymentId ← entity.get "payment_id"
  let (sourceId, source) ← orRaise
    (firstRow (·.providerPaymentId == some sourcePaymentId.str) db.payments.rows) (.doesNotExist "Payment")
  pure (refundId.str, sourceId, source)

/-- The source is neither the refund itself nor its own child. -/
def RefundApart (payload : Json) (db : Db) : Prop :=
  ∀ refundId sourceId source, namedRefund payload db = .ok (refundId, sourceId, source) →
    source.providerRefundId ≠ some refundId ∧ source.parentPayment ≠ some sourceId

def refundEvents : List String := ["refund.created", "refund.processed", "refund.failed"]

section

variable {rows others : List Payment}

theorem timeless_getElem (same : rows.map Payment.timeless = others.map Payment.timeless) {position : PaymentId}
    {payment : Payment} (found : rows[position]? = some payment) :
    ∃ other, others[position]? = some other ∧ other.timeless = payment.timeless := by
  have mapped := congrArg (·[position]?) same
  simp only [List.getElem?_map, found, Option.map_some] at mapped
  obtain ⟨other, foundOther, isSame⟩ := Option.map_eq_some_iff.mp mapped.symm
  exact ⟨other, foundOther, isSame⟩

theorem clashes_timeless (first second : Payment) : first.timeless.clashes second.timeless = first.clashes second := rfl

theorem clashes_same {first second left right : Payment} (sameFirst : first.timeless = left.timeless)
    (sameSecond : second.timeless = right.timeless) : first.clashes second = left.clashes right := by
  rw [← clashes_timeless, sameFirst, sameSecond, clashes_timeless]

theorem successfulRefunds_same (same : rows.map Payment.timeless = others.map Payment.timeless) (sourceId : PaymentId) :
    successfulRefunds rows sourceId = successfulRefunds others sourceId := by
  have timeless (list : List Payment) :
      successfulRefunds list sourceId = successfulRefunds (list.map Payment.timeless) sourceId := by
    induction list with
    | nil => rfl
    | cons head rest ih =>
        unfold successfulRefunds at ih ⊢
        rw [List.map_cons, sumWhere_cons, sumWhere_cons, ih]
        rfl
  rw [timeless rows, timeless others, same]

theorem hasPendingRefund_same (same : rows.map Payment.timeless = others.map Payment.timeless) (sourceId : PaymentId) :
    hasPendingRefund rows sourceId = hasPendingRefund others sourceId := by
  have timeless (list : List Payment) :
      hasPendingRefund list sourceId = hasPendingRefund (list.map Payment.timeless) sourceId := by
    unfold hasPendingRefund
    rw [List.any_map]
    rfl
  rw [timeless rows, timeless others, same]

theorem storePayment_same {table next other : PaymentTable} {paymentId : PaymentId} {payment again : Payment}
    (same : table.rows.map Payment.timeless = other.rows.map Payment.timeless)
    (sameRow : payment.timeless = again.timeless) (stored : storePayment table paymentId payment = .ok next) :
    ∃ after, storePayment other paymentId again = .ok after ∧
      after.rows.map Payment.timeless = next.rows.map Payment.timeless := by
  simp only [storePayment, accepted_orRaise] at stored ⊢
  have free := (UniqueTable.replace?_isSome_iff clashes_symm).mp (Option.isSome_iff_exists.mpr ⟨next, stored⟩)
  have freeAgain : (other.replace? paymentId again).isSome = true := by
    refine (UniqueTable.replace?_isSome_iff clashes_symm).mpr fun position row found differs => ?_
    obtain ⟨before, foundBefore, isSame⟩ := timeless_getElem same.symm found
    rw [clashes_same isSame.symm sameRow.symm]
    exact free position before foundBefore differs
  obtain ⟨after, storedAgain⟩ := Option.isSome_iff_exists.mp freeAgain
  refine ⟨after, storedAgain, ?_⟩
  rw [UniqueTable.replace?_some stored, UniqueTable.replace?_some storedAgain, List.map_set, List.map_set, same,
    sameRow]

theorem insertPayment_same {table next : PaymentTable} {payment again : Payment}
    (sameRow : payment.timeless = again.timeless) (inserted : table.insert? payment = some next) :
    ∃ after, table.insert? again = some after ∧
      after.rows.map Payment.timeless = next.rows.map Payment.timeless := by
  obtain ⟨rows, fresh⟩ := UniqueTable.insert?_some inserted
  obtain ⟨after, insertedAgain⟩ : ∃ after, table.insert? again = some after := by
    refine UniqueTable.insert?_fresh fun other member => ?_
    have same : other.clashes again = other.clashes payment := clashes_same rfl sameRow.symm
    rw [same]
    exact fresh other member
  refine ⟨after, insertedAgain, ?_⟩
  rw [rows, (UniqueTable.insert?_some insertedAgain).1, List.map_append, List.map_append, List.map_singleton,
    List.map_singleton, sameRow]

end

structure RefundReading where
  refundId : String
  sourceId : PaymentId
  source : Payment
  booking : Booking
  status : PaymentRecordStatus
  amount : Money
  currency : String

def readRefund (payload : Json) (db : Db) : Except ServiceError RefundReading := do
  let entity ← webhookEntity payload "refund"
  let refundId ← entity.get "id"
  let sourcePaymentId ← entity.get "payment_id"
  require (refundId.truthy = true ∧ sourcePaymentId.truthy = true)
    (.validation "Webhook refund payload is incomplete.")
  let (sourceId, source) ← orRaise
    (firstRow (·.providerPaymentId == some sourcePaymentId.str) db.payments.rows) (.doesNotExist "Payment")
  let booking ← orRaise db.bookings[source.booking]? (.doesNotExist "Booking")
  let statusValue ← entity.get "status"
  let amountValue ← entity.getOr "amount" (.number 0)
  let amount ← amountValue.decimal
  let currencyValue ← entity.get "currency"
  pure {
    refundId := refundId.str
    sourceId := sourceId
    source := source
    booking := booking
    status := refundStatus statusValue
    amount := amount
    currency := if currencyValue.truthy then currencyValue.str else source.currency }

def RefundReading.write (now : Instant) (reading : RefundReading) (db : Db) :
    Except ServiceError (Option PaymentRecordStatus × RefundSettlement) :=
  match firstRow (·.providerRefundId == some reading.refundId) db.payments.rows with
  | some (existingId, existing) => do
      let settlement ← updateRefund now existingId existing reading.status reading.sourceId reading.source
        reading.source.booking reading.booking db
      pure (some existing.status, settlement)
  | none => do
      let settlement ← insertRefund reading.sourceId reading.source reading.booking (newRefund now reading.sourceId
        reading.source reading.amount reading.currency ("webhook-" ++ reading.refundId) reading.refundId
        reading.status) db
      pure (none, settlement)

section

variable {now later : Instant} {payload : Json} {db next : Db} {reading : RefundReading}

theorem deliveredRefund_reads (now : Instant) (payload : Json) (db : Db) :
    deliveredRefund now payload db = (readRefund payload db >>= fun reading => reading.write now db) := by
  simp only [deliveredRefund, readRefund, bind_assoc, pure_bind]
  rfl

theorem readRefund_accepted (read : readRefund payload db = .ok reading) :
    ∃ entity refundId sourcePaymentId, webhookEntity payload "refund" = .ok entity ∧ entity.get "id" = .ok refundId ∧
      entity.get "payment_id" = .ok sourcePaymentId ∧ reading.refundId = refundId.str ∧
      firstRow (·.providerPaymentId == some sourcePaymentId.str) db.payments.rows =
        some (reading.sourceId, reading.source) ∧
      db.bookings[reading.source.booking]? = some reading.booking := by
  simp only [readRefund, accepted_bind, accepted_orRaise, accepted_require, accepted_pure] at read
  obtain ⟨entity, hasEntity, refundId, hasRefund, paymentId, hasPayment, _, _, ⟨sourceId, source⟩, found, booking,
    foundBooking, _, _, _, _, _, _, _, _, rfl⟩ := read
  exact ⟨entity, refundId, paymentId, hasEntity, hasRefund, hasPayment, rfl, found, foundBooking⟩

end

structure RefundSettlement.Retimed (first second : RefundSettlement) : Prop where
  payments : second.payments.rows.map Payment.timeless = first.payments.rows.map Payment.timeless
  refund : second.refund.timeless = first.refund.timeless
  refundId : second.refundId = first.refundId
  sourceId : second.sourceId = first.sourceId
  source : second.source = first.source
  bookingId : second.bookingId = first.bookingId
  booking : second.booking = first.booking

section

variable {now later : Instant} {payload : Json} {db next : Db} {first second : RefundSettlement}

theorem withRefundStatus_timeless (now later : Instant) (refund : Payment) (status : PaymentRecordStatus) :
    (refund.withRefundStatus later status).timeless = (refund.withRefundStatus now status).timeless := by
  unfold Payment.withRefundStatus Payment.timeless
  by_cases success : status = .success <;> simp [success]

theorem newRefund_timeless (now later : Instant) (sourceId : PaymentId) (source : Payment) (amount : Money)
    (currency key refundId : String) (status : PaymentRecordStatus) :
    (newRefund later sourceId source amount currency key refundId status).timeless =
      (newRefund now sourceId source amount currency key refundId status).timeless := by
  unfold newRefund Payment.timeless
  by_cases success : status = .success <;> simp [success]

theorem RefundReading.write_retimed (later : Instant) {reading : RefundReading} {previous : Option PaymentRecordStatus}
    (accepted : reading.write now db = .ok (previous, first)) :
    ∃ second, reading.write later db = .ok (previous, second) ∧ first.Retimed second := by
  unfold RefundReading.write at accepted ⊢
  split at accepted
  · rename_i existingId existing stored
    simp only [updateRefund, accepted_bind, accepted_pure, Prod.mk.injEq] at accepted
    obtain ⟨_, ⟨payments, saved, rfl⟩, rfl, rfl⟩ := accepted
    obtain ⟨after, savedLater, same⟩ := storePayment_same rfl
      (withRefundStatus_timeless later now existing reading.status) saved
    simp only [updateRefund, savedLater, ok_bind]
    exact ⟨_, rfl, same, withRefundStatus_timeless now later existing reading.status, rfl, rfl, rfl, rfl, rfl⟩
  · simp only [insertRefund, accepted_bind, accepted_orRaise, accepted_pure, Prod.mk.injEq] at accepted
    obtain ⟨_, ⟨payments, inserted, rfl⟩, rfl, rfl⟩ := accepted
    obtain ⟨after, insertedLater, same⟩ := insertPayment_same (newRefund_timeless later now reading.sourceId
      reading.source reading.amount _ _ reading.refundId reading.status) inserted
    simp only [insertRefund, insertedLater, orRaise, ok_bind]
    exact ⟨_, rfl, same, newRefund_timeless now later reading.sourceId reading.source reading.amount _ _ _ _, rfl, rfl,
      rfl, rfl, rfl⟩

theorem afterRefund_same {rows others : List Payment} (same : rows.map Payment.timeless = others.map Payment.timeless)
    (sourceId : PaymentId) (source : Payment) (booking : Booking) :
    booking.afterRefund rows sourceId source = booking.afterRefund others sourceId source := by
  unfold Booking.afterRefund
  rw [successfulRefunds_same same, hasPendingRefund_same same]

theorem applyRefundState_retimed (retimed : first.Retimed second) (accepted : applyRefundState first db = .ok next) :
    ∃ other, applyRefundState second db = .ok other ∧ SameButTimes next other := by
  have written := afterRefund_same retimed.payments first.sourceId first.source first.booking
  simp only [applyRefundState] at accepted ⊢
  rw [retimed.sourceId, retimed.source, retimed.bookingId, retimed.booking, written,
    successfulRefunds_same retimed.payments]
  by_cases whole : first.source.amount ≤ successfulRefunds first.payments.rows first.sourceId
  · rw [if_pos whole] at accepted ⊢
    simp only [accepted_bind, accepted_pure] at accepted ⊢
    obtain ⟨payments, stored, rfl⟩ := accepted
    obtain ⟨after, storedAgain, same⟩ := storePayment_same retimed.payments.symm rfl stored
    exact ⟨_, ⟨after, storedAgain, rfl⟩, same, rfl⟩
  · rw [if_neg whole] at accepted ⊢
    simp only [accepted_pure] at accepted ⊢
    subst accepted
    exact ⟨_, rfl, retimed.payments, rfl⟩

theorem SameButTimes.emit (same : SameButTimes db next) (event : NotificationEvent) (recipient : UserId)
    (bookingId : BookingId) (payload : NotificationPayload) :
    SameButTimes (db.emit event recipient bookingId payload) (next.emit event recipient bookingId payload) := by
  refine ⟨same.payments, ?_⟩
  have emitted : { next with payments := db.payments }.emit event recipient bookingId payload =
      db.emit event recipient bookingId payload := by rw [same.rest]
  exact emitted

theorem settleRefund_retimed {initiated completed : Bool} (retimed : first.Retimed second)
    (accepted : settleRefund first initiated completed db = .ok next) :
    ∃ other, settleRefund second initiated completed db = .ok other ∧ SameButTimes next other := by
  have emits (event : NotificationEvent) {db other : Db} (same : SameButTimes db other) :
      SameButTimes (db.emitRefund event first) (other.emitRefund event second) := by
    have amount : second.refund.timeless.amount = first.refund.timeless.amount := by rw [retimed.refund]
    unfold Db.emitRefund
    rw [retimed.refundId, retimed.bookingId, retimed.booking,
      show second.refund.amount = first.refund.amount from amount]
    exact same.emit ..
  simp only [settleRefund, accepted_bind, accepted_pure] at accepted ⊢
  obtain ⟨applied, isApplied, rfl⟩ := accepted
  obtain ⟨other, isOther, same⟩ := applyRefundState_retimed retimed isApplied
  refine ⟨_, ⟨other, isOther, rfl⟩, ?_⟩
  cases initiated with
  | true => cases completed with
    | true => exact emits .refundCompleted (emits .refundInitiated same)
    | false => exact emits .refundInitiated same
  | false => cases completed with
    | true => exact emits .refundCompleted same
    | false => exact same

theorem processRefundWebhook_retimed (later : Instant)
    (accepted : processRefundWebhook now payload db = .ok ((), next)) :
    ∃ other, processRefundWebhook later payload db = .ok ((), other) ∧ SameButTimes next other := by
  simp only [processRefundWebhook, deliveredRefund_reads, accepted_bind, accepted_pure, Prod.mk.injEq, true_and]
    at accepted ⊢
  obtain ⟨⟨previous, first⟩, ⟨reading, isRead, written⟩, _, settled, rfl⟩ := accepted
  obtain ⟨second, writtenLater, retimed⟩ := RefundReading.write_retimed later written
  have status : second.refund.timeless.status = first.refund.timeless.status := by rw [retimed.refund]
  obtain ⟨other, settledLater, same⟩ := settleRefund_retimed retimed settled
  refine ⟨other, ⟨(previous, second), ⟨reading, isRead, writtenLater⟩, other, ?_, rfl⟩, same⟩
  rw [show second.refund.status = first.refund.status from status]
  exact settledLater

end

/-! The same event once more. -/

section

variable {now : Instant} {payload : Json} {db next : Db} {reading : RefundReading} {settlement : RefundSettlement}

theorem PaymentTable.ext {first second : PaymentTable} (rows : first.rows = second.rows) : first = second := by
  cases first
  cases second
  cases rows
  rfl

theorem set_stored {α : Type} {rows : List α} {key : Nat} {row : α} (found : rows[key]? = some row) :
    rows.set key row = rows := by
  obtain ⟨inBounds, rfl⟩ := List.getElem?_eq_some_iff.mp found
  exact List.set_getElem_self inBounds

theorem storePayment_stored {payments : PaymentTable} {paymentId : PaymentId} {payment : Payment}
    (found : payments.rows[paymentId]? = some payment) : storePayment payments paymentId payment = .ok payments := by
  obtain ⟨next, stored⟩ := (storePayment_iff found (.refl payment)).mpr fun position other present differs => by
    have apart := payments.apart clashes_symm present found differs
    simp only [Payment.clashes, Bool.or_eq_true, Bool.and_eq_true, beq_iff_eq, not_or] at apart
    exact ⟨apart.1.1.1.2, fun both => apart.1.2 ⟨⟨both.1, both.2.1⟩, both.2.2⟩⟩
  have same : next = payments := PaymentTable.ext ((storePayment_accepted stored).trans (set_stored found))
  rw [stored, same]

theorem firstRow_refund {payments : PaymentTable} {refundId : PaymentId} {refund : Payment} {reference : String}
    (found : payments.rows[refundId]? = some refund) (named : refund.providerRefundId = some reference) :
    firstRow (·.providerRefundId == some reference) payments.rows = some (refundId, refund) := by
  refine firstRow_unique found (by simp [named]) fun other row present sameReference => ?_
  refine Decidable.byContradiction fun differs => ?_
  have apart := payments.apart clashes_symm present found differs
  simp only [beq_iff_eq] at sameReference
  simp [Payment.clashes, sameValue, sameReference, named] at apart

structure RefundWritten (now : Instant) (reading : RefundReading) (db : Db) (settlement : RefundSettlement) : Prop where
  sourceId : settlement.sourceId = reading.sourceId
  source : settlement.source = reading.source
  bookingId : settlement.bookingId = reading.source.booking
  booking : settlement.booking = reading.booking
  status : settlement.refund.withRefundStatus now reading.status = settlement.refund
  reference : settlement.refund.providerRefundId = some reading.refundId
  refund : settlement.payments.rows[settlement.refundId]? = some settlement.refund
  others : ∀ (position : PaymentId) (payment : Payment), db.payments.rows[position]? = some payment →
    payment.providerRefundId ≠ some reading.refundId →
    settlement.payments.rows[position]? = some payment ∧ position ≠ settlement.refundId

theorem RefundReading.write_accepted {previous : Option PaymentRecordStatus}
    (accepted : reading.write now db = .ok (previous, settlement)) : RefundWritten now reading db settlement := by
  unfold RefundReading.write at accepted
  split at accepted
  · rename_i existingId existing stored
    simp only [accepted_bind, accepted_pure, Prod.mk.injEq] at accepted
    obtain ⟨_, updated, _, rfl⟩ := accepted
    obtain ⟨sourceId, source, bookingId, booking, refund, refundId, rows⟩ := updateRefund_accepted updated
    obtain ⟨found, named⟩ := firstRow_some stored
    simp only [beq_iff_eq] at named
    have inBounds := (List.getElem?_eq_some_iff.mp found).1
    refine ⟨sourceId, source, bookingId, booking, by rw [refund]; rfl, by rw [refund]; exact named, ?_, ?_⟩
    · rw [rows, refundId, refund, List.getElem?_set_self inBounds]
    · intro position payment present otherReference
      have differs : existingId ≠ position := by
        intro same
        rw [← same, found, Option.some.injEq] at present
        exact otherReference (present ▸ named)
      rw [rows, refundId, List.getElem?_set_ne differs]
      exact ⟨present, Ne.symm differs⟩
  · simp only [accepted_bind, accepted_pure, Prod.mk.injEq] at accepted
    obtain ⟨_, inserted, _, rfl⟩ := accepted
    obtain ⟨sourceId, source, bookingId, booking, refund, refundId, rows⟩ := insertRefund_accepted inserted
    refine ⟨sourceId, source, bookingId, booking, by rw [refund]; rfl, by rw [refund]; rfl, ?_, ?_⟩
    · rw [rows, refundId, refund, List.getElem?_concat_length]
    · intro position payment present _
      have inBounds := (List.getElem?_eq_some_iff.mp present).1
      rw [rows, refundId, List.getElem?_append_left inBounds]
      exact ⟨present, Nat.ne_of_lt inBounds⟩

theorem afterRefund_again (rows : List Payment) (sourceId : PaymentId) (source : Payment) (booking : Booking) :
    (booking.afterRefund rows sourceId source).afterRefund rows sourceId source =
      booking.afterRefund rows sourceId source := by
  unfold Booking.afterRefund
  by_cases whole : source.amount ≤ successfulRefunds rows sourceId
  · simp only [if_pos whole]
  · by_cases pending : hasPendingRefund rows sourceId = true
    · simp only [if_neg whole, if_pos pending]
    · by_cases awaits : booking.bookingStatus = .refundPending
      · cases booking.cancelledAt.isSome <;> simp [whole, pending, awaits]
      · simp only [if_neg whole, if_neg pending, if_neg awaits]

theorem refunds_restatus {rows : List Payment} {sourceId : PaymentId} {source : Payment}
    (found : rows[sourceId]? = some source) (noChild : source.parentPayment ≠ some sourceId)
    (status : PaymentRecordStatus) :
    successfulRefunds (rows.set sourceId { source with status := status }) sourceId = successfulRefunds rows sourceId ∧
      hasPendingRefund (rows.set sourceId { source with status := status }) sourceId =
        hasPendingRefund rows sourceId := by
  have isNone : (source.parentPayment == some sourceId) = false := beq_eq_false_iff_ne.mpr noChild
  have sum := sumWhere_set (fun payment => payment.isRefundOf sourceId && payment.status == .success)
    Payment.amount { source with status := status } found
  have count := countWhere_set (Payment.isPendingRefundOf sourceId) { source with status := status } found
  simp only [Payment.isPendingRefundOf, Payment.isRefundOf, isNone] at sum count
  refine ⟨?_, ?_⟩
  · simpa [successfulRefunds, Payment.isRefundOf] using sum
  · rw [Bool.eq_iff_iff, hasPendingRefund_iff, hasPendingRefund_iff]
    have same : countWhere (Payment.isPendingRefundOf sourceId) (rows.set sourceId { source with status := status }) =
        countWhere (Payment.isPendingRefundOf sourceId) rows := by
      simpa [Payment.isPendingRefundOf, Payment.isRefundOf] using count
    rw [same]

def RefundSettlement.settledSource (settlement : RefundSettlement) : Payment :=
  if settlement.source.amount ≤ successfulRefunds settlement.payments.rows settlement.sourceId then
    { settlement.source with status := .refunded }
  else settlement.source

theorem settledSource_columns (settlement : RefundSettlement) :
    ∃ status, settlement.settledSource = { settlement.source with status := status } := by
  unfold RefundSettlement.settledSource
  split
  · exact ⟨.refunded, rfl⟩
  · exact ⟨settlement.source.status, rfl⟩

theorem settledRows_source (settlement : RefundSettlement)
    (found : settlement.payments.rows[settlement.sourceId]? = some settlement.source) :
    settlement.settledRows[settlement.sourceId]? = some settlement.settledSource := by
  unfold RefundSettlement.settledRows RefundSettlement.settledSource
  split
  · rw [List.getElem?_set_self (List.getElem?_eq_some_iff.mp found).1]
  · exact found

theorem settledRows_refund (settlement : RefundSettlement) (differs : settlement.sourceId ≠ settlement.refundId)
    (found : settlement.payments.rows[settlement.refundId]? = some settlement.refund) :
    settlement.settledRows[settlement.refundId]? = some settlement.refund := by
  unfold RefundSettlement.settledRows
  split
  · rw [List.getElem?_set_ne differs]
    exact found
  · exact found

theorem settledRows_refunds (settlement : RefundSettlement)
    (found : settlement.payments.rows[settlement.sourceId]? = some settlement.source)
    (noChild : settlement.source.parentPayment ≠ some settlement.sourceId) :
    successfulRefunds settlement.settledRows settlement.sourceId =
        successfulRefunds settlement.payments.rows settlement.sourceId ∧
      hasPendingRefund settlement.settledRows settlement.sourceId =
        hasPendingRefund settlement.payments.rows settlement.sourceId := by
  unfold RefundSettlement.settledRows
  split
  · exact refunds_restatus found noChild .refunded
  · exact ⟨rfl, rfl⟩

theorem applyRefundState_again (again : RefundSettlement) (payments : next.payments.rows = settlement.settledRows)
    (bookings : next.bookings[settlement.bookingId]? = some
      (settlement.booking.afterRefund settlement.payments.rows settlement.sourceId settlement.source))
    (found : settlement.payments.rows[settlement.sourceId]? = some settlement.source)
    (noChild : settlement.source.parentPayment ≠ some settlement.sourceId) (table : again.payments = next.payments)
    (sourceId : again.sourceId = settlement.sourceId) (source : again.source = settlement.settledSource)
    (bookingId : again.bookingId = settlement.bookingId)
    (booking : again.booking =
      settlement.booking.afterRefund settlement.payments.rows settlement.sourceId settlement.source) :
    applyRefundState again next = .ok next := by
  obtain ⟨successful, pending⟩ := settledRows_refunds settlement found noChild
  have amount : settlement.settledSource.amount = settlement.source.amount := by
    obtain ⟨status, columns⟩ := settledSource_columns settlement
    rw [columns]
  have sameBooking : again.booking.afterRefund next.payments.rows again.sourceId again.source = again.booking := by
    have sameRows : again.booking.afterRefund next.payments.rows again.sourceId again.source =
        again.booking.afterRefund settlement.payments.rows settlement.sourceId settlement.source := by
      unfold Booking.afterRefund
      rw [payments, sourceId, source, amount, successful, pending]
    rw [sameRows, booking, afterRefund_again]
  have sameBookings : next.bookings.set again.bookingId again.booking = next.bookings := by
    rw [bookingId, booking]
    exact set_stored bookings
  simp only [applyRefundState, table, sameBooking, sameBookings]
  split
  · rename_i whole
    rw [sourceId, source, amount, payments, successful] at whole
    have stored : next.payments.rows[again.sourceId]? = some { again.source with status := .refunded } := by
      rw [payments, sourceId, settledRows_source settlement found, source]
      simp only [RefundSettlement.settledSource, if_pos whole]
    rw [storePayment_stored stored]
    rfl
  · rfl

theorem readRefund_again {source : Payment} {booking : Booking} (isRead : readRefund payload db = .ok reading)
    (named : ∀ reference, reading.source.providerPaymentId = some reference →
      firstRow (·.providerPaymentId == some reference) next.payments.rows = some (reading.sourceId, source))
    (sameBooking : source.booking = reading.source.booking) (currency : source.currency = reading.source.currency)
    (foundBooking : next.bookings[reading.source.booking]? = some booking) :
    readRefund payload next = .ok { reading with source := source, booking := booking } := by
  simp only [readRefund, accepted_bind, accepted_orRaise, accepted_require, accepted_pure] at isRead
  obtain ⟨entity, hasEntity, refundId, hasRefund, paymentId, hasPayment, _, complete, ⟨sourceId, before⟩, found, _, _,
    statusValue, hasStatus, amountValue, hasAmount, amount, isAmount, currencyValue, hasCurrency, rfl⟩ := isRead
  have isNamed := (firstRow_some found).2
  simp only [beq_iff_eq] at isNamed
  simp only [readRefund, hasEntity, hasRefund, hasPayment, require_of _ complete, named _ isNamed, orRaise, sameBooking,
    foundBooking, hasStatus, hasAmount, isAmount, hasCurrency, currency, ok_bind]
  rfl

theorem processRefundWebhook_again (apart : RefundApart payload db)
    (accepted : processRefundWebhook now payload db = .ok ((), next)) :
    processRefundWebhook now payload next = .ok ((), next) := by
  simp only [processRefundWebhook, deliveredRefund_reads, accepted_bind, accepted_pure, Prod.mk.injEq, true_and]
    at accepted ⊢
  obtain ⟨⟨previous, settlement⟩, ⟨reading, isRead, isWritten⟩, after, settled, rfl⟩ := accepted
  have written := RefundReading.write_accepted isWritten
  obtain ⟨entity, refundId, paymentId, hasEntity, hasRefund, hasPayment, sameReference, foundFirst, foundBooking⟩ :=
    readRefund_accepted isRead
  have names : namedRefund payload db = .ok (reading.refundId, reading.sourceId, reading.source) := by
    simp only [namedRefund, hasEntity, hasRefund, hasPayment, foundFirst, orRaise, ok_bind, sameReference]
    rfl
  obtain ⟨otherReference, noChild⟩ := apart _ _ _ names
  obtain ⟨sourceHere, differs⟩ := written.others _ _ (firstRow_some foundFirst).1 otherReference
  rw [← written.sourceId, ← written.source] at sourceHere noChild
  rw [← written.sourceId] at differs
  obtain ⟨bookings, rows, _⟩ := settleRefund_accepted settled
  -- the rows that the event reads the next time
  obtain ⟨status, columns⟩ := settledSource_columns settlement
  have sourceNow := rows ▸ settledRows_source settlement sourceHere
  have refundNow := rows ▸ settledRows_refund settlement differs written.refund
  have bookingNow : after.bookings[settlement.bookingId]? = some
      (settlement.booking.afterRefund settlement.payments.rows settlement.sourceId settlement.source) := by
    rw [bookings, List.getElem?_set_self]
    rw [written.bookingId]
    exact (List.getElem?_eq_some_iff.mp foundBooking).1
  have readAgain : readRefund payload after = .ok { reading with
      source := settlement.settledSource
      booking := settlement.booking.afterRefund settlement.payments.rows settlement.sourceId settlement.source } := by
    refine readRefund_again isRead (fun reference named => ?_) ?_ ?_ ?_
    · rw [← written.sourceId]
      refine firstRow_source sourceNow ?_
      rw [columns, written.source]
      exact named
    · rw [columns, written.source]
    · rw [columns, written.source]
    · rw [← written.bookingId]
      exact bookingNow
  have writeAgain : RefundReading.write now { reading with
      source := settlement.settledSource
      booking := settlement.booking.afterRefund settlement.payments.rows settlement.sourceId settlement.source } after =
    .ok (some settlement.refund.status, {
      payments := after.payments
      refundId := settlement.refundId
      refund := settlement.refund
      sourceId := reading.sourceId
      source := settlement.settledSource
      bookingId := settlement.settledSource.booking
      booking := settlement.booking.afterRefund settlement.payments.rows settlement.sourceId settlement.source }) := by
    simp only [RefundReading.write, firstRow_refund refundNow written.reference, updateRefund, written.status,
      storePayment_stored refundNow, ok_bind]
    rfl
  have isSettled := applyRefundState_again {
      payments := after.payments
      refundId := settlement.refundId
      refund := settlement.refund
      sourceId := reading.sourceId
      source := settlement.settledSource
      bookingId := settlement.settledSource.booking
      booking := settlement.booking.afterRefund settlement.payments.rows settlement.sourceId settlement.source }
    rows bookingNow sourceHere noChild rfl written.sourceId.symm rfl
    (by rw [columns, written.source, written.bookingId]) rfl
  refine ⟨_, ⟨_, readAgain, writeAgain⟩, after, ?_, rfl⟩
  -- nothing is announced, because the refund had its status already
  have announced : decide (settlement.refund.status = .success ∧ some settlement.refund.status ≠ some .success) =
      false := by simp
  simp only [settleRefund, isSettled, announced, ok_bind]
  rfl

end

/-! Captures and failures. -/

section

variable {settings : Settings} {now : Instant} {payload : Json} {db : Db}

theorem lockOrderPayment_again {orderId : String} {locked : LockedPayment} {payment : Payment} {booking : Booking}
    {next : Db} (lockedRow : lockOrderPayment db orderId = .ok locked)
    (payments : next.payments.rows = db.payments.rows.set locked.paymentId payment)
    (bookings : next.bookings = db.bookings.set locked.payment.booking booking)
    (order : payment.providerOrderId = locked.payment.providerOrderId)
    (sameBooking : payment.booking = locked.payment.booking) :
    lockOrderPayment next orderId = .ok { paymentId := locked.paymentId, payment := payment, booking := booking } := by
  simp only [lockOrderPayment, accepted_bind, accepted_orRaise, accepted_pure] at lockedRow
  obtain ⟨⟨paymentId, row⟩, found, old, foundBooking, rfl⟩ := lockedRow
  have ordered := (firstRow_some found).2
  have foundAgain : firstRow (·.providerOrderId == some orderId) next.payments.rows = some (paymentId, payment) := by
    rw [payments]
    refine firstRow_set_first payment found ?_
    rw [order]
    exact ordered
  have bookingAgain : next.bookings[payment.booking]? = some booking := by
    rw [bookings, sameBooking, List.getElem?_set_self (List.getElem?_eq_some_iff.mp foundBooking).1]
  simp only [lockOrderPayment, foundAgain, bookingAgain, orRaise, ok_bind]
  rfl

theorem capturedPayment_again {orderId paymentId : String} {next : Db} {key : PaymentId} {payment after : Payment}
    (captured : capturedPayment payload db = .ok (orderId, paymentId))
    (found : firstRow (·.providerOrderId == some orderId) db.payments.rows = some (key, payment))
    (foundAgain : firstRow (·.providerOrderId == some orderId) next.payments.rows = some (key, after))
    (amount : after.amount = payment.amount) : capturedPayment payload next = .ok (orderId, paymentId) := by
  simp only [capturedPayment, accepted_bind, accepted_orRaise, accepted_require, accepted_pure, Prod.mk.injEq]
    at captured
  obtain ⟨entity, hasEntity, order, hasOrder, id, hasId, _, complete, ⟨_, before⟩, foundBefore, value, hasAmount, _,
    equal, rfl, rfl⟩ := captured
  rw [found, Option.some.injEq, Prod.mk.injEq] at foundBefore
  obtain ⟨_, rfl⟩ := foundBefore
  rw [← amount] at equal
  simp only [capturedPayment, hasEntity, hasOrder, hasId, require_of _ complete, foundAgain, orRaise, hasAmount,
    require_of _ equal, ok_bind]
  rfl

theorem confirmBookingAfterPayment_rows (now : Instant) (locked : LockedPayment) (changedBy : Option UserId) (db : Db) :
    (confirmBookingAfterPayment now locked changedBy db).payments = db.payments ∧
      (confirmBookingAfterPayment now locked changedBy db).bookings =
        db.bookings.set locked.payment.booking (locked.booking.confirmedBy now locked.payment.amount) := by
  unfold confirmBookingAfterPayment
  split <;> exact ⟨rfl, rfl⟩

theorem storeSucceeded_retimed (later : Instant) {payments next : PaymentTable} {paymentId : PaymentId}
    {payment : Payment} {providerPaymentId : String}
    (stored : storePayment payments paymentId (payment.succeeded now providerPaymentId) = .ok next) :
    ∃ after, storePayment payments paymentId (payment.succeeded later providerPaymentId) = .ok after := by
  simp only [storePayment, accepted_orRaise] at stored ⊢
  have free := (UniqueTable.replace?_isSome_iff clashes_symm).mp (Option.isSome_iff_exists.mpr ⟨next, stored⟩)
  exact Option.isSome_iff_exists.mp ((UniqueTable.replace?_isSome_iff clashes_symm).mpr free)

theorem storePayment_rejected {payments : PaymentTable} {paymentId : PaymentId} {payment : Payment}
    {error : ServiceError} (rejected : storePayment payments paymentId payment = .error error) :
    error = .integrity "Payment" := by
  unfold storePayment orRaise at rejected
  split at rejected
  · cases rejected
  · exact (Except.error.inj rejected).symm

theorem lockOrderPayment_first {orderId : String} {locked : LockedPayment}
    (lockedRow : lockOrderPayment db orderId = .ok locked) :
    firstRow (·.providerOrderId == some orderId) db.payments.rows = some (locked.paymentId, locked.payment) := by
  simp only [lockOrderPayment, accepted_bind, accepted_orRaise, accepted_pure] at lockedRow
  obtain ⟨_, found, _, _, rfl⟩ := lockedRow
  exact found

structure Confirmed (settings : Settings) (orderId paymentId : String) (db next : Db) (key : PaymentId) : Prop where
  order : ∃ payment after, firstRow (·.providerOrderId == some orderId) db.payments.rows = some (key, payment) ∧
    firstRow (·.providerOrderId == some orderId) next.payments.rows = some (key, after) ∧
    after.amount = payment.amount
  again : ∀ later, verifyRazorpayPayment settings later orderId paymentId
    (makePaymentSignature settings orderId paymentId) none next = (.ok key, next)

theorem confirmed_stored {orderId paymentId : String} {locked : LockedPayment} {payments : PaymentTable}
    (lockedRow : lockOrderPayment db orderId = .ok locked)
    (amount : locked.payment.amount = locked.booking.advanceRequired)
    (stored : storePayment db.payments locked.paymentId (locked.payment.succeeded now paymentId) = .ok payments) :
    Confirmed settings orderId paymentId db
      (confirmBookingAfterPayment now locked none { db with payments := payments }) locked.paymentId := by
  obtain ⟨paymentRows, bookings⟩ := confirmBookingAfterPayment_rows now locked none
    { db with payments := payments }
  generalize confirmBookingAfterPayment now locked none { db with payments := payments } = next at paymentRows bookings
  have rows : next.payments.rows = db.payments.rows.set locked.paymentId (locked.payment.succeeded now paymentId) := by
    rw [paymentRows]
    exact storePayment_accepted stored
  have lockedAgain := lockOrderPayment_again lockedRow rows bookings rfl rfl
  refine ⟨⟨locked.payment, locked.payment.succeeded now paymentId, lockOrderPayment_first lockedRow,
    lockOrderPayment_first lockedAgain, rfl⟩, fun later => ?_⟩
  rw [genuineVerification none lockedAgain rfl amount]
  exact if_pos rfl

/-- Whether a genuine verification is rejected, and what it leaves to the next one. -/
inductive Verified (settings : Settings) (orderId paymentId : String) (db : Db) : Prop
  | rejected (error : ServiceError) (rejects : ∀ now, verifyRazorpayPayment settings now orderId paymentId
      (makePaymentSignature settings orderId paymentId) none db = (.error error, db))
  | accepted (key : PaymentId) (accepts : ∀ now, ∃ next, verifyRazorpayPayment settings now orderId paymentId
      (makePaymentSignature settings orderId paymentId) none db = (.ok key, next) ∧
      Confirmed settings orderId paymentId db next key)

theorem genuineVerification_cases (settings : Settings) (orderId paymentId : String) (db : Db) :
    Verified settings orderId paymentId db := by
  cases lockedRow : lockOrderPayment db orderId with
  | error error =>
      refine .rejected error fun now => ?_
      simp only [verifyRazorpayPayment, verificationChange, lockedRow]
      rfl
  | ok locked =>
      by_cases amount : locked.payment.amount = locked.booking.advanceRequired
      · by_cases paid : locked.payment.status = .success
        · have unchanged (now : Instant) : verifyRazorpayPayment settings now orderId paymentId
              (makePaymentSignature settings orderId paymentId) none db = (.ok locked.paymentId, db) := by
            rw [genuineVerification none lockedRow rfl amount, if_pos paid]
          have first := lockOrderPayment_first lockedRow
          exact .accepted locked.paymentId fun now => ⟨db, unchanged now, ⟨_, _, first, first, rfl⟩, unchanged⟩
        · cases saved : storePayment db.payments locked.paymentId (locked.payment.succeeded 0 paymentId) with
          | error error =>
              refine .rejected (.integrity "Payment") fun now => ?_
              rw [genuineVerification none lockedRow rfl amount, if_neg paid]
              cases savedNow : storePayment db.payments locked.paymentId (locked.payment.succeeded now paymentId) with
              | error reason => rw [storePayment_rejected savedNow]
              | ok payments =>
                  obtain ⟨_, savedThen⟩ := storeSucceeded_retimed 0 savedNow
                  rw [saved] at savedThen
                  cases savedThen
          | ok payments =>
              refine .accepted locked.paymentId fun now => ?_
              obtain ⟨after, savedNow⟩ := storeSucceeded_retimed now saved
              refine ⟨_, ?_, confirmed_stored lockedRow amount savedNow⟩
              rw [genuineVerification none lockedRow rfl amount, if_neg paid, savedNow]
      · refine .rejected (.validation "Payment amount does not match booking advance.") fun now => ?_
        simp only [verifyRazorpayPayment, verificationChange, lockedRow, ok_bind, require_of_not _ amount]
        rfl

theorem markPaymentFailed_rows (locked : LockedPayment) (db : Db) :
    (markPaymentFailed locked db).payments = db.payments ∧
      (markPaymentFailed locked db).bookings = db.bookings.set locked.payment.booking locked.booking.markedFailed := by
  unfold markPaymentFailed
  split <;> exact ⟨rfl, rfl⟩

theorem markedFailed_again (booking : Booking) : booking.markedFailed.markedFailed = booking.markedFailed := by
  unfold Booking.markedFailed
  split
  · simp
  · rfl

theorem failedPaymentChange_confirms {locked : LockedPayment} {payments : PaymentTable} :
    failedPaymentChange payload db ≠ .ok (.confirm locked payments) := by
  intro failed
  simp only [failedPaymentChange, accepted_bind, accepted_require] at failed
  obtain ⟨_, _, _, _, _, _, _, _, decided⟩ := failed
  split at decided
  · cases decided
  · simp only [accepted_bind, accepted_pure] at decided
    obtain ⟨_, _, _, _, isFail⟩ := decided
    cases isFail

theorem failedPaymentChange_again {locked : LockedPayment} {payments : PaymentTable}
    (failed : failedPaymentChange payload db = .ok (.fail locked payments)) :
    ∃ change, failedPaymentChange payload (markPaymentFailed locked { db with payments := payments }) = .ok change ∧
      ∀ later, change.apply later none (markPaymentFailed locked { db with payments := payments }) =
        markPaymentFailed locked { db with payments := payments } := by
  simp only [failedPaymentChange, accepted_bind, accepted_require] at failed
  obtain ⟨entity, hasEntity, order, hasOrder, _, complete, _, lockedRow, decided⟩ := failed
  split at decided
  · cases decided
  simp only [accepted_bind, accepted_pure] at decided
  obtain ⟨reference, hasReference, after, stored, isFail⟩ := decided
  cases isFail
  obtain ⟨paymentRows, bookings⟩ := markPaymentFailed_rows locked { db with payments := payments }
  generalize markPaymentFailed locked { db with payments := payments } = next at paymentRows bookings
  have rows := congrArg UniqueTable.rows paymentRows
  rw [storePayment_accepted stored] at rows
  have lockedAgain := lockOrderPayment_again lockedRow rows bookings rfl rfl
  obtain ⟨found, _, foundBooking⟩ := lockOrderPayment_accepted lockedAgain
  have sameBooking : next.bookings.set locked.payment.booking locked.booking.markedFailed = next.bookings :=
    set_stored foundBooking
  have sameFailure (given : Option String) : (locked.payment.markedFailed given).markedFailed given =
      locked.payment.markedFailed given := by
    cases given <;> rfl
  refine ⟨.fail {
      paymentId := locked.paymentId
      payment := locked.payment.markedFailed (if reference.truthy then some reference.str else none)
      booking := locked.booking.markedFailed } next.payments, ?_, fun later => ?_⟩
  · have notPaid : ¬ (locked.payment.markedFailed (if reference.truthy then some reference.str else none)).status =
        .success := by simp [Payment.markedFailed]
    simp only [failedPaymentChange, hasEntity, hasOrder, require_of _ complete, lockedAgain, if_neg notPaid,
      hasReference, sameFailure, storePayment_stored found, ok_bind]
    rfl
  · simp only [PaymentChange.apply, markPaymentFailed, markedFailed_again, Payment.markedFailed, sameBooking,
      ↓reduceIte]

end

theorem SameButTimes.refl (db : Db) : SameButTimes db db := ⟨rfl, rfl⟩

theorem captured_twice (settings : Settings) (now later : Instant) (payload : Json) (db : Db) :
    let once := dispatchWebhook settings now "payment.captured" payload db
    let twice := dispatchWebhook settings later "payment.captured" payload once.2
    twice.1.isOk = once.1.isOk ∧ SameButTimes once.2 twice.2 := by
  intro once twice
  cases captured : capturedPayment payload db with
  | error error =>
      have rejected (time : Instant) :
          dispatchWebhook settings time "payment.captured" payload db = (.error error, db) := by
        simp only [dispatchWebhook, ↓reduceIte, captured]
      unfold twice once
      rw [rejected now, rejected later]
      exact ⟨rfl, .refl db⟩
  | ok ids =>
      obtain ⟨orderId, paymentId⟩ := ids
      have answered (time : Instant) {state : Db} (captured : capturedPayment payload state = .ok (orderId, paymentId))
          {answer : Except ServiceError PaymentId} {next : Db}
          (verified : verifyRazorpayPayment settings time orderId paymentId
            (makePaymentSignature settings orderId paymentId) none state = (answer, next)) :
          dispatchWebhook settings time "payment.captured" payload state = (answer.map fun _ => true, next) := by
        simp only [dispatchWebhook, ↓reduceIte, captured, verified]
      cases genuineVerification_cases settings orderId paymentId db with
      | rejected error rejects =>
          unfold twice once
          rw [answered now captured (rejects now), answered later captured (rejects later)]
          exact ⟨rfl, .refl db⟩
      | accepted key accepts =>
          obtain ⟨next, verified, ⟨payment, after, found, foundAgain, amount⟩, again⟩ := accepts now
          have capturedAgain := capturedPayment_again captured found foundAgain amount
          unfold twice once
          rw [answered now captured verified, answered later capturedAgain (again later)]
          exact ⟨rfl, .refl next⟩

theorem failed_twice (settings : Settings) (now later : Instant) (payload : Json) (db : Db) :
    let once := dispatchWebhook settings now "payment.failed" payload db
    let twice := dispatchWebhook settings later "payment.failed" payload once.2
    twice.1.isOk = once.1.isOk ∧ SameButTimes once.2 twice.2 := by
  intro once twice
  have answered (time : Instant) {state : Db} {change : PaymentChange}
      (failed : failedPaymentChange payload state = .ok change) :
      dispatchWebhook settings time "payment.failed" payload state = (.ok true, change.apply time none state) := by
    simp [dispatchWebhook, failed]
  unfold twice once
  cases failed : failedPaymentChange payload db with
  | error error =>
      have rejected (time : Instant) :
          dispatchWebhook settings time "payment.failed" payload db = (.error error, db) := by
        simp [dispatchWebhook, failed]
      rw [rejected now, rejected later]
      exact ⟨rfl, .refl db⟩
  | ok change =>
      rw [answered now failed]
      cases change with
      | unchanged key =>
          rw [PaymentChange.apply, answered later failed]
          exact ⟨rfl, .refl db⟩
      | confirm locked payments =>
          exact (failedPaymentChange_confirms failed).elim
      | fail locked payments =>
          obtain ⟨change, failedAgain, same⟩ := failedPaymentChange_again failed
          rw [PaymentChange.apply, answered later failedAgain, same later]
          exact ⟨rfl, .refl _⟩

theorem refund_twice (settings : Settings) (now later : Instant) {eventName : String} {payload : Json} {db : Db}
    (isRefund : eventName ∈ refundEvents) (apart : RefundApart payload db) :
    let once := dispatchWebhook settings now eventName payload db
    let twice := dispatchWebhook settings later eventName payload once.2
    twice.1.isOk = once.1.isOk ∧ SameButTimes once.2 twice.2 := by
  intro once twice
  have dispatched (time : Instant) (state : Db) : dispatchWebhook settings time eventName payload state =
      commit state (do
        let processed ← processRefundWebhook time payload state
        pure (true, processed.2)) := by
    simp only [refundEvents, List.mem_cons, List.not_mem_nil, or_false] at isRefund
    rcases isRefund with rfl | rfl | rfl <;> simp [dispatchWebhook]
  have rejected (time : Instant) {state : Db} {error : ServiceError}
      (processed : processRefundWebhook time payload state = .error error) :
      dispatchWebhook settings time eventName payload state = (.error error, state) := by
    rw [dispatched, processed]
    rfl
  have answered (time : Instant) {state next : Db}
      (processed : processRefundWebhook time payload state = .ok ((), next)) :
      dispatchWebhook settings time eventName payload state = (.ok true, next) := by
    rw [dispatched, processed]
    rfl
  unfold twice once
  cases processed : processRefundWebhook now payload db with
  | error error =>
      cases processedLater : processRefundWebhook later payload db with
      | error reason =>
          rw [rejected now processed, rejected later processedLater]
          exact ⟨rfl, .refl db⟩
      | ok result =>
          obtain ⟨other, accepted, _⟩ := processRefundWebhook_retimed now processedLater
          rw [processed] at accepted
          cases accepted
  | ok result =>
      obtain ⟨other, again, same⟩ := processRefundWebhook_retimed later (processRefundWebhook_again apart processed)
      rw [answered now processed, answered later again]
      exact ⟨rfl, same⟩

/-- An event that is dispatched twice leaves what it leaves once, if its refund is apart from its source. -/
theorem dispatchWebhook_twice (settings : Settings) (now later : Instant) (eventName : String) (payload : Json)
    (db : Db) (apart : eventName ∈ refundEvents → RefundApart payload db) :
    let once := dispatchWebhook settings now eventName payload db
    let twice := dispatchWebhook settings later eventName payload once.2
    twice.1.isOk = once.1.isOk ∧ SameButTimes once.2 twice.2 := by
  by_cases isCapture : eventName = "payment.captured"
  · rw [isCapture]
    exact captured_twice settings now later payload db
  by_cases isFailure : eventName = "payment.failed"
  · rw [isFailure]
    exact failed_twice settings now later payload db
  by_cases isRefund : eventName ∈ refundEvents
  · exact refund_twice settings now later isRefund (apart isRefund)
  have ignored (time : Instant) (state : Db) :
      dispatchWebhook settings time eventName payload state = (.ok false, state) := by
    unfold refundEvents at isRefund
    rw [dispatchWebhook, if_neg isCapture, if_neg isFailure, if_neg isRefund]
  intro once twice
  unfold twice once
  rw [ignored now, ignored later]
  exact ⟨rfl, .refl db⟩

/-- On the platform a source is a payment of an order, which is nobody's refund. -/
theorem refundApart_platform (settings : Settings) {start : System} (initial : start.Initial) (ops : List Op)
    (payload : Json) : RefundApart payload (runAll (System.step settings) start ops).db := by
  have sound : PaymentsSound (runAll (System.step settings) start ops).db := paymentsSound_run initial ops
  intro refundId sourceId source named
  simp only [namedRefund, accepted_bind, accepted_orRaise, accepted_pure, Prod.mk.injEq] at named
  obtain ⟨_, _, _, _, reference, _, ⟨_, _⟩, found, _, _, rfl⟩ := named
  obtain ⟨foundRow, isNamed⟩ := firstRow_some found
  simp only [beq_iff_eq] at isNamed
  have row := sound.rows _ (List.mem_of_getElem? foundRow)
  have advance := row.advance (row.paid (by rw [isNamed]; rfl))
  constructor
  · intro isRefund
    have refund := row.refund (.inl (by rw [isRefund]; rfl))
    rw [advance] at refund
    cases refund
  · intro isChild
    have refund := row.refund (.inr (by rw [isChild]; rfl))
    rw [advance] at refund
    cases refund

def refundProcessed : Json := .object [("payload", .object [("refund", .object [("entity", .object [
  ("id", .text "rfnd_1"), ("payment_id", .text "pay_1"), ("amount", .number 5000), ("status", .text "processed")])])])]

theorem dispatchWebhook_twice_processed :
    let db := (runAll (System.step sampleSettings) sampleSystem paidHistory).db
    let once := dispatchWebhook sampleSettings sampleNow "refund.processed" refundProcessed db
    let twice := dispatchWebhook sampleSettings (sampleNow + minute) "refund.processed" refundProcessed once.2
    twice.1.isOk = once.1.isOk ∧ SameButTimes once.2 twice.2 :=
  dispatchWebhook_twice sampleSettings sampleNow (sampleNow + minute) "refund.processed" refundProcessed _
    fun _ => refundApart_platform sampleSettings sampleSystem_initial paidHistory refundProcessed

/-- A row that is its own refund; the platform writes none, but no constraint keeps it out. -/
def ownRefund : Payment where
  booking := 0
  provider := .razorpay
  providerOrderId := none
  providerPaymentId := some "pay_1"
  providerRefundId := some "rfnd_1"
  parentPayment := some 0
  amount := 5000
  currency := "INR"
  paymentType := .refund
  status := .pending
  signatureVerified := false
  idempotencyKey := "refund-key-1"
  paidAt := none
  refundedAt := none

def ownRefundDb : Db :=
  { (runAll (System.step sampleSettings) sampleSystem [sampleBookingBy 0]).db with
    payments := { rows := [ownRefund], distinct := List.pairwise_singleton _ _ } }

theorem refund_completed_twice : ¬ ∀ (settings : Settings) (now later : Instant) (eventName : String) (payload : Json)
    (db : Db), let once := dispatchWebhook settings now eventName payload db
      let twice := dispatchWebhook settings later eventName payload once.2
      twice.1.isOk = once.1.isOk ∧ SameButTimes once.2 twice.2 := by
  intro always
  obtain ⟨_, same⟩ := always sampleSettings sampleNow sampleNow "refund.processed" refundProcessed ownRefundDb
  have notifications := congrArg (fun db => db.notifications.length) same.rest
  revert notifications
  decide +kernel

end PsCore
