import PsCore.Effects
import PsCore.UniquePayments

/-!
What every payment row keeps from the operation that made it: its booking, which of the
gateway's references it can carry, and of a refund the payment that it comes from.
-/

namespace PsCore

open Fallible RowTable TransitionRun

structure SameTerms (before after : Booking) : Prop where
  totalAmount : after.totalAmount = before.totalAmount
  advanceRequired : after.advanceRequired = before.advanceRequired

theorem Transition.sameTerms {booking changed : Booking} (transition : Transition booking changed) :
    SameTerms booking changed := by
  cases transition <;> exact ⟨rfl, rfl⟩

theorem markedFailed_statuses (booking : Booking) : ∃ bookingStatus paymentStatus, booking.markedFailed =
    { booking with bookingStatus := bookingStatus, paymentStatus := paymentStatus } := by
  unfold Booking.markedFailed
  split <;> exact ⟨_, _, rfl⟩

theorem afterRefund_statuses (payments : List Payment) (sourceId : PaymentId) (source : Payment)
    (booking : Booking) : ∃ bookingStatus paymentStatus, booking.afterRefund payments sourceId source =
      { booking with bookingStatus := bookingStatus, paymentStatus := paymentStatus } := by
  unfold Booking.afterRefund
  split
  · exact ⟨_, _, rfl⟩
  · split
    · exact ⟨_, _, rfl⟩
    · split <;> exact ⟨_, _, rfl⟩

theorem Effect.Rewrites.sameTerms {effect : Effect} {bookingId : BookingId} {before after : Booking}
    (rewrites : effect.Rewrites bookingId before after) : SameTerms before after := by
  cases rewrites with
  | failure locked payments =>
      obtain ⟨_, _, written⟩ := markedFailed_statuses locked.booking
      rw [written]
      exact ⟨rfl, rfl⟩
  | refund settlement =>
      obtain ⟨_, _, written⟩ :=
        afterRefund_statuses settlement.payments.rows settlement.sourceId settlement.source settlement.booking
      rw [written]
      exact ⟨rfl, rfl⟩
  | _ => exact ⟨rfl, rfl⟩

def BookingsKept (bookings next : List Booking) : Prop :=
  ∀ (bookingId : BookingId) (booking : Booking), bookings[bookingId]? = some booking →
    ∃ after, next[bookingId]? = some after ∧ SameTerms booking after

theorem BookingsKept.refl (bookings : List Booking) : BookingsKept bookings bookings :=
  fun _ booking present => ⟨booking, present, rfl, rfl⟩

theorem BookingsKept.append (bookings added : List Booking) : BookingsKept bookings (bookings ++ added) := by
  unfold BookingsKept
  intro bookingId booking present
  refine ⟨booking, ?_, rfl, rfl⟩
  rw [List.getElem?_append_left (List.getElem?_eq_some_iff.mp present).1, present]

theorem BookingsKept.set {bookings : List Booking} {target : BookingId} {before after : Booking}
    (found : bookings[target]? = some before) (same : SameTerms before after) :
    BookingsKept bookings (bookings.set target after) := by
  intro bookingId booking present
  by_cases isTarget : target = bookingId
  · subst isTarget
    rw [found, Option.some.injEq] at present
    subst present
    exact ⟨after, by rw [List.getElem?_set_self (List.getElem?_eq_some_iff.mp found).1], same⟩
  · exact ⟨booking, by rw [List.getElem?_set_ne isTarget, present], rfl, rfl⟩

theorem Routine.bookingsKept {db next : Db} (change : Routine db next) : BookingsKept db.bookings next.bookings := by
  cases change with
  | auxiliary bookings payments slots => rw [bookings]; exact .refl _
  | slotAdded slot bookings payments slots => rw [bookings]; exact .refl _
  | bookingCreated booking slot fresh found free bookings payments slots => rw [bookings]; exact .append _ _
  | workOrderCreated booking slot lead service fresh found free bookings payments slots =>
      rw [bookings]; exact .append _ _
  | bookingMoved bookingId booking slotId slot found from_ foundSlot free bookings payments slots =>
      rw [bookings]; exact .set found ⟨rfl, rfl⟩
  | transition bookingId booking changed found transition bookings payments slots =>
      rw [bookings]; exact .set found transition.sameTerms
  | orderCreated bookingId booking orderId key found awaiting bookings payments slots =>
      rw [bookings]; exact .refl _

theorem Effective.bookingsKept {effect : Effect} {db next : Db} (written : Effective effect db next) :
    BookingsKept db.bookings next.bookings := by
  rcases written.rewrites with same | ⟨bookingId, before, after, rewrites, found, bookings⟩
  · rw [same]
    exact .refl _
  · rw [bookings]
    exact .set found (Effect.Rewrites.sameTerms rewrites)

def PaymentsKept (rows next : List Payment) : Prop :=
  ∀ (paymentId : PaymentId) (payment : Payment), rows[paymentId]? = some payment →
    ∃ after, next[paymentId]? = some after ∧ SameOrigin payment after

theorem PaymentsKept.refl (rows : List Payment) : PaymentsKept rows rows := by
  intro paymentId payment present
  exact ⟨payment, present, .refl payment⟩

theorem PaymentsKept.append (rows : List Payment) (added : Payment) : PaymentsKept rows (rows ++ [added]) := by
  intro paymentId payment present
  refine ⟨payment, ?_, .refl payment⟩
  rw [List.getElem?_append_left (List.getElem?_eq_some_iff.mp present).1, present]

theorem PaymentsKept.set {rows : List Payment} {key : PaymentId} {before after : Payment}
    (found : rows[key]? = some before) (origin : SameOrigin before after) : PaymentsKept rows (rows.set key after) := by
  intro paymentId payment present
  by_cases isKey : key = paymentId
  · subst isKey
    rw [found, Option.some.injEq] at present
    subst present
    exact ⟨after, List.getElem?_set_self (List.getElem?_eq_some_iff.mp found).1, origin⟩
  · exact ⟨payment, by rw [List.getElem?_set_ne isKey, present], .refl payment⟩

theorem PaymentsKept.trans {first second third : List Payment} (one : PaymentsKept first second)
    (two : PaymentsKept second third) : PaymentsKept first third := by
  intro paymentId payment present
  obtain ⟨middle, inSecond, sameFirst⟩ := one paymentId payment present
  obtain ⟨last, inThird, sameSecond⟩ := two paymentId middle inSecond
  exact ⟨last, inThird, sameFirst.trans sameSecond⟩

theorem set_origin {rows : List Payment} {key position : PaymentId} {before after payment : Payment}
    (found : rows[key]? = some before) (origin : SameOrigin before after)
    (present : (rows.set key after)[position]? = some payment) :
    ∃ original, rows[position]? = some original ∧ SameOrigin original payment := by
  rcases set_cases present with ⟨rfl, rfl⟩ | old
  · exact ⟨before, found, origin⟩
  · exact ⟨payment, old, .refl payment⟩

theorem Routine.paymentsKept {db next : Db} (change : Routine db next) :
    PaymentsKept db.payments.rows next.payments.rows := by
  rcases change.payments_cases with same | ⟨bookingId, booking, orderId, key, found, bookings, payments⟩
  · rw [same]
    exact .refl _
  · rw [payments]
    exact .append _ _

/-! Where a payment row comes from. -/

structure Payment.Sound (bookings : List Booking) (payment : Payment) : Prop where
  booked : ∃ booking, bookings[payment.booking]? = some booking ∧
    (payment.providerOrderId.isSome = true → payment.amount = booking.advanceRequired)
  advance : payment.providerOrderId.isSome = true → payment.paymentType = .bookingAdvance
  paid : payment.providerPaymentId.isSome = true → payment.providerOrderId.isSome = true
  refund : payment.providerRefundId.isSome = true ∨ payment.parentPayment.isSome = true →
    payment.paymentType = .refund

def RowsSound (bookings : List Booking) (rows : List Payment) : Prop :=
  ∀ payment ∈ rows, payment.Sound bookings

theorem RowsSound.bookings {bookings next : List Booking} {rows : List Payment}
    (sound : RowsSound bookings rows) (kept : BookingsKept bookings next) : RowsSound next rows := by
  intro payment member
  obtain ⟨⟨booking, present, amount⟩, advance, paid, refund⟩ := sound payment member
  obtain ⟨after, found, same⟩ := kept payment.booking booking present
  refine ⟨⟨after, found, fun ordered => ?_⟩, advance, paid, refund⟩
  rw [same.advanceRequired]
  exact amount ordered

theorem RowsSound.append {bookings : List Booking} {rows : List Payment} {payment : Payment}
    (sound : RowsSound bookings rows) (new : payment.Sound bookings) :
    RowsSound bookings (rows ++ [payment]) := by
  intro other member
  rw [List.mem_append, List.mem_singleton] at member
  rcases member with old | rfl
  · exact sound other old
  · exact new

theorem RowsSound.set {bookings : List Booking} {rows : List Payment} {key : PaymentId} {payment : Payment}
    (sound : RowsSound bookings rows) (new : payment.Sound bookings) :
    RowsSound bookings (rows.set key payment) := by
  intro other member
  rcases List.mem_or_eq_of_mem_set member with old | rfl
  · exact sound other old
  · exact new

theorem Payment.Sound.rewritten {bookings : List Booking} {before after : Payment}
    (sound : before.Sound bookings) (origin : SameOrigin before after)
    (paid : after.providerPaymentId.isSome = true → before.providerOrderId.isSome = true) :
    after.Sound bookings := by
  obtain ⟨booked, advance, _, refund⟩ := sound
  refine ⟨?_, ?_, ?_, ?_⟩
  · rw [origin.booking, origin.order, origin.amount]
    exact booked
  · rw [origin.kind, origin.order]
    exact advance
  · rw [origin.order]
    exact paid
  · rw [origin.kind, origin.refund, origin.parent]
    exact refund

theorem Payment.Sound.restatus {bookings : List Booking} {before after : Payment} (sound : before.Sound bookings)
    (origin : SameOrigin before after) (same : after.providerPaymentId = before.providerPaymentId) :
    after.Sound bookings :=
  sound.rewritten origin fun named => sound.paid (by rw [← same]; exact named)

structure Payment.Offline (payment : Payment) : Prop where
  kind : payment.paymentType ≠ .refund
  order : payment.providerOrderId = none
  paid : payment.providerPaymentId = none
  refund : payment.providerRefundId = none
  parent : payment.parentPayment = none

theorem Payment.Sound.of_offline {bookings : List Booking} {payment : Payment} {booking : Booking}
    (found : bookings[payment.booking]? = some booking) (offline : payment.Offline) : payment.Sound bookings := by
  obtain ⟨_, order, paid, refund, parent⟩ := offline
  refine ⟨⟨booking, found, ?_⟩, ?_, ?_, ?_⟩
  · simp [order]
  · simp [order]
  · simp [paid]
  · simp [refund, parent]

theorem Payment.Sound.of_order {bookings : List Booking} {bookingId : BookingId} {booking : Booking}
    {orderId key : String} (found : bookings[bookingId]? = some booking) :
    (newAdvancePayment bookingId booking orderId key).Sound bookings :=
  ⟨⟨booking, found, fun _ => rfl⟩, fun _ => rfl, fun _ => rfl, by simp [newAdvancePayment]⟩

theorem Payment.Sound.of_refund {bookings : List Booking} {now : Instant} {sourceId : PaymentId} {source : Payment}
    {amount : Money} {currency key refundId : String} {status : PaymentRecordStatus}
    (sound : source.Sound bookings) :
    (newRefund now sourceId source amount currency key refundId status).Sound bookings := by
  obtain ⟨⟨booking, found, _⟩, _⟩ := sound
  exact ⟨⟨booking, found, by simp [newRefund]⟩, by simp [newRefund], by simp [newRefund], fun _ => rfl⟩

/-- The refund comes from a payment of an order for the same booking. -/
def Payment.FromOrder (rows : List Payment) (refund : Payment) : Prop :=
  ∀ sourceId, refund.parentPayment = some sourceId → ∃ source, rows[sourceId]? = some source ∧
    source.providerOrderId.isSome = true ∧ source.booking = refund.booking

def ParentsSound (rows : List Payment) : Prop :=
  ∀ refund ∈ rows, refund.FromOrder rows

theorem Payment.FromOrder.kept {rows next : List Payment} {refund after : Payment}
    (fromOrder : refund.FromOrder rows) (kept : PaymentsKept rows next) (origin : SameOrigin refund after) :
    after.FromOrder next := by
  intro sourceId parent
  rw [origin.parent] at parent
  obtain ⟨source, found, ordered, booking⟩ := fromOrder sourceId parent
  obtain ⟨stored, present, same⟩ := kept sourceId source found
  refine ⟨stored, present, ?_, ?_⟩
  · rw [same.order]
    exact ordered
  · rw [same.booking, origin.booking]
    exact booking

theorem ParentsSound.append {rows : List Payment} {payment : Payment} (parents : ParentsSound rows)
    (new : payment.FromOrder rows) : ParentsSound (rows ++ [payment]) := by
  intro refund member
  have fromOrder : refund.FromOrder rows := by
    rw [List.mem_append, List.mem_singleton] at member
    rcases member with old | rfl
    · exact parents refund old
    · exact new
  exact fromOrder.kept (.append _ _) (.refl refund)

theorem ParentsSound.set {rows : List Payment} {key : PaymentId} {before after : Payment}
    (parents : ParentsSound rows) (found : rows[key]? = some before) (origin : SameOrigin before after) :
    ParentsSound (rows.set key after) := by
  intro refund member
  obtain ⟨position, present⟩ := List.mem_iff_getElem?.mp member
  obtain ⟨original, old, same⟩ := set_origin found origin present
  exact (parents original (List.mem_of_getElem? old)).kept (.set found origin) same

structure PaymentsSound (db : Db) : Prop where
  rows : RowsSound db.bookings db.payments.rows
  parents : ParentsSound db.payments.rows

section

variable {db : Db} {settlement : RefundSettlement}

theorem PaymentsSound.source_ordered (sound : PaymentsSound db)
    (found : db.payments.rows[settlement.sourceId]? = some settlement.source) (written : settlement.Written db) :
    settlement.source.providerOrderId.isSome = true ∧ settlement.bookingId = settlement.source.booking := by
  have source := sound.rows settlement.source (List.mem_of_getElem? found)
  cases written with
  | requested now key refundId amount status paid positive bounded free row booking rows =>
      exact ⟨source.paid paid, booking⟩
  | delivered now currency refundId amount status paid free row new booking rows =>
      exact ⟨source.paid paid, booking⟩
  | rewritten now earlier status foundRefund row owner rows =>
      rcases owner with ⟨parent, _, booking⟩ | ⟨_, paid, booking⟩
      · obtain ⟨stored, foundSource, ordered, sameBooking⟩ :=
          sound.parents earlier (List.mem_of_getElem? foundRefund) settlement.sourceId parent
        rw [found, Option.some.injEq] at foundSource
        rw [foundSource]
        exact ⟨ordered, booking.trans sameBooking.symm⟩
      · exact ⟨source.paid paid, booking⟩

theorem PaymentsSound.source_advance (sound : PaymentsSound db)
    (found : db.payments.rows[settlement.sourceId]? = some settlement.source) (written : settlement.Written db) :
    settlement.source.paymentType = .bookingAdvance :=
  (sound.rows settlement.source (List.mem_of_getElem? found)).advance (sound.source_ordered found written).1

theorem PaymentsSound.refund_kind (sound : PaymentsSound db) (written : settlement.Written db) :
    settlement.refund.paymentType = .refund := by
  cases written with
  | requested now key refundId amount status paid positive bounded free row booking rows => rw [row]; rfl
  | delivered now currency refundId amount status paid free row new booking rows => rw [row]; rfl
  | rewritten now earlier status foundRefund row owner rows =>
      have kind : settlement.refund.paymentType = earlier.paymentType := by rw [row]; rfl
      rw [kind]
      rcases owner with ⟨_, isRefund, _⟩ | ⟨reference, _, _⟩
      · exact isRefund
      · exact (sound.rows earlier (List.mem_of_getElem? foundRefund)).refund (.inl reference)

theorem PaymentsSound.advance_untouched (sound : PaymentsSound db) (written : settlement.Written db)
    {position : PaymentId} {payment : Payment} (found : db.payments.rows[position]? = some payment)
    (advance : payment.paymentType = .bookingAdvance) : settlement.payments.rows[position]? = some payment := by
  have inBounds := (List.getElem?_eq_some_iff.mp found).1
  have refund := sound.refund_kind written
  cases written with
  | requested now key refundId amount status paid positive bounded free row booking rows =>
      rw [rows, List.getElem?_append_left inBounds, found]
  | delivered now currency refundId amount status paid free row new booking rows =>
      rw [rows, List.getElem?_append_left inBounds, found]
  | rewritten now earlier status foundRefund row owner rows =>
      have differs : settlement.refundId ≠ position := by
        intro same
        rw [same, found, Option.some.injEq] at foundRefund
        rw [row, Payment.withRefundStatus, ← foundRefund, advance] at refund
        cases refund
      rw [rows, List.getElem?_set_ne differs, found]

theorem PaymentsSound.source_untouched (sound : PaymentsSound db)
    (found : db.payments.rows[settlement.sourceId]? = some settlement.source) (written : settlement.Written db) :
    settlement.payments.rows[settlement.sourceId]? = some settlement.source :=
  sound.advance_untouched written found (sound.source_advance found written)

theorem PaymentsSound.recorded (sound : PaymentsSound db)
    (found : db.payments.rows[settlement.sourceId]? = some settlement.source) (written : settlement.Written db) :
    RowsSound db.bookings settlement.payments.rows ∧ ParentsSound settlement.payments.rows := by
  have source := sound.rows settlement.source (List.mem_of_getElem? found)
  obtain ⟨ordered, _⟩ := sound.source_ordered found written
  have parent : ∀ (refund : Payment), refund.parentPayment = some settlement.sourceId →
      refund.booking = settlement.source.booking → refund.FromOrder db.payments.rows := by
    intro refund parent booking sourceId isSource
    rw [parent, Option.some.injEq] at isSource
    rw [← isSource]
    exact ⟨settlement.source, found, ordered, booking.symm⟩
  cases written with
  | requested now key refundId amount status paid positive bounded free row booking rows =>
      rw [rows, row]
      exact ⟨sound.rows.append (.of_refund source), sound.parents.append (parent _ rfl rfl)⟩
  | delivered now currency refundId amount status paid free row new booking rows =>
      rw [rows, row]
      exact ⟨sound.rows.append (.of_refund source), sound.parents.append (parent _ rfl rfl)⟩
  | rewritten now earlier status foundRefund row owner rows =>
      rw [rows, row]
      have refund := sound.rows earlier (List.mem_of_getElem? foundRefund)
      have origin := earlier.withRefundStatus_origin now status
      exact ⟨sound.rows.set (refund.restatus origin rfl), sound.parents.set foundRefund origin⟩

theorem PaymentsSound.settled (sound : PaymentsSound db)
    (found : db.payments.rows[settlement.sourceId]? = some settlement.source) (written : settlement.Written db) :
    RowsSound db.bookings settlement.settledRows ∧ ParentsSound settlement.settledRows := by
  have source := sound.rows settlement.source (List.mem_of_getElem? found)
  obtain ⟨rows, parents⟩ := sound.recorded found written
  have present := sound.source_untouched found written
  unfold RefundSettlement.settledRows
  split
  · have origin := settlement.source.status_origin .refunded
    exact ⟨rows.set (source.restatus origin rfl), parents.set present origin⟩
  · exact ⟨rows, parents⟩

theorem PaymentsKept.settled (sound : PaymentsSound db)
    (found : db.payments.rows[settlement.sourceId]? = some settlement.source) (written : settlement.Written db) :
    PaymentsKept db.payments.rows settlement.settledRows := by
  have present := sound.source_untouched found written
  have recorded : PaymentsKept db.payments.rows settlement.payments.rows := by
    cases written with
    | requested now key refundId amount status paid positive bounded free row booking rows =>
        rw [rows]
        exact .append _ _
    | delivered now currency refundId amount status paid free row new booking rows =>
        rw [rows]
        exact .append _ _
    | rewritten now earlier status foundRefund row owner rows =>
        rw [rows, row]
        exact .set foundRefund (earlier.withRefundStatus_origin now status)
  unfold RefundSettlement.settledRows
  split
  · exact recorded.trans (.set present (settlement.source.status_origin _))
  · exact recorded

end

inductive RowsWritten (effect : Effect) (db : Db) (next : List Payment) : Prop
  | same (rows : next = db.payments.rows)
  | advance (position : PaymentId) (before after : Payment) (found : db.payments.rows[position]? = some before)
      (ordered : before.providerOrderId.isSome = true) (origin : SameOrigin before after)
      (rows : next = db.payments.rows.set position after)
  | offline (payment : Payment) (booking : Booking) (found : db.bookings[payment.booking]? = some booking)
      (offline : payment.Offline) (rows : next = db.payments.rows ++ [payment])
  | settled (settlement : RefundSettlement) (isEffect : effect = .refund settlement)
      (found : db.payments.rows[settlement.sourceId]? = some settlement.source) (written : settlement.Written db)
      (rows : next = settlement.settledRows)

theorem Effective.rowsWritten {effect : Effect} {db next : Db} (written : Effective effect db next) :
    RowsWritten effect db next.payments.rows := by
  cases written with
  | confirmed orderId paymentId found foundBooking ordered amount open_ rows writtenEq =>
      subst writtenEq
      rw [confirmBookingAfterPayment_payments]
      exact .advance _ _ _ found (by rw [ordered]; rfl) (Payment.succeeded_origin ..) rows
  | failed orderId paymentId found foundBooking ordered open_ rows writtenEq =>
      subst writtenEq
      rw [markPaymentFailed_payments]
      exact .advance _ _ _ found (by rw [ordered]; rfl) (Payment.markedFailed_origin ..) rows
  | refundSettled found foundBooking grounded bookings rows slots => exact .settled _ rfl found grounded rows
  | refundLost => exact .same rfl
  | workOrder found bookings payments slots => exact .same (by rw [payments])
  | manuallyPaid now leadId reference positive found inserted bookings payments slots =>
      rw [payments]
      exact .offline _ _ found ⟨by simp [newManualPayment], rfl, rfl, rfl, rfl⟩ inserted
  | balanceCollected now found from_ positive remaining inserted bookings payments slots =>
      rw [payments]
      exact .offline _ _ found ⟨by simp [newBalancePayment], rfl, rfl, rfl, rfl⟩ inserted
  | slotSaved bookings payments slots => exact .same (by rw [payments])

theorem Effective.paymentsKept {effect : Effect} {db next : Db} (sound : PaymentsSound db)
    (written : Effective effect db next) : PaymentsKept db.payments.rows next.payments.rows := by
  cases written.rowsWritten with
  | same rows =>
      rw [rows]
      exact .refl _
  | advance position before after found ordered origin rows =>
      rw [rows]
      exact .set found origin
  | offline payment booking found offline rows =>
      rw [rows]
      exact .append _ _
  | settled settlement isEffect found grounded rows =>
      rw [rows]
      exact .settled sound found grounded

theorem PaymentsSound.routine {db next : Db} (sound : PaymentsSound db) (change : Routine db next) :
    PaymentsSound next := by
  have kept := sound.rows.bookings change.bookingsKept
  rcases change.payments_cases with same | ⟨bookingId, booking, orderId, key, found, bookings, payments⟩
  · constructor
    · rw [same]
      exact kept
    · rw [same]
      exact sound.parents
  · have foundAfter : next.bookings[bookingId]? = some booking := by rw [bookings, found]
    constructor
    · rw [payments]
      exact kept.append (.of_order foundAfter)
    · rw [payments]
      exact sound.parents.append nofun

theorem PaymentsSound.effective {db next : Db} {effect : Effect} (sound : PaymentsSound db)
    (written : Effective effect db next) : PaymentsSound next := by
  have kept := written.bookingsKept
  suffices RowsSound db.bookings next.payments.rows ∧ ParentsSound next.payments.rows from
    ⟨this.1.bookings kept, this.2⟩
  cases written.rowsWritten with
  | same rows =>
      rw [rows]
      exact ⟨sound.rows, sound.parents⟩
  | advance position before after found ordered origin rows =>
      rw [rows]
      have payment := sound.rows before (List.mem_of_getElem? found)
      exact ⟨sound.rows.set (payment.rewritten origin fun _ => ordered), sound.parents.set found origin⟩
  | offline payment booking found offline rows =>
      rw [rows]
      refine ⟨sound.rows.append (.of_offline found offline), sound.parents.append fun sourceId parent => ?_⟩
      rw [offline.parent] at parent
      cases parent
  | settled settlement isEffect found grounded rows =>
      rw [rows]
      exact sound.settled found grounded

theorem System.Initial.paymentsSound {start : System} (initial : start.Initial) : PaymentsSound start.db := by
  constructor
  · rw [initial.payments]
    exact List.forall_mem_nil _
  · rw [initial.payments]
    exact List.forall_mem_nil _

/-- In every reachable state every payment row is sound. -/
theorem paymentsSound_run {settings : Settings} {start : System} (initial : start.Initial) (ops : List Op) :
    PaymentsSound (runAll (System.step settings) start ops).db :=
  run_invariant (fun _ _ sound change => sound.routine change)
    (fun _ _ _ sound _ written => sound.effective written) (guarded_true settings start ops) initial.paymentsSound

end PsCore
