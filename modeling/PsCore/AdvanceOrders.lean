import PsCore.Records
import PsCore.Ledger

/-!
Orders for the advance. A key that was used before finds its payment again, any other key
finds the active payment, and only a failure makes room for another order.
-/

namespace PsCore

open Fallible RowTable TransitionRun Relation

def Booking.awaitsPayment (booking : Booking) : Bool :=
  booking.bookingStatus == .pendingPayment || booking.bookingStatus == .paymentFailed

/-- The gateway gives every order that it makes a name. -/
def Op.namesOrder : Op → Bool
  | .createAdvancePaymentOrder _ _ _ (.ok orderId) => orderId != ""
  | _ => true

/-- No payment of the booking is marked as failed. -/
def noFailureOf (bookingId : BookingId) (_ : Db) : Effect → Bool
  | .failure locked _ => locked.payment.booking != bookingId
  | _ => true

def OneActiveAdvance (bookingId : BookingId) (payments : List Payment) : Prop :=
  ∀ (first second : PaymentId) (left right : Payment), payments[first]? = some left → payments[second]? = some right →
    left.isActiveAdvanceOf bookingId = true → right.isActiveAdvanceOf bookingId = true → first = second

section

variable {settings : Settings} {state : System} {op : Op} {next : Db}

theorem Effect.Rewrites.awaitsPayment {effect : Effect} {bookingId : BookingId} {before after : Booking}
    (rewrites : effect.Rewrites bookingId before after) (awaits : after.awaitsPayment = true) :
    before.awaitsPayment = true := by
  cases rewrites with
  | confirmation now changedBy locked payments => cases awaits
  | failure locked payments =>
      unfold Booking.markedFailed at awaits
      split at awaits
      · rename_i awaiting
        simpa [Booking.awaitsPayment] using awaiting
      · exact awaits
  | refund settlement =>
      unfold Booking.afterRefund at awaits
      split at awaits
      · cases awaits
      · split at awaits
        · cases awaits
        · split at awaits
          · split at awaits <;> cases awaits
          · exact awaits
  | workOrder bookingId row => cases awaits
  | manualPayment amount entry => exact awaits
  | balance bookingId booking amount payments => exact awaits

theorem BookingWritten.awaitsPayment {bookingId : BookingId} {before after : Booking}
    (written : BookingWritten settings state op bookingId before after) (awaits : after.awaitsPayment = true) :
    before.awaitsPayment = true := by
  cases written with
  | jobStep step => cases step <;> cases awaits
  | moved now slotId changedBy notes slot isOp from_ foundSlot => exact awaits
  | assigned technician slot from_ foundSlot free => cases awaits
  | removed now changedBy notes isOp =>
      simp only [Booking.awaitsPayment, Bool.or_eq_true, beq_iff_eq] at awaits ⊢
      cases status : before.bookingStatus <;> simp [status, BookingStatus.withoutTechnician] at awaits ⊢
  | effective effect isEffect rewrites => exact Effect.Rewrites.awaitsPayment rewrites awaits

theorem Leaves.awaitsPayment (leaves : Leaves settings state op next) :
    KeptBy (fun before after : Booking => after.awaitsPayment = true → before.awaitsPayment = true)
      state.db.bookings next.bookings :=
  leaves.bookings_kept (fun _ awaits => awaits) fun _ _ _ written => written.awaitsPayment

/-! What becomes of an advance. -/

inductive AdvanceStep (settings : Settings) (state : System) (op : Op) (next : Db) (before : Payment) : Payment → Prop
  | same : AdvanceStep settings state op next before before
  | succeeded {after : Payment} (origin : SameOrigin before after) (ordered : before.providerOrderId.isSome = true)
      (status : after.status = .success) : AdvanceStep settings state op next before after
  | failed {after : Payment} (locked : LockedPayment) (payments : PaymentTable)
      (isEffect : op.effect settings state = some (.failure locked payments))
      (own : locked.payment.booking = before.booking) (origin : SameOrigin before after)
      (ordered : before.providerOrderId.isSome = true) (status : after.status = .failed) :
      AdvanceStep settings state op next before after
  | refunded {after : Payment} (origin : SameOrigin before after) (ordered : before.providerOrderId.isSome = true)
      (status : after.status = .refunded) (booking : Booking)
      (found : next.bookings[before.booking]? = some booking) (settled : booking.bookingStatus = .refunded) :
      AdvanceStep settings state op next before after

theorem AdvanceStep.origin {before after : Payment} (step : AdvanceStep settings state op next before after) :
    SameOrigin before after := by
  cases step with
  | same => exact .refl before
  | succeeded origin ordered status => exact origin
  | failed locked payments isEffect own origin ordered status => exact origin
  | refunded origin ordered status booking found settled => exact origin

theorem Effective.advance_step {effect : Effect} (sound : PaymentsSound state.db)
    (isEffect : op.effect settings state = some effect) (effective : Effective effect state.db next)
    {position : PaymentId} {before : Payment} (found : state.db.payments.rows[position]? = some before)
    (advance : before.paymentType = .bookingAdvance) :
    ∃ after, next.payments.rows[position]? = some after ∧ AdvanceStep settings state op next before after := by
  have inBounds := (List.getElem?_eq_some_iff.mp found).1
  cases effective with
  | @confirmed _ _ now changedBy locked payments orderId paymentId foundPayment foundBooking ordered amount open_ rows
      writtenEq =>
      subst writtenEq
      rw [confirmBookingAfterPayment_payments]
      simp only [rows]
      by_cases isPayment : locked.paymentId = position
      · subst isPayment
        rw [found, Option.some.injEq] at foundPayment
        subst foundPayment
        exact ⟨_, List.getElem?_set_self inBounds, .succeeded (Payment.succeeded_origin ..) (by rw [ordered]; rfl) rfl⟩
      · exact ⟨before, by rw [List.getElem?_set_ne isPayment, found], .same⟩
  | @failed _ _ locked payments orderId paymentId foundPayment foundBooking ordered open_ rows writtenEq =>
      subst writtenEq
      rw [markPaymentFailed_payments]
      simp only [rows]
      by_cases isPayment : locked.paymentId = position
      · subst isPayment
        rw [found, Option.some.injEq] at foundPayment
        subst foundPayment
        exact ⟨_, List.getElem?_set_self inBounds, .failed locked payments isEffect rfl (Payment.markedFailed_origin ..)
          (by rw [ordered]; rfl) rfl⟩
      · exact ⟨before, by rw [List.getElem?_set_ne isPayment, found], .same⟩
  | @refundSettled _ _ settlement foundSource foundBooking written bookings rows slots =>
      have untouched := sound.advance_untouched written found advance
      obtain ⟨ordered, ownBooking⟩ := sound.source_ordered foundSource written
      rw [rows, RefundSettlement.settledRows]
      by_cases full : settlement.source.amount ≤ successfulRefunds settlement.payments.rows settlement.sourceId
      · rw [if_pos full]
        by_cases isSource : settlement.sourceId = position
        · subst isSource
          rw [found, Option.some.injEq] at foundSource
          have after := List.getElem?_set_self (a := { settlement.source with status := .refunded })
            (List.getElem?_eq_some_iff.mp untouched).1
          refine ⟨_, after, .refunded ?_ ?_ rfl (settlement.booking.afterRefund settlement.payments.rows
            settlement.sourceId settlement.source) ?_ ?_⟩
          · rw [foundSource]
            exact Payment.status_origin _ _
          · rw [foundSource]
            exact ordered
          · rw [bookings, foundSource, ← ownBooking,
              List.getElem?_set_self (List.getElem?_eq_some_iff.mp foundBooking).1]
          · rw [Booking.afterRefund, if_pos full]
        · exact ⟨before, by rw [List.getElem?_set_ne isSource, untouched], .same⟩
      · rw [if_neg full]
        exact ⟨before, untouched, .same⟩
  | refundLost => exact ⟨before, found, .same⟩
  | workOrder foundRow bookings payments slots => exact ⟨before, by rw [payments, found], .same⟩
  | manuallyPaid now leadId reference positive foundBooking inserted bookings payments slots =>
      exact ⟨before, by rw [payments, inserted, List.getElem?_append_left inBounds, found], .same⟩
  | balanceCollected now foundBooking from_ positive remaining inserted bookings payments slots =>
      exact ⟨before, by rw [payments, inserted, List.getElem?_append_left inBounds, found], .same⟩
  | slotSaved bookings payments slots => exact ⟨before, by rw [payments, found], .same⟩

theorem Leaves.advance_step (sound : PaymentsSound state.db) (leaves : Leaves settings state op next)
    {position : PaymentId} {before : Payment} (found : state.db.payments.rows[position]? = some before)
    (advance : before.paymentType = .bookingAdvance) :
    ∃ after, next.payments.rows[position]? = some after ∧ AdvanceStep settings state op next before after := by
  rcases leaves.payments_cases with same | ⟨bookingId, booking, user, key, orderId, _, _, rows⟩ |
    ⟨effect, isEffect, effective⟩
  · exact ⟨before, by rw [same, found], .same⟩
  · refine ⟨before, ?_, .same⟩
    rw [rows, List.getElem?_append_left (List.getElem?_eq_some_iff.mp found).1, found]
  · exact effective.advance_step sound isEffect found advance

theorem Leaves.paymentsKept (sound : PaymentsSound state.db) (leaves : Leaves settings state op next) :
    PaymentsKept state.db.payments.rows next.payments.rows := by
  rcases leaves.payments_cases with same | ⟨bookingId, booking, user, key, orderId, _, _, rows⟩ |
    ⟨effect, isEffect, effective⟩
  · rw [same]
    exact .refl _
  · rw [rows]
    exact .append _ _
  · exact effective.paymentsKept sound

inductive NewAdvance (state : System) (op : Op) : Payment → Prop
  | ordered (bookingId : BookingId) (booking : Booking) (user : UserId) (key orderId : String)
      (isOp : op = .createAdvancePaymentOrder bookingId user key (.ok orderId))
      (planned : advanceOrderPlan bookingId user key state.db = .ok (booking, .request)) :
      NewAdvance state op (newAdvancePayment bookingId booking orderId key)
  | manual (now : Instant) (leadId : LeadId) (bookingId : BookingId) (amount : Money) (reference : String) :
      NewAdvance state op (newManualPayment now leadId bookingId amount reference)

theorem append_new {rows : List Payment} {added after : Payment} {position : PaymentId}
    (present : (rows ++ [added])[position]? = some after) (absent : rows[position]? = none) :
    position = rows.length ∧ after = added := by
  rcases append_cases present with old | new
  · rw [absent] at old
    cases old
  · exact new

theorem set_not_new {rows : List Payment} {written after : Payment} {key position : PaymentId}
    (present : (rows.set key written)[position]? = some after) (absent : rows[position]? = none) : False := by
  have inBounds := (List.getElem?_eq_some_iff.mp present).1
  rw [List.length_set] at inBounds
  rw [List.getElem?_eq_none_iff] at absent
  omega

theorem Effective.new_advance {effect : Effect} (sound : PaymentsSound state.db)
    (effective : Effective effect state.db next) {position : PaymentId} {after : Payment}
    (present : next.payments.rows[position]? = some after) (advance : after.paymentType = .bookingAdvance)
    (absent : state.db.payments.rows[position]? = none) :
    position = state.db.payments.rows.length ∧ NewAdvance state op after := by
  have impossible (same : next.payments.rows = state.db.payments.rows) : False := by
    rw [same, absent] at present
    cases present
  cases effective with
  | confirmed orderId paymentId foundPayment foundBooking ordered amount open_ rows writtenEq =>
      subst writtenEq
      rw [confirmBookingAfterPayment_payments] at present
      simp only [rows] at present
      exact absurd absent (set_not_new present)
  | failed orderId paymentId foundPayment foundBooking ordered open_ rows writtenEq =>
      subst writtenEq
      rw [markPaymentFailed_payments] at present
      simp only [rows] at present
      exact absurd absent (set_not_new present)
  | @refundSettled _ _ settlement foundSource foundBooking written bookings rows slots =>
      have refund := sound.refund_kind written
      have notNew : ∀ {payments : List Payment}, payments[position]? = some after →
          (payments = state.db.payments.rows ++ [settlement.refund] ∨
            payments = state.db.payments.rows.set settlement.refundId settlement.refund) → False := by
        rintro payments stored (appended | rewritten)
        · rw [appended] at stored
          rw [(append_new stored absent).2, refund] at advance
          cases advance
        · rw [rewritten] at stored
          exact set_not_new stored absent
      have recordedRows : settlement.payments.rows = state.db.payments.rows ++ [settlement.refund] ∨
          settlement.payments.rows = state.db.payments.rows.set settlement.refundId settlement.refund := by
        cases written with
        | requested now key refundId amount status paid positive bounded free row booking rows => exact .inl rows
        | delivered now currency refundId amount status paid free row new booking rows => exact .inl rows
        | rewritten now earlier status found row owner rows => exact .inr rows
      have stored : settlement.payments.rows[position]? = some after := by
        rw [rows, RefundSettlement.settledRows] at present
        split at present
        · rcases set_cases present with ⟨isSource, _⟩ | old
          · rw [isSource, foundSource] at absent
            cases absent
          · exact old
        · exact present
      exact (notNew stored recordedRows).elim
  | refundLost => exact (impossible rfl).elim
  | workOrder foundRow bookings payments slots => exact (impossible (by rw [payments])).elim
  | manuallyPaid now leadId reference positive foundBooking inserted bookings payments slots =>
      rw [payments, inserted] at present
      obtain ⟨isLast, rfl⟩ := append_new present absent
      exact ⟨isLast, .manual ..⟩
  | balanceCollected now foundBooking from_ positive remaining inserted bookings payments slots =>
      rw [payments, inserted] at present
      rw [(append_new present absent).2] at advance
      cases advance
  | slotSaved bookings payments slots => exact (impossible (by rw [payments])).elim

theorem Leaves.new_advance (sound : PaymentsSound state.db) (leaves : Leaves settings state op next)
    {position : PaymentId} {after : Payment} (present : next.payments.rows[position]? = some after)
    (advance : after.paymentType = .bookingAdvance) (absent : state.db.payments.rows[position]? = none) :
    position = state.db.payments.rows.length ∧ NewAdvance state op after := by
  rcases leaves.payments_cases with same | ⟨bookingId, booking, user, key, orderId, isOp, planned, rows⟩ |
    ⟨effect, isEffect, effective⟩
  · rw [same, absent] at present
    cases present
  · rw [rows] at present
    obtain ⟨isLast, rfl⟩ := append_new present absent
    exact ⟨isLast, .ordered bookingId booking user key orderId isOp planned⟩
  · exact effective.new_advance sound present advance absent

theorem Leaves.advance_cases (sound : PaymentsSound state.db) (leaves : Leaves settings state op next)
    {position : PaymentId} {after : Payment} (present : next.payments.rows[position]? = some after)
    (advance : after.paymentType = .bookingAdvance) :
    (∃ before, state.db.payments.rows[position]? = some before ∧ before.paymentType = .bookingAdvance ∧
        AdvanceStep settings state op next before after) ∨
      state.db.payments.rows[position]? = none ∧ position = state.db.payments.rows.length ∧ NewAdvance state op after := by
  cases found : state.db.payments.rows[position]? with
  | none => exact .inr ⟨rfl, leaves.new_advance sound present advance found⟩
  | some before =>
      obtain ⟨kept, stored, origin⟩ := leaves.paymentsKept sound position before found
      rw [present, Option.some.injEq] at stored
      subst stored
      have wasAdvance : before.paymentType = .bookingAdvance := by rw [← origin.kind, advance]
      obtain ⟨stepped, storedStep, step⟩ := leaves.advance_step sound found wasAdvance
      rw [present, Option.some.injEq] at storedStep
      subst storedStep
      exact .inl ⟨before, rfl, wasAdvance, step⟩

end

/-! What the advances of a booking keep. -/

/-- No advance has been refunded while its booking awaits the payment, and no key of a booking
is on two of its advances. -/
structure OrdersSound (db : Db) : Prop where
  payments : PaymentsSound db
  unsettled : ∀ payment ∈ db.payments.rows, payment.paymentType = .bookingAdvance → payment.status = .refunded →
    ∀ booking, db.bookings[payment.booking]? = some booking → booking.awaitsPayment = false
  keyed : ∀ (first second : PaymentId) (left right : Payment), db.payments.rows[first]? = some left →
    db.payments.rows[second]? = some right → left.paymentType = .bookingAdvance →
    right.paymentType = .bookingAdvance → left.booking = right.booking →
    left.idempotencyKey = right.idempotencyKey → first = second

def OrdersNamed (db : Db) : Prop :=
  ∀ payment ∈ db.payments.rows, payment.paymentType = .bookingAdvance →
    payment.providerOrderId ≠ some "" ∧ (payment.providerOrderId = none → payment.status = .success)

section

variable {settings : Settings} {state : System} {op : Op} {next : Db}

theorem manualKey_nonempty (now : Instant) (leadId : LeadId) (bookingId : BookingId) (amount : Money)
    (reference : String) : (newManualPayment now leadId bookingId amount reference).idempotencyKey ≠ "" := by
  intro empty
  have characters := congrArg String.toList empty
  simp [newManualPayment] at characters

theorem BookingWritten.sameTerms {bookingId : BookingId} {before after : Booking}
    (written : BookingWritten settings state op bookingId before after) : SameTerms before after := by
  cases written with
  | jobStep step => cases step <;> exact ⟨rfl, rfl⟩
  | moved now slotId changedBy notes slot isOp from_ foundSlot => exact ⟨rfl, rfl⟩
  | assigned technician slot from_ foundSlot free => exact ⟨rfl, rfl⟩
  | removed now changedBy notes isOp => exact ⟨rfl, rfl⟩
  | effective effect isEffect rewrites => exact Effect.Rewrites.sameTerms rewrites

theorem Leaves.paymentsSound (sound : PaymentsSound state.db) (leaves : Leaves settings state op next) :
    PaymentsSound next := by
  have kept : BookingsKept state.db.bookings next.bookings :=
    leaves.bookings_kept (fun _ => ⟨rfl, rfl⟩) fun _ _ _ written => written.sameTerms
  rcases leaves.payments_cases with same | ⟨bookingId, booking, user, key, orderId, _, planned, rows⟩ |
    ⟨effect, _, effective⟩
  · constructor
    · rw [same]
      exact sound.rows.bookings kept
    · rw [same]
      exact sound.parents
  · have found := (advanceOrderPlan_accepted planned).1
    constructor
    · rw [rows]
      exact (sound.rows.append (.of_order found)).bookings kept
    · rw [rows]
      exact sound.parents.append nofun
  · exact sound.effective effective

theorem advanceOrderPlan_unkeyed {bookingId : BookingId} {user : UserId} {key : String} {db : Db} {booking : Booking}
    (planned : advanceOrderPlan bookingId user key db = .ok (booking, .request)) :
    ∀ payment ∈ db.payments.rows, payment.isKeyed bookingId .bookingAdvance key = false := by
  simp only [advanceOrderPlan, accepted_bind, accepted_orRaise, accepted_require] at planned
  obtain ⟨locked, _, _, _, _, _, decided⟩ := planned
  split at decided
  · simp only [accepted_bind, accepted_pure, Prod.mk.injEq, reduceCtorEq, and_false, exists_false] at decided
  · rename_i unkeyed
    exact latestRow_none.mp unkeyed

theorem OrdersSound.unsettled_next (orders : OrdersSound state.db) (leaves : Leaves settings state op next) :
    ∀ payment ∈ next.payments.rows, payment.paymentType = .bookingAdvance → payment.status = .refunded →
      ∀ booking, next.bookings[payment.booking]? = some booking → booking.awaitsPayment = false := by
  intro payment member advance refunded booking found
  obtain ⟨position, present⟩ := List.mem_iff_getElem?.mp member
  rcases leaves.advance_cases orders.payments present advance with ⟨before, old, wasAdvance, step⟩ | ⟨_, _, new⟩
  · cases step with
    | same =>
        obtain ⟨stored, foundBefore, _⟩ := (orders.payments.rows payment (List.mem_of_getElem? old)).booked
        obtain ⟨after, foundAfter, awaits⟩ := leaves.awaitsPayment payment.booking stored foundBefore
        have left := orders.unsettled payment (List.mem_of_getElem? old) advance refunded stored foundBefore
        rw [found, Option.some.injEq] at foundAfter
        subst foundAfter
        exact Bool.eq_false_iff.mpr fun stillAwaits => by
          rw [awaits stillAwaits] at left
          cases left
    | succeeded origin ordered status =>
        rw [status] at refunded
        cases refunded
    | failed locked payments isEffect own origin ordered status =>
        rw [status] at refunded
        cases refunded
    | refunded origin ordered status settledBooking foundSettled settled =>
        rw [origin.booking, foundSettled, Option.some.injEq] at found
        subst found
        simp [Booking.awaitsPayment, settled]
  · cases new <;> cases refunded

theorem OrdersSound.keyed_next (orders : OrdersSound state.db) (leaves : Leaves settings state op next) :
    ∀ (first second : PaymentId) (left right : Payment), next.payments.rows[first]? = some left →
      next.payments.rows[second]? = some right → left.paymentType = .bookingAdvance →
      right.paymentType = .bookingAdvance → left.booking = right.booking →
      left.idempotencyKey = right.idempotencyKey → first = second := by
  intro first second left right presentLeft presentRight advanceLeft advanceRight booking key
  by_cases keyless : left.idempotencyKey = ""
  · -- the constraint leaves the empty key out; a call with it finds the row that it made before
    have fresh : ∀ {payment other : Payment} {position : PaymentId}, NewAdvance state op payment →
        payment.idempotencyKey = "" → state.db.payments.rows[position]? = some other →
        other.paymentType = .bookingAdvance → other.booking = payment.booking →
        other.idempotencyKey = payment.idempotencyKey → False := by
      intro payment other position new keyless old advance sameBooking sameKey
      cases new with
      | ordered bookingId booking user key orderId isOp planned =>
          have unkeyed := advanceOrderPlan_unkeyed planned other (List.mem_of_getElem? old)
          have isKeyed : other.isKeyed bookingId .bookingAdvance key = true := by
            simp [Payment.isKeyed, advance, sameBooking, sameKey, newAdvancePayment]
          rw [isKeyed] at unkeyed
          cases unkeyed
      | manual now leadId bookingId amount reference =>
          exact manualKey_nonempty now leadId bookingId amount reference keyless
    rcases leaves.advance_cases orders.payments presentLeft advanceLeft with
      ⟨beforeLeft, oldLeft, wasLeft, stepLeft⟩ | ⟨_, lastLeft, newLeft⟩
    · rcases leaves.advance_cases orders.payments presentRight advanceRight with
        ⟨beforeRight, oldRight, wasRight, stepRight⟩ | ⟨_, lastRight, newRight⟩
      · refine orders.keyed first second beforeLeft beforeRight oldLeft oldRight wasLeft wasRight ?_ ?_
        · rw [← stepLeft.origin.booking, booking, stepRight.origin.booking]
        · rw [← stepLeft.origin.key, key, stepRight.origin.key]
      · refine (fresh newRight (key.symm.trans keyless) oldLeft wasLeft ?_ ?_).elim
        · rw [← stepLeft.origin.booking, booking]
        · rw [← stepLeft.origin.key, key]
    · rcases leaves.advance_cases orders.payments presentRight advanceRight with
        ⟨beforeRight, oldRight, wasRight, stepRight⟩ | ⟨_, lastRight, newRight⟩
      · refine (fresh newLeft keyless oldRight wasRight ?_ ?_).elim
        · rw [← stepRight.origin.booking, booking]
        · rw [← stepRight.origin.key, key]
      · rw [lastLeft, lastRight]
  · refine Decidable.byContradiction fun differs => ?_
    have apart := next.payments.apart clashes_symm presentLeft presentRight differs
    simp [Payment.clashes, booking, advanceLeft, advanceRight, ← key, keyless] at apart

theorem OrdersSound.step (orders : OrdersSound state.db) (leaves : Leaves settings state op next) :
    OrdersSound next :=
  ⟨leaves.paymentsSound orders.payments, orders.unsettled_next leaves, orders.keyed_next leaves⟩

theorem OrdersNamed.step (named : OrdersNamed state.db) (sound : PaymentsSound state.db) (names : op.namesOrder = true)
    (leaves : Leaves settings state op next) : OrdersNamed next := by
  intro payment member advance
  obtain ⟨position, present⟩ := List.mem_iff_getElem?.mp member
  rcases leaves.advance_cases sound present advance with ⟨before, old, wasAdvance, step⟩ | ⟨_, _, new⟩
  · obtain ⟨name, offline⟩ := named before (List.mem_of_getElem? old) wasAdvance
    cases step with
    | same => exact ⟨name, offline⟩
    | succeeded origin ordered status =>
        rw [origin.order]
        exact ⟨name, fun _ => status⟩
    | failed locked payments isEffect own origin ordered status =>
        rw [origin.order]
        refine ⟨name, fun missing => ?_⟩
        rw [missing] at ordered
        cases ordered
    | refunded origin ordered status booking found settled =>
        rw [origin.order]
        refine ⟨name, fun missing => ?_⟩
        rw [missing] at ordered
        cases ordered
  · cases new with
    | ordered bookingId booking user key orderId isOp planned =>
        subst isOp
        refine ⟨?_, fun isManual => (by cases isManual)⟩
        simpa [Op.namesOrder, newAdvancePayment] using names
    | manual now leadId bookingId amount reference => exact ⟨fun isRazorpay => (by cases isRazorpay), fun _ => rfl⟩

end

theorem System.Initial.ordersSound {start : System} (initial : start.Initial) : OrdersSound start.db := by
  refine ⟨initial.paymentsSound, ?_, ?_⟩
  · rw [initial.payments]
    exact List.forall_mem_nil _
  · intro first second left right present
    rw [initial.payments] at present
    cases present

theorem System.Initial.ordersNamed {start : System} (initial : start.Initial) : OrdersNamed start.db := by
  unfold OrdersNamed
  rw [initial.payments]
  exact List.forall_mem_nil _

section

variable {settings : Settings} {bookingId : BookingId} {user : UserId} {key : String} {db next : Db} {booking : Booking}

theorem oneActiveAdvance (payments : PaymentTable) (bookingId : BookingId) :
    OneActiveAdvance bookingId payments.rows := by
  intro first second left right presentLeft presentRight activeLeft activeRight
  refine Decidable.byContradiction fun differs => ?_
  have apart := payments.apart clashes_symm presentLeft presentRight differs
  simp only [Payment.isActiveAdvanceOf, Bool.and_eq_true, beq_iff_eq] at activeLeft activeRight
  simp [Payment.clashes, activeLeft, activeRight] at apart

theorem active_of_unsettled {payment : Payment} (advance : payment.paymentType = .bookingAdvance)
    (open_ : payment.status ≠ .failed) (unsettled : payment.status ≠ .refunded) : payment.isActiveAdvance = true := by
  cases status : payment.status <;>
    simp_all [Payment.isActiveAdvance, PaymentRecordStatus.isActiveAdvance]

theorem advanceOrderPlan_reuse {paymentId : PaymentId} {payment : Payment}
    (planned : advanceOrderPlan bookingId user key db = .ok (booking, .reuse paymentId payment)) :
    (latestRow (Payment.isKeyed bookingId .bookingAdvance key) db.payments.rows = some (paymentId, payment) ∧
        payment.status ≠ .failed) ∨
      latestRow (Payment.isActiveAdvanceOf bookingId) db.payments.rows = some (paymentId, payment) := by
  simp only [advanceOrderPlan, accepted_bind, accepted_orRaise, accepted_require] at planned
  obtain ⟨locked, _, _, _, _, _, decided⟩ := planned
  split at decided
  · rename_i keyedId keyed found
    simp only [accepted_bind, accepted_require, accepted_pure, Prod.mk.injEq, OrderPlan.reuse.injEq] at decided
    obtain ⟨_, open_, _, rfl, rfl⟩ := decided
    exact .inl ⟨found, open_⟩
  · split at decided
    · simp only [accepted_pure, Prod.mk.injEq, reduceCtorEq, and_false] at decided
    · rename_i existingId existing found
      simp only [accepted_bind, accepted_require] at decided
      obtain ⟨_, _, answered⟩ := decided
      split at answered
      · simp only [accepted_pure, Prod.mk.injEq, OrderPlan.reuse.injEq] at answered
        obtain ⟨_, rfl, rfl⟩ := answered
        exact .inr found
      · simp only [accepted_pure, Prod.mk.injEq, reduceCtorEq, and_false] at answered

theorem advanceOrderPlan_request (planned : advanceOrderPlan bookingId user key db = .ok (booking, .request)) :
    (∀ payment ∈ db.payments.rows, payment.isActiveAdvanceOf bookingId = false) ∨
      ∃ existing ∈ db.payments.rows, existing.isActiveAdvanceOf bookingId = true ∧ existing.status ≠ .success ∧
        ∀ orderId, existing.providerOrderId = some orderId → orderId = "" := by
  simp only [advanceOrderPlan, accepted_bind, accepted_orRaise, accepted_require] at planned
  obtain ⟨locked, _, _, _, _, _, decided⟩ := planned
  split at decided
  · simp only [accepted_bind, accepted_pure, Prod.mk.injEq, reduceCtorEq, and_false, exists_false] at decided
  · split at decided
    · rename_i none
      exact .inl (latestRow_none.mp none)
    · rename_i existingId existing found
      have facts := latestRow_some found
      simp only [accepted_bind, accepted_require] at decided
      obtain ⟨_, unpaid, answered⟩ := decided
      split at answered
      · simp only [accepted_pure, Prod.mk.injEq, reduceCtorEq, and_false] at answered
      · rename_i unnamed
        refine .inr ⟨existing, List.mem_of_getElem? facts.1, facts.2, unpaid, fun orderId isOrder => ?_⟩
        simpa [isOrder] using unnamed

theorem OrdersNamed.requested (named : OrdersNamed db)
    (planned : advanceOrderPlan bookingId user key db = .ok (booking, .request)) :
    ∀ payment ∈ db.payments.rows, payment.isActiveAdvanceOf bookingId = false := by
  rcases advanceOrderPlan_request planned with inactive | ⟨existing, member, active, unpaid, unnamed⟩
  · exact inactive
  · simp only [Payment.isActiveAdvanceOf, Payment.isActiveAdvance, Bool.and_eq_true, beq_iff_eq] at active
    obtain ⟨name, offline⟩ := named existing member active.2.1
    cases order : existing.providerOrderId with
    | none => exact absurd (offline order) unpaid
    | some orderId =>
        rw [unnamed orderId order] at order
        exact absurd order name

structure OrderAnswered (settings : Settings) (bookingId : BookingId) (key : String) (next : Db) (paymentId : PaymentId)
    (response : OrderResponse) (payment : Payment) : Prop where
  stored : next.payments.rows[paymentId]? = some payment
  response : response = orderResponse settings paymentId payment
  which : firstRow (Payment.isKeyed bookingId .bookingAdvance key) next.payments.rows = some (paymentId, payment) ∨
    payment.isActiveAdvanceOf bookingId = true

theorem OrdersSound.firstKeyed (orders : OrdersSound db) {paymentId : PaymentId} {payment : Payment}
    (found : latestRow (Payment.isKeyed bookingId .bookingAdvance key) db.payments.rows = some (paymentId, payment)) :
    firstRow (Payment.isKeyed bookingId .bookingAdvance key) db.payments.rows = some (paymentId, payment) := by
  obtain ⟨present, isKeyed⟩ := latestRow_some found
  refine firstRow_unique present isKeyed fun other row presentOther keyedOther => ?_
  simp only [Payment.isKeyed, Bool.and_eq_true, beq_iff_eq] at isKeyed keyedOther
  exact orders.keyed other paymentId row payment presentOther present keyedOther.1.2 isKeyed.1.2
    (by rw [keyedOther.1.1, isKeyed.1.1]) (by rw [keyedOther.2, isKeyed.2])

theorem createAdvancePaymentOrder_returned {providerOrder : Except ServiceError String} {paymentId : PaymentId}
    {response : OrderResponse}
    (returned : createAdvancePaymentOrder settings bookingId user key providerOrder db =
      .ok ((paymentId, response), next)) :
    ∃ booking payment, response = orderResponse settings paymentId payment ∧
      ((advanceOrderPlan bookingId user key db = .ok (booking, .reuse paymentId payment) ∧ next = db) ∨
        ∃ orderId, advanceOrderPlan bookingId user key db = .ok (booking, .request) ∧
          payment = newAdvancePayment bookingId booking orderId key ∧ paymentId = db.payments.rows.length ∧
          next.payments.rows = db.payments.rows ++ [payment] ∧
          ∀ other ∈ db.payments.rows, other.isActiveAdvanceOf bookingId = false) := by
  rcases createAdvancePaymentOrder_cases returned with
    ⟨booking, _, payment, planned, isAnswer, rfl⟩ | ⟨booking, orderId, payments, planned, _, inserted, isAnswer, rfl⟩
  · obtain ⟨rfl, rfl⟩ := Prod.mk.inj isAnswer
    exact ⟨booking, payment, rfl, .inl ⟨planned, rfl⟩⟩
  · obtain ⟨rfl, rfl⟩ := Prod.mk.inj isAnswer
    obtain ⟨rows, free⟩ := UniqueTable.insert?_some inserted
    refine ⟨booking, _, rfl, .inr ⟨orderId, planned, rfl, rfl, rows, fun other member => ?_⟩⟩
    -- the constraint refuses a second active advance
    have apart := free other member
    rw [Bool.eq_false_iff]
    intro active
    simp only [Payment.isActiveAdvanceOf, Bool.and_eq_true, beq_iff_eq] at active
    have own : (newAdvancePayment bookingId booking orderId key).booking = bookingId := rfl
    have newActive : (newAdvancePayment bookingId booking orderId key).isActiveAdvance = true := rfl
    exact apart (by simp [Payment.clashes, own, newActive, active])

theorem OrdersSound.answered (orders : OrdersSound db) {providerOrder : Except ServiceError String}
    {paymentId : PaymentId} {response : OrderResponse}
    (returned : createAdvancePaymentOrder settings bookingId user key providerOrder db =
      .ok ((paymentId, response), next)) :
    ∃ payment, OrderAnswered settings bookingId key next paymentId response payment := by
  obtain ⟨booking, payment, isResponse, ⟨planned, rfl⟩ | ⟨orderId, planned, rfl, rfl, rows, _⟩⟩ :=
    createAdvancePaymentOrder_returned returned
  · rcases advanceOrderPlan_reuse planned with ⟨keyed, _⟩ | active
    · exact ⟨payment, (latestRow_some keyed).1, isResponse, .inl (orders.firstKeyed keyed)⟩
    · exact ⟨payment, (latestRow_some active).1, isResponse, .inr (latestRow_some active).2⟩
  · refine ⟨_, ?_, isResponse, .inr ?_⟩
    · rw [rows, List.getElem?_append_right (Nat.le_refl _)]
      simp
    · simp [Payment.isActiveAdvanceOf, newAdvancePayment, Payment.isActiveAdvance,
        PaymentRecordStatus.isActiveAdvance]

theorem OrdersSound.active (orders : OrdersSound db) {payment : Payment} (member : payment ∈ db.payments.rows)
    (found : db.bookings[bookingId]? = some booking) (awaits : booking.awaitsPayment = true)
    (advance : payment.paymentType = .bookingAdvance) (own : payment.booking = bookingId)
    (open_ : payment.status ≠ .failed) : payment.isActiveAdvanceOf bookingId = true := by
  have active := active_of_unsettled advance open_ fun refunded => by
    have left := orders.unsettled payment member advance refunded booking (by rw [own, found])
    rw [awaits] at left
    cases left
  simp [Payment.isActiveAdvanceOf, own, active]

theorem OrdersSound.returned_active (orders : OrdersSound db) {providerOrder : Except ServiceError String}
    {paymentId : PaymentId} {response : OrderResponse}
    (returned : createAdvancePaymentOrder settings bookingId user key providerOrder db =
      .ok ((paymentId, response), next)) :
    ∃ payment, response = orderResponse settings paymentId payment ∧
      next.payments.rows[paymentId]? = some payment ∧ payment.isActiveAdvanceOf bookingId = true := by
  obtain ⟨booking, payment, isResponse, ⟨planned, rfl⟩ | ⟨orderId, planned, rfl, rfl, rows, _⟩⟩ :=
    createAdvancePaymentOrder_returned returned
  · obtain ⟨found, awaiting⟩ := advanceOrderPlan_accepted planned
    rcases advanceOrderPlan_reuse planned with ⟨keyed, open_⟩ | active
    · obtain ⟨present, isKeyed⟩ := latestRow_some keyed
      simp only [Payment.isKeyed, Bool.and_eq_true, beq_iff_eq] at isKeyed
      exact ⟨payment, isResponse, present, orders.active (List.mem_of_getElem? present) found
        (by simpa [Booking.awaitsPayment] using awaiting) isKeyed.1.2 isKeyed.1.1 open_⟩
    · exact ⟨payment, isResponse, (latestRow_some active).1, (latestRow_some active).2⟩
  · refine ⟨_, isResponse, ?_, ?_⟩
    · rw [rows, List.getElem?_append_right (Nat.le_refl _)]
      simp
    · simp [Payment.isActiveAdvanceOf, newAdvancePayment, Payment.isActiveAdvance,
        PaymentRecordStatus.isActiveAdvance]

def OrderOpen (bookingId : BookingId) (paymentId : PaymentId) (orderId : Option String) (db : Db) : Prop :=
  ∃ payment, db.payments.rows[paymentId]? = some payment ∧ payment.paymentType = .bookingAdvance ∧
    payment.booking = bookingId ∧ payment.providerOrderId = orderId ∧
    ((∃ booking, db.bookings[bookingId]? = some booking ∧ booking.awaitsPayment = false) ∨
      payment.isActiveAdvanceOf bookingId = true)

theorem OrdersSound.same_order (orders : OrdersSound db) {providerOrder : Except ServiceError String}
    {paymentId otherId : PaymentId} {orderId : Option String} {response : OrderResponse}
    (order : OrderOpen bookingId paymentId orderId db)
    (returned : createAdvancePaymentOrder settings bookingId user key providerOrder db =
      .ok ((otherId, response), next)) :
    otherId = paymentId ∧ response.providerOrderId = orderId := by
  obtain ⟨payment, present, advance, own, isOrder, stillOpen⟩ := order
  have found : ∃ booking, db.bookings[bookingId]? = some booking ∧ booking.awaitsPayment = true := by
    obtain ⟨booking, _, _, ⟨planned, _⟩ | ⟨_, planned, _⟩⟩ := createAdvancePaymentOrder_returned returned
    · obtain ⟨found, awaiting⟩ := advanceOrderPlan_accepted planned
      exact ⟨booking, found, by simpa [Booking.awaitsPayment] using awaiting⟩
    · obtain ⟨found, awaiting⟩ := advanceOrderPlan_accepted planned
      exact ⟨booking, found, by simpa [Booking.awaitsPayment] using awaiting⟩
  have active : payment.isActiveAdvanceOf bookingId = true := by
    rcases stillOpen with ⟨booking, foundAfter, left⟩ | active
    · obtain ⟨awaiting, foundAwaiting, awaits⟩ := found
      rw [foundAfter, Option.some.injEq] at foundAwaiting
      rw [foundAwaiting, awaits] at left
      cases left
    · exact active
  obtain ⟨other, isResponse, storedOther, activeOther⟩ := orders.returned_active returned
  obtain ⟨_, _, _, ⟨_, rfl⟩ | ⟨_, _, _, _, _, inactive⟩⟩ := createAdvancePaymentOrder_returned returned
  · have same := oneActiveAdvance next.payments bookingId otherId paymentId other payment storedOther present
      activeOther active
    subst same
    rw [present, Option.some.injEq] at storedOther
    subst storedOther
    exact ⟨rfl, by rw [isResponse]; exact isOrder⟩
  · have noActive := inactive payment (List.mem_of_getElem? present)
    rw [active] at noActive
    cases noActive

end

section

variable {settings : Settings} {bookingId : BookingId}

theorem OrderOpen.step {state : System} {op : Op} {next : Db} {paymentId : PaymentId} {orderId : Option String}
    (sound : PaymentsSound state.db) (order : OrderOpen bookingId paymentId orderId state.db)
    (unfailed : Op.meets settings (noFailureOf bookingId) state op) (leaves : Leaves settings state op next) :
    OrderOpen bookingId paymentId orderId next := by
  obtain ⟨payment, present, advance, own, isOrder, stillOpen⟩ := order
  obtain ⟨after, presentAfter, step⟩ := leaves.advance_step sound present advance
  have origin := step.origin
  refine ⟨after, presentAfter, by rw [origin.kind, advance], by rw [origin.booking, own],
    by rw [origin.order, isOrder], ?_⟩
  rcases stillOpen with ⟨booking, found, left⟩ | active
  · obtain ⟨later, foundLater, awaits⟩ := leaves.awaitsPayment bookingId booking found
    refine .inl ⟨later, foundLater, Bool.eq_false_iff.mpr fun stillAwaits => ?_⟩
    rw [awaits stillAwaits] at left
    cases left
  · cases step with
    | same => exact .inr active
    | succeeded _ ordered status =>
        right
        simp [Payment.isActiveAdvanceOf, Payment.isActiveAdvance, PaymentRecordStatus.isActiveAdvance, origin.booking,
          own, origin.kind, advance, status]
    | failed locked payments isEffect ownBooking _ ordered status =>
        rw [Op.meets, isEffect] at unfailed
        simp [noFailureOf, ownBooking, own] at unfailed
    | refunded _ ordered status booking found settled =>
        rw [own] at found
        exact .inl ⟨booking, found, by simp [Booking.awaitsPayment, settled]⟩

/-- What holds of the orders for a booking's advance at any time. -/
structure ExactlyOnce (settings : Settings) (bookingId : BookingId) (state : System) : Prop where
  single : OneActiveAdvance bookingId state.db.payments.rows
  requested : ∀ user key booking, advanceOrderPlan bookingId user key state.db = .ok (booking, .request) →
    ∀ payment ∈ state.db.payments.rows, payment.isActiveAdvanceOf bookingId = false
  answered : ∀ user key providerOrder paymentId response next,
    createAdvancePaymentOrder settings bookingId user key providerOrder state.db =
      .ok ((paymentId, response), next) →
    OneActiveAdvance bookingId next.payments.rows ∧
      ∃ payment, OrderAnswered settings bookingId key next paymentId response payment
  repeated : ∀ user key providerOrder paymentId response next between otherUser otherKey otherOrder otherId
    otherResponse last,
    createAdvancePaymentOrder settings bookingId user key providerOrder state.db =
      .ok ((paymentId, response), next) →
    Guarded (System.step settings) (Op.meets settings (noFailureOf bookingId))
      (System.step settings state (.createAdvancePaymentOrder bookingId user key providerOrder)) between →
    createAdvancePaymentOrder settings bookingId otherUser otherKey otherOrder
        (runAll (System.step settings)
          (System.step settings state (.createAdvancePaymentOrder bookingId user key providerOrder)) between).db =
      .ok ((otherId, otherResponse), last) →
    otherId = paymentId ∧ otherResponse.providerOrderId = response.providerOrderId

theorem OrdersSound.repeated {state : System} (orders : OrdersSound state.db) {user otherUser : UserId}
    {key otherKey : String} {providerOrder otherOrder : Except ServiceError String} {paymentId otherId : PaymentId}
    {response otherResponse : OrderResponse} {next last : Db} {between : List Op}
    (returned : createAdvancePaymentOrder settings bookingId user key providerOrder state.db =
      .ok ((paymentId, response), next))
    (unfailed : Guarded (System.step settings) (Op.meets settings (noFailureOf bookingId))
      (System.step settings state (.createAdvancePaymentOrder bookingId user key providerOrder)) between)
    (returnedAgain : createAdvancePaymentOrder settings bookingId otherUser otherKey otherOrder
        (runAll (System.step settings)
          (System.step settings state (.createAdvancePaymentOrder bookingId user key providerOrder)) between).db =
      .ok ((otherId, otherResponse), last)) :
    otherId = paymentId ∧ otherResponse.providerOrderId = response.providerOrderId := by
  have isNext : (System.step settings state (.createAdvancePaymentOrder bookingId user key providerOrder)).db = next := by
    simp only [System.step, System.commit, returned]
    rfl
  obtain ⟨payment, isResponse, present, active⟩ := orders.returned_active returned
  have ordersNext : OrdersSound next := orders.step (createAdvancePaymentOrder_leaves returned)
  have orderNext : OrderOpen bookingId paymentId response.providerOrderId next := by
    simp only [Payment.isActiveAdvanceOf, Payment.isActiveAdvance, Bool.and_eq_true, beq_iff_eq] at active
    refine ⟨payment, present, active.2.1, active.1, by rw [isResponse]; rfl, .inr ?_⟩
    simp [Payment.isActiveAdvanceOf, Payment.isActiveAdvance, active]
  have preserved : ∀ (state : System) (op : Op) (next : Db),
      OrdersSound state.db ∧ OrderOpen bookingId paymentId response.providerOrderId state.db →
      Op.meets settings (noFailureOf bookingId) state op → Leaves settings state op next →
      OrdersSound next ∧ OrderOpen bookingId paymentId response.providerOrderId next := by
    rintro state op next ⟨sound, order⟩ meets leaves
    exact ⟨sound.step leaves, order.step sound.payments meets leaves⟩
  have start : OrdersSound (System.step settings state
      (.createAdvancePaymentOrder bookingId user key providerOrder)).db ∧
      OrderOpen bookingId paymentId response.providerOrderId (System.step settings state
        (.createAdvancePaymentOrder bookingId user key providerOrder)).db := by
    rw [isNext]
    exact ⟨ordersNext, orderNext⟩
  have kept := leaves_invariant
    (fun db => OrdersSound db ∧ OrderOpen bookingId paymentId response.providerOrderId db) preserved unfailed start
  exact kept.1.same_order kept.2 returnedAgain

/-- However orders, failures, verifications and whatever else follow one another. -/
theorem exactlyOnce_run (settings : Settings) (bookingId : BookingId) {start : System} {ops : List Op}
    (initial : start.Initial) (named : ∀ op ∈ ops, op.namesOrder = true) :
    ExactlyOnce settings bookingId (runAll (System.step settings) start ops) := by
  have preserved : ∀ (state : System) (op : Op) (next : Db), OrdersSound state.db ∧ OrdersNamed state.db →
      op.namesOrder = true → Leaves settings state op next → OrdersSound next ∧ OrdersNamed next := by
    rintro state op next ⟨orders, namedBefore⟩ names leaves
    exact ⟨orders.step leaves, namedBefore.step orders.payments names leaves⟩
  have allowed : Guarded (System.step settings) (fun _ op => op.namesOrder = true) start ops := .of_forall named
  have kept := leaves_invariant (fun db => OrdersSound db ∧ OrdersNamed db) preserved allowed
    ⟨initial.ordersSound, initial.ordersNamed⟩
  constructor
  · exact oneActiveAdvance _ bookingId
  · intro user key booking planned
    exact kept.2.requested planned
  · intro user key providerOrder paymentId response next returned
    exact ⟨oneActiveAdvance _ bookingId, kept.1.answered returned⟩
  · intro user key providerOrder paymentId response next between otherUser otherKey otherOrder otherId otherResponse last
      returned unfailed returnedAgain
    exact kept.1.repeated returned unfailed returnedAgain

def retriedOrders : List Op := [
  sampleBookingBy 0,
  .createAdvancePaymentOrder 0 0 "payment-key-1" (.ok "order_1"),
  samplePaymentEvent "payment.failed" "order_1" "pay_1" 20000,
  .createAdvancePaymentOrder 0 0 "payment-key-2" (.ok "order_2"),
  .createAdvancePaymentOrder 0 0 "payment-key-1" (.ok "order_3")]

theorem exactlyOnce_run_retriedOrders :
    ExactlyOnce sampleSettings 0 (runAll (System.step sampleSettings) sampleSystem retriedOrders) :=
  exactlyOnce_run sampleSettings 0 sampleSystem_initial (by decide)

end

end PsCore
