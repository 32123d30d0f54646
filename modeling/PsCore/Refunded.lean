import PsCore.Effects
import PsCore.UniquePayments

/-!
What the gateway can still do to a refunded payment. The replay guards test for a success
only, so a refunded payment stays refunded just where every event is turned away.
-/

namespace PsCore

open Fallible RowTable TransitionRun

structure PaymentFields where
  order : Json
  id : Json
  amount : Json

def paymentFields (payload : Json) : Except ServiceError PaymentFields := do
  let entity ← webhookEntity payload "payment"
  let order ← entity.get "order_id"
  let id ← entity.get "id"
  let amount ← entity.get "amount"
  pure { order := order, id := id, amount := amount }

/-- A verification of the order, or a payment event of the gateway that names it. -/
inductive Op.ForOrder (orderId : String) : Op → Prop
  | verification (now : Instant) (paymentId signature : String) (user : Option UserId) :
      ForOrder orderId (.verifyRazorpayPayment now orderId paymentId signature user)
  | captured (now : Instant) (eventName : String) (payload : Json) (fields : PaymentFields)
      (kind : eventName = "payment.captured") (read : paymentFields payload = .ok fields)
      (order : fields.order.str = orderId) : ForOrder orderId (.dispatchWebhook now eventName payload)
  | failed (now : Instant) (eventName : String) (payload : Json) (fields : PaymentFields)
      (kind : eventName = "payment.failed") (read : paymentFields payload = .ok fields)
      (order : fields.order.str = orderId) : ForOrder orderId (.dispatchWebhook now eventName payload)

def NotificationEvent.isPaymentNews : NotificationEvent → Bool
  | .bookingConfirmed | .paymentFailed => true
  | _ => false

def Db.paymentNews (db : Db) : Nat :=
  countWhere (fun notification => notification.event.isPaymentNews) db.notifications

structure RemainsRefunded (start db : Db) (paymentId : PaymentId) (bookingId : BookingId) : Prop where
  payment : ∃ payment, db.payments.rows[paymentId]? = some payment ∧ payment.status = .refunded
  booking : BookingAt bookingId
    (fun booking => booking.bookingStatus = .refunded ∧ booking.paymentStatus = .refunded) db
  quiet : db.paymentNews = start.paymentNews

def StaysRefunded (settings : Settings) (start : System) (locked : LockedPayment) (ops : List Op) : Prop :=
  ∀ earlier later, ops = earlier ++ later →
    RemainsRefunded start.db (runAll (System.step settings) start earlier).db locked.paymentId
      locked.payment.booking

inductive VerificationTurnedAway (settings : Settings) (db : Db) (locked : LockedPayment)
    (orderId paymentId signature : String) (user : Option UserId) : Prop
  | otherCustomer (customer : UserId) (given : user = some customer)
      (other : customer ≠ locked.booking.customer)
  | otherAdvance (other : locked.payment.amount ≠ locked.booking.advanceRequired)
  | notAscii (signature_ : isAscii signature = false)
  | genuineTaken (genuine : makePaymentSignature settings orderId paymentId = signature)
      (taken : ¬ (PaymentIdFree db.payments.rows locked.paymentId paymentId ∧
        OnlyAdvance db.payments.rows locked.paymentId locked.payment.booking))
  | forgedTaken (forged : makePaymentSignature settings orderId paymentId ≠ signature) (given : paymentId ≠ "")
      (taken : ¬ PaymentIdFree db.payments.rows locked.paymentId paymentId)

inductive CaptureTurnedAway (settings : Settings) (db : Db) (locked : LockedPayment) (fields : PaymentFields) : Prop
  | incomplete (missing : fields.order.truthy = false ∨ fields.id.truthy = false)
  | otherAmount (other : fields.amount.equalsNumber (decimalToPaise locked.payment.amount) = false)
  | unverified (turnedAway : VerificationTurnedAway settings db locked fields.order.str fields.id.str
      (makePaymentSignature settings fields.order.str fields.id.str) none)

inductive FailureTurnedAway (db : Db) (locked : LockedPayment) (fields : PaymentFields) : Prop
  | incomplete (missing : fields.order.truthy = false)
  | taken (given : fields.id.truthy = true)
      (taken : ¬ PaymentIdFree db.payments.rows locked.paymentId fields.id.str)

inductive Op.TurnedAway (settings : Settings) (db : Db) (locked : LockedPayment) : Op → Prop
  | verification {now : Instant} {orderId paymentId signature : String} {user : Option UserId}
      (turnedAway : VerificationTurnedAway settings db locked orderId paymentId signature user) :
      TurnedAway settings db locked (.verifyRazorpayPayment now orderId paymentId signature user)
  | captured {now : Instant} {eventName : String} {payload : Json} {fields : PaymentFields}
      (kind : eventName = "payment.captured") (read : paymentFields payload = .ok fields)
      (turnedAway : CaptureTurnedAway settings db locked fields) :
      TurnedAway settings db locked (.dispatchWebhook now eventName payload)
  | failed {now : Instant} {eventName : String} {payload : Json} {fields : PaymentFields}
      (kind : eventName = "payment.failed") (read : paymentFields payload = .ok fields)
      (turnedAway : FailureTurnedAway db locked fields) :
      TurnedAway settings db locked (.dispatchWebhook now eventName payload)

theorem lockOrderPayment_found {db : Db} {orderId : String} {locked : LockedPayment}
    (found : db.payments.rows[locked.paymentId]? = some locked.payment)
    (ordered : locked.payment.providerOrderId = some orderId)
    (foundBooking : db.bookings[locked.payment.booking]? = some locked.booking) :
    lockOrderPayment db orderId = .ok locked := by
  have unique : ∀ (other : PaymentId) (row : Payment), db.payments.rows[other]? = some row →
      (row.providerOrderId == some orderId) = true → other = locked.paymentId := by
    intro other row present named
    refine Decidable.byContradiction fun differs => ?_
    have apart := db.payments.apart clashes_symm present found differs
    simp only [beq_iff_eq] at named
    simp [Payment.clashes, sameValue, named, ordered] at apart
  have first : firstRow (fun payment : Payment => payment.providerOrderId == some orderId) db.payments.rows =
      some (locked.paymentId, locked.payment) := firstRow_unique found (by simp [ordered]) unique
  simp [lockOrderPayment, first, orRaise, foundBooking, bind, Except.bind, pure, Except.pure]

theorem VerificationTurnedAway.idle {settings : Settings} {db : Db} {locked : LockedPayment}
    {orderId paymentId signature : String} {user : Option UserId} (now : Instant)
    (lockedRow : lockOrderPayment db orderId = .ok locked) (open_ : locked.payment.status ≠ .success)
    (advance : locked.payment.paymentType = .bookingAdvance)
    (turnedAway : VerificationTurnedAway settings db locked orderId paymentId signature user) :
    (verifyRazorpayPayment settings now orderId paymentId signature user db).2 = db := by
  have found := (lockOrderPayment_accepted lockedRow).1
  have rejected : ∀ change, verificationChange settings now orderId paymentId signature user db ≠ .ok change := by
    intro change accepted
    simp only [verificationChange, lockedRow, accepted_bind, accepted_require, Except.ok.injEq] at accepted
    obtain ⟨_, rfl, _, customer, _, amount, decided⟩ := accepted
    rw [if_neg open_] at decided
    simp only [accepted_bind, verifyPaymentSignature] at decided
    obtain ⟨genuine, verified, stored⟩ := decided
    split at verified
    · rename_i ascii
      simp only [Except.ok.injEq] at verified
      subst verified
      cases turnedAway with
      | otherCustomer given isUser other => simp [isUser, other] at customer
      | otherAdvance other => exact other amount
      | notAscii notAscii => simp [ascii] at notAscii
      | genuineTaken isGenuine taken =>
          rw [if_pos (by simpa using isGenuine)] at stored
          simp only [accepted_bind] at stored
          obtain ⟨payments, saved, _⟩ := stored
          exact taken ((storePayment_succeeded_iff found advance).mp ⟨payments, saved⟩)
      | forgedTaken forged given taken =>
          rw [if_neg (by simpa using forged), if_neg given] at stored
          simp only [accepted_bind] at stored
          obtain ⟨payments, saved, _⟩ := stored
          exact taken ((storePayment_markedFailed_iff found).mp ⟨payments, saved⟩ paymentId rfl)
    · simp at verified
  unfold verifyRazorpayPayment
  cases decided : verificationChange settings now orderId paymentId signature user db with
  | error error => rfl
  | ok change => exact absurd decided (rejected change)

/-- The step leaves another payment status in the order's row. -/
def Overwrites (locked : LockedPayment) (db next : Db) : Prop :=
  ∃ payment, next.payments.rows = db.payments.rows.set locked.paymentId payment ∧ payment.status ≠ .refunded

theorem overwrites_confirmed {db : Db} {locked : LockedPayment} (now : Instant) (changedBy : Option UserId)
    {paymentId : String} {payments : PaymentTable}
    (saved : storePayment db.payments locked.paymentId (locked.payment.succeeded now paymentId) = .ok payments) :
    Overwrites locked db (PaymentChange.apply now changedBy db (.confirm locked payments)) := by
  refine ⟨locked.payment.succeeded now paymentId, ?_, nofun⟩
  simp only [PaymentChange.apply, confirmBookingAfterPayment_payments]
  exact storePayment_accepted saved

theorem overwrites_failed {db : Db} {locked : LockedPayment} (now : Instant) (changedBy : Option UserId)
    {paymentId : Option String} {payments : PaymentTable}
    (saved : storePayment db.payments locked.paymentId (locked.payment.markedFailed paymentId) = .ok payments) :
    Overwrites locked db (PaymentChange.apply now changedBy db (.fail locked payments)) := by
  refine ⟨locked.payment.markedFailed paymentId, ?_, nofun⟩
  simp only [PaymentChange.apply, markPaymentFailed_payments]
  exact storePayment_accepted saved

theorem verification_overwrites {settings : Settings} {db : Db} {locked : LockedPayment}
    {now : Instant} {orderId paymentId signature : String} {user : Option UserId}
    (lockedRow : lockOrderPayment db orderId = .ok locked) (open_ : locked.payment.status ≠ .success)
    (advance : locked.payment.paymentType = .bookingAdvance)
    (passed : ¬ VerificationTurnedAway settings db locked orderId paymentId signature user) :
    Overwrites locked db (verifyRazorpayPayment settings now orderId paymentId signature user db).2 := by
  have found := (lockOrderPayment_accepted lockedRow).1
  have customer : user.all (· = locked.booking.customer) = true := by
    cases user with
    | none => rfl
    | some given =>
        by_cases same : given = locked.booking.customer
        · simpa using same
        · exact absurd (.otherCustomer given rfl same) passed
  have amount : locked.payment.amount = locked.booking.advanceRequired := by
    by_cases same : locked.payment.amount = locked.booking.advanceRequired
    · exact same
    · exact absurd (.otherAdvance same) passed
  have ascii : isAscii signature = true := by
    cases given : isAscii signature with
    | true => rfl
    | false => exact absurd (.notAscii given) passed
  simp only [verifyRazorpayPayment, verificationChange, lockedRow, ok_bind, require_of _ customer,
    require_of _ amount, if_neg open_, verifyPaymentSignature, if_pos ascii]
  by_cases genuine : makePaymentSignature settings orderId paymentId = signature
  · have free : PaymentIdFree db.payments.rows locked.paymentId paymentId ∧
        OnlyAdvance db.payments.rows locked.paymentId locked.payment.booking :=
      Classical.byContradiction fun taken => passed (.genuineTaken genuine taken)
    have stored : ∃ next, storePayment db.payments locked.paymentId
        (locked.payment.succeeded now paymentId) = .ok next :=
      (storePayment_succeeded_iff found advance).mpr free
    obtain ⟨payments, saved⟩ := stored
    rw [if_pos (by simpa using genuine), saved]
    exact overwrites_confirmed now user saved
  · have free : ∀ given, (if paymentId = "" then none else some paymentId) = some given →
        PaymentIdFree db.payments.rows locked.paymentId given := by
      intro given isGiven
      split at isGiven
      · simp at isGiven
      · rename_i nonempty
        simp only [Option.some.injEq] at isGiven
        subst isGiven
        exact Classical.byContradiction fun taken => passed (.forgedTaken genuine nonempty taken)
    obtain ⟨payments, saved⟩ := (storePayment_markedFailed_iff found).mpr free
    rw [if_neg (by simpa using genuine), saved]
    exact overwrites_failed now user saved

theorem paymentFields_accepted {payload : Json} {fields : PaymentFields} (read : paymentFields payload = .ok fields) :
    ∃ entity, webhookEntity payload "payment" = .ok entity ∧ entity.get "order_id" = .ok fields.order ∧
      entity.get "id" = .ok fields.id ∧ entity.get "amount" = .ok fields.amount := by
  simp only [paymentFields, accepted_bind, accepted_pure] at read
  obtain ⟨entity, found, order, hasOrder, id, hasId, amount, hasAmount, rfl⟩ := read
  exact ⟨entity, found, hasOrder, hasId, hasAmount⟩

theorem lockOrderPayment_row {db : Db} {orderId : String} {locked : LockedPayment}
    (lockedRow : lockOrderPayment db orderId = .ok locked) :
    firstRow (·.providerOrderId == some orderId) db.payments.rows = some (locked.paymentId, locked.payment) := by
  simp only [lockOrderPayment, accepted_bind, accepted_orRaise, accepted_pure] at lockedRow
  obtain ⟨⟨paymentId, payment⟩, found, booking, foundBooking, rfl⟩ := lockedRow
  exact found

theorem capturedPayment_iff {db : Db} {locked : LockedPayment} {payload : Json} {fields : PaymentFields}
    (read : paymentFields payload = .ok fields) (lockedRow : lockOrderPayment db fields.order.str = .ok locked)
    (ids : String × String) :
    capturedPayment payload db = .ok ids ↔ (fields.order.truthy = true ∧ fields.id.truthy = true) ∧
      fields.amount.equalsNumber (decimalToPaise locked.payment.amount) = true ∧
      (fields.order.str, fields.id.str) = ids := by
  obtain ⟨entity, found, hasOrder, hasId, hasAmount⟩ := paymentFields_accepted read
  simp [-bind_pure_comp, capturedPayment, found, hasOrder, hasId, hasAmount, lockOrderPayment_row lockedRow, ok_bind]

theorem CaptureTurnedAway.idle {settings : Settings} {db : Db} {locked : LockedPayment} {payload : Json}
    {fields : PaymentFields} (now : Instant) (read : paymentFields payload = .ok fields)
    (lockedRow : lockOrderPayment db fields.order.str = .ok locked) (open_ : locked.payment.status ≠ .success)
    (advance : locked.payment.paymentType = .bookingAdvance)
    (turnedAway : CaptureTurnedAway settings db locked fields) :
    (dispatchWebhook settings now "payment.captured" payload db).2 = db := by
  unfold dispatchWebhook
  rw [if_pos rfl]
  cases captured : capturedPayment payload db with
  | error error => rfl
  | ok ids =>
      rw [capturedPayment_iff read lockedRow] at captured
      obtain ⟨complete, amount, rfl⟩ := captured
      cases turnedAway with
      | incomplete missing => simp [complete] at missing
      | otherAmount other => simp [amount] at other
      | unverified turnedAway => exact turnedAway.idle now lockedRow open_ advance

theorem capture_overwrites {settings : Settings} {db : Db} {locked : LockedPayment} {payload : Json}
    {fields : PaymentFields} (now : Instant) (read : paymentFields payload = .ok fields)
    (lockedRow : lockOrderPayment db fields.order.str = .ok locked) (open_ : locked.payment.status ≠ .success)
    (advance : locked.payment.paymentType = .bookingAdvance)
    (passed : ¬ CaptureTurnedAway settings db locked fields) :
    Overwrites locked db (dispatchWebhook settings now "payment.captured" payload db).2 := by
  have complete : fields.order.truthy = true ∧ fields.id.truthy = true := by
    refine Classical.byContradiction fun missing => passed (.incomplete ?_)
    simpa only [Decidable.not_and_iff_or_not, Bool.not_eq_true] using missing
  have amount : fields.amount.equalsNumber (decimalToPaise locked.payment.amount) = true := by
    refine Classical.byContradiction fun other => passed (.otherAmount ?_)
    simpa using other
  have captured := (capturedPayment_iff read lockedRow (fields.order.str, fields.id.str)).mpr
    ⟨complete, amount, rfl⟩
  simp only [dispatchWebhook, if_pos, captured]
  exact verification_overwrites lockedRow open_ advance fun turnedAway => passed (.unverified turnedAway)

theorem FailureTurnedAway.idle {settings : Settings} {db : Db} {locked : LockedPayment} {payload : Json}
    {fields : PaymentFields} (now : Instant) (read : paymentFields payload = .ok fields)
    (lockedRow : lockOrderPayment db fields.order.str = .ok locked) (open_ : locked.payment.status ≠ .success)
    (turnedAway : FailureTurnedAway db locked fields) :
    (dispatchWebhook settings now "payment.failed" payload db).2 = db := by
  have found := (lockOrderPayment_accepted lockedRow).1
  obtain ⟨entity, foundEntity, hasOrder, hasId, hasAmount⟩ := paymentFields_accepted read
  have rejected : ∀ change, failedPaymentChange payload db ≠ .ok change := by
    intro change accepted
    simp only [failedPaymentChange, foundEntity, hasOrder, hasId, lockedRow, ok_bind, accepted_bind,
      accepted_require, if_neg open_] at accepted
    obtain ⟨_, complete, payments, saved, _⟩ := accepted
    cases turnedAway with
    | incomplete missing => simp [complete] at missing
    | taken given taken =>
        rw [if_pos given] at saved
        exact taken ((storePayment_markedFailed_iff found).mp ⟨payments, saved⟩ _ rfl)
  unfold dispatchWebhook
  rw [if_neg (by decide), if_pos rfl]
  cases decided : failedPaymentChange payload db with
  | error error => rfl
  | ok change => exact absurd decided (rejected change)

theorem failure_overwrites {settings : Settings} {db : Db} {locked : LockedPayment} {payload : Json}
    {fields : PaymentFields} (now : Instant) (read : paymentFields payload = .ok fields)
    (lockedRow : lockOrderPayment db fields.order.str = .ok locked) (open_ : locked.payment.status ≠ .success)
    (passed : ¬ FailureTurnedAway db locked fields) :
    Overwrites locked db (dispatchWebhook settings now "payment.failed" payload db).2 := by
  have found := (lockOrderPayment_accepted lockedRow).1
  obtain ⟨entity, foundEntity, hasOrder, hasId, hasAmount⟩ := paymentFields_accepted read
  have complete : fields.order.truthy = true := by
    refine Classical.byContradiction fun missing => passed (.incomplete ?_)
    simpa using missing
  have free : ∀ given, (if fields.id.truthy then some fields.id.str else none) = some given →
      PaymentIdFree db.payments.rows locked.paymentId given := by
    intro given isGiven
    split at isGiven
    · rename_i named
      simp only [Option.some.injEq] at isGiven
      subst isGiven
      exact Classical.byContradiction fun taken => passed (.taken named taken)
    · simp at isGiven
  obtain ⟨payments, saved⟩ := (storePayment_markedFailed_iff found).mpr free
  have decided : failedPaymentChange payload db = .ok (.fail locked payments) := by
    simp only [failedPaymentChange, foundEntity, hasOrder, hasId, lockedRow, ok_bind, require_of _ complete,
      if_neg open_, saved]
    rfl
  unfold dispatchWebhook
  rw [if_neg (by decide), if_pos rfl, decided]
  exact overwrites_failed now none saved

/-! Runs of events. -/

/-- A refunded advance with its booking. -/
structure RefundedOrder (db : Db) (orderId : String) (locked : LockedPayment) : Prop where
  found : db.payments.rows[locked.paymentId]? = some locked.payment
  foundBooking : db.bookings[locked.payment.booking]? = some locked.booking
  ordered : locked.payment.providerOrderId = some orderId
  advance : locked.payment.paymentType = .bookingAdvance
  refunded : locked.payment.status = .refunded
  bookingRefunded : locked.booking.bookingStatus = .refunded

theorem RefundedOrder.open_ {db : Db} {orderId : String} {locked : LockedPayment}
    (order : RefundedOrder db orderId locked) : locked.payment.status ≠ .success := by
  rw [order.refunded]
  nofun

theorem RefundedOrder.lockedRow {db : Db} {orderId : String} {locked : LockedPayment}
    (order : RefundedOrder db orderId locked) : lockOrderPayment db orderId = .ok locked :=
  lockOrderPayment_found order.found order.ordered order.foundBooking

theorem Op.TurnedAway.idle {settings : Settings} {state : System} {op : Op} {orderId : String}
    {locked : LockedPayment} (order : RefundedOrder state.db orderId locked) (event : op.ForOrder orderId)
    (turnedAway : op.TurnedAway settings state.db locked) : System.step settings state op = state := by
  have lockedRow := order.lockedRow
  cases event with
  | verification now paymentId signature user =>
      cases turnedAway with
      | verification turnedAway =>
          simp only [System.step, turnedAway.idle now lockedRow order.open_ order.advance]
  | captured now eventName payload fields kind read named =>
      rw [← named] at lockedRow
      cases turnedAway with
      | captured _ same turnedAway =>
          rw [read, Except.ok.injEq] at same
          subst same kind
          simp only [System.step, turnedAway.idle now read lockedRow order.open_ order.advance]
      | failed other _ _ => simp [kind] at other
  | failed now eventName payload fields kind read named =>
      rw [← named] at lockedRow
      cases turnedAway with
      | captured other _ _ => simp [kind] at other
      | failed _ same turnedAway =>
          rw [read, Except.ok.injEq] at same
          subst same kind
          simp only [System.step, turnedAway.idle now read lockedRow order.open_]

theorem Op.ForOrder.overwrites {settings : Settings} {state : System} {op : Op} {orderId : String}
    {locked : LockedPayment} (order : RefundedOrder state.db orderId locked) (event : op.ForOrder orderId)
    (passed : ¬ op.TurnedAway settings state.db locked) :
    Overwrites locked state.db (System.step settings state op).db := by
  have lockedRow := order.lockedRow
  cases event with
  | verification now paymentId signature user =>
      exact verification_overwrites lockedRow order.open_ order.advance fun turnedAway =>
        passed (.verification turnedAway)
  | captured now eventName payload fields kind read named =>
      rw [← named] at lockedRow
      rw [System.step, kind]
      exact capture_overwrites now read lockedRow order.open_ order.advance fun turnedAway =>
        passed (.captured kind read turnedAway)
  | failed now eventName payload fields kind read named =>
      rw [← named] at lockedRow
      rw [System.step, kind]
      exact failure_overwrites now read lockedRow order.open_ fun turnedAway =>
        passed (.failed kind read turnedAway)

theorem Overwrites.not_refunded {start db next : Db} {locked : LockedPayment} {bookingId : BookingId}
    (found : db.payments.rows[locked.paymentId]? = some locked.payment) (overwrites : Overwrites locked db next)
    (remains : RemainsRefunded start next locked.paymentId bookingId) : False := by
  obtain ⟨written, rows, changed⟩ := overwrites
  obtain ⟨payment, present, refunded⟩ := remains.payment
  rw [rows, List.getElem?_set_self (List.getElem?_eq_some_iff.mp found).1, Option.some.injEq] at present
  subst present
  exact changed refunded

theorem turnedAway_of_stays {settings : Settings} {state : System} {ops : List Op} {orderId : String}
    {locked : LockedPayment} (order : RefundedOrder state.db orderId locked)
    (events : ∀ op ∈ ops, op.ForOrder orderId) (stays : StaysRefunded settings state locked ops) :
    ∀ op ∈ ops, op.TurnedAway settings state.db locked := by
  induction ops with
  | nil =>
      intro op member
      cases member
  | cons first rest ih =>
      have event := events first List.mem_cons_self
      have turnedAway : first.TurnedAway settings state.db locked := by
        refine Classical.byContradiction fun passed => ?_
        have remains := stays [first] rest rfl
        rw [runAll_cons, runAll_nil] at remains
        exact (event.overwrites order passed).not_refunded order.found remains
      have idle := turnedAway.idle order event
      have staysOn : StaysRefunded settings state locked rest := by
        intro earlier later split
        have remains := stays (first :: earlier) later (by rw [split]; rfl)
        rw [runAll_cons, idle] at remains
        exact remains
      intro op member
      rcases List.mem_cons.mp member with rfl | inRest
      · exact turnedAway
      · exact ih (fun op member => events op (List.mem_cons_of_mem _ member)) staysOn op inRest

/-- A refunded payment stays refunded exactly as long as every event is turned away. -/
theorem staysRefunded_iff {settings : Settings} {state : System} {ops : List Op} {orderId : String}
    {locked : LockedPayment} (order : RefundedOrder state.db orderId locked)
    (events : ∀ op ∈ ops, op.ForOrder orderId) :
    StaysRefunded settings state locked ops ↔
      locked.booking.paymentStatus = .refunded ∧ ∀ op ∈ ops, op.TurnedAway settings state.db locked := by
  constructor
  · intro stays
    refine ⟨?_, turnedAway_of_stays order events stays⟩
    obtain ⟨booking, present, _, paymentStatus⟩ := (stays [] ops rfl).booking
    have foundBooking := order.foundBooking
    rw [runAll_nil, foundBooking, Option.some.injEq] at present
    rw [present]
    exact paymentStatus
  · rintro ⟨paymentStatus, turnedAway⟩ earlier later split
    have unmoved : runAll (System.step settings) state earlier = state := by
      refine runAll_idle fun op member => ?_
      have inAll : op ∈ ops := by rw [split]; exact List.mem_append_left _ member
      exact (turnedAway op inAll).idle order (events op inAll)
    rw [unmoved]
    exact ⟨⟨locked.payment, order.found, order.refunded⟩,
      ⟨locked.booking, order.foundBooking, order.bookingRefunded, paymentStatus⟩, rfl⟩

def refundedHistory : List Op := [
  sampleBookingBy 0,
  .createAdvancePaymentOrder 0 0 "payment-key-1" (.ok "order_1"),
  samplePaymentEvent "payment.captured" "order_1" "pay_1" 20000,
  .createRefund sampleNow 0 20000 "refund-key-1" (.ok { id := "rfnd_1", status := .text "processed" })]

def refundedState : System := runAll (System.step sampleSettings) sampleSystem refundedHistory

def refundedPayment : LockedPayment :=
  (lockOrderPayment refundedState.db "order_1").toOption.get (by decide)

theorem refundedPayment_order : RefundedOrder refundedState.db "order_1" refundedPayment := by
  constructor <;> decide

def turnedAwayEvents : List Op := [
  .verifyRazorpayPayment sampleNow "order_1" "pay_1" (makePaymentSignature sampleSettings "order_1" "pay_1") (some 1),
  samplePaymentEvent "payment.captured" "order_1" "pay_1" 500]

def turnedAwayFields : PaymentFields where
  order := .text "order_1"
  id := .text "pay_1"
  amount := .number 500

theorem staysRefunded_iff_turnedAwayEvents :
    StaysRefunded sampleSettings refundedState refundedPayment turnedAwayEvents := by
  have events : ∀ op ∈ turnedAwayEvents, op.ForOrder "order_1" := by
    simp only [turnedAwayEvents, List.forall_mem_cons]
    exact ⟨.verification .., .captured _ _ _ turnedAwayFields rfl rfl rfl, List.forall_mem_nil _⟩
  have otherAmount : CaptureTurnedAway sampleSettings refundedState.db refundedPayment turnedAwayFields :=
    .otherAmount (by decide)
  refine (staysRefunded_iff refundedPayment_order events).mpr ⟨by decide, ?_⟩
  simp only [turnedAwayEvents, List.forall_mem_cons]
  exact ⟨.verification (.otherCustomer 1 rfl (by decide)), .captured rfl rfl otherAmount, List.forall_mem_nil _⟩

def replayedVerification : List Op := [
  .verifyRazorpayPayment sampleNow "order_1" "pay_1" (makePaymentSignature sampleSettings "order_1" "pay_1") (some 0)]

theorem refunded_payment_confirmed :
    ¬ ∀ (settings : Settings) (start : System) (history ops : List Op) (orderId : String)
      (locked : LockedPayment), start.Initial →
      RefundedOrder (runAll (System.step settings) start history).db orderId locked →
      (∀ op ∈ ops, op.ForOrder orderId) →
      StaysRefunded settings (runAll (System.step settings) start history) locked ops := by
  intro always
  have events : ∀ op ∈ replayedVerification, op.ForOrder "order_1" := by
    simp only [replayedVerification, List.forall_mem_cons]
    exact ⟨.verification .., List.forall_mem_nil _⟩
  have stays := always sampleSettings sampleSystem refundedHistory replayedVerification "order_1" refundedPayment
    sampleSystem_initial refundedPayment_order events
  obtain ⟨payment, present, refunded⟩ := (stays replayedVerification [] rfl).payment
  have succeeded : ((runAll (System.step sampleSettings) refundedState replayedVerification).db.payments.rows[0]?).map
      Payment.status = some .success := by decide
  have isRefunded := congrArg (Option.map Payment.status) present
  rw [Option.map_some, refunded] at isRefunded
  have same : refundedPayment.paymentId = 0 := by decide
  rw [same] at isRefunded
  exact absurd (isRefunded.symm.trans succeeded) (by decide)

end PsCore
