import PsCore.CapturedMoney

/-!
Failed verifications of other customers. A wrong signature leaves the payment id that came
with it on the caller's payment, and the payment ids are unique.
-/

namespace PsCore

open Fallible RowTable TransitionRun

structure VerifyCall where
  now : Instant
  orderId : String
  paymentId : String
  signature : String
  user : UserId

def VerifyCall.op (call : VerifyCall) : Op :=
  .verifyRazorpayPayment call.now call.orderId call.paymentId call.signature (some call.user)

structure VerifyCall.Foreign (settings : Settings) (customer : UserId) (call : VerifyCall) : Prop where
  other : call.user ≠ customer
  invalid : makePaymentSignature settings call.orderId call.paymentId ≠ call.signature

/-- A call comes to the same on both databases, for the payment and for its booking. -/
structure SameSettlement {α : Type} (call : Db → Outcome α) (paymentId : PaymentId) (bookingId : BookingId)
    (first second : Db) : Prop where
  answer : (call second).1 = (call first).1
  payment : (call second).2.payments.rows[paymentId]? = (call first).2.payments.rows[paymentId]?
  booking : (call second).2.bookings[bookingId]? = (call first).2.bookings[bookingId]?

structure Untouched (bookingId : BookingId) (first second : Db) : Prop where
  booking : second.bookings[bookingId]? = first.bookings[bookingId]?
  payments : ∀ (position : PaymentId) (payment : Payment), payment.booking = bookingId →
    (second.payments.rows[position]? = some payment ↔ first.payments.rows[position]? = some payment)

theorem Untouched.refl (bookingId : BookingId) (db : Db) : Untouched bookingId db db :=
  ⟨rfl, fun _ _ _ => Iff.rfl⟩

theorem Untouched.trans {bookingId : BookingId} {first second third : Db} (one : Untouched bookingId first second)
    (two : Untouched bookingId second third) : Untouched bookingId first third :=
  ⟨two.booking.trans one.booking, fun position payment own =>
    (two.payments position payment own).trans (one.payments position payment own)⟩

theorem Untouched.onlyAdvance {bookingId : BookingId} {first second : Db} (untouched : Untouched bookingId first second)
    (paymentId : PaymentId) :
    OnlyAdvance second.payments.rows paymentId bookingId ↔ OnlyAdvance first.payments.rows paymentId bookingId := by
  constructor
  · intro only position other present differs own
    exact only position other ((untouched.payments position other own).mpr present) differs own
  · intro only position other present differs own
    exact only position other ((untouched.payments position other own).mp present) differs own

theorem Untouched.write {bookingId : BookingId} {db next : Db} {paymentId : PaymentId} {before after : Payment}
    {booking : Booking} (found : db.payments.rows[paymentId]? = some before) (same : after.booking = before.booking)
    (elsewhere : before.booking ≠ bookingId) (bookings : next.bookings = db.bookings.set before.booking booking)
    (rows : next.payments.rows = db.payments.rows.set paymentId after) : Untouched bookingId db next := by
  constructor
  · rw [bookings, List.getElem?_set_ne elsewhere]
  · intro position payment own
    rw [rows]
    by_cases isRow : position = paymentId
    · subst isRow
      rw [List.getElem?_set_self (List.getElem?_eq_some_iff.mp found).1, found]
      constructor
      · rintro ⟨rfl⟩
        exact absurd (same.symm.trans own) elsewhere
      · rintro ⟨rfl⟩
        exact absurd own elsewhere
    · rw [List.getElem?_set_ne (Ne.symm isRow)]

section

variable {settings : Settings} {customer : UserId} {bookingId : BookingId}

theorem VerifyCall.Foreign.untouched {call : VerifyCall} (foreign : call.Foreign settings customer) {db : Db}
    {booking : Booking} (found : db.bookings[bookingId]? = some booking) (owned : booking.customer = customer) :
    Untouched bookingId db
      (verifyRazorpayPayment settings call.now call.orderId call.paymentId call.signature (some call.user) db).2 := by
  unfold verifyRazorpayPayment
  split
  · exact .refl bookingId db
  · rename_i change accepted
    simp only [verificationChange, accepted_bind, accepted_require] at accepted
    obtain ⟨locked, lockedRow, _, callers, _, _, decided⟩ := accepted
    obtain ⟨foundPayment, _, foundBooking⟩ := lockOrderPayment_accepted lockedRow
    have elsewhere : locked.payment.booking ≠ bookingId := by
      intro own
      rw [own, found, Option.some.injEq] at foundBooking
      rw [← foundBooking, owned] at callers
      exact foreign.other (by simpa using callers)
    split at decided
    · simp only [accepted_pure] at decided
      subst decided
      exact .refl bookingId db
    · simp only [accepted_bind] at decided
      obtain ⟨genuine, verified, stored⟩ := decided
      have wrong : genuine = false := by
        unfold verifyPaymentSignature at verified
        split at verified
        · rw [Except.ok.injEq] at verified
          rw [← verified]
          simpa using foreign.invalid
        · cases verified
      subst wrong
      simp only [Bool.false_eq_true, if_false, accepted_bind, accepted_pure] at stored
      obtain ⟨payments, saved, rfl⟩ := stored
      have rows := storePayment_accepted saved
      refine .write foundPayment ?_ elsewhere (markPaymentFailed_bookings ..)
        (by rw [PaymentChange.apply, markPaymentFailed_payments]; exact rows)
      rfl

theorem foreignCalls_untouched {calls : List VerifyCall}
    (foreign : ∀ call ∈ calls, call.Foreign settings customer) {state : System} {booking : Booking}
    (found : state.db.bookings[bookingId]? = some booking) (owned : booking.customer = customer) :
    Untouched bookingId state.db (runAll (System.step settings) state (calls.map VerifyCall.op)).db := by
  induction calls generalizing state with
  | nil => exact .refl bookingId state.db
  | cons call rest ih =>
      have first := (foreign call (by simp)).untouched found owned
      have foundAfter : (System.step settings state call.op).db.bookings[bookingId]? = some booking :=
        first.booking.trans found
      exact first.trans (ih (fun other member => foreign other (by simp [member])) foundAfter)

end

/-! The genuine call. -/

def captureOutcome {α : Type} (answer : α) (now : Instant) (user : Option UserId) (providerPaymentId : String)
    (locked : LockedPayment) (db : Db) : Outcome α :=
  if locked.payment.status = .success then (.ok answer, db)
  else match storePayment db.payments locked.paymentId (locked.payment.succeeded now providerPaymentId) with
    | .ok payments => (.ok answer, confirmBookingAfterPayment now locked user { db with payments := payments })
    | .error error => (.error error, db)

/-- The payment has succeeded already, or cannot succeed beside another advance, or the calls
in between leave it open whether another payment carries the payment id. -/
def Unblocked (first second : Db) (paymentId : PaymentId) (payment : Payment) (providerPaymentId : String) : Prop :=
  payment.status = .success ∨ ¬ OnlyAdvance first.payments.rows paymentId payment.booking ∨
    (PaymentIdFree second.payments.rows paymentId providerPaymentId ↔
      PaymentIdFree first.payments.rows paymentId providerPaymentId)

section

variable {α : Type} {locked : LockedPayment} {db : Db}

theorem captureOutcome_stored (answer : α) (now : Instant) (user : Option UserId) {providerPaymentId : String}
    (found : db.payments.rows[locked.paymentId]? = some locked.payment)
    (advance : locked.payment.paymentType = .bookingAdvance) (unpaid : locked.payment.status ≠ .success)
    (free : PaymentIdFree db.payments.rows locked.paymentId providerPaymentId)
    (only : OnlyAdvance db.payments.rows locked.paymentId locked.payment.booking) :
    ∃ next, captureOutcome answer now user providerPaymentId locked db = (.ok answer, next) ∧
      next.payments.rows = db.payments.rows.set locked.paymentId (locked.payment.succeeded now providerPaymentId) ∧
      next.bookings = db.bookings.set locked.payment.booking (locked.booking.confirmedBy now locked.payment.amount) := by
  have stored : ∃ payments, storePayment db.payments locked.paymentId
      (locked.payment.succeeded now providerPaymentId) = .ok payments :=
    (storePayment_succeeded_iff found advance).mpr ⟨free, only⟩
  obtain ⟨payments, saved⟩ := stored
  refine ⟨confirmBookingAfterPayment now locked user { db with payments := payments }, ?_, ?_, ?_⟩
  · simp only [captureOutcome, if_neg unpaid, saved]
  · rw [confirmBookingAfterPayment_payments]
    exact storePayment_accepted saved
  · exact confirmBookingAfterPayment_bookings ..

theorem captureOutcome_refused (answer : α) (now : Instant) (user : Option UserId) (providerPaymentId : String)
    (found : db.payments.rows[locked.paymentId]? = some locked.payment)
    (advance : locked.payment.paymentType = .bookingAdvance) (unpaid : locked.payment.status ≠ .success)
    (refused : ¬ (PaymentIdFree db.payments.rows locked.paymentId providerPaymentId ∧
      OnlyAdvance db.payments.rows locked.paymentId locked.payment.booking)) :
    captureOutcome answer now user providerPaymentId locked db = (.error (.integrity "Payment"), db) := by
  rw [captureOutcome, if_neg unpaid]
  cases saved : storePayment db.payments locked.paymentId (locked.payment.succeeded now providerPaymentId) with
  | ok payments => exact absurd ((storePayment_succeeded_iff found advance).mp ⟨payments, saved⟩) refused
  | error error =>
      unfold storePayment orRaise at saved
      split at saved
      · cases saved
      · cases saved
        rfl

end

section

variable {α : Type} {call : Db → Outcome α} {first second : Db} {bookingId : BookingId} {paymentId : PaymentId}
  {payment : Payment}

theorem SameSettlement.unchanged {answer : Except ServiceError α} (untouched : Untouched bookingId first second)
    (found : first.payments.rows[paymentId]? = some payment)
    (foundSecond : second.payments.rows[paymentId]? = some payment)
    (atFirst : call first = (answer, first)) (atSecond : call second = (answer, second)) :
    SameSettlement call paymentId bookingId first second := by
  constructor
  · rw [atFirst, atSecond]
  · rw [atFirst, atSecond]
    exact foundSecond.trans found.symm
  · rw [atFirst, atSecond]
    exact untouched.booking

theorem SameSettlement.written {answer : Except ServiceError α} {nextFirst nextSecond : Db} {afterPayment : Payment}
    {afterBooking : Booking} (untouched : Untouched bookingId first second)
    (found : first.payments.rows[paymentId]? = some payment)
    (foundSecond : second.payments.rows[paymentId]? = some payment)
    (atFirst : call first = (answer, nextFirst)) (atSecond : call second = (answer, nextSecond))
    (rowsFirst : nextFirst.payments.rows = first.payments.rows.set paymentId afterPayment)
    (rowsSecond : nextSecond.payments.rows = second.payments.rows.set paymentId afterPayment)
    (bookingsFirst : nextFirst.bookings = first.bookings.set bookingId afterBooking)
    (bookingsSecond : nextSecond.bookings = second.bookings.set bookingId afterBooking) :
    SameSettlement call paymentId bookingId first second := by
  constructor
  · rw [atFirst, atSecond]
  · rw [atFirst, atSecond]
    simp only
    rw [rowsFirst, rowsSecond, List.getElem?_set_self (List.getElem?_eq_some_iff.mp found).1,
      List.getElem?_set_self (List.getElem?_eq_some_iff.mp foundSecond).1]
  · rw [atFirst, atSecond]
    simp only
    rw [bookingsFirst, bookingsSecond, List.getElem?_set_self', List.getElem?_set_self', untouched.booking]

end

theorem captureOutcome_map (now : Instant) (user : Option UserId) (providerPaymentId : String)
    (locked : LockedPayment) (db : Db) :
    ((captureOutcome locked.paymentId now user providerPaymentId locked db).1.map (fun _ => true),
        (captureOutcome locked.paymentId now user providerPaymentId locked db).2) =
      captureOutcome true now user providerPaymentId locked db := by
  unfold captureOutcome
  by_cases paid : locked.payment.status = .success
  · rw [if_pos paid, if_pos paid]
    rfl
  · rw [if_neg paid, if_neg paid]
    cases storePayment db.payments locked.paymentId (locked.payment.succeeded now providerPaymentId) <;> rfl

theorem captureOutcome_same_iff {α : Type} {call : Db → Outcome α} {answer : α} {now : Instant}
    {user : Option UserId} {providerPaymentId : String} {locked : LockedPayment} {first second : Db}
    (atFirst : call first = captureOutcome answer now user providerPaymentId locked first)
    (atSecond : call second = captureOutcome answer now user providerPaymentId locked second)
    (found : first.payments.rows[locked.paymentId]? = some locked.payment)
    (advance : locked.payment.paymentType = .bookingAdvance)
    (untouched : Untouched locked.payment.booking first second) :
    SameSettlement call locked.paymentId locked.payment.booking first second ↔
      Unblocked first second locked.paymentId locked.payment providerPaymentId := by
  have foundSecond := (untouched.payments locked.paymentId locked.payment rfl).mpr found
  have onlySecond := untouched.onlyAdvance locked.paymentId
  by_cases paid : locked.payment.status = .success
  · rw [captureOutcome, if_pos paid] at atFirst atSecond
    exact ⟨fun _ => .inl paid, fun _ => .unchanged untouched found foundSecond atFirst atSecond⟩
  by_cases only : OnlyAdvance first.payments.rows locked.paymentId locked.payment.booking
  · by_cases free : PaymentIdFree first.payments.rows locked.paymentId providerPaymentId
    · obtain ⟨next, stored, rows, bookings⟩ := captureOutcome_stored answer now user found advance paid free only
      by_cases freeSecond : PaymentIdFree second.payments.rows locked.paymentId providerPaymentId
      · obtain ⟨nextSecond, storedSecond, rowsSecond, bookingsSecond⟩ :=
          captureOutcome_stored answer now user foundSecond advance paid freeSecond (onlySecond.mpr only)
        refine ⟨fun _ => .inr (.inr (iff_of_true freeSecond free)), fun _ => ?_⟩
        exact .written untouched found foundSecond (atFirst.trans stored) (atSecond.trans storedSecond) rows rowsSecond
          bookings bookingsSecond
      · have refused := captureOutcome_refused answer now user providerPaymentId foundSecond advance paid
          (fun both => freeSecond both.1)
        constructor
        · intro same
          have answers := same.answer
          rw [atFirst, atSecond, stored, refused] at answers
          cases answers
        · rintro (succeeded | rivals | sameFree)
          · exact absurd succeeded paid
          · exact absurd only rivals
          · exact absurd (sameFree.mpr free) freeSecond
    · have refused := captureOutcome_refused answer now user providerPaymentId found advance paid (fun both => free both.1)
      by_cases freeSecond : PaymentIdFree second.payments.rows locked.paymentId providerPaymentId
      · obtain ⟨nextSecond, stored, _⟩ :=
          captureOutcome_stored answer now user foundSecond advance paid freeSecond (onlySecond.mpr only)
        constructor
        · intro same
          have answers := same.answer
          rw [atFirst, atSecond, stored, refused] at answers
          cases answers
        · rintro (succeeded | rivals | sameFree)
          · exact absurd succeeded paid
          · exact absurd only rivals
          · exact absurd (sameFree.mp freeSecond) free
      · have refusedSecond := captureOutcome_refused answer now user providerPaymentId foundSecond advance paid
          (fun both => freeSecond both.1)
        refine ⟨fun _ => .inr (.inr (iff_of_false freeSecond free)), fun _ => ?_⟩
        exact .unchanged untouched found foundSecond (atFirst.trans refused) (atSecond.trans refusedSecond)
  · have refused := captureOutcome_refused answer now user providerPaymentId found advance paid (fun both => only both.2)
    have refusedSecond := captureOutcome_refused answer now user providerPaymentId foundSecond advance paid
      (fun both => only (onlySecond.mp both.2))
    refine ⟨fun _ => .inr (.inl only), fun _ => ?_⟩
    exact .unchanged untouched found foundSecond (atFirst.trans refused) (atSecond.trans refusedSecond)

theorem genuineCall_same {settings : Settings} {first second : Db} {now : Instant} {user : Option UserId}
    {payload : Json} {orderId providerPaymentId : String} {locked : LockedPayment}
    (lockedRow : lockOrderPayment first orderId = .ok locked)
    (advance : locked.payment.paymentType = .bookingAdvance)
    (amount : locked.payment.amount = locked.booking.advanceRequired)
    (owner : user.all (· = locked.booking.customer) = true)
    (genuine : GenuineCapture payload orderId providerPaymentId locked.payment.amount)
    (untouched : Untouched locked.payment.booking first second) :
    (SameSettlement (verifyRazorpayPayment settings now orderId providerPaymentId
        (makePaymentSignature settings orderId providerPaymentId) user)
        locked.paymentId locked.payment.booking first second ↔
      Unblocked first second locked.paymentId locked.payment providerPaymentId) ∧
    (SameSettlement (dispatchWebhook settings now "payment.captured" payload)
        locked.paymentId locked.payment.booking first second ↔
      Unblocked first second locked.paymentId locked.payment providerPaymentId) := by
  obtain ⟨found, ordered, foundBooking⟩ := lockOrderPayment_accepted lockedRow
  have foundSecond := (untouched.payments locked.paymentId locked.payment rfl).mpr found
  have lockedSecond : lockOrderPayment second orderId = .ok locked :=
    lockOrderPayment_found foundSecond ordered (untouched.booking.trans foundBooking)
  have captured (db : Db) (lockedDb : lockOrderPayment db orderId = .ok locked) :
      dispatchWebhook settings now "payment.captured" payload db =
        captureOutcome true now none providerPaymentId locked db := by
    rw [GenuineCapture.dispatched settings now genuine lockedDb, genuineVerification none lockedDb rfl amount]
    exact captureOutcome_map now none providerPaymentId locked db
  constructor
  · exact captureOutcome_same_iff (genuineVerification user lockedRow owner amount)
      (genuineVerification user lockedSecond owner amount) found advance untouched
  · exact captureOutcome_same_iff (captured first lockedRow) (captured second lockedSecond) found advance untouched

/-- After other customers' failed verifications the genuine call, and the capture's webhook, do
the same with a payment and its booking exactly as long as these leave it unblocked. -/
theorem genuineCall_same_iff {settings : Settings} {start : System} {history : List Op} {calls : List VerifyCall}
    {now : Instant} {user : Option UserId} {payload : Json} {orderId providerPaymentId : String}
    {paymentId : PaymentId} {payment : Payment} {booking : Booking} (initial : start.Initial)
    (found : (runAll (System.step settings) start history).db.payments.rows[paymentId]? = some payment)
    (foundBooking : (runAll (System.step settings) start history).db.bookings[payment.booking]? = some booking)
    (ordered : payment.providerOrderId = some orderId) (owner : user.all (· = booking.customer) = true)
    (genuine : GenuineCapture payload orderId providerPaymentId payment.amount)
    (foreign : ∀ call ∈ calls, call.Foreign settings booking.customer) :
    (SameSettlement (verifyRazorpayPayment settings now orderId providerPaymentId
        (makePaymentSignature settings orderId providerPaymentId) user) paymentId payment.booking
        (runAll (System.step settings) start history).db
        (runAll (System.step settings) start (history ++ calls.map VerifyCall.op)).db ↔
      Unblocked (runAll (System.step settings) start history).db
        (runAll (System.step settings) start (history ++ calls.map VerifyCall.op)).db
        paymentId payment providerPaymentId) ∧
    (SameSettlement (dispatchWebhook settings now "payment.captured" payload) paymentId payment.booking
        (runAll (System.step settings) start history).db
        (runAll (System.step settings) start (history ++ calls.map VerifyCall.op)).db ↔
      Unblocked (runAll (System.step settings) start history).db
        (runAll (System.step settings) start (history ++ calls.map VerifyCall.op)).db
        paymentId payment providerPaymentId) := by
  have everySound : PaymentsSound (runAll (System.step settings) start history).db := paymentsSound_run initial history
  have sound := everySound.rows payment (List.mem_of_getElem? found)
  have isOrdered : payment.providerOrderId.isSome = true := by
    rw [ordered]
    rfl
  obtain ⟨stored, present, amountOf⟩ := sound.booked
  rw [foundBooking, Option.some.injEq] at present
  subst present
  let locked : LockedPayment := { paymentId := paymentId, payment := payment, booking := booking }
  have lockedRow : lockOrderPayment (runAll (System.step settings) start history).db orderId = .ok locked :=
    lockOrderPayment_found found ordered foundBooking
  have untouched := foreignCalls_untouched foreign foundBooking rfl
  rw [runAll_append]
  exact genuineCall_same lockedRow (sound.advance isOrdered) (amountOf isOrdered) owner genuine untouched

def twoOrders : List Op := [
  sampleBookingBy 0,
  .createSlot
    { serviceArea := 0, date := 20460, startTime := 14 * hour, endTime := 16 * hour, capacity := 1, isActive := true },
  .createBooking sampleNow 1 { serviceId := 0, addressId := 1, slotId := 1, quantity := 1 },
  .createAdvancePaymentOrder 0 0 "payment-key-1" (.ok "order_1"),
  .createAdvancePaymentOrder 1 1 "payment-key-2" (.ok "order_2")]

def wrongCall (paymentId : String) : VerifyCall where
  now := sampleNow
  orderId := "order_2"
  paymentId := paymentId
  signature := "wrong"
  user := 1

theorem wrongCall_foreign : ∀ paymentId ∈ ["pay_1", "pay_9"], (wrongCall paymentId).Foreign sampleSettings 0 := by
  intro paymentId member
  refine ⟨by simp [wrongCall], ?_⟩
  simp only [List.mem_cons, List.not_mem_nil, or_false] at member
  rcases member with rfl | rfl <;> decide

def genuinePayload : Json :=
  .object [("payload", .object [("payment", .object [("entity",
    .object [("order_id", .text "order_1"), ("id", .text "pay_1"), ("amount", .number 20000)])])])]

theorem genuinePayload_genuine : GenuineCapture genuinePayload "order_1" "pay_1" 20000 where
  read := ⟨{ order := .text "order_1", id := .text "pay_1", amount := .number 20000 }, rfl, rfl, rfl, rfl⟩
  namesOrder := by decide
  namesPayment := by decide

def firstOrder : Payment := (runAll (System.step sampleSettings) sampleSystem twoOrders).db.payments.rows.get ⟨0, by decide⟩

def firstBooking : Booking := (runAll (System.step sampleSettings) sampleSystem twoOrders).db.bookings.get ⟨0, by decide⟩

theorem paymentIdFree_of_absent {payments : List Payment} {paymentId : PaymentId} {providerPaymentId : String}
    (absent : ∀ other ∈ payments, other.providerPaymentId ≠ some providerPaymentId) :
    PaymentIdFree payments paymentId providerPaymentId :=
  fun _ other present _ => absent other (List.mem_of_getElem? present)

theorem genuineCall_same_iff_otherId :
    SameSettlement (verifyRazorpayPayment sampleSettings sampleNow "order_1" "pay_1"
        (makePaymentSignature sampleSettings "order_1" "pay_1") (some 0)) 0 0
      (runAll (System.step sampleSettings) sampleSystem twoOrders).db
      (runAll (System.step sampleSettings) sampleSystem (twoOrders ++ [wrongCall "pay_9"].map VerifyCall.op)).db := by
  have foreign : ∀ call ∈ [wrongCall "pay_9"], call.Foreign sampleSettings firstBooking.customer := by
    intro call member
    rw [List.mem_singleton.mp member]
    exact wrongCall_foreign "pay_9" (by simp)
  have found : (runAll (System.step sampleSettings) sampleSystem twoOrders).db.payments.rows[0]? = some firstOrder := rfl
  refine (genuineCall_same_iff sampleSystem_initial found rfl rfl rfl genuinePayload_genuine foreign).1.mpr
    (.inr (.inr (iff_of_true ?_ ?_)))
  · exact paymentIdFree_of_absent (by decide)
  · exact paymentIdFree_of_absent (by decide)

/-- The other customer's failed call brings the payment id of the genuine payment. -/
theorem genuine_payment_blocked :
    ¬ ∀ (settings : Settings) (start : System) (history : List Op) (calls : List VerifyCall) (now : Instant)
      (orderId providerPaymentId : String) (paymentId : PaymentId) (payment : Payment) (booking : Booking),
      start.Initial →
      (runAll (System.step settings) start history).db.payments.rows[paymentId]? = some payment →
      (runAll (System.step settings) start history).db.bookings[payment.booking]? = some booking →
      payment.providerOrderId = some orderId →
      (∀ call ∈ calls, call.Foreign settings booking.customer) →
      SameSettlement (verifyRazorpayPayment settings now orderId providerPaymentId
          (makePaymentSignature settings orderId providerPaymentId) (some booking.customer)) paymentId payment.booking
        (runAll (System.step settings) start history).db
        (runAll (System.step settings) start (history ++ calls.map VerifyCall.op)).db := by
  intro always
  have same := always sampleSettings sampleSystem twoOrders [wrongCall "pay_1"] sampleNow "order_1" "pay_1" 0
    firstOrder firstBooking sampleSystem_initial rfl rfl rfl (by
      intro call member
      rw [List.mem_singleton.mp member]
      exact wrongCall_foreign "pay_1" (by simp))
  have blocked : (verifyRazorpayPayment sampleSettings sampleNow "order_1" "pay_1"
      (makePaymentSignature sampleSettings "order_1" "pay_1") (some 0)
      (runAll (System.step sampleSettings) sampleSystem (twoOrders ++ [wrongCall "pay_1"].map VerifyCall.op)).db).1 =
        .error (.integrity "Payment") := rfl
  have accepted : (verifyRazorpayPayment sampleSettings sampleNow "order_1" "pay_1"
      (makePaymentSignature sampleSettings "order_1" "pay_1") (some 0)
      (runAll (System.step sampleSettings) sampleSystem twoOrders).db).1 = .ok 0 := rfl
  have answers := same.answer
  rw [show firstBooking.customer = 0 from rfl, blocked, accepted] at answers
  cases answers

end PsCore
