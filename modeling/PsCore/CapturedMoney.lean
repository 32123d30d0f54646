import PsCore.Ledger
import PsCore.Refunded

/-!
What becomes of a payment that the gateway has captured. The constraint of one active
advance for each booking decides whether the capture can be stored.
-/

namespace PsCore

open Fallible RowTable TransitionRun

/-- The gateway reports the capture of the amount for the order. -/
structure GenuineCapture (payload : Json) (orderId paymentId : String) (amount : Money) : Prop where
  read : ∃ fields, paymentFields payload = .ok fields ∧ fields.order = .text orderId ∧
    fields.id = .text paymentId ∧ fields.amount = .number (decimalToPaise amount)
  namesOrder : orderId ≠ ""
  namesPayment : paymentId ≠ ""

/-- The handler answers, and the payment has succeeded or stays refunded. -/
structure MoneyKept (settings : Settings) (now : Instant) (payload : Json) (db : Db) (paymentId : PaymentId)
    (payment : Payment) : Prop where
  answered : ∃ handled, (dispatchWebhook settings now "payment.captured" payload db).1 = .ok handled
  kept : ∃ after, (dispatchWebhook settings now "payment.captured" payload db).2.payments.rows[paymentId]? = some after ∧
    (after.status = .success ∨ payment.status = .refunded ∧ after.status = .refunded)

theorem digitChar_ascii : ∀ digit < 16, (Nat.digitChar digit).toNat < 128 := by decide

theorem makePaymentSignature_ascii (settings : Settings) (orderId paymentId : String) :
    isAscii (makePaymentSignature settings orderId paymentId) = true := by
  simp only [makePaymentSignature, hexdigest, isAscii, String.toList_ofList, List.all_flatMap, List.all_cons,
    List.all_nil, Bool.and_true, List.all_eq_true, Bool.and_eq_true, decide_eq_true_eq]
  intro byte _
  exact ⟨digitChar_ascii _ (by omega), digitChar_ascii _ (by omega)⟩

theorem genuineVerification {settings : Settings} {now : Instant} {db : Db} {locked : LockedPayment}
    {orderId paymentId : String} (user : Option UserId) (lockedRow : lockOrderPayment db orderId = .ok locked)
    (allowed : user.all (· = locked.booking.customer) = true)
    (amount : locked.payment.amount = locked.booking.advanceRequired) :
    verifyRazorpayPayment settings now orderId paymentId (makePaymentSignature settings orderId paymentId) user db =
      if locked.payment.status = .success then (.ok locked.paymentId, db)
      else match storePayment db.payments locked.paymentId (locked.payment.succeeded now paymentId) with
        | .ok payments => (.ok locked.paymentId,
            confirmBookingAfterPayment now locked user { db with payments := payments })
        | .error error => (.error error, db) := by
  have ascii := makePaymentSignature_ascii settings orderId paymentId
  simp only [verifyRazorpayPayment, verificationChange, lockedRow, ok_bind, require_of _ allowed,
    require_of _ amount, verifyPaymentSignature, if_pos ascii]
  by_cases paid : locked.payment.status = .success
  · rw [if_pos paid, if_pos paid]
    rfl
  · rw [if_neg paid, if_neg paid, if_pos (by simp)]
    cases storePayment db.payments locked.paymentId (locked.payment.succeeded now paymentId) <;> rfl

theorem GenuineCapture.dispatched (settings : Settings) (now : Instant) {db : Db} {locked : LockedPayment}
    {payload : Json} {orderId paymentId : String}
    (genuine : GenuineCapture payload orderId paymentId locked.payment.amount)
    (lockedRow : lockOrderPayment db orderId = .ok locked) :
    dispatchWebhook settings now "payment.captured" payload db =
      ((verifyRazorpayPayment settings now orderId paymentId
          (makePaymentSignature settings orderId paymentId) none db).1.map fun _ => true,
        (verifyRazorpayPayment settings now orderId paymentId
          (makePaymentSignature settings orderId paymentId) none db).2) := by
  obtain ⟨⟨fields, read, order, id, amount⟩, namesOrder, namesPayment⟩ := genuine
  have lockedRow' : lockOrderPayment db fields.order.str = .ok locked := by
    rw [order]
    exact lockedRow
  have captured : capturedPayment payload db = .ok (orderId, paymentId) := by
    rw [capturedPayment_iff read lockedRow', order, id, amount]
    simp [Json.truthy, Json.str, Json.equalsNumber, namesOrder, namesPayment]
  simp only [dispatchWebhook, if_pos, captured]

theorem capture_stored_iff (now : Instant) {db : Db} {paymentId : PaymentId} {payment : Payment}
    {orderId providerPaymentId : String} (found : db.payments.rows[paymentId]? = some payment)
    (advance : payment.paymentType = .bookingAdvance) (ordered : payment.providerOrderId = some orderId)
    (unused : ∀ other ∈ db.payments.rows, other.providerPaymentId = some providerPaymentId →
      other.providerOrderId = some orderId) :
    (∃ next, storePayment db.payments paymentId (payment.succeeded now providerPaymentId) = .ok next) ↔
      OnlyAdvance db.payments.rows paymentId payment.booking := by
  have free : PaymentIdFree db.payments.rows paymentId providerPaymentId := by
    intro position other present differs taken
    have sameOrder := unused other (List.mem_of_getElem? present) taken
    have apart := db.payments.apart clashes_symm present found differs
    simp [Payment.clashes, sameValue, sameOrder, ordered] at apart
  rw [storePayment_succeeded_iff found advance]
  exact ⟨And.right, fun only => ⟨free, only⟩⟩

theorem moneyKept_iff {settings : Settings} {now : Instant} {db : Db} {payload : Json}
    {orderId providerPaymentId : String} {paymentId : PaymentId} {payment : Payment} (sound : PaymentsSound db)
    (found : db.payments.rows[paymentId]? = some payment) (advance : payment.paymentType = .bookingAdvance)
    (ordered : payment.providerOrderId = some orderId)
    (genuine : GenuineCapture payload orderId providerPaymentId payment.amount)
    (unused : ∀ other ∈ db.payments.rows, other.providerPaymentId = some providerPaymentId →
      other.providerOrderId = some orderId) :
    MoneyKept settings now payload db paymentId payment ↔
      payment.status = .success ∨ OnlyAdvance db.payments.rows paymentId payment.booking := by
  obtain ⟨booking, foundBooking, amountOf⟩ := (sound.rows payment (List.mem_of_getElem? found)).booked
  have amount : payment.amount = booking.advanceRequired := amountOf (by rw [ordered]; rfl)
  let locked : LockedPayment := { paymentId := paymentId, payment := payment, booking := booking }
  have lockedRow : lockOrderPayment db orderId = .ok locked := lockOrderPayment_found found ordered foundBooking
  have stored := capture_stored_iff now found advance ordered unused
  have outcome := GenuineCapture.dispatched settings now genuine lockedRow
  rw [genuineVerification none lockedRow rfl amount] at outcome
  by_cases paid : payment.status = .success
  · rw [if_pos paid] at outcome
    refine ⟨fun _ => .inl paid, fun _ => ⟨⟨true, by rw [outcome]; rfl⟩, payment, ?_, .inl paid⟩⟩
    rw [outcome, found]
  · rw [if_neg paid] at outcome
    cases saved : storePayment db.payments paymentId (payment.succeeded now providerPaymentId) with
    | ok payments =>
        have only := stored.mp ⟨payments, saved⟩
        simp only [locked, saved] at outcome
        refine ⟨fun _ => .inr only, fun _ => ⟨⟨true, by rw [outcome]; rfl⟩,
          payment.succeeded now providerPaymentId, ?_, .inl rfl⟩⟩
        rw [outcome, confirmBookingAfterPayment_payments, storePayment_accepted saved,
          List.getElem?_set_self (List.getElem?_eq_some_iff.mp found).1]
    | error error =>
        simp only [locked, saved] at outcome
        constructor
        · rintro ⟨⟨handled, answered⟩, _⟩
          rw [outcome] at answered
          cases answered
        · rintro (succeeded | only)
          · exact absurd succeeded paid
          · obtain ⟨payments, accepted⟩ := stored.mpr only
            rw [saved] at accepted
            cases accepted

/-- After any history, no captured money is lost exactly when the payment has succeeded
already or no other advance of its booking is active. -/
theorem capturedMoney_kept_iff {settings : Settings} {start : System} {history : List Op} {now : Instant}
    {payload : Json} {orderId providerPaymentId : String} {paymentId : PaymentId} {payment : Payment}
    (initial : start.Initial)
    (found : (runAll (System.step settings) start history).db.payments.rows[paymentId]? = some payment)
    (advance : payment.paymentType = .bookingAdvance) (ordered : payment.providerOrderId = some orderId)
    (genuine : GenuineCapture payload orderId providerPaymentId payment.amount)
    (unused : ∀ other ∈ (runAll (System.step settings) start history).db.payments.rows,
      other.providerPaymentId = some providerPaymentId → other.providerOrderId = some orderId) :
    MoneyKept settings now payload (runAll (System.step settings) start history).db paymentId payment ↔
      payment.status = .success ∨
        OnlyAdvance (runAll (System.step settings) start history).db.payments.rows paymentId payment.booking :=
  moneyKept_iff (paymentsSound_run initial history) found advance ordered genuine unused

def failedAttempt : List Op := [
  sampleBookingBy 0,
  .createAdvancePaymentOrder 0 0 "payment-key-1" (.ok "order_1"),
  samplePaymentEvent "payment.failed" "order_1" "pay_1" 20000]

def secondOrder : List Op := failedAttempt ++ [.createAdvancePaymentOrder 0 0 "payment-key-2" (.ok "order_2")]

def lateCapture : Json :=
  .object [("payload", .object [("payment", .object [("entity",
    .object [("order_id", .text "order_1"), ("id", .text "pay_2"), ("amount", .number 20000)])])])]

theorem lateCapture_genuine : GenuineCapture lateCapture "order_1" "pay_2" 20000 where
  read := ⟨{ order := .text "order_1", id := .text "pay_2", amount := .number 20000 }, rfl, rfl, rfl, rfl⟩
  namesOrder := by decide
  namesPayment := by decide

def afterFailedAttempt : System := runAll (System.step sampleSettings) sampleSystem failedAttempt

def failedPayment : Payment := afterFailedAttempt.db.payments.rows.get ⟨0, by decide⟩

theorem capturedMoney_kept_iff_failedAttempt :
    MoneyKept sampleSettings sampleNow lateCapture afterFailedAttempt.db 0 failedPayment := by
  refine (capturedMoney_kept_iff sampleSystem_initial rfl rfl rfl lateCapture_genuine (by decide)).mpr (.inr ?_)
  intro position other present differs booking
  cases position with
  | zero => exact absurd rfl differs
  | succ position => cases present

def afterSecondOrder : System := runAll (System.step sampleSettings) sampleSystem secondOrder

theorem captured_money_lost :
    ¬ ∀ (settings : Settings) (start : System) (history : List Op) (now : Instant) (payload : Json)
      (orderId providerPaymentId : String) (paymentId : PaymentId) (payment : Payment), start.Initial →
      (runAll (System.step settings) start history).db.payments.rows[paymentId]? = some payment →
      payment.paymentType = .bookingAdvance → payment.providerOrderId = some orderId →
      GenuineCapture payload orderId providerPaymentId payment.amount →
      (∀ other ∈ (runAll (System.step settings) start history).db.payments.rows,
        other.providerPaymentId = some providerPaymentId → other.providerOrderId = some orderId) →
      MoneyKept settings now payload (runAll (System.step settings) start history).db paymentId payment := by
  intro always
  have kept := always sampleSettings sampleSystem secondOrder sampleNow lateCapture "order_1" "pay_2" 0
    failedPayment sampleSystem_initial (by decide) rfl rfl lateCapture_genuine (by decide)
  obtain ⟨handled, answered⟩ := kept.answered
  have lost : (dispatchWebhook sampleSettings sampleNow "payment.captured" lateCapture afterSecondOrder.db).1 =
      .error (.integrity "Payment") := rfl
  rw [afterSecondOrder, answered] at lost
  cases lost

end PsCore
