import PsCore.Ledger

/-!
The summary report. It adds up the successful payments of a range of days, refunds among them, and
leaves out the payments that were received and later refunded.
-/

namespace PsCore

open Fallible RowTable TransitionRun

structure ReportQuery where
  dateFrom : Option String
  dateTo : Option String
  deriving DecidableEq, Repr

/-- The report without the average rating. -/
structure ReportSummary where
  dateFrom : Option String
  dateTo : Option String
  dailyBookings : Nat
  completedServices : Nat
  cancelledBookings : Nat
  paymentPendingBookings : Nat
  revenueCollected : Money
  advancePayments : Money
  balancePayments : Money
  refunds : Money
  unassignedBookings : Nat
  deriving DecidableEq, Repr

inductive ReportError
  | invalidDate (text : String)
  | invalidOperation
  deriving DecidableEq, Repr

structure DateRange where
  first : Option Date
  last : Option Date

def DateRange.holds (range : DateRange) (date : Date) : Bool :=
  range.first.all (· ≤ date) && range.last.all (date ≤ ·)

def createdWithin {α : Type} (createdOn : Nat → Date) (range : DateRange) (rows : List α) : List α :=
  (rows.zipIdx.filter fun row => range.holds (createdOn row.2)).map Prod.fst

def Payment.succeededAs (paymentType : PaymentType) (payment : Payment) : Bool :=
  payment.status == .success && payment.paymentType == paymentType

section

-- the day that the database reads in a text, and the days on which bookings and payments were created
variable (parseDate : String → Option Date) (bookedOn : BookingId → Date) (paidOn : PaymentId → Date)

def dateBound (text : Option String) : Except ReportError (Option Date) :=
  match text.getD "" with
  | "" => .ok none
  | text => (orRaise (parseDate text) (.invalidDate text)).map some

def ReportQuery.range (query : ReportQuery) : Except ReportError DateRange := do
  let first ← dateBound parseDate query.dateFrom
  let last ← dateBound parseDate query.dateTo
  pure { first := first, last := last }

def summarize (query : ReportQuery) (bookings : List Booking) (payments : List Payment) : ReportSummary where
  dateFrom := query.dateFrom
  dateTo := query.dateTo
  dailyBookings := bookings.length
  completedServices := countWhere (fun booking => [.completed, .closed].contains booking.bookingStatus) bookings
  cancelledBookings := countWhere (fun booking => booking.bookingStatus == .cancelled) bookings
  paymentPendingBookings := countWhere (fun booking => booking.paymentStatus == .unpaid) bookings
  revenueCollected := sumWhere (fun payment => payment.status == .success) Payment.amount payments
  advancePayments := sumWhere (Payment.succeededAs .bookingAdvance) Payment.amount payments
  balancePayments := sumWhere (Payment.succeededAs .balance) Payment.amount payments
  refunds := sumWhere (Payment.succeededAs .refund) Payment.amount payments
  unassignedBookings := countWhere
    (fun booking => booking.bookingStatus == .confirmed && booking.assignedTechnician.isNone) bookings

/-- Amounts are shown with twelve digits at most. -/
def ReportSummary.isShown (summary : ReportSummary) : Bool :=
  [summary.revenueCollected, summary.advancePayments, summary.balancePayments, summary.refunds].all fun amount =>
    amount.natAbs < 1000000000000

def reportsSummary (query : ReportQuery) (db : Db) : Except ReportError ReportSummary := do
  let range ← query.range parseDate
  let summary := summarize query (createdWithin bookedOn range db.bookings)
    (createdWithin paidOn range db.payments.rows)
  require (summary.isShown = true) .invalidOperation
  pure summary

end

def Payment.isReceived (paymentType : PaymentType) (payment : Payment) : Bool :=
  payment.paymentType == paymentType && (payment.status == .success || payment.status == .refunded)

def Payment.refundedAs (paymentType : PaymentType) (payment : Payment) : Bool :=
  payment.paymentType == paymentType && payment.status == .refunded

structure TellsMoneyKept (summary : ReportSummary) (payments : List Payment) : Prop where
  revenue : summary.revenueCollected =
    sumWhere (Payment.isReceived .bookingAdvance) Payment.amount payments +
      sumWhere (Payment.isReceived .balance) Payment.amount payments -
      sumWhere (Payment.succeededAs .refund) Payment.amount payments
  advances : summary.advancePayments = sumWhere (Payment.isReceived .bookingAdvance) Payment.amount payments

theorem received_sum (paymentType : PaymentType) (payments : List Payment) :
    sumWhere (Payment.isReceived paymentType) Payment.amount payments =
      sumWhere (Payment.succeededAs paymentType) Payment.amount payments +
        sumWhere (Payment.refundedAs paymentType) Payment.amount payments := by
  refine sumWhere_apart (fun payment => ?_) (fun payment succeeded => ?_) payments
  · simp only [Payment.isReceived, Payment.succeededAs, Payment.refundedAs, Bool.and_or_distrib_left,
      Bool.and_comm (payment.status == .success)]
  · simp only [Payment.succeededAs, Bool.and_eq_true, beq_iff_eq] at succeeded
    rw [Payment.refundedAs, succeeded.1]
    exact Bool.and_false _

theorem success_sum (payments : List Payment) :
    sumWhere (fun payment => payment.status == .success) Payment.amount payments =
      sumWhere (Payment.succeededAs .bookingAdvance) Payment.amount payments +
        (sumWhere (Payment.succeededAs .balance) Payment.amount payments +
          sumWhere (Payment.succeededAs .refund) Payment.amount payments) := by
  have charged : sumWhere (fun payment => payment.status == .success && payment.paymentType != .bookingAdvance)
      Payment.amount payments = sumWhere (Payment.succeededAs .balance) Payment.amount payments +
        sumWhere (Payment.succeededAs .refund) Payment.amount payments := by
    refine sumWhere_apart (fun payment => ?_) (fun payment succeeded => ?_) payments
    · unfold Payment.succeededAs
      cases payment.paymentType <;> cases payment.status <;> rfl
    · simp only [Payment.succeededAs, Bool.and_eq_true, beq_iff_eq] at succeeded
      rw [Payment.succeededAs, succeeded.2]
      exact Bool.and_false _
  rw [← charged]
  refine sumWhere_apart (fun payment => ?_) (fun payment succeeded => ?_) payments
  · unfold Payment.succeededAs
    cases payment.paymentType <;> cases payment.status <;> rfl
  · simp only [Payment.succeededAs, Bool.and_eq_true, beq_iff_eq] at succeeded
    rw [succeeded.2]
    exact Bool.and_false _

/-- For any payments at all. -/
theorem tellsMoneyKept_iff (query : ReportQuery) (bookings : List Booking) (payments : List Payment) :
    TellsMoneyKept (summarize query bookings payments) payments ↔
      sumWhere (Payment.refundedAs .bookingAdvance) Payment.amount payments = 0 ∧
        sumWhere (Payment.refundedAs .balance) Payment.amount payments =
          2 * sumWhere (Payment.succeededAs .refund) Payment.amount payments := by
  have advances := received_sum .bookingAdvance payments
  have balances := received_sum .balance payments
  have collected := success_sum payments
  constructor
  · rintro ⟨revenue, told⟩
    simp only [summarize] at revenue told
    unfold Money at *
    omega
  · rintro ⟨noAdvance, balance⟩
    constructor
    · simp only [summarize]
      unfold Money at *
      omega
    · simp only [summarize]
      unfold Money at *
      omega

/-! Only advances are ever marked as refunded among the payments that bring money in. -/

def BalancesStay (db : Db) : Prop :=
  ∀ payment ∈ db.payments.rows, payment.paymentType = .balance → payment.status ≠ .refunded

section

variable {db next : Db}

theorem BalancesStay.same (stay : BalancesStay db) (payments : next.payments = db.payments) : BalancesStay next := by
  intro payment member
  rw [payments] at member
  exact stay payment member

theorem stays_append {rows : List Payment} {added : Payment}
    (stay : ∀ payment ∈ rows, payment.paymentType = .balance → payment.status ≠ .refunded)
    (new : added.paymentType = .balance → added.status ≠ .refunded) :
    ∀ payment ∈ rows ++ [added], payment.paymentType = .balance → payment.status ≠ .refunded := by
  intro payment member
  rw [List.mem_append, List.mem_singleton] at member
  rcases member with old | rfl
  · exact stay payment old
  · exact new

theorem stays_set {rows : List Payment} {key : PaymentId} {changed : Payment}
    (stay : ∀ payment ∈ rows, payment.paymentType = .balance → payment.status ≠ .refunded)
    (new : changed.paymentType = .balance → changed.status ≠ .refunded) :
    ∀ payment ∈ rows.set key changed, payment.paymentType = .balance → payment.status ≠ .refunded := by
  intro payment member
  rcases List.mem_or_eq_of_mem_set member with old | rfl
  · exact stay payment old
  · exact new

theorem Routine.balancesStay (stay : BalancesStay db) (change : Routine db next) : BalancesStay next := by
  rcases change.payments_cases with same | ⟨bookingId, booking, orderId, key, found, bookings, payments⟩
  · exact stay.same same
  · unfold BalancesStay
    rw [payments]
    exact stays_append stay nofun

theorem settledRows_stay {settlement : RefundSettlement} (sound : PaymentsSound db) (stay : BalancesStay db)
    (found : db.payments.rows[settlement.sourceId]? = some settlement.source) (written : settlement.Written db) :
    ∀ payment ∈ settlement.settledRows, payment.paymentType = .balance → payment.status ≠ .refunded := by
  have isRefund : settlement.refund.paymentType = .balance → settlement.refund.status ≠ .refunded := by
    rw [sound.refund_kind written]
    exact nofun
  have recorded : ∀ payment ∈ settlement.payments.rows, payment.paymentType = .balance →
      payment.status ≠ .refunded := by
    cases written with
    | requested now key refundId amount status paid positive bounded free row booking rows =>
        rw [rows]
        exact stays_append stay isRefund
    | delivered now currency refundId amount status paid free row new booking rows =>
        rw [rows]
        exact stays_append stay isRefund
    | rewritten now earlier status foundRefund row owner rows =>
        rw [rows]
        exact stays_set stay isRefund
  unfold RefundSettlement.settledRows
  split
  · refine stays_set recorded fun balance => ?_
    rw [sound.source_advance found written] at balance
    cases balance
  · exact recorded

theorem Effective.balancesStay {effect : Effect} (sound : PaymentsSound db) (stay : BalancesStay db)
    (written : Effective effect db next) : BalancesStay next := by
  cases written with
  | confirmed orderId paymentId found foundBooking ordered amount open_ rows writtenEq =>
      subst writtenEq
      unfold BalancesStay
      rw [confirmBookingAfterPayment_payments, rows]
      exact stays_set stay nofun
  | failed orderId paymentId found foundBooking ordered open_ rows writtenEq =>
      subst writtenEq
      unfold BalancesStay
      rw [markPaymentFailed_payments, rows]
      exact stays_set stay nofun
  | refundSettled found foundBooking written bookings rows slots =>
      unfold BalancesStay
      rw [rows]
      exact settledRows_stay sound stay found written
  | refundLost => exact stay
  | workOrder found bookings payments slots => exact stay.same payments
  | manuallyPaid now leadId reference positive found inserted bookings payments slots =>
      unfold BalancesStay
      rw [payments, inserted]
      exact stays_append stay nofun
  | balanceCollected now found from_ positive remaining inserted bookings payments slots =>
      unfold BalancesStay
      rw [payments, inserted]
      exact stays_append stay nofun
  | slotSaved bookings payments slots => exact stay.same payments

end

theorem balancesStay_run {settings : Settings} {start : System} (initial : start.Initial) (ops : List Op) :
    BalancesStay (runAll (System.step settings) start ops).db := by
  have routine (db next : Db) (holds : PaymentsSound db ∧ BalancesStay db) (change : Routine db next) :
      PaymentsSound next ∧ BalancesStay next :=
    ⟨holds.1.routine change, change.balancesStay holds.2⟩
  have initially : BalancesStay start.db := by
    intro payment member
    rw [initial.payments] at member
    cases member
  refine (run_invariant routine (fun db next effect holds _ written => ?_) (guarded_true settings start ops)
    ⟨initial.paymentsSound, initially⟩).2
  exact ⟨holds.1.effective written, written.balancesStay holds.1 holds.2⟩

theorem mem_createdWithin {α : Type} {createdOn : Nat → Date} {range : DateRange} {rows : List α} {row : α}
    (member : row ∈ createdWithin createdOn range rows) : row ∈ rows := by
  obtain ⟨⟨found, key⟩, inRange, rfl⟩ := List.mem_map.mp member
  exact List.fst_mem_of_mem_zipIdx (List.mem_filter.mp inRange).1

theorem BalancesStay.none_returned {db : Db} (stay : BalancesStay db) (createdOn : PaymentId → Date)
    (range : DateRange) :
    sumWhere (Payment.refundedAs .balance) Payment.amount (createdWithin createdOn range db.payments.rows) = 0 := by
  refine sumWhere_none fun payment member => ?_
  by_cases balance : payment.paymentType = .balance
  · have kept := stay payment (mem_createdWithin member) balance
    simp [Payment.refundedAs, kept]
  · simp [Payment.refundedAs, balance]

/-- In every reachable state the report tells the money kept exactly when it covers no refunded
advance and no refund. -/
theorem reportsSummary_iff {settings : Settings} {start : System} (initial : start.Initial) (ops : List Op)
    {parseDate : String → Option Date} {bookedOn : BookingId → Date} {paidOn : PaymentId → Date} {query : ReportQuery}
    {range : DateRange} {summary : ReportSummary} (isRange : query.range parseDate = .ok range)
    (answered : reportsSummary parseDate bookedOn paidOn query (runAll (System.step settings) start ops).db =
      .ok summary) :
    TellsMoneyKept summary
        (createdWithin paidOn range (runAll (System.step settings) start ops).db.payments.rows) ↔
      sumWhere (Payment.refundedAs .bookingAdvance) Payment.amount
        (createdWithin paidOn range (runAll (System.step settings) start ops).db.payments.rows) = 0 ∧
      sumWhere (Payment.succeededAs .refund) Payment.amount
        (createdWithin paidOn range (runAll (System.step settings) start ops).db.payments.rows) = 0 := by
  have stay : BalancesStay (runAll (System.step settings) start ops).db := balancesStay_run initial ops
  have noBalance := stay.none_returned paidOn range
  simp only [reportsSummary, isRange, ok_bind, accepted_bind, accepted_require, accepted_pure] at answered
  obtain ⟨_, _, _, rfl⟩ := answered
  rw [tellsMoneyKept_iff, noBalance]
  constructor
  · rintro ⟨noAdvance, refunds⟩
    exact ⟨noAdvance, by omega⟩
  · rintro ⟨noAdvance, refunds⟩
    exact ⟨noAdvance, by omega⟩

def wholeRange : ReportQuery where
  dateFrom := none
  dateTo := none

def reportOn (state : System) : Except ReportError ReportSummary :=
  reportsSummary (fun _ => none) (fun _ => 20454) (fun _ => 20454) wholeRange state.db

def reportedState : System := runAll (System.step sampleSettings) sampleSystem paidHistory

theorem reportsSummary_iff_paid : ∃ summary, reportOn reportedState = .ok summary ∧ summary.revenueCollected = 20000 ∧
    TellsMoneyKept summary (createdWithin (fun _ => 20454) ⟨none, none⟩ reportedState.db.payments.rows) := by
  have answered : reportsSummary (fun _ => none) (fun _ => 20454) (fun _ => 20454) wholeRange reportedState.db =
      .ok (summarize wholeRange reportedState.db.bookings reportedState.db.payments.rows) := rfl
  refine ⟨_, answered, by decide, ?_⟩
  exact (reportsSummary_iff sampleSystem_initial paidHistory rfl answered).mpr (by decide)

def advanceReturned : List Op := paidHistory ++ [
  .createRefund sampleNow 0 20000 "refund-key-1" (.ok { id := "rfnd_1", status := .text "processed" })]

/-- The whole advance has been given back: the report calls the refund revenue, and the advance is gone. -/
theorem refund_counted_as_revenue :
    ¬ ∀ (settings : Settings) (start : System) (ops : List Op) (parseDate : String → Option Date)
      (bookedOn : BookingId → Date) (paidOn : PaymentId → Date) (query : ReportQuery) (range : DateRange)
      (summary : ReportSummary), start.Initial → query.range parseDate = .ok range →
      reportsSummary parseDate bookedOn paidOn query (runAll (System.step settings) start ops).db = .ok summary →
      TellsMoneyKept summary
        (createdWithin paidOn range (runAll (System.step settings) start ops).db.payments.rows) := by
  intro always
  have told := always sampleSettings sampleSystem advanceReturned (fun _ => none) (fun _ => 20454) (fun _ => 20454)
    wholeRange ⟨none, none⟩ _ sampleSystem_initial rfl rfl
  exact absurd told.revenue (by decide)

end PsCore
