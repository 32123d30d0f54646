import PsCore.Refunds

/-!
The gateway delivers the events of a refund in any order and any number of times. What they
come to, against the order in which they happened.
-/

namespace PsCore

open Fallible RowTable TransitionRun RefundState

/-- The deliveries leave the refund a success that is announced once (it has been already
where the refund was a success before), and the rest as the reference leaves it. -/
structure Converges (target : RefundTarget) (db : Db) (events reference : List RefundEvent) : Prop where
  processed : target.refundStatus (deliverAll db events) = some .success
  source : target.sourceStatus (deliverAll db events) = target.sourceStatus (deliverAll db reference)
  booking : target.bookingStatuses (deliverAll db events) = target.bookingStatuses (deliverAll db reference)
  announced : (deliverAll db events).refundCompletions =
    db.refundCompletions + if target.refundStatus db = some .success then 0 else 1

/-- Events in order come to the same as created, pending and processed exactly when one of
them is pending or a pending one would make no difference. -/
theorem inOrder_converges_iff {terms : RefundTerms} {state : RefundState} {answers : List PaymentRecordStatus}
    (nonneg : 0 ≤ terms.amount) (answered : ∀ answer ∈ answers, answer = .pending ∨ answer = .success)
    (succeeds : .success ∈ answers) (inOrder : InOrder state.refund answers) :
    answers.foldl (settle terms) state = ([.pending, .pending, .success] : List PaymentRecordStatus).foldl (settle terms) state ↔
      .pending ∈ answers ∨ terms.isWhole .success = true ∨ 0 < terms.otherPending ∨
        state.booking = .refundPending ∨ state.booking = terms.restored := by
  rw [foldl_settle_inOrder answered succeeds inOrder]
  simp only [List.foldl_cons, List.foldl_nil, settle_idem]
  by_cases pending : .pending ∈ answers
  · simp [pending]
  · rw [if_neg pending, eq_comm, settle_detour_iff state nonneg rfl]
    simp [pending]

def RefundProgress (target : RefundTarget) (amount : Money) (events : List RefundEvent) : Prop :=
  ∀ event ∈ events, event.Reports target amount event.answer ∧ (event.answer = .pending ∨ event.answer = .success)

theorem RefundProgress.reports {target : RefundTarget} {amount : Money} {events : List RefundEvent}
    (progress : RefundProgress target amount events) :
    ∀ event ∈ events, event.Reports target amount event.answer :=
  fun event member => (progress event member).1

theorem RefundProgress.answered {target : RefundTarget} {amount : Money} {events : List RefundEvent}
    (progress : RefundProgress target amount events) :
    ∀ answer ∈ events.map RefundEvent.answer, answer = .pending ∨ answer = .success := by
  intro answer member
  obtain ⟨event, inEvents, rfl⟩ := List.mem_map.mp member
  exact (progress event inEvents).2

/-- The deliveries converge exactly when the machine's runs do. -/
theorem converges_iff_runs {target : RefundTarget} {terms : RefundTerms} {db : Db} {state : RefundState}
    {events reference : List RefundEvent} (shows : Shows target terms db state)
    (reports : ∀ event ∈ events, event.Reports target terms.amount event.answer)
    (referenceReports : ∀ event ∈ reference, event.Reports target terms.amount event.answer)
    (referenceOrder : reference.map RefundEvent.answer = [.pending, .pending, .success])
    (free : state.refund = none → WebhookKeyFree target db.payments.rows) :
    Converges target db events reference ↔
      (events.map RefundEvent.answer).foldl (settle terms) state =
          ([.pending, .pending, .success] : List PaymentRecordStatus).foldl (settle terms) state ∧
        completions state.refund (events.map RefundEvent.answer) =
          if state.refund = some .success then 0 else 1 := by
  obtain ⟨shown, completed⟩ := deliverAll_shows shows reports free
  obtain ⟨referenceShown, _⟩ := deliverAll_shows shows referenceReports free
  rw [referenceOrder] at referenceShown
  have start := shows.refundStatus
  constructor
  · rintro ⟨processed, source, booking, announced⟩
    rw [shown.refundStatus] at processed
    rw [shown.sourceStatus, referenceShown.sourceStatus, Option.some.injEq] at source
    rw [shown.bookingStatuses, referenceShown.bookingStatuses, Option.some.injEq, Prod.mk.injEq] at booking
    rw [completed, start] at announced
    refine ⟨?_, by omega⟩
    have referenceProcessed : (([.pending, .pending, .success] : List PaymentRecordStatus).foldl (settle terms)
        state).refund = some .success := by
      rw [foldl_settle_refund]
      rfl
    exact RefundState.ext (processed.trans referenceProcessed.symm) source booking.1 booking.2
  · rintro ⟨same, count⟩
    rw [same] at shown
    refine ⟨?_, ?_, ?_, ?_⟩
    · rw [shown.refundStatus, foldl_settle_refund]
      rfl
    · rw [shown.sourceStatus, referenceShown.sourceStatus]
    · rw [shown.bookingStatuses, referenceShown.bookingStatuses]
    · rw [completed, count, start]

/-- In every reachable state the deliveries of a refund's events converge exactly when its row
can be made, no event takes it out of a success, and a pending event comes first or would
make no difference. -/
theorem refundDelivery_converges_iff {settings : Settings} {start : System} {history : List Op} {db : Db}
    {target : RefundTarget} {amount : Money} {source : Payment} {booking : Booking}
    {events reference : List RefundEvent} (initial : start.Initial)
    (reached : (runAll (System.step settings) start history).db = db)
    (refundOf : RefundOf db target amount source booking) (nonneg : 0 ≤ amount)
    (progress : RefundProgress target amount events) (processed : ∃ event ∈ events, event.answer = .success)
    (referenceProgress : RefundProgress target amount reference)
    (referenceOrder : reference.map RefundEvent.answer = [.pending, .pending, .success]) :
    Converges target db events reference ↔
      (target.refundStatus db = none → WebhookKeyFree target db.payments.rows) ∧
      InOrder (target.refundStatus db) (events.map RefundEvent.answer) ∧
      ((∃ event ∈ events, event.answer = .pending) ∨
        (refundTerms db target amount source booking).isWhole .success = true ∨
        0 < (refundTerms db target amount source booking).otherPending ∨
        booking.bookingStatus = .refundPending ∨
        booking.bookingStatus = (refundTerms db target amount source booking).restored) := by
  have sound : PaymentsSound db := by
    rw [← reached]
    exact paymentsSound_run initial history
  have shows := refundOf.shows sound
  have succeeds : PaymentRecordStatus.success ∈ events.map RefundEvent.answer := by
    obtain ⟨event, member, answer⟩ := processed
    exact List.mem_map.mpr ⟨event, member, answer⟩
  have pending_iff : PaymentRecordStatus.pending ∈ events.map RefundEvent.answer ↔
      ∃ event ∈ events, event.answer = .pending := List.mem_map
  by_cases free : target.refundStatus db = none → WebhookKeyFree target db.payments.rows
  · rw [converges_iff_runs shows progress.reports referenceProgress.reports referenceOrder free]
    constructor
    · rintro ⟨same, count⟩
      have last : ((events.map RefundEvent.answer).foldl (settle (refundTerms db target amount source booking))
          (refundState db target source booking)).refund = some .success := by
        rw [same, foldl_settle_refund]
        rfl
      rw [foldl_settle_refund] at last
      have inOrder := inOrder_of_announced last count
      rw [inOrder_converges_iff nonneg progress.answered succeeds inOrder, pending_iff] at same
      exact ⟨free, inOrder, same⟩
    · rintro ⟨_, inOrder, together⟩
      rw [← pending_iff] at together
      exact ⟨(inOrder_converges_iff nonneg progress.answered succeeds inOrder).mpr together,
        (inOrder.announced_once (.inr succeeds)).2⟩
  · refine ⟨fun converges => ?_, fun condition => absurd condition.1 free⟩
    have absent : target.refundStatus db = none := Classical.byContradiction fun known =>
      free fun absent => absurd absent known
    have taken : ¬ WebhookKeyFree target db.payments.rows := fun keyFree => free fun _ => keyFree
    have kept := converges.processed
    rw [deliverAll_lost shows progress.reports absent taken, absent] at kept
    cases kept

def paidState : System := runAll (System.step sampleSettings) sampleSystem paidHistory

def sampleTarget : RefundTarget where
  sourceId := 0
  bookingId := 0
  paymentReference := "pay_1"
  refundReference := "rfnd_1"

def sampleRefundEvent (status : String) : RefundEvent where
  now := sampleNow
  payload := .object [("payload", .object [("refund", .object [("entity", .object [
    ("id", .text "rfnd_1"), ("payment_id", .text "pay_1"), ("status", .text status), ("amount", .number 5000)])])])]

def sampleRefundFields (status : String) : RefundFields where
  id := .text "rfnd_1"
  paymentId := .text "pay_1"
  status := .text status
  amount := 5000
  currency := .null

theorem sampleRefundEvent_reports (status : String) :
    (sampleRefundEvent status).Reports sampleTarget 5000 (PsCore.refundStatus (.text status)) where
  read := ⟨sampleRefundFields status, rfl, rfl, rfl, rfl, rfl, rfl, rfl⟩

theorem sampleRefundEvent_progress {statuses : List String}
    (answered : ∀ status ∈ statuses, status = "created" ∨ status = "pending" ∨ status = "processed") :
    RefundProgress sampleTarget 5000 (statuses.map sampleRefundEvent) := by
  intro event member
  obtain ⟨status, inStatuses, rfl⟩ := List.mem_map.mp member
  refine ⟨sampleRefundEvent_reports status, ?_⟩
  rcases answered status inStatuses with rfl | rfl | rfl
  · exact .inl (by decide)
  · exact .inl (by decide)
  · exact .inr (by decide)

def paidSource : Payment := paidState.db.payments.rows.get ⟨0, by decide⟩

def paidBooking : Booking := paidState.db.bookings.get ⟨0, by decide⟩

theorem paidState_refundOf : RefundOf paidState.db sampleTarget 5000 paidSource paidBooking where
  found := rfl
  reference := by decide
  bookingId := by decide
  foundBooking := rfl
  owned := by
    intro refundId refund row
    have absent : sampleTarget.row paidState.db = none := by decide
    rw [absent] at row
    cases row

def inOrderEvents : List RefundEvent := ["created", "created", "processed", "processed"].map sampleRefundEvent

def referenceEvents : List RefundEvent := ["created", "pending", "processed"].map sampleRefundEvent

theorem refundDelivery_converges_iff_inOrderEvents :
    Converges sampleTarget paidState.db inOrderEvents referenceEvents := by
  refine (refundDelivery_converges_iff sampleSystem_initial rfl paidState_refundOf (by decide)
    (sampleRefundEvent_progress (by decide)) ⟨sampleRefundEvent "processed", by simp, by decide⟩
    (sampleRefundEvent_progress (by decide)) (by decide)).mpr ⟨?_, ?_, .inl ?_⟩
  · intro _ payment member
    revert payment
    decide
  · decide
  · exact ⟨sampleRefundEvent "created", by simp, by decide⟩

def lateCreatedEvents : List RefundEvent := ["processed", "created"].map sampleRefundEvent

theorem refund_success_overwritten :
    ¬ ∀ (settings : Settings) (start : System) (history : List Op) (target : RefundTarget) (amount : Money)
      (source : Payment) (booking : Booking) (events reference : List RefundEvent), start.Initial →
      RefundOf (runAll (System.step settings) start history).db target amount source booking → 0 ≤ amount →
      RefundProgress target amount events → (∃ event ∈ events, event.answer = .success) →
      RefundProgress target amount reference →
      reference.map RefundEvent.answer = [.pending, .pending, .success] →
      Converges target (runAll (System.step settings) start history).db events reference := by
  intro always
  have converges := always sampleSettings sampleSystem paidHistory sampleTarget 5000 paidSource paidBooking
    lateCreatedEvents referenceEvents sampleSystem_initial paidState_refundOf (by decide)
    (sampleRefundEvent_progress (by decide)) ⟨sampleRefundEvent "processed", by simp [lateCreatedEvents], by decide⟩
    (sampleRefundEvent_progress (by decide)) (by decide)
  have overwritten : sampleTarget.refundStatus (deliverAll paidState.db lateCreatedEvents) = some .pending := by decide
  exact absurd (overwritten.symm.trans converges.processed) (by decide)

end PsCore
