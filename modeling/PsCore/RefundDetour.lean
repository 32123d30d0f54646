import PsCore.RefundDelivery

/-!
A refund that the provider answers as pending and settles later, against one that it settles
at once.
-/

namespace PsCore

open Fallible RowTable TransitionRun RefundState

/-- How the final status of a pending refund arrives. -/
inductive LaterAnswer
  | reconciled (now : Instant) (answer : Json)
  | delivered (event : RefundEvent)

def LaterAnswer.Gives (target : RefundTarget) (amount : Money) (status : PaymentRecordStatus) : LaterAnswer → Prop
  | .reconciled _ answer => PsCore.refundStatus answer = status
  | .delivered event => event.Reports target amount status

def LaterAnswer.settle (refundId : PaymentId) (db : Db) : LaterAnswer → Db
  | .reconciled now answer => (commit db (reconcileRefund now refundId (.ok answer) db)).2
  | .delivered event => deliver db event

structure RefundRequest where
  now : Instant
  target : RefundTarget
  amount : Money
  key : String

def RefundRequest.create (request : RefundRequest) (answer : Json) (db : Db) :
    Except ServiceError (PaymentId × Db) :=
  createRefund request.now request.target.sourceId request.amount request.key
    (.ok { id := request.target.refundReference, status := answer }) db

def RefundRequest.atOnce (request : RefundRequest) (answer : Json) (db : Db) : Db :=
  (commit db (request.create answer db)).2

def RefundRequest.detour (request : RefundRequest) (answer : Json) (later : LaterAnswer) (db : Db) : Db :=
  match request.create answer db with
  | .ok (refundId, next) => later.settle refundId next
  | .error _ => db

/-- The request passes the checks of `create_refund`, and the provider gives it a new reference. -/
structure Admissible (request : RefundRequest) (db : Db) (source : Payment) (booking : Booking) : Prop where
  planned : createRefundPlan request.target.sourceId request.amount request.key db =
    .ok (.request source booking request.target.paymentReference)
  bookingId : source.booking = request.target.bookingId
  fresh : request.target.row db = none
  named : request.target.refundReference ≠ ""

theorem Admissible.refundOf {request : RefundRequest} {db : Db} {source : Payment} {booking : Booking}
    (admissible : Admissible request db source booking) :
    RefundOf db request.target request.amount source booking := by
  obtain ⟨found, foundBooking, _, _, reference, _⟩ := createRefundPlan_accepted admissible.planned
  refine ⟨found, reference, admissible.bookingId, ?_, ?_⟩
  · rw [← admissible.bookingId]
    exact foundBooking
  · intro refundId refund row
    rw [admissible.fresh] at row
    cases row

theorem LaterAnswer.Gives.shows {target : RefundTarget} {terms : RefundTerms} {db : Db} {state : RefundState}
    {later : LaterAnswer} {status : PaymentRecordStatus} {refundId : PaymentId} {refund : Payment}
    (gives : later.Gives target terms.amount status) (shows : Shows target terms db state)
    (found : db.payments.rows[refundId]? = some refund)
    (reference : refund.providerRefundId = some target.refundReference)
    (bookingOf : refund.booking = target.bookingId) (named : target.refundReference ≠ "") :
    Shows target terms (later.settle refundId db) (state.settle terms status) := by
  cases later with
  | reconciled now answer =>
      obtain ⟨next, reconciled, shown⟩ := reconcileRefund_shows now shows found reference bookingOf named gives
      simp only [LaterAnswer.settle, reconciled, commit]
      exact shown
  | delivered event =>
      have known : state.refund = none → WebhookKeyFree target db.payments.rows := by
        intro absent
        have isRefund := (shows.refund.row found reference).1
        rw [absent] at isRefund
        cases isRefund
      exact (deliver_shows shows gives known).1

/-- In every reachable state the detour of an admissible refund is transparent exactly when
the refund is whole, another one is pending, or the booking is pending already or has the
status that would be restored. -/
theorem refundDetour_transparent_iff {settings : Settings} {start : System} {history : List Op} {db : Db}
    {request : RefundRequest} {source : Payment} {booking : Booking} {final : PaymentRecordStatus}
    {pendingAnswer finalAnswer : Json} {later : LaterAnswer} (initial : start.Initial)
    (reached : (runAll (System.step settings) start history).db = db)
    (admissible : Admissible request db source booking)
    (outcome : final = .success ∨ final = .failed)
    (pendingStatus : PsCore.refundStatus pendingAnswer = .pending)
    (finalStatus : PsCore.refundStatus finalAnswer = final)
    (gives : later.Gives request.target request.amount final) :
    (request.target.sourceStatus (request.detour pendingAnswer later db) =
        request.target.sourceStatus (request.atOnce finalAnswer db) ∧
      request.target.bookingStatuses (request.detour pendingAnswer later db) =
        request.target.bookingStatuses (request.atOnce finalAnswer db)) ↔
      (refundTerms db request.target request.amount source booking).isWhole final = true ∨
      0 < (refundTerms db request.target request.amount source booking).otherPending ∨
      booking.bookingStatus = .refundPending ∨
      booking.bookingStatus = (refundTerms db request.target request.amount source booking).restored := by
  have sound : PaymentsSound db := by
    rw [← reached]
    exact paymentsSound_run initial history
  have shows := admissible.refundOf.shows sound
  have absent : (refundState db request.target source booking).refund = none := by
    simp [refundState, RefundTarget.refundStatus, admissible.fresh]
  obtain ⟨_, _, _, _, _, _, positive, _⟩ := createRefundPlan_accepted admissible.planned
  have settles : final.isPending = false := by
    rcases outcome with rfl | rfl <;> rfl
  obtain ⟨pendingId, pendingDb, refund, created, pendingShown, found, reference, bookingOf⟩ :=
    createRefund_shows request.now shows admissible.planned absent pendingStatus
  obtain ⟨directId, directDb, _, createdDirectly, directShown, _⟩ :=
    createRefund_shows request.now shows admissible.planned absent finalStatus
  have detourEq : request.detour pendingAnswer later db = later.settle pendingId pendingDb := by
    have accepted : request.create pendingAnswer db = .ok (pendingId, pendingDb) := created
    simp only [RefundRequest.detour, accepted]
  have directEq : request.atOnce finalAnswer db = directDb := by
    have accepted : request.create finalAnswer db = .ok (directId, directDb) := createdDirectly
    simp only [RefundRequest.atOnce, accepted, commit]
  have detourShown := gives.shows pendingShown found reference bookingOf admissible.named
  have nonneg : 0 ≤ (refundTerms db request.target request.amount source booking).amount := Int.le_of_lt positive
  have transparent := settle_detour_iff (refundState db request.target source booking) nonneg settles
  rw [detourEq, directEq, detourShown.sourceStatus, directShown.sourceStatus, detourShown.bookingStatuses,
    directShown.bookingStatuses]
  refine Iff.trans ?_ transparent
  simp only [Option.some.injEq, Prod.mk.injEq]
  constructor
  · rintro ⟨sameSource, sameBooking, samePayment⟩
    exact RefundState.ext (by rw [settle_refund, settle_refund]) sameSource sameBooking samePayment
  · intro same
    rw [same]
    exact ⟨rfl, rfl, rfl⟩

def sampleRequest : RefundRequest where
  now := sampleNow
  target := sampleTarget
  amount := 5000
  key := "refund-key-1"

theorem refundDetour_transparent_iff_confirmed :
    sampleTarget.bookingStatuses (sampleRequest.detour (.text "pending")
        (.reconciled sampleNow (.text "processed")) paidState.db) =
      sampleTarget.bookingStatuses (sampleRequest.atOnce (.text "processed") paidState.db) := by
  have admissible : Admissible sampleRequest paidState.db paidSource paidBooking := by
    constructor
    · rfl
    · decide
    · decide
    · decide
  have processed : PsCore.refundStatus (.text "processed") = .success := by decide
  have gives : (LaterAnswer.reconciled sampleNow (.text "processed")).Gives sampleRequest.target
      sampleRequest.amount .success := processed
  exact ((refundDetour_transparent_iff sampleSystem_initial rfl admissible (.inl rfl) (by decide) processed
    gives).mpr (.inr (.inr (.inr (by decide))))).2

def assignedHistory : List Op := paidHistory ++ [.assignTechnician sampleNow 0 0 none "" ""]

def assignedState : System := runAll (System.step sampleSettings) sampleSystem assignedHistory

def assignedBooking : Booking := assignedState.db.bookings.get ⟨0, by decide⟩

theorem refund_detour_visible :
    ¬ ∀ (settings : Settings) (start : System) (history : List Op) (request : RefundRequest) (source : Payment)
      (booking : Booking) (final : PaymentRecordStatus) (pendingAnswer finalAnswer : Json) (later : LaterAnswer),
      start.Initial → Admissible request (runAll (System.step settings) start history).db source booking →
      final = .success ∨ final = .failed → PsCore.refundStatus pendingAnswer = .pending →
      PsCore.refundStatus finalAnswer = final → later.Gives request.target request.amount final →
      request.target.sourceStatus (request.detour pendingAnswer later
          (runAll (System.step settings) start history).db) =
        request.target.sourceStatus (request.atOnce finalAnswer (runAll (System.step settings) start history).db) ∧
      request.target.bookingStatuses (request.detour pendingAnswer later
          (runAll (System.step settings) start history).db) =
        request.target.bookingStatuses
          (request.atOnce finalAnswer (runAll (System.step settings) start history).db) := by
  intro always
  have admissible : Admissible sampleRequest assignedState.db paidSource assignedBooking := by
    constructor
    · rfl
    · decide
    · decide
    · decide
  have processed : PsCore.refundStatus (.text "processed") = .success := by decide
  have same := (always sampleSettings sampleSystem assignedHistory sampleRequest paidSource assignedBooking .success
    (.text "pending") (.text "processed") (.reconciled sampleNow (.text "processed")) sampleSystem_initial admissible
    (.inl rfl) (by decide) processed processed).2
  have detour : sampleTarget.bookingStatuses (sampleRequest.detour (.text "pending")
      (.reconciled sampleNow (.text "processed")) assignedState.db) = some (.confirmed, .partiallyPaid) := by decide
  have direct : sampleTarget.bookingStatuses (sampleRequest.atOnce (.text "processed") assignedState.db) =
      some (.technicianAssigned, .partiallyPaid) := by decide
  exact absurd ((detour.symm.trans same).trans direct) (by decide)

end PsCore
