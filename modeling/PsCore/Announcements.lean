import PsCore.AdvanceOrders
import PsCore.Assignments
import PsCore.Carts
import PsCore.Ledger
import PsCore.Library.Occurrences

/-!
What the customers are told. Every notification goes out with the change that it is about: a refund is
announced when it is made and each time it succeeds, a payment each time it fails and when it confirms its
booking, and of a job the customer hears what the status history says.
-/

namespace PsCore

open Fallible RowTable TransitionRun Occurrences

def NotificationPayload.paymentId : NotificationPayload → Option PaymentId
  | .payment id | .paidAmount id _ | .refund id _ => some id
  | _ => none

def EmittedNotification.tells (event : NotificationEvent) (paymentId : PaymentId) (notification : EmittedNotification) :
    Bool :=
  notification.event == event && notification.payload.paymentId == some paymentId

def Db.told (event : NotificationEvent) (paymentId : PaymentId) (db : Db) : Nat :=
  countWhere (EmittedNotification.tells event paymentId) db.notifications

def Db.paymentIs (holds : Payment → Bool) (paymentId : PaymentId) (db : Db) : Bool :=
  db.payments.rows[paymentId]?.any holds

def Payment.isRefund (payment : Payment) : Bool :=
  payment.paymentType == .refund

def Payment.isPaidBack (payment : Payment) : Bool :=
  payment.paymentType == .refund && payment.status == .success

def Payment.hasFailed (payment : Payment) : Bool :=
  payment.paymentType != .refund && payment.status == .failed

def Payment.hasSucceeded (payment : Payment) : Bool :=
  payment.paymentType != .refund && payment.status == .success

/-- A stored payment goes through while its booking is not confirmed. -/
def confirms (paymentId : PaymentId) (before after : Db) : Bool :=
  before.payments.rows[paymentId]?.any (fun payment => !payment.hasSucceeded &&
    before.bookings[payment.booking]?.any fun booking => booking.bookingStatus != .confirmed) &&
  after.paymentIs Payment.hasSucceeded paymentId

def EmittedNotification.jobNews (notification : EmittedNotification) : Option (BookingId × NotificationEvent) :=
  match notification.event with
  | .technicianEnRoute => some (notification.booking, .technicianEnRoute)
  | .serviceCompleted => some (notification.booking, .serviceCompleted)
  | .bookingCancelled => some (notification.booking, .bookingCancelled)
  | _ => none

def BookingStatusHistory.jobNews (entry : BookingStatusHistory) : Option (BookingId × NotificationEvent) :=
  if entry.fromStatus = some entry.toStatus then none
  else match entry.toStatus with
    | .technicianEnRoute => some (entry.booking, .technicianEnRoute)
    | .completed => some (entry.booking, .serviceCompleted)
    | .cancelled => some (entry.booking, .bookingCancelled)
    | _ => none

/-- The notification goes to the customer of its booking, and the payment that it names is stored with the
amount and, but for a refund's success, the booking that it gives. -/
structure EmittedNotification.Truthful (db : Db) (notification : EmittedNotification) : Prop where
  booked : BookedBy db notification.recipient notification.booking
  payment : ∀ paymentId, notification.payload = .payment paymentId →
    ∃ payment, db.payments.rows[paymentId]? = some payment ∧ payment.booking = notification.booking
  paidAmount : ∀ paymentId amount, notification.payload = .paidAmount paymentId amount →
    ∃ payment, db.payments.rows[paymentId]? = some payment ∧ payment.booking = notification.booking ∧
      payment.amount = amount
  refund : ∀ refundId amount, notification.payload = .refund refundId amount →
    ∃ refund, db.payments.rows[refundId]? = some refund ∧ refund.paymentType = .refund ∧ refund.amount = amount ∧
      (notification.event = .refundInitiated → refund.booking = notification.booking)

def Db.hasAssigned (db : Db) (bookingId : BookingId) (technicianId : TechnicianId) : Prop :=
  ∃ assignment ∈ db.assignments.rows, assignment.booking = bookingId ∧ assignment.technician = technicianId

theorem mem_set_pairs {rows : List TechnicianAssignment} {assignmentId : AssignmentId}
    {before : TechnicianAssignment} (after : TechnicianAssignment) (found : rows[assignmentId]? = some before)
    (booking : after.booking = before.booking) (technician : after.technician = before.technician)
    (bookingId : BookingId) (technicianId : TechnicianId) :
    (∃ row ∈ rows.set assignmentId after, row.booking = bookingId ∧ row.technician = technicianId) ↔
      ∃ row ∈ rows, row.booking = bookingId ∧ row.technician = technicianId := by
  constructor
  · rintro ⟨row, member, ofBooking, ofTechnician⟩
    rcases List.mem_or_eq_of_mem_set member with old | isAfter
    · exact ⟨row, old, ofBooking, ofTechnician⟩
    · subst isAfter
      exact ⟨before, List.mem_of_getElem? found, booking.symm.trans ofBooking, technician.symm.trans ofTechnician⟩
  · rintro ⟨row, member, ofBooking, ofTechnician⟩
    obtain ⟨position, present⟩ := List.mem_iff_getElem?.mp member
    by_cases same : assignmentId = position
    · subst same
      rw [found, Option.some.injEq] at present
      subst present
      refine ⟨after, List.mem_iff_getElem?.mpr ⟨assignmentId, ?_⟩, booking.trans ofBooking,
        technician.trans ofTechnician⟩
      rw [List.getElem?_set_self (List.getElem?_eq_some_iff.mp found).1]
    · refine ⟨row, List.mem_iff_getElem?.mpr ⟨position, ?_⟩, ofBooking, ofTechnician⟩
      rw [List.getElem?_set_ne same, present]

theorem reassign_pairs {now : Instant} {assignments next : AssignmentTable} {bookingId : BookingId}
    {technician : TechnicianId} {assignedBy : Option UserId} {notes reason : String} {assignmentId : AssignmentId}
    (accepted : reassign now assignments bookingId technician assignedBy notes reason = .ok (assignmentId, next))
    (otherBooking : BookingId) (otherTechnician : TechnicianId) :
    (∃ row ∈ next.rows, row.booking = otherBooking ∧ row.technician = otherTechnician) ↔
      (∃ row ∈ assignments.rows, row.booking = otherBooking ∧ row.technician = otherTechnician) ∨
        (bookingId = otherBooking ∧ technician = otherTechnician) := by
  unfold reassign at accepted
  cases active : activeAssignment assignments bookingId with
  | none =>
      simp only [active] at accepted
      rw [insertAssignment_accepted accepted]
      simp [or_and_right, exists_or]
  | some previous =>
      obtain ⟨previousId, previous⟩ := previous
      simp only [active] at accepted
      obtain ⟨found, isActive⟩ := activeAssignment_some active
      have own := TechnicianAssignment.isActiveOf_booking isActive
      by_cases same : previous.technician = technician
      · subst same
        rw [if_pos rfl] at accepted
        have already : bookingId = otherBooking ∧ previous.technician = otherTechnician →
            ∃ row ∈ assignments.rows, row.booking = otherBooking ∧ row.technician = otherTechnician :=
          fun ⟨isBooking, isTechnician⟩ =>
            ⟨previous, List.mem_of_getElem? found, own.trans isBooking, isTechnician⟩
        rw [or_iff_left_of_imp already]
        split at accepted
        · simp only [accepted_bind, accepted_pure, Prod.mk.injEq] at accepted
          obtain ⟨kept, stored, _, rfl⟩ := accepted
          rw [storeAssignment_accepted stored]
          exact mem_set_pairs { previous with notes := notes } found rfl rfl otherBooking otherTechnician
        · simp only [Except.ok.injEq, Prod.mk.injEq] at accepted
          rw [accepted.2]
      · rw [if_neg same] at accepted
        simp only [accepted_bind] at accepted
        obtain ⟨ended, stored, inserted⟩ := accepted
        rw [insertAssignment_accepted inserted, storeAssignment_accepted stored]
        simp only [List.mem_append, List.mem_singleton, or_and_right, exists_or, exists_eq_left]
        rw [mem_set_pairs { previous with unassignedAt := some now } found rfl rfl otherBooking otherTechnician]

/-! What a step announces. -/

structure Silent (db next : Db) : Prop where
  notifications : next.notifications = db.notifications
  statusHistory : ∃ entries, next.statusHistory = db.statusHistory ++ entries ∧
    ∀ entry ∈ entries, BookingStatusHistory.jobNews entry = none
  payments : ∃ added, next.payments.rows = db.payments.rows ++ added ∧
    ∀ payment ∈ added, payment.isRefund = false ∧ payment.hasFailed = false
  assignments : ∀ bookingId technicianId,
    next.hasAssigned bookingId technicianId ↔ db.hasAssigned bookingId technicianId

structure JobAnnounced (db next : Db) (notification : EmittedNotification) (entry : BookingStatusHistory) : Prop where
  notifications : next.notifications = db.notifications ++ [notification]
  statusHistory : next.statusHistory = db.statusHistory ++ [entry]
  payments : next.payments = db.payments
  follows : notification.jobNews = entry.jobNews
  unpaid : notification.payload.paymentId = none
  booked : BookedBy db notification.recipient notification.booking
  assignments : ∀ bookingId technicianId, next.hasAssigned bookingId technicianId ↔
    db.hasAssigned bookingId technicianId ∨ (notification.event = .technicianAssigned ∧
      notification.booking = bookingId ∧ notification.payload = .technician technicianId)

/-- When a settlement is announced as a new refund, and when as a successful one. -/
inductive RefundSettlement.Announced (settlement : RefundSettlement) (db : Db) : Bool → Bool → Prop
  | initiated (new : settlement.refundId = db.payments.rows.length)
      (booking : settlement.refund.booking = settlement.bookingId)
      (rows : settlement.payments.rows = db.payments.rows ++ [settlement.refund]) :
      Announced settlement db true (settlement.refund.status = .success)
  | rewritten (now : Instant) (earlier : Payment) (status : PaymentRecordStatus)
      (found : db.payments.rows[settlement.refundId]? = some earlier)
      (row : settlement.refund = earlier.withRefundStatus now status)
      (rows : settlement.payments.rows = db.payments.rows.set settlement.refundId settlement.refund) :
      Announced settlement db false (earlier.status ≠ .success ∧ settlement.refund.status = .success)

inductive Announces (db next : Db) : Prop
  | silent (silent : Silent db next)
  | job (notification : EmittedNotification) (entry : BookingStatusHistory)
      (announced : JobAnnounced db next notification entry)
  | confirmed (now : Instant) (changedBy : Option UserId) (locked : LockedPayment) (payments : PaymentTable)
      (effective : Effective (.confirmation now changedBy locked payments) db next)
  | failed (locked : LockedPayment) (payments : PaymentTable) (effective : Effective (.failure locked payments) db next)
  | settled (settlement : RefundSettlement) (initiated completed : Bool) (grounded : settlement.Grounded db)
      (announced : settlement.Announced db initiated completed)
      (settled : settleRefund settlement initiated completed db = .ok next)

theorem Silent.refl (db : Db) : Silent db db :=
  ⟨rfl, ⟨[], by simp, List.forall_mem_nil _⟩, ⟨[], by simp, List.forall_mem_nil _⟩, fun _ _ => .rfl⟩

theorem Silent.trans {first middle last : Db} (earlier : Silent first middle) (later : Silent middle last) :
    Silent first last := by
  obtain ⟨entries, history, quiet⟩ := earlier.statusHistory
  obtain ⟨more, historyLater, quietLater⟩ := later.statusHistory
  obtain ⟨added, rows, plain⟩ := earlier.payments
  obtain ⟨others, rowsLater, plainLater⟩ := later.payments
  refine ⟨later.notifications.trans earlier.notifications, ⟨entries ++ more, ?_, ?_⟩, ⟨added ++ others, ?_, ?_⟩,
    fun bookingId technicianId =>
      (later.assignments bookingId technicianId).trans (earlier.assignments bookingId technicianId)⟩
  · rw [historyLater, history, List.append_assoc]
  · intro entry member
    exact (List.mem_append.mp member).elim (quiet entry) (quietLater entry)
  · rw [rowsLater, rows, List.append_assoc]
  · intro payment member
    exact (List.mem_append.mp member).elim (plain payment) (plainLater payment)

theorem Silent.aside {db next : Db} (notifications : next.notifications = db.notifications)
    (statusHistory : next.statusHistory = db.statusHistory) (payments : next.payments = db.payments)
    (assignments : next.assignments = db.assignments) : Silent db next :=
  ⟨notifications, ⟨[], by simp [statusHistory], List.forall_mem_nil _⟩,
    ⟨[], by simp [payments], List.forall_mem_nil _⟩, fun _ _ => by simp [Db.hasAssigned, assignments]⟩

theorem Silent.noted {db next : Db} {entry : BookingStatusHistory} (quiet : entry.jobNews = none)
    (notifications : next.notifications = db.notifications)
    (statusHistory : next.statusHistory = db.statusHistory ++ [entry]) (payments : next.payments = db.payments)
    (assignments : ∀ bookingId technicianId,
      next.hasAssigned bookingId technicianId ↔ db.hasAssigned bookingId technicianId) : Silent db next :=
  ⟨notifications, ⟨[entry], statusHistory, by simpa using quiet⟩,
    ⟨[], by simp [payments], List.forall_mem_nil _⟩, assignments⟩

theorem hasAssigned_kept {db next : Db} {notification : EmittedNotification}
    (assignments : next.assignments = db.assignments) (other : notification.event ≠ .technicianAssigned)
    (bookingId : BookingId) (technicianId : TechnicianId) : next.hasAssigned bookingId technicianId ↔
      db.hasAssigned bookingId technicianId ∨ (notification.event = .technicianAssigned ∧
        notification.booking = bookingId ∧ notification.payload = .technician technicianId) := by
  simp [Db.hasAssigned, assignments, other]

section

variable {settings : Settings} {now : Instant} {bookingId : BookingId} {changedBy : Option UserId} {notes : String}
  {db next : Db}

theorem createBooking_silent {customer : UserId} {request : BookingRequest}
    (accepted : createBooking now customer request db = .ok (bookingId, next)) : Silent db next := by
  obtain ⟨_, _, _, _, _, _, _, _, _, _, _, _, _, rfl, rfl⟩ := createBooking_made accepted
  exact .noted rfl rfl rfl rfl fun _ _ => .rfl

theorem createBookings_silent {customer : UserId} {requests : List BookingRequest} {bookingIds : List BookingId}
    (accepted : createBookings now customer requests db = .ok (bookingIds, next)) : Silent db next := by
  refine createBookings_induction (motive := fun _ db next => Silent db next) .refl
    (fun request rest db bookingId middle last created silent => ?_) accepted
  exact (createBooking_silent created).trans silent

theorem startBooking_silent (accepted : startBooking bookingId changedBy notes db = .ok ((), next)) :
    Silent db next := by
  simp only [startBooking, lockBooking, accepted_bind, accepted_pure, accepted_orRaise, accepted_require,
    Prod.mk.injEq] at accepted
  obtain ⟨booking, _, _, _, _, _, _, rfl⟩ := accepted
  exact .noted (by simp [BookingStatusHistory.jobNews]) rfl rfl rfl fun _ _ => .rfl

theorem closeBooking_silent (accepted : closeBooking bookingId changedBy notes db = .ok ((), next)) :
    Silent db next := by
  simp only [closeBooking, lockBooking, accepted_bind, accepted_pure, accepted_orRaise, accepted_require,
    Prod.mk.injEq] at accepted
  obtain ⟨booking, _, _, _, _, rfl⟩ := accepted
  exact .noted (by simp [BookingStatusHistory.jobNews]) rfl rfl rfl fun _ _ => .rfl

theorem markTechnicianEnRoute_announces
    (accepted : markTechnicianEnRoute bookingId changedBy notes db = .ok ((), next)) : Announces db next := by
  simp only [markTechnicianEnRoute, lockBooking, accepted_bind, accepted_pure, accepted_orRaise, accepted_require,
    Prod.mk.injEq] at accepted
  obtain ⟨booking, found, _, from_, _, rfl⟩ := accepted
  refine .job _ _ ⟨rfl, rfl, rfl, ?_, rfl, ⟨booking, found, rfl⟩, hasAssigned_kept rfl (by simp)⟩
  simp [EmittedNotification.jobNews, BookingStatusHistory.jobNews, from_]

theorem completeBooking_announces
    (accepted : completeBooking settings now bookingId changedBy notes db = .ok ((), next)) : Announces db next := by
  simp only [completeBooking, lockBooking, accepted_bind, accepted_pure, accepted_orRaise, accepted_require,
    Prod.mk.injEq] at accepted
  obtain ⟨booking, found, _, from_, _, _, _, _, _, rfl⟩ := accepted
  have moves : booking.bookingStatus ≠ .completed := by
    intro same
    rw [same] at from_
    exact absurd from_ (by decide)
  refine .job _ _ ⟨rfl, rfl, rfl, ?_, rfl, ⟨booking, found, rfl⟩, hasAssigned_kept rfl (by simp)⟩
  simp [EmittedNotification.jobNews, BookingStatusHistory.jobNews, moves]

theorem cancelBooking_announces {actor : CancellationActor}
    (accepted : cancelBooking settings now bookingId changedBy notes actor db = .ok ((), next)) :
    Announces db next := by
  simp only [cancelBooking, lockBooking, accepted_bind, accepted_pure, accepted_orRaise, accepted_require,
    Prod.mk.injEq] at accepted
  obtain ⟨booking, found, _, from_, _, _, _, rfl⟩ := accepted
  have moves : booking.bookingStatus ≠ .cancelled := by
    intro same
    rw [same] at from_
    cases actor <;> exact absurd from_ (by decide)
  refine .job _ _ ⟨rfl, rfl, rfl, ?_, rfl, ⟨booking, found, rfl⟩, hasAssigned_kept rfl (by simp)⟩
  simp [EmittedNotification.jobNews, BookingStatusHistory.jobNews, moves]

theorem rescheduleBooking_announces {slotId : SlotId} {customer : UserId}
    (accepted : rescheduleBooking settings now bookingId slotId customer notes db = .ok ((), next)) :
    Announces db next := by
  simp only [rescheduleBooking, lockBooking, accepted_bind, accepted_pure, accepted_orRaise, accepted_require,
    Prod.mk.injEq] at accepted
  obtain ⟨booking, found, _, _, _, _, _, _, _, _, _, _, _, rfl⟩ := accepted
  refine .job _ _ ⟨rfl, rfl, rfl, ?_, rfl, ⟨booking, found, rfl⟩, hasAssigned_kept rfl (by simp)⟩
  simp [EmittedNotification.jobNews, BookingStatusHistory.jobNews]

theorem assignTechnician_announces {technicianId : TechnicianId} {assignedBy : Option UserId} {reason : String}
    {assignmentId : AssignmentId}
    (accepted : assignTechnician now bookingId technicianId assignedBy notes reason db = .ok (assignmentId, next)) :
    Announces db next := by
  simp only [assignTechnician, lockBooking, accepted_bind, accepted_pure, accepted_orRaise, accepted_require,
    Prod.mk.injEq] at accepted
  obtain ⟨booking, found, _, _, _, _, _, _, _, _, _, _, ⟨_, assignments⟩, reassigned, _, rfl⟩ := accepted
  refine .job _ _ ⟨rfl, rfl, rfl, ?_, rfl, ⟨booking, found, rfl⟩, fun otherBooking otherTechnician => ?_⟩
  · simp [EmittedNotification.jobNews, BookingStatusHistory.jobNews]
  · refine (reassign_pairs reassigned otherBooking otherTechnician).trans (or_congr .rfl ?_)
    simp

theorem removeTechnicianAssignment_silent
    (accepted : removeTechnicianAssignment now bookingId changedBy notes db = .ok ((), next)) : Silent db next := by
  simp only [removeTechnicianAssignment, lockBooking, accepted_bind, accepted_pure, accepted_orRaise,
    Prod.mk.injEq] at accepted
  obtain ⟨booking, _, ⟨assignmentId, assignment⟩, active, assignments, stored, _, rfl⟩ := accepted
  refine .noted ?_ rfl rfl rfl fun otherBooking otherTechnician => ?_
  · unfold BookingStatusHistory.jobNews
    cases booking.bookingStatus <;> rfl
  · change (∃ row ∈ assignments.rows, _) ↔ _
    rw [storeAssignment_accepted stored]
    exact mem_set_pairs { assignment with unassignedAt := some now, notes := joinParts "\n" [assignment.notes, notes] }
      (activeAssignment_some active).1 rfl rfl otherBooking otherTechnician

end

section

variable {settings : Settings} {now : Instant} {db next : Db}

theorem PaymentChange.Sound.announces {changedBy : Option UserId} {change : PaymentChange}
    (sound : change.Sound now changedBy db) : Announces db (change.apply now changedBy db) := by
  rcases sound with unchanged | ⟨effect, present, effective⟩
  · rw [unchanged]
    exact .silent (.refl db)
  · cases change with
    | unchanged paymentId => cases present
    | confirm locked payments =>
        cases present
        exact .confirmed now changedBy locked payments effective
    | fail locked payments =>
        cases present
        exact .failed locked payments effective

theorem verifyRazorpayPayment_announces (settings : Settings) (now : Instant) (orderId paymentId signature : String)
    (user : Option UserId) (db : Db) :
    Announces db (verifyRazorpayPayment settings now orderId paymentId signature user db).2 := by
  unfold verifyRazorpayPayment
  cases decided : verificationChange settings now orderId paymentId signature user db with
  | error error => exact .silent (.refl db)
  | ok change => exact (verificationChange_accepted decided).announces

theorem insertRefund_announced {sourceId : PaymentId} {source : Payment} {booking : Booking} {amount : Money}
    {currency key reference : String} {status : PaymentRecordStatus} {settlement : RefundSettlement}
    (accepted : insertRefund sourceId source booking
      (newRefund now sourceId source amount currency key reference status) db = .ok settlement) :
    settlement.Announced db true (status = .success) := by
  obtain ⟨_, _, bookingId, _, row, new, rows⟩ := insertRefund_accepted accepted
  have same : settlement.refund.status = status := by rw [row]; rfl
  rw [← same]
  refine .initiated new ?_ (by rw [row, rows])
  rw [row, bookingId]
  rfl

theorem updateRefund_announced {refundId : PaymentId} {refund : Payment} {status : PaymentRecordStatus}
    {sourceId : PaymentId} {source : Payment} {bookingId : BookingId} {booking : Booking}
    {settlement : RefundSettlement} (found : db.payments.rows[refundId]? = some refund)
    (accepted : updateRefund now refundId refund status sourceId source bookingId booking db = .ok settlement) :
    settlement.Announced db false (refund.status ≠ .success ∧ settlement.refund.status = .success) := by
  obtain ⟨_, _, _, _, row, isRefund, rows⟩ := updateRefund_accepted accepted
  subst isRefund
  exact .rewritten now refund status found row (by rw [rows, row])

theorem createRefund_announces {sourceId refundId : PaymentId} {amount : Money} {key : String}
    {providerRefund : Except ServiceError ProviderRefund}
    (accepted : createRefund now sourceId amount key providerRefund db = .ok (refundId, next)) : Announces db next := by
  simp only [createRefund, accepted_bind] at accepted
  obtain ⟨plan, planned, written⟩ := accepted
  cases plan with
  | existing existingId =>
      simp only [accepted_pure, Prod.mk.injEq] at written
      rw [← written.2]
      exact .silent (.refl db)
  | request source booking providerPaymentId =>
      simp only [accepted_bind, accepted_pure, Prod.mk.injEq] at written
      obtain ⟨answer, answered, settlement, inserted, _, settled, _, rfl⟩ := written
      have requested : requestedRefund now sourceId amount key providerRefund db = some settlement := by
        simp only [requestedRefund, planned, answered, inserted, succeeded]
      exact .settled settlement true _ (requestedRefund_grounded requested) (insertRefund_announced inserted) settled

theorem reconcileRefund_announces {refundId answerId : PaymentId} {providerStatus : Except ServiceError Json}
    (accepted : reconcileRefund now refundId providerStatus db = .ok (answerId, next)) : Announces db next := by
  simp only [reconcileRefund, accepted_bind, accepted_pure, Prod.mk.injEq] at accepted
  obtain ⟨⟨previous, settlement⟩, reconciled, _, settled, _, rfl⟩ := accepted
  have grounded := reconciledRefund_grounded reconciled
  simp only [reconciledRefund, accepted_bind, accepted_orRaise, accepted_require, accepted_pure,
    Option.filter_eq_some_iff, Prod.mk.injEq] at reconciled
  obtain ⟨refund, ⟨found, _⟩, _, _, _, _, _, _, _, _, _, _, _, updated, rfl, rfl⟩ := reconciled
  exact .settled _ false _ grounded (updateRefund_announced found updated) settled

theorem deliveredRefund_announced {payload : Json} {previous : Option PaymentRecordStatus}
    {settlement : RefundSettlement} (delivered : deliveredRefund now payload db = .ok (previous, settlement)) :
    settlement.Announced db (previous = none) (settlement.refund.status = .success ∧ previous ≠ some .success) := by
  simp only [deliveredRefund, accepted_bind, accepted_orRaise, accepted_require] at delivered
  obtain ⟨_, _, refundId, _, _, _, _, _, ⟨sourceId, source⟩, _, booking, _, statusValue, _, _, _, amount, _,
    currencyValue, _, decided⟩ := delivered
  split at decided
  · rename_i existingId existing stored
    simp only [accepted_bind, accepted_pure, Prod.mk.injEq] at decided
    obtain ⟨updated, saved, rfl, rfl⟩ := decided
    have announced := updateRefund_announced (firstRow_some stored).1 saved
    simpa [and_comm] using announced
  · simp only [accepted_bind, accepted_pure, Prod.mk.injEq] at decided
    obtain ⟨inserted, saved, rfl, rfl⟩ := decided
    have announced := insertRefund_announced saved
    have same : inserted.refund.status = refundStatus statusValue := by
      rw [(insertRefund_accepted saved).2.2.2.2.1]
      rfl
    simpa [same] using announced

theorem dispatchWebhook_announces (settings : Settings) (now : Instant) (eventName : String) (payload : Json)
    (db : Db) : Announces db (dispatchWebhook settings now eventName payload db).2 := by
  unfold dispatchWebhook
  split
  · cases captured : capturedPayment payload db with
    | error error => exact .silent (.refl db)
    | ok ids => exact verifyRazorpayPayment_announces ..
  · split
    · cases decided : failedPaymentChange payload db with
      | error error => exact .silent (.refl db)
      | ok change => exact (failedPaymentChange_accepted decided).announces
    · split
      · cases processed : processRefundWebhook now payload db with
        | error error => exact .silent (.refl db)
        | ok result =>
            have accepted := processed
            simp only [processRefundWebhook, accepted_bind, accepted_pure] at accepted
            obtain ⟨⟨previous, settlement⟩, delivered, after, settled, rfl⟩ := accepted
            exact .settled settlement _ _ (deliveredRefund_grounded delivered) (deliveredRefund_announced delivered)
              settled
      · exact .silent (.refl db)

theorem createAdvancePaymentOrder_silent {bookingId : BookingId} {user : UserId} {key : String}
    {providerOrder : Except ServiceError String} {answer : PaymentId × OrderResponse}
    (accepted : createAdvancePaymentOrder settings bookingId user key providerOrder db = .ok (answer, next)) :
    Silent db next := by
  rcases createAdvancePaymentOrder_cases accepted with
    ⟨_, _, _, _, _, rfl⟩ | ⟨booking, orderId, payments, _, _, inserted, _, rfl⟩
  · exact .refl _
  · refine ⟨rfl, ⟨[], by simp, List.forall_mem_nil _⟩, ⟨_, (UniqueTable.insert?_some inserted).1, ?_⟩, fun _ _ => .rfl⟩
    simp [Payment.isRefund, Payment.hasFailed, newAdvancePayment]

theorem recordBalanceCollection_silent {bookingId : BookingId} {amount : Money} {method notes : String}
    {changedBy : Option UserId} {paymentId : PaymentId}
    (accepted : recordBalanceCollection now bookingId amount method changedBy notes db = .ok (paymentId, next)) :
    Silent db next := by
  simp only [recordBalanceCollection, accepted_bind, accepted_pure, Prod.mk.injEq] at accepted
  obtain ⟨⟨booking, payments⟩, entered, _, rfl⟩ := accepted
  refine ⟨rfl, ⟨_, rfl, ?_⟩, ⟨_, (balanceEntry_accepted entered).2.2.2.2, ?_⟩, fun _ _ => .rfl⟩
  · simp [BookingStatusHistory.jobNews, Booking.collected]
  · simp [Payment.isRefund, Payment.hasFailed, newBalancePayment]

theorem recordManualLeadPayment_silent {loaded : LoadedLead} {amount : Money} {method reference note : String}
    {paymentId : PaymentId}
    (accepted : recordManualLeadPayment now loaded amount method reference note db = .ok (paymentId, next)) :
    Silent db next := by
  obtain ⟨entry, _, _, _, _, _, inserted, _, _, _, rfl⟩ := recordManualLeadPayment_cases accepted
  refine ⟨rfl, ⟨[], by simp, List.forall_mem_nil _⟩, ⟨_, (UniqueTable.insert?_some inserted).1, ?_⟩, fun _ _ => .rfl⟩
  simp [Payment.isRefund, Payment.hasFailed, newManualPayment]

theorem convertLeadToWorkOrder_silent {loaded : LoadedLead} {performedBy : Option UserId}
    {booking : Option LoadedBooking} {notes : String} {lead : Lead}
    (accepted : convertLeadToWorkOrder now loaded performedBy booking notes db = .ok (lead, next)) :
    Silent db next := by
  rcases convertLeadToWorkOrder_cases accepted with ⟨_, _, rfl⟩ | ⟨object, booked, leads, _, ordered, _, rfl⟩
  · exact .refl _
  · have made : Silent db booked := by
      cases booking with
      | some given =>
          obtain ⟨_, _, _, rfl⟩ := workOrderBooking_given ordered
          exact .aside rfl rfl rfl rfl
      | none =>
          obtain ⟨made, _, created, _, _, rfl⟩ := workOrderBooking_new ordered
          obtain ⟨preparation, _, created⟩ := createBookingFromLead_prepares created
          have prepared : Silent db (preparation.prepared loaded.lead db) := .aside rfl rfl rfl rfl
          exact (prepared.trans (createBooking_silent created)).trans (.aside rfl rfl rfl rfl)
    refine made.trans ⟨rfl, ⟨_, rfl, ?_⟩, ⟨[], by simp, List.forall_mem_nil _⟩, fun _ _ => .rfl⟩
    unfold workOrderHistory
    split
    · simp
    · simp [BookingStatusHistory.jobNews]

end

theorem commit_announces {α : Type} {db : Db} {transaction : Except ServiceError (α × Db)}
    (announces : ∀ result next, transaction = .ok (result, next) → Announces db next) :
    Announces db (commit db transaction).2 := by
  cases transaction with
  | error error => exact .silent (.refl db)
  | ok committed => exact announces committed.1 committed.2 rfl

section

variable {settings : Settings} {state : System} {op : Op}

theorem loads_announces (loads : op.onlyLoads = true) : Announces state.db (System.step settings state op).db := by
  rw [step_onlyLoads settings state loads]
  exact .silent (.refl _)

theorem leads_announces (writes : op.writesLeads = true) : Announces state.db (System.step settings state op).db := by
  obtain ⟨leads, written⟩ := step_writesLeads settings state writes
  rw [written]
  exact .silent (.aside rfl rfl rfl rfl)

theorem slots_announces (writes : op.writesSlots = true) : Announces state.db (System.step settings state op).db := by
  obtain ⟨slots, written⟩ := step_writesSlots settings state writes
  rw [written]
  exact .silent (.aside rfl rfl rfl rfl)

theorem convert_silent {now : Instant} {lead : Nat} {performedBy : Option UserId} {booking : Option Nat}
    {notes : String} {result : Lead} {next : Db}
    (accepted : state.convert now lead performedBy booking notes = .ok (result, next)) : Silent state.db next := by
  simp only [System.convert, accepted_bind, accepted_orRaise] at accepted
  obtain ⟨loaded, _, converted⟩ := accepted
  cases booking with
  | none => exact convertLeadToWorkOrder_silent converted
  | some position =>
      simp only [accepted_bind, accepted_orRaise] at converted
      obtain ⟨object, _, converted⟩ := converted
      exact convertLeadToWorkOrder_silent converted

end

theorem step_announces (settings : Settings) (state : System) (op : Op) :
    Announces state.db (System.step settings state op).db := by
  cases op with
  | createBooking now customer request =>
      exact commit_announces fun _ _ accepted => .silent (createBooking_silent accepted)
  | checkout now customer requests =>
      exact commit_announces fun _ _ accepted => .silent (createBookings_silent accepted)
  | rescheduleBooking now bookingId slotId changedBy notes =>
      exact commit_announces fun _ _ accepted => rescheduleBooking_announces accepted
  | cancelBooking now bookingId changedBy notes actor =>
      exact commit_announces fun _ _ accepted => cancelBooking_announces accepted
  | startBooking bookingId changedBy notes =>
      exact commit_announces fun _ _ accepted => .silent (startBooking_silent accepted)
  | markTechnicianEnRoute bookingId changedBy notes =>
      exact commit_announces fun _ _ accepted => markTechnicianEnRoute_announces accepted
  | completeBooking now bookingId changedBy notes =>
      exact commit_announces fun _ _ accepted => completeBooking_announces accepted
  | closeBooking bookingId changedBy notes =>
      exact commit_announces fun _ _ accepted => .silent (closeBooking_silent accepted)
  | recordBalanceCollection now bookingId amount method changedBy notes =>
      exact commit_announces fun _ _ accepted => .silent (recordBalanceCollection_silent accepted)
  | assignTechnician now bookingId technicianId assignedBy notes reason =>
      exact commit_announces fun _ _ accepted => assignTechnician_announces accepted
  | removeTechnicianAssignment now bookingId changedBy notes =>
      exact commit_announces fun _ _ accepted => .silent (removeTechnicianAssignment_silent accepted)
  | createAdvancePaymentOrder bookingId user key providerOrder =>
      exact commit_announces fun _ _ accepted => .silent (createAdvancePaymentOrder_silent accepted)
  | verifyRazorpayPayment now orderId paymentId signature user => exact verifyRazorpayPayment_announces ..
  | dispatchWebhook now eventName payload => exact dispatchWebhook_announces ..
  | createRefund now sourceId amount key providerRefund =>
      exact commit_announces fun _ _ accepted => createRefund_announces accepted
  | reconcileRefund now refundId providerStatus =>
      exact commit_announces fun _ _ accepted => reconcileRefund_announces accepted
  | convertLeadToWorkOrder now lead performedBy booking notes =>
      exact commit_announces fun _ _ accepted => .silent (convert_silent accepted)
  | recordManualLeadPayment now lead amount method reference note =>
      refine commit_announces fun paymentId next accepted => ?_
      simp only [accepted_bind, accepted_orRaise] at accepted
      obtain ⟨loaded, _, paid⟩ := accepted
      exact .silent (recordManualLeadPayment_silent paid)
  | recordLeadContact | upsertLead | addLead | editLead => exact leads_announces rfl
  | ensureDailySlots | createSlot | saveSlot => exact slots_announces rfl
  | loadLead | loadBooking | loadSlot | validateSlotEdit => exact loads_announces rfl
  | editDirectory directory => exact .silent (.aside rfl rfl rfl rfl)

/-! What is told of one payment. -/

/-- Each event has been announced of the payment once more exactly where the step brings it about. -/
structure Counted (paymentId : PaymentId) (db next : Db) : Prop where
  refundInitiated : next.told .refundInitiated paymentId =
    db.told .refundInitiated paymentId + (rises (Db.paymentIs Payment.isRefund paymentId) db next).toNat
  refundCompleted : next.told .refundCompleted paymentId =
    db.told .refundCompleted paymentId + (rises (Db.paymentIs Payment.isPaidBack paymentId) db next).toNat
  paymentFailed : next.told .paymentFailed paymentId =
    db.told .paymentFailed paymentId + (rises (Db.paymentIs Payment.hasFailed paymentId) db next).toNat
  paymentSuccessful : next.told .paymentSuccessful paymentId =
    db.told .paymentSuccessful paymentId + (confirms paymentId db next).toNat
  bookingConfirmed : next.told .bookingConfirmed paymentId =
    db.told .bookingConfirmed paymentId + (confirms paymentId db next).toNat

inductive Undisturbed (paymentId : PaymentId) (db next : Db) : Prop
  | same (same : next.payments.rows[paymentId]? = db.payments.rows[paymentId]?)
  | added (payment : Payment) (absent : db.payments.rows[paymentId]? = none)
      (found : next.payments.rows[paymentId]? = some payment) (plain : payment.isRefund = false)
      (sound : payment.hasFailed = false)
  | returned (source : Payment) (found : db.payments.rows[paymentId]? = some source) (plain : source.isRefund = false)
      (marked : next.payments.rows[paymentId]? = some { source with status := .refunded })

section

variable {db next : Db} {paymentId : PaymentId} {news : List EmittedNotification}

theorem told_after (event : NotificationEvent) (notifications : next.notifications = db.notifications ++ news) :
    next.told event paymentId =
      db.told event paymentId + countWhere (EmittedNotification.tells event paymentId) news := by
  simp [Db.told, countWhere, notifications]

theorem told_unheard (event : NotificationEvent) (notifications : next.notifications = db.notifications ++ news)
    (others : ∀ notification ∈ news, notification.payload.paymentId ≠ some paymentId) :
    next.told event paymentId = db.told event paymentId := by
  rw [told_after event notifications, countWhere, List.countP_eq_zero.mpr, Nat.add_zero]
  intro notification member
  simp [EmittedNotification.tells, others notification member]

theorem Undisturbed.counted (undisturbed : Undisturbed paymentId db next)
    (notifications : next.notifications = db.notifications ++ news)
    (others : ∀ notification ∈ news, notification.payload.paymentId ≠ some paymentId) : Counted paymentId db next := by
  have quiet : rises (Db.paymentIs Payment.isRefund paymentId) db next = false ∧
      rises (Db.paymentIs Payment.isPaidBack paymentId) db next = false ∧
      rises (Db.paymentIs Payment.hasFailed paymentId) db next = false ∧ confirms paymentId db next = false := by
    cases undisturbed with
    | same same =>
        refine ⟨by simp [rises, Db.paymentIs, same], by simp [rises, Db.paymentIs, same],
          by simp [rises, Db.paymentIs, same], ?_⟩
        cases found : db.payments.rows[paymentId]? with
        | none => simp [confirms, found]
        | some payment =>
            cases succeeded : payment.hasSucceeded <;> simp [confirms, Db.paymentIs, same, found, succeeded]
    | added payment absent found plain sound =>
        have unpaid : payment.isPaidBack = false := by
          simp only [Payment.isRefund] at plain
          simp [Payment.isPaidBack, plain]
        simp [rises, Db.paymentIs, confirms, absent, found, plain, sound, unpaid]
    | returned source found plain marked =>
        simp only [Payment.isRefund] at plain
        simp [rises, Db.paymentIs, confirms, found, marked, Payment.isRefund, Payment.isPaidBack, Payment.hasFailed,
          Payment.hasSucceeded, plain]
  obtain ⟨initiated, completed, failed, confirmed⟩ := quiet
  constructor
  · simp [told_unheard _ notifications others, initiated]
  · simp [told_unheard _ notifications others, completed]
  · simp [told_unheard _ notifications others, failed]
  · simp [told_unheard _ notifications others, confirmed]
  · simp [told_unheard _ notifications others, confirmed]

theorem Silent.counted (silent : Silent db next) (paymentId : PaymentId) : Counted paymentId db next := by
  obtain ⟨notifications, _, ⟨added, rows, plain⟩, _⟩ := silent
  have undisturbed : Undisturbed paymentId db next := by
    by_cases inBounds : paymentId < db.payments.rows.length
    · exact .same (by rw [rows, List.getElem?_append_left inBounds])
    · have beyond := Nat.le_of_not_lt inBounds
      cases found : next.payments.rows[paymentId]? with
      | none => exact .same (by rw [found, List.getElem?_eq_none beyond])
      | some payment =>
          have isNew : payment ∈ added := by
            rw [rows, List.getElem?_append_right beyond] at found
            exact List.mem_of_getElem? found
          exact .added payment (List.getElem?_eq_none beyond) found (plain payment isNew).1 (plain payment isNew).2
  have unheard : next.notifications = db.notifications ++ [] := by simp [notifications]
  exact undisturbed.counted unheard (List.forall_mem_nil _)

theorem JobAnnounced.counted {notification : EmittedNotification} {entry : BookingStatusHistory}
    (announced : JobAnnounced db next notification entry) (paymentId : PaymentId) : Counted paymentId db next := by
  refine Undisturbed.counted (.same (by rw [announced.payments])) announced.notifications fun other member => ?_
  rw [List.mem_singleton.mp member, announced.unpaid]
  nofun

end

section

variable {db next : Db} {now : Instant} {changedBy : Option UserId} {locked : LockedPayment} {payments : PaymentTable}

theorem confirmation_notifications (now : Instant) (locked : LockedPayment) (changedBy : Option UserId) (db : Db) :
    (confirmBookingAfterPayment now locked changedBy db).notifications = db.notifications ++
      if locked.booking.bookingStatus = .confirmed then []
      else [⟨.paymentSuccessful, locked.booking.customer, locked.payment.booking,
          .paidAmount locked.paymentId locked.payment.amount⟩,
        ⟨.bookingConfirmed, locked.booking.customer, locked.payment.booking, .payment locked.paymentId⟩] := by
  unfold confirmBookingAfterPayment
  split
  · simp
  · simp [Db.emit, Booking.confirmedBy]

theorem failure_notifications (locked : LockedPayment) (db : Db) :
    (markPaymentFailed locked db).notifications = db.notifications ++
      if locked.payment.status = .failed then []
      else [⟨.paymentFailed, locked.booking.customer, locked.payment.booking, .payment locked.paymentId⟩] := by
  unfold markPaymentFailed
  split
  · simp
  · simp [Db.emit]

theorem Payment.advance_marks (payment : Payment) (advance : payment.paymentType = .bookingAdvance) :
    payment.isRefund = false ∧ payment.isPaidBack = false ∧ payment.hasFailed = (payment.status == .failed) ∧
      payment.hasSucceeded = (payment.status == .success) := by
  unfold Payment.isRefund Payment.isPaidBack Payment.hasFailed Payment.hasSucceeded
  rw [advance]
  exact ⟨rfl, rfl, rfl, rfl⟩

theorem Payment.refund_marks (payment : Payment) (kind : payment.paymentType = .refund) :
    payment.isRefund = true ∧ payment.hasFailed = false ∧ payment.hasSucceeded = false ∧
      payment.isPaidBack = (payment.status == .success) := by
  unfold Payment.isRefund Payment.hasFailed Payment.hasSucceeded Payment.isPaidBack
  rw [kind]
  exact ⟨rfl, rfl, rfl, rfl⟩

theorem confirmation_counted (sound : PaymentsSound db)
    (effective : Effective (.confirmation now changedBy locked payments) db next) (paymentId : PaymentId) :
    Counted paymentId db next := by
  cases effective with
  | confirmed orderId reference found foundBooking ordered amount open_ rows written =>
      have notifications := confirmation_notifications now locked changedBy { db with payments := payments }
      rw [← written] at notifications
      change next.notifications = db.notifications ++ _ at notifications
      have stored : next.payments.rows =
          db.payments.rows.set locked.paymentId (locked.payment.succeeded now reference) := by
        rw [written, confirmBookingAfterPayment_payments]
        exact rows
      have advance : locked.payment.paymentType = .bookingAdvance :=
        (sound.rows _ (List.mem_of_getElem? found)).advance (by rw [ordered]; rfl)
      by_cases isPayment : locked.paymentId = paymentId
      · subst isPayment
        have present : next.payments.rows[locked.paymentId]? = some (locked.payment.succeeded now reference) := by
          rw [stored, List.getElem?_set_self (List.getElem?_eq_some_iff.mp found).1]
        obtain ⟨plain, unpaid, _, succeeded⟩ := locked.payment.advance_marks advance
        obtain ⟨plainAfter, unpaidAfter, failedAfter, succeededAfter⟩ :=
          Payment.advance_marks (locked.payment.succeeded now reference) advance
        change _ = false at failedAfter
        change _ = true at succeededAfter
        rw [beq_eq_false_iff_ne.mpr open_] at succeeded
        by_cases confirmed : locked.booking.bookingStatus = .confirmed
        · rw [if_pos confirmed] at notifications
          constructor <;> rw [told_after _ notifications] <;>
            simp [countWhere, rises, confirms, Db.paymentIs, present, found, foundBooking, confirmed, plain, plainAfter,
              unpaidAfter, failedAfter]
        · rw [if_neg confirmed] at notifications
          have moves : (locked.booking.bookingStatus != .confirmed) = true := bne_iff_ne.mpr confirmed
          constructor <;> rw [told_after _ notifications] <;>
            simp [countWhere, EmittedNotification.tells, NotificationPayload.paymentId, rises, confirms, Db.paymentIs,
              present, found, foundBooking, moves, plain, plainAfter, unpaidAfter, failedAfter, succeeded,
              succeededAfter]
      · refine Undisturbed.counted (.same (by rw [stored, List.getElem?_set_ne isPayment])) notifications
          fun notification member => ?_
        split at member
        · cases member
        · simp only [List.mem_cons, List.not_mem_nil, or_false] at member
          rcases member with rfl | rfl <;> simpa [NotificationPayload.paymentId] using isPayment

theorem failure_counted (sound : PaymentsSound db) (effective : Effective (.failure locked payments) db next)
    (paymentId : PaymentId) : Counted paymentId db next := by
  cases effective with
  | failed orderId reference found foundBooking ordered open_ rows written =>
      have notifications := failure_notifications locked { db with payments := payments }
      rw [← written] at notifications
      change next.notifications = db.notifications ++ _ at notifications
      have stored : next.payments.rows =
          db.payments.rows.set locked.paymentId (locked.payment.markedFailed reference) := by
        rw [written, markPaymentFailed_payments]
        exact rows
      have advance : locked.payment.paymentType = .bookingAdvance :=
        (sound.rows _ (List.mem_of_getElem? found)).advance (by rw [ordered]; rfl)
      by_cases isPayment : locked.paymentId = paymentId
      · subst isPayment
        have present : next.payments.rows[locked.paymentId]? = some (locked.payment.markedFailed reference) := by
          rw [stored, List.getElem?_set_self (List.getElem?_eq_some_iff.mp found).1]
        obtain ⟨plain, unpaid, failed, _⟩ := locked.payment.advance_marks advance
        obtain ⟨plainAfter, unpaidAfter, failedAfter, succeededAfter⟩ :=
          Payment.advance_marks (locked.payment.markedFailed reference)
            ((Payment.markedFailed_origin locked.payment reference).kind.trans advance)
        change _ = true at failedAfter
        change _ = false at succeededAfter
        by_cases already : locked.payment.status = .failed
        · rw [if_pos already] at notifications
          rw [already] at failed
          change _ = true at failed
          constructor <;> rw [told_after _ notifications] <;>
            simp [countWhere, rises, confirms, Db.paymentIs, present, found, plain, plainAfter, unpaidAfter, failed,
              succeededAfter]
        · rw [if_neg already] at notifications
          rw [beq_eq_false_iff_ne.mpr already] at failed
          constructor <;> rw [told_after _ notifications] <;>
            simp [countWhere, EmittedNotification.tells, NotificationPayload.paymentId, rises, confirms, Db.paymentIs,
              present, found, plain, plainAfter, unpaidAfter, failed, failedAfter, succeededAfter]
      · refine Undisturbed.counted (.same (by rw [stored, List.getElem?_set_ne isPayment])) notifications
          fun notification member => ?_
        split at member
        · cases member
        · rw [List.mem_singleton.mp member]
          simpa [NotificationPayload.paymentId] using isPayment

def RefundSettlement.notice (event : NotificationEvent) (settlement : RefundSettlement) : EmittedNotification :=
  ⟨event, settlement.booking.customer, settlement.bookingId, .refund settlement.refundId settlement.refund.amount⟩

def RefundSettlement.news (initiated completed : Bool) (settlement : RefundSettlement) : List EmittedNotification :=
  (if initiated then [settlement.notice .refundInitiated] else []) ++
    if completed then [settlement.notice .refundCompleted] else []

theorem RefundSettlement.mem_news {settlement : RefundSettlement} {initiated completed : Bool}
    {notification : EmittedNotification} (member : notification ∈ settlement.news initiated completed) :
    (initiated = true ∧ notification = settlement.notice .refundInitiated) ∨
      (completed = true ∧ notification = settlement.notice .refundCompleted) := by
  rcases List.mem_append.mp member with isInitiated | isCompleted
  · split at isInitiated
    · rename_i initiated
      exact .inl ⟨initiated, List.mem_singleton.mp isInitiated⟩
    · cases isInitiated
  · split at isCompleted
    · rename_i completed
      exact .inr ⟨completed, List.mem_singleton.mp isCompleted⟩
    · cases isCompleted

theorem RefundSettlement.tells_news (settlement : RefundSettlement) (event : NotificationEvent)
    (initiated completed : Bool) :
    countWhere (EmittedNotification.tells event settlement.refundId) (settlement.news initiated completed) =
      (event == .refundInitiated && initiated).toNat + (event == .refundCompleted && completed).toNat := by
  have told : ∀ other : NotificationEvent,
      EmittedNotification.tells event settlement.refundId (settlement.notice other) = (event == other) := by
    intro other
    simp [EmittedNotification.tells, RefundSettlement.notice, NotificationPayload.paymentId, eq_comm, beq_eq_decide]
  cases initiated <;> cases completed <;> simp [RefundSettlement.news, countWhere, List.countP_cons, told] <;>
    cases event <;> rfl

theorem settlement_notifications {settlement : RefundSettlement} {initiated completed : Bool}
    (settled : settleRefund settlement initiated completed db = .ok next) :
    next.statusHistory = db.statusHistory ∧ next.assignments = db.assignments ∧
      next.notifications = db.notifications ++ settlement.news initiated completed := by
  simp only [settleRefund, applyRefundState, accepted_bind, accepted_pure] at settled
  obtain ⟨applied, written, rfl⟩ := settled
  have aside : applied.statusHistory = db.statusHistory ∧ applied.assignments = db.assignments ∧
      applied.notifications = db.notifications := by
    split at written
    · simp only [accepted_bind, accepted_pure] at written
      obtain ⟨payments, _, rfl⟩ := written
      exact ⟨rfl, rfl, rfl⟩
    · simp only [accepted_pure] at written
      subst written
      exact ⟨rfl, rfl, rfl⟩
  cases initiated <;> cases completed <;>
    simp [Db.emitRefund, Db.emit, RefundSettlement.news, RefundSettlement.notice, aside]

theorem settlement_others {settlement : RefundSettlement} (sound : PaymentsSound db) (grounded : settlement.Grounded db)
    {paymentId : PaymentId} (other : paymentId ≠ settlement.refundId)
    (others : settlement.payments.rows[paymentId]? = db.payments.rows[paymentId]?)
    (rows : next.payments.rows = settlement.settledRows) : Undisturbed paymentId db next := by
  have found := sound.source_untouched grounded.source grounded.written
  unfold RefundSettlement.settledRows at rows
  split at rows
  · by_cases isSource : settlement.sourceId = paymentId
    · subst isSource
      refine .returned settlement.source grounded.source ?_ ?_
      · exact (settlement.source.advance_marks (sound.source_advance grounded.source grounded.written)).1
      · rw [rows, List.getElem?_set_self (List.getElem?_eq_some_iff.mp found).1]
    · exact .same (by rw [rows, List.getElem?_set_ne isSource, others])
  · exact .same (by rw [rows, others])

theorem settlement_stored {settlement : RefundSettlement} (sound : PaymentsSound db) (grounded : settlement.Grounded db)
    (stored : settlement.payments.rows[settlement.refundId]? = some settlement.refund)
    (rows : next.payments.rows = settlement.settledRows) :
    next.payments.rows[settlement.refundId]? = some settlement.refund := by
  have found := sound.source_untouched grounded.source grounded.written
  have differs : settlement.sourceId ≠ settlement.refundId := by
    intro same
    rw [same, stored, Option.some.injEq] at found
    have advance := sound.source_advance grounded.source grounded.written
    rw [← found, sound.refund_kind grounded.written] at advance
    cases advance
  unfold RefundSettlement.settledRows at rows
  split at rows
  · rw [rows, List.getElem?_set_ne differs, stored]
  · rw [rows, stored]

theorem settlement_counted {settlement : RefundSettlement} {initiated completed : Bool} (sound : PaymentsSound db)
    (grounded : settlement.Grounded db) (announced : settlement.Announced db initiated completed)
    (settled : settleRefund settlement initiated completed db = .ok next) (paymentId : PaymentId) :
    Counted paymentId db next := by
  have notifications := (settlement_notifications settled).2.2
  have rows := (settleRefund_accepted settled).2.1
  have kind := sound.refund_kind grounded.written
  obtain ⟨isRefund, unfailed, unsucceeded, paidBack⟩ := settlement.refund.refund_marks kind
  have others : ∀ paymentId ≠ settlement.refundId, ∀ notification ∈ settlement.news initiated completed,
      notification.payload.paymentId ≠ some paymentId := by
    intro paymentId other notification member
    have about : notification.payload.paymentId = some settlement.refundId := by
      rcases RefundSettlement.mem_news member with ⟨_, rfl⟩ | ⟨_, rfl⟩ <;> rfl
    rw [about]
    simpa using other.symm
  cases announced with
  | initiated new booking stored =>
      by_cases isRow : paymentId = settlement.refundId
      · subst isRow
        have absent : db.payments.rows[settlement.refundId]? = none := List.getElem?_eq_none (Nat.le_of_eq new.symm)
        have present := settlement_stored sound grounded (by rw [stored, new]; simp) rows
        constructor <;> rw [told_after _ notifications, settlement.tells_news] <;>
          simp [rises, confirms, Db.paymentIs, absent, present, isRefund, unfailed, paidBack, beq_eq_decide]
      · refine Undisturbed.counted (settlement_others sound grounded isRow ?_ rows) notifications
          (others paymentId isRow)
        rw [stored]
        rcases Nat.lt_trichotomy paymentId db.payments.rows.length with below | isNew | above
        · rw [List.getElem?_append_left below]
        · exact absurd (isNew.trans new.symm) isRow
        · have beyond : (db.payments.rows ++ [settlement.refund]).length ≤ paymentId := by
            rw [List.length_append]
            exact above
          rw [List.getElem?_eq_none (Nat.le_of_lt above), List.getElem?_eq_none beyond]
  | rewritten now earlier status found row stored =>
      by_cases isRow : paymentId = settlement.refundId
      · subst isRow
        have inBounds := (List.getElem?_eq_some_iff.mp found).1
        have present := settlement_stored sound grounded (by rw [stored, List.getElem?_set_self inBounds]) rows
        have earlierKind : earlier.paymentType = .refund := by
          rw [row] at kind
          exact kind
        obtain ⟨wasRefund, wasUnfailed, wasUnsucceeded, wasPaidBack⟩ := earlier.refund_marks earlierKind
        constructor <;> rw [told_after _ notifications, settlement.tells_news] <;>
          simp [rises, confirms, Db.paymentIs, found, present, isRefund, wasRefund, unfailed, unsucceeded, paidBack,
            wasPaidBack, beq_eq_decide]
      · refine Undisturbed.counted (settlement_others sound grounded isRow ?_ rows) notifications
          (others paymentId isRow)
        rw [stored, List.getElem?_set_ne (Ne.symm isRow)]

end

theorem Announces.counted {db next : Db} (sound : PaymentsSound db) (announces : Announces db next)
    (paymentId : PaymentId) : Counted paymentId db next := by
  cases announces with
  | silent silent => exact silent.counted paymentId
  | job notification entry announced => exact announced.counted paymentId
  | confirmed now changedBy locked payments effective => exact confirmation_counted sound effective paymentId
  | failed locked payments effective => exact failure_counted sound effective paymentId
  | settled settlement initiated completed grounded announced settled =>
      exact settlement_counted sound grounded announced settled paymentId

/-- What has been announced of the payments at the end of a run. -/
structure PaymentNews (settings : Settings) (start : System) (ops : List Op) (db : Db) : Prop where
  refundInitiated : ∀ refundId,
    db.told .refundInitiated refundId = (db.paymentIs Payment.isRefund refundId).toNat
  refundCompleted : ∀ refundId, db.told .refundCompleted refundId =
    occurrences (System.step settings) (rises fun state => state.db.paymentIs Payment.isPaidBack refundId) start ops
  paymentFailed : ∀ paymentId, db.told .paymentFailed paymentId =
    occurrences (System.step settings) (rises fun state => state.db.paymentIs Payment.hasFailed paymentId) start ops
  paymentSuccessful : ∀ paymentId, db.told .paymentSuccessful paymentId =
    occurrences (System.step settings) (fun before after => confirms paymentId before.db after.db) start ops
  bookingConfirmed : ∀ paymentId, db.told .bookingConfirmed paymentId =
    occurrences (System.step settings) (fun before after => confirms paymentId before.db after.db) start ops

theorem PaymentsSound.step (settings : Settings) (state : System) (op : Op) (sound : PaymentsSound state.db) :
    PaymentsSound (System.step settings state op).db :=
  run_invariant (fun _ _ sound change => sound.routine change)
    (fun _ _ _ sound _ written => sound.effective written) (guarded_true settings state [op]) sound

theorem paymentIs_refund_stays (settings : Settings) (refundId : PaymentId) (state : System) (op : Op)
    (sound : PaymentsSound state.db) (isRefund : state.db.paymentIs Payment.isRefund refundId = true) :
    (System.step settings state op).db.paymentIs Payment.isRefund refundId = true := by
  simp only [Db.paymentIs, Option.any_eq_true] at isRefund ⊢
  obtain ⟨payment, found, kind⟩ := isRefund
  obtain ⟨after, present, origin⟩ := (step_leaves settings state op).paymentsKept sound refundId payment found
  refine ⟨after, present, ?_⟩
  unfold Payment.isRefund at kind ⊢
  rw [origin.kind]
  exact kind

/-- In every run, each refund is announced once when it is made and once whenever it succeeds, and each payment
once whenever it fails and once whenever it confirms its booking. -/
theorem paymentNews_run (settings : Settings) {start : System} (initial : start.Initial) (ops : List Op) :
    PaymentNews settings start ops (runAll (System.step settings) start ops).db := by
  have untold : ∀ event paymentId, start.db.told event paymentId = 0 := by
    intro event paymentId
    simp [Db.told, initial.notifications, countWhere]
  have preserved : ∀ state op, PaymentsSound state.db → PaymentsSound (System.step settings state op).db :=
    fun state op => PaymentsSound.step settings state op
  have counted : ∀ paymentId state op, PaymentsSound state.db →
      Counted paymentId state.db (System.step settings state op).db :=
    fun paymentId state op sound => (step_announces settings state op).counted sound paymentId
  -- every event is counted the same way; only what brings it about differs
  have told_run : ∀ event paymentId happens, (∀ state op, PaymentsSound state.db →
        (System.step settings state op).db.told event paymentId =
          state.db.told event paymentId + (happens state (System.step settings state op)).toNat) →
      (runAll (System.step settings) start ops).db.told event paymentId =
        occurrences (System.step settings) happens start ops := by
    intro event paymentId happens counts
    have total := counted_run (fun state : System => state.db.told event paymentId) happens preserved counts
      initial.paymentsSound ops
    simpa [untold] using total
  constructor
  · intro refundId
    rw [told_run .refundInitiated refundId (rises fun state => state.db.paymentIs Payment.isRefund refundId)
      fun state op sound => (counted refundId state op sound).refundInitiated]
    refine occurrences_rises preserved (paymentIs_refund_stays settings refundId) initial.paymentsSound ?_
    simp [Db.paymentIs, initial.payments]
  · exact fun refundId => told_run .refundCompleted refundId _
      fun state op sound => (counted refundId state op sound).refundCompleted
  · exact fun paymentId => told_run .paymentFailed paymentId _
      fun state op sound => (counted paymentId state op sound).paymentFailed
  · exact fun paymentId => told_run .paymentSuccessful paymentId _
      fun state op sound => (counted paymentId state op sound).paymentSuccessful
  · exact fun paymentId => told_run .bookingConfirmed paymentId _
      fun state op sound => (counted paymentId state op sound).bookingConfirmed

/-- A refund that succeeds, fails and succeeds again, as the gateway has it. -/
def refundReversed : List Op := paidHistory ++ [
  .createRefund sampleNow 0 5000 "refund-key-1" (.ok { id := "rfnd_1", status := .text "processed" }),
  .reconcileRefund sampleNow 1 (.ok (.text "failed")),
  .reconcileRefund sampleNow 1 (.ok (.text "processed"))]

theorem paymentNews_run_refundReversed :
    PaymentNews sampleSettings sampleSystem refundReversed
      (runAll (System.step sampleSettings) sampleSystem refundReversed).db :=
  paymentNews_run sampleSettings sampleSystem_initial refundReversed

example : (runAll (System.step sampleSettings) sampleSystem refundReversed).db.told .refundCompleted 1 = 2 := by
  decide +kernel

end PsCore
