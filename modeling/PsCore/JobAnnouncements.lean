import PsCore.Announcements

/-!
What the customers hear of their bookings: every step of a job that the status history shows, every technician
and every move, and nothing that was not so.
-/

namespace PsCore

open Fallible RowTable TransitionRun Occurrences

/-! Every notification is true. -/

section

variable {settings : Settings} {state : System} {op : Op} {next : Db} {notification : EmittedNotification}

theorem Leaves.bookedBy (leaves : Leaves settings state op next) {customer : UserId} {bookingId : BookingId}
    (booked : BookedBy state.db customer bookingId) : BookedBy next customer bookingId := by
  obtain ⟨booking, found, own⟩ := booked
  obtain ⟨after, present, same⟩ := leaves.partiesKept bookingId booking found
  exact ⟨after, present, same.1.trans own⟩

theorem EmittedNotification.Truthful.kept (sound : PaymentsSound state.db) (leaves : Leaves settings state op next)
    (truthful : notification.Truthful state.db) : notification.Truthful next := by
  have kept := leaves.paymentsKept sound
  constructor
  · exact leaves.bookedBy truthful.booked
  · intro paymentId isPayload
    obtain ⟨payment, found, booking⟩ := truthful.payment paymentId isPayload
    obtain ⟨after, present, origin⟩ := kept paymentId payment found
    exact ⟨after, present, origin.booking.trans booking⟩
  · intro paymentId amount isPayload
    obtain ⟨payment, found, booking, isAmount⟩ := truthful.paidAmount paymentId amount isPayload
    obtain ⟨after, present, origin⟩ := kept paymentId payment found
    exact ⟨after, present, origin.booking.trans booking, origin.amount.trans isAmount⟩
  · intro refundId amount isPayload
    obtain ⟨refund, found, kind, isAmount, booking⟩ := truthful.refund refundId amount isPayload
    obtain ⟨after, present, origin⟩ := kept refundId refund found
    exact ⟨after, present, origin.kind.trans kind, origin.amount.trans isAmount,
      fun initiated => origin.booking.trans (booking initiated)⟩

theorem JobAnnounced.truthful {entry : BookingStatusHistory} (leaves : Leaves settings state op next)
    (announced : JobAnnounced state.db next notification entry) : notification.Truthful next := by
  refine ⟨leaves.bookedBy announced.booked, ?_, ?_, ?_⟩
  · intro paymentId isPayload
    have unpaid := announced.unpaid
    rw [isPayload] at unpaid
    cases unpaid
  · intro paymentId amount isPayload
    have unpaid := announced.unpaid
    rw [isPayload] at unpaid
    cases unpaid
  · intro refundId amount isPayload
    have unpaid := announced.unpaid
    rw [isPayload] at unpaid
    cases unpaid

theorem confirmation_truthful {now : Instant} {changedBy : Option UserId} {locked : LockedPayment}
    {payments : PaymentTable} {db : Db} (effective : Effective (.confirmation now changedBy locked payments) db next)
    (member : notification ∈ next.notifications) : notification ∈ db.notifications ∨ notification.Truthful db := by
  cases effective with
  | confirmed orderId reference found foundBooking ordered amount open_ rows written =>
      rw [written, confirmation_notifications] at member
      refine (List.mem_append.mp member).imp id fun isNew => ?_
      split at isNew
      · cases isNew
      · simp only [List.mem_cons, List.not_mem_nil, or_false] at isNew
        rcases isNew with rfl | rfl
        · refine ⟨⟨_, foundBooking, rfl⟩, by simp, fun paymentId amount isPayload => ?_, by simp⟩
          cases isPayload
          exact ⟨_, found, rfl, rfl⟩
        · refine ⟨⟨_, foundBooking, rfl⟩, fun paymentId isPayload => ?_, by simp, by simp⟩
          cases isPayload
          exact ⟨_, found, rfl⟩

theorem failure_truthful {locked : LockedPayment} {payments : PaymentTable} {db : Db}
    (effective : Effective (.failure locked payments) db next) (member : notification ∈ next.notifications) :
    notification ∈ db.notifications ∨ notification.Truthful db := by
  cases effective with
  | failed orderId reference found foundBooking ordered open_ rows written =>
      rw [written, failure_notifications] at member
      refine (List.mem_append.mp member).imp id fun isNew => ?_
      split at isNew
      · cases isNew
      · rw [List.mem_singleton.mp isNew]
        refine ⟨⟨_, foundBooking, rfl⟩, fun paymentId isPayload => ?_, by simp, by simp⟩
        cases isPayload
        exact ⟨_, found, rfl⟩

theorem settlement_truthful {settlement : RefundSettlement} {initiated completed : Bool}
    (sound : PaymentsSound state.db) (leaves : Leaves settings state op next) (grounded : settlement.Grounded state.db)
    (announced : settlement.Announced state.db initiated completed)
    (settled : settleRefund settlement initiated completed state.db = .ok next)
    (member : notification ∈ next.notifications) :
    notification ∈ state.db.notifications ∨ notification.Truthful next := by
  have rows := (settleRefund_accepted settled).2.1
  have stored : settlement.payments.rows[settlement.refundId]? = some settlement.refund := by
    cases announced with
    | initiated new booking stored => rw [stored, new]; simp
    | rewritten now earlier status found row stored =>
        rw [stored, List.getElem?_set_self (List.getElem?_eq_some_iff.mp found).1]
  have present := settlement_stored sound grounded stored rows
  have booked := leaves.bookedBy ⟨settlement.booking, grounded.booking, rfl⟩
  have kind := sound.refund_kind grounded.written
  rw [(settlement_notifications settled).2.2] at member
  refine (List.mem_append.mp member).imp id fun isNew => ?_
  rcases RefundSettlement.mem_news isNew with ⟨isInitiated, rfl⟩ | ⟨_, rfl⟩
  · refine ⟨booked, nofun, nofun, fun refundId amount isPayload => ?_⟩
    cases isPayload
    refine ⟨_, present, kind, rfl, fun _ => ?_⟩
    cases announced with
    | initiated new booking stored => exact booking
    | rewritten now earlier status found row stored => cases isInitiated
  · refine ⟨booked, nofun, nofun, fun refundId amount isPayload => ?_⟩
    cases isPayload
    exact ⟨_, present, kind, rfl, nofun⟩

theorem Announces.truthful (sound : PaymentsSound state.db) (leaves : Leaves settings state op next)
    (announces : Announces state.db next) (member : notification ∈ next.notifications) :
    notification ∈ state.db.notifications ∨ notification.Truthful next := by
  cases announces with
  | silent silent =>
      rw [silent.notifications] at member
      exact .inl member
  | job told entry announced =>
      rw [announced.notifications, List.mem_append, List.mem_singleton] at member
      refine member.imp id ?_
      rintro rfl
      exact announced.truthful leaves
  | confirmed now changedBy locked payments effective =>
      exact (confirmation_truthful effective member).imp id fun truthful => truthful.kept sound leaves
  | failed locked payments effective =>
      exact (failure_truthful effective member).imp id fun truthful => truthful.kept sound leaves
  | settled settlement initiated completed grounded announced settled =>
      exact settlement_truthful sound leaves grounded announced settled member

end

/-- What has been told of the jobs is what the status history has recorded of them. -/
def JobsFollowed (db : Db) : Prop :=
  db.notifications.filterMap EmittedNotification.jobNews = db.statusHistory.filterMap BookingStatusHistory.jobNews

section

variable {db next : Db}

theorem JobsFollowed.more {news : List EmittedNotification} {entries : List BookingStatusHistory}
    (followed : JobsFollowed db) (notifications : next.notifications = db.notifications ++ news)
    (statusHistory : next.statusHistory = db.statusHistory ++ entries)
    (follows : news.filterMap EmittedNotification.jobNews = entries.filterMap BookingStatusHistory.jobNews) :
    JobsFollowed next := by
  unfold JobsFollowed at followed ⊢
  rw [notifications, statusHistory, List.filterMap_append, List.filterMap_append, followed, follows]

theorem JobsFollowed.step (followed : JobsFollowed db) (announces : Announces db next) : JobsFollowed next := by
  cases announces with
  | silent silent =>
      obtain ⟨notifications, ⟨entries, statusHistory, quiet⟩, _⟩ := silent
      refine followed.more (by rw [notifications, List.append_nil]) statusHistory ?_
      exact (List.filterMap_eq_nil_iff.mpr quiet).symm
  | job notification entry announced =>
      refine followed.more announced.notifications announced.statusHistory ?_
      simp [List.filterMap_cons, announced.follows]
  | confirmed now changedBy locked payments effective =>
      cases effective with
      | confirmed orderId reference found foundBooking ordered amount open_ rows written =>
          have notifications := confirmation_notifications now locked changedBy { db with payments := payments }
          have statusHistory := confirmBookingAfterPayment_notes now locked changedBy { db with payments := payments }
          rw [← written] at notifications statusHistory
          split at statusHistory
          · rename_i confirmed
            rw [if_pos confirmed] at notifications
            exact followed.more notifications (by rw [statusHistory, List.append_nil]) rfl
          · rename_i confirmed
            obtain ⟨changedBy, notes, statusHistory⟩ := statusHistory
            rw [if_neg confirmed] at notifications
            refine followed.more notifications statusHistory ?_
            simp [EmittedNotification.jobNews, BookingStatusHistory.jobNews]
  | failed locked payments effective =>
      cases effective with
      | failed orderId reference found foundBooking ordered open_ rows written =>
          have notifications := failure_notifications locked { db with payments := payments }
          have statusHistory := markPaymentFailed_statusHistory locked { db with payments := payments }
          rw [← written] at notifications statusHistory
          refine followed.more notifications (by rw [statusHistory, List.append_nil]) ?_
          split <;> rfl
  | settled settlement initiated completed grounded announced settled =>
      obtain ⟨statusHistory, _, notifications⟩ := settlement_notifications settled
      refine followed.more notifications (by rw [statusHistory, List.append_nil]) ?_
      cases initiated <;> cases completed <;> rfl

end

def Db.hasNamed (db : Db) (bookingId : BookingId) (technicianId : TechnicianId) : Prop :=
  ∃ notification ∈ db.notifications, notification.event = .technicianAssigned ∧
    notification.booking = bookingId ∧ notification.payload = .technician technicianId

/-- The customers have been told of the technicians that were assigned, and of no others. -/
def TechniciansNamed (db : Db) : Prop :=
  ∀ bookingId technicianId, db.hasAssigned bookingId technicianId ↔ db.hasNamed bookingId technicianId

theorem TechniciansNamed.more {db next : Db} {news : List EmittedNotification} (named : TechniciansNamed db)
    (notifications : next.notifications = db.notifications ++ news)
    (others : ∀ notification ∈ news, notification.event ≠ .technicianAssigned)
    (assignments : ∀ bookingId technicianId,
      next.hasAssigned bookingId technicianId ↔ db.hasAssigned bookingId technicianId) : TechniciansNamed next := by
  intro bookingId technicianId
  rw [assignments, named bookingId technicianId]
  unfold Db.hasNamed
  rw [notifications]
  constructor
  · rintro ⟨notification, member, is⟩
    exact ⟨notification, List.mem_append_left _ member, is⟩
  · rintro ⟨notification, member, isEvent, is⟩
    rcases List.mem_append.mp member with old | new
    · exact ⟨notification, old, isEvent, is⟩
    · exact absurd isEvent (others notification new)

theorem hasAssigned_same {db next : Db} (assignments : next.assignments = db.assignments) (bookingId : BookingId)
    (technicianId : TechnicianId) :
    next.hasAssigned bookingId technicianId ↔ db.hasAssigned bookingId technicianId := by
  simp [Db.hasAssigned, assignments]

theorem TechniciansNamed.step {db next : Db} (named : TechniciansNamed db) (announces : Announces db next) :
    TechniciansNamed next := by
  cases announces with
  | silent silent =>
      exact named.more (by rw [silent.notifications, List.append_nil]) (List.forall_mem_nil _) silent.assignments
  | job notification entry announced =>
      intro bookingId technicianId
      rw [announced.assignments, named bookingId technicianId]
      unfold Db.hasNamed
      simp [announced.notifications, or_and_right, exists_or]
  | confirmed now changedBy locked payments effective =>
      cases effective with
      | confirmed orderId reference found foundBooking ordered amount open_ rows written =>
          have notifications := confirmation_notifications now locked changedBy { db with payments := payments }
          have staff := confirmBookingAfterPayment_staff now locked changedBy { db with payments := payments }
          rw [← written] at notifications staff
          refine named.more notifications (fun notification member => ?_) (hasAssigned_same staff.assignments)
          split at member
          · cases member
          · simp only [List.mem_cons, List.not_mem_nil, or_false] at member
            rcases member with rfl | rfl <;> simp
  | failed locked payments effective =>
      cases effective with
      | failed orderId reference found foundBooking ordered open_ rows written =>
          have notifications := failure_notifications locked { db with payments := payments }
          have staff := markPaymentFailed_staff locked { db with payments := payments }
          rw [← written] at notifications staff
          refine named.more notifications (fun notification member => ?_) (hasAssigned_same staff.assignments)
          split at member
          · cases member
          · rw [List.mem_singleton.mp member]
            simp
  | settled settlement initiated completed grounded announced settled =>
      obtain ⟨_, assignments, notifications⟩ := settlement_notifications settled
      refine named.more notifications (fun notification member => ?_) (hasAssigned_same assignments)
      rcases RefundSettlement.mem_news member with ⟨_, rfl⟩ | ⟨_, rfl⟩ <;> simp [RefundSettlement.notice]

/-- A booking that the step moves to another slot or date is announced with those that it leaves. -/
def MovesTold (db next : Db) : Prop :=
  ∀ bookingId booking moved, db.bookings[bookingId]? = some booking → next.bookings[bookingId]? = some moved →
    ¬ (moved.timeSlot = booking.timeSlot ∧ moved.serviceDate = booking.serviceDate) →
    next.notifications = db.notifications ++ [⟨.bookingRescheduled, booking.customer, bookingId,
      .previousSlot booking.serviceDate booking.timeSlot⟩]

theorem rescheduleBooking_movesTold {settings : Settings} {now : Instant} {target : BookingId} {slotId : SlotId}
    {customer : UserId} {notes : String} {db next : Db}
    (accepted : rescheduleBooking settings now target slotId customer notes db = .ok ((), next)) :
    MovesTold db next := by
  simp only [rescheduleBooking, lockBooking, accepted_bind, accepted_pure, accepted_orRaise, accepted_require,
    Prod.mk.injEq] at accepted
  obtain ⟨own, foundOwn, _, _, _, _, _, _, _, _, slot, _, _, rfl⟩ := accepted
  intro bookingId booking moved found foundMoved moves
  by_cases isTarget : target = bookingId
  · subst isTarget
    rw [found, Option.some.injEq] at foundOwn
    subst foundOwn
    rfl
  · have untouched : db.bookings[bookingId]? = some moved := by
      have present : (db.bookings.set target _)[bookingId]? = some moved := foundMoved
      rwa [List.getElem?_set_ne isTarget] at present
    rw [found, Option.some.injEq] at untouched
    subst untouched
    exact absurd ⟨rfl, rfl⟩ moves

theorem step_movesTold (settings : Settings) (state : System) (op : Op) :
    MovesTold state.db (System.step settings state op).db := by
  by_cases isReschedule : ∃ now target slotId customer notes, op = .rescheduleBooking now target slotId customer notes
  · obtain ⟨now, target, slotId, customer, notes, rfl⟩ := isReschedule
    cases decided : rescheduleBooking settings now target slotId customer notes state.db with
    | error error =>
        have same : (System.step settings state (.rescheduleBooking now target slotId customer notes)).db =
            state.db := by
          simp [System.step, System.commit, commit, decided]
        rw [same]
        intro bookingId booking moved found foundMoved moves
        rw [found, Option.some.injEq] at foundMoved
        exact absurd ⟨by rw [foundMoved], by rw [foundMoved]⟩ moves
    | ok result =>
        have written : (System.step settings state (.rescheduleBooking now target slotId customer notes)).db =
            result.2 := by
          simp [System.step, System.commit, commit, decided]
        rw [written]
        exact rescheduleBooking_movesTold decided
  · have kept : KeptBy (fun before after : Booking => after.timeSlot = before.timeSlot ∧
        after.serviceDate = before.serviceDate) state.db.bookings (System.step settings state op).db.bookings := by
      have leaves := step_leaves settings state op
      refine leaves.bookings_kept (fun _ => ⟨rfl, rfl⟩) fun bookingId before after written => ?_
      cases written with
      | jobStep step => exact step.place
      | moved now slotId changedBy notes slot isOp from_ foundSlot =>
          exact absurd ⟨now, bookingId, slotId, changedBy, notes, isOp⟩ isReschedule
      | assigned technician slot from_ foundSlot free => exact ⟨rfl, rfl⟩
      | removed now changedBy notes isOp => exact ⟨rfl, rfl⟩
      | effective effect isEffect rewrites => exact ⟨rewrites.place.1, rewrites.place.2.1⟩
    intro bookingId booking moved found foundMoved moves
    obtain ⟨after, present, same⟩ := kept bookingId booking found
    rw [foundMoved, Option.some.injEq] at present
    subst present
    exact absurd same moves

structure JobNews (settings : Settings) (start : System) (ops : List Op) (db : Db) : Prop where
  followed : JobsFollowed db
  truthful : ∀ notification ∈ db.notifications, notification.Truthful db
  named : TechniciansNamed db
  moved : ∀ earlier op later, ops = earlier ++ op :: later →
    MovesTold (runAll (System.step settings) start earlier).db
      (runAll (System.step settings) start (earlier ++ [op])).db

structure NewsSound (db : Db) : Prop where
  payments : PaymentsSound db
  followed : JobsFollowed db
  truthful : ∀ notification ∈ db.notifications, notification.Truthful db
  named : TechniciansNamed db

theorem NewsSound.step (settings : Settings) (state : System) (op : Op) (sound : NewsSound state.db) :
    NewsSound (System.step settings state op).db := by
  have announces := step_announces settings state op
  have leaves := step_leaves settings state op
  refine ⟨sound.payments.step settings state op, sound.followed.step announces, fun notification member => ?_,
    sound.named.step announces⟩
  rcases announces.truthful sound.payments leaves member with old | truthful
  · exact (sound.truthful notification old).kept sound.payments leaves
  · exact truthful

/-- In every run the customers have heard of each job exactly what its history records, of every technician that
was assigned and of every move, and no notification went to anyone but the booking's customer. -/
theorem jobNews_run (settings : Settings) {start : System} (initial : start.Initial) (ops : List Op) :
    JobNews settings start ops (runAll (System.step settings) start ops).db := by
  have begun : NewsSound start.db := by
    refine ⟨initial.paymentsSound, ?_, ?_, ?_⟩
    · simp [JobsFollowed, initial.notifications, initial.statusHistory]
    · rw [initial.notifications]
      exact List.forall_mem_nil _
    · simp [TechniciansNamed, Db.hasAssigned, Db.hasNamed, initial.notifications, initial.assignments]
  have sound : NewsSound (runAll (System.step settings) start ops).db :=
    Guarded.invariant (fun state op holds _ => NewsSound.step settings state op holds)
      (guarded_true settings start ops) begun
  refine ⟨sound.followed, sound.truthful, sound.named, fun earlier op later _ => ?_⟩
  rw [runAll_append]
  exact step_movesTold settings _ op

def servedToTheEnd : List Op := paidHistory ++ [
  .assignTechnician sampleNow 0 0 none "" "",
  .markTechnicianEnRoute 0 none "",
  .startBooking 0 none "",
  .recordBalanceCollection sampleNow 0 80000 "cash" none "",
  .completeBooking sampleNow 0 none ""]

theorem jobNews_run_servedToTheEnd :
    JobNews sampleSettings sampleSystem servedToTheEnd
      (runAll (System.step sampleSettings) sampleSystem servedToTheEnd).db :=
  jobNews_run sampleSettings sampleSystem_initial servedToTheEnd

example : (runAll (System.step sampleSettings) sampleSystem servedToTheEnd).db.notifications.map (·.event) =
    [.paymentSuccessful, .bookingConfirmed, .technicianAssigned, .technicianEnRoute, .serviceCompleted] := by
  decide +kernel

end PsCore
