import PsCore.Effects

/-!
The direction of the booking lifecycle. Operational transitions check where a booking comes
from; a confirmed payment, a work order and a failed refund only write where it goes.
-/

namespace PsCore

open Fallible TransitionRun

def BookingStatus.awaitsPayment : BookingStatus → Bool
  | .pendingPayment | .paymentFailed => true
  | _ => false

def BookingStatus.isActive : BookingStatus → Bool
  | .confirmed | .technicianAssigned | .technicianEnRoute | .inProgress => true
  | _ => false

def BookingStatus.isOver : BookingStatus → Bool
  | .cancelled | .completed | .closed => true
  | _ => false

def Op.confirms : Op → Bool
  | .verifyRazorpayPayment .. => true
  | .dispatchWebhook _ eventName _ => eventName == "payment.captured"
  | .convertLeadToWorkOrder .. => true
  | _ => false

/-- In the step, a booking that does not await its payment keeps its status. -/
def KeepsPaidStatus (settings : Settings) (state : System) (op : Op) : Prop :=
  ∀ (bookingId : BookingId) (before after : Booking), state.db.bookings[bookingId]? = some before →
    (System.step settings state op).db.bookings[bookingId]? = some after →
    before.bookingStatus.awaitsPayment = false → after.bookingStatus = before.bookingStatus

/-- The lifecycle of every booking of a run: confirmations only come in time, and what is over stays over. -/
structure NeverBackwards (settings : Settings) (start : System) (ops : List Op) : Prop where
  confirmations : ∀ earlier op later, ops = earlier ++ op :: later → op.confirms = true →
    KeepsPaidStatus settings (runAll (System.step settings) start earlier) op
  endings : ∀ earlier later, ops = earlier ++ later → ∀ (bookingId : BookingId) (before after : Booking),
    (runAll (System.step settings) start earlier).db.bookings[bookingId]? = some before →
    (runAll (System.step settings) start ops).db.bookings[bookingId]? = some after →
    before.bookingStatus.isOver = true → after.bookingStatus.isActive = false

/-- Only a booking that awaits its payment or is confirmed gets confirmed, and no completed one is restored. -/
def lifecycleCondition (_ : Db) : Effect → Bool
  | .confirmation _ _ locked _ =>
      locked.booking.bookingStatus.awaitsPayment || locked.booking.bookingStatus == .confirmed
  | .workOrder _ row => row.bookingStatus.awaitsPayment || row.bookingStatus == .confirmed
  | .refund settlement => !settlement.restoresConfirmed || settlement.booking.completedAt.isNone
  | _ => true

structure Stamped (booking : Booking) : Prop where
  cancelled : booking.bookingStatus = .cancelled → booking.cancelledAt.isSome = true
  completed : booking.bookingStatus = .completed ∨ booking.bookingStatus = .closed →
    booking.completedAt.isSome = true

theorem Stamped.of_not_over {booking : Booking} (notOver : booking.bookingStatus.isOver = false) :
    Stamped booking := by
  refine ⟨fun cancelled => ?_, fun completed => ?_⟩
  · rw [cancelled] at notOver
    cases notOver
  · rcases completed with completed | closed
    · rw [completed] at notOver
      cases notOver
    · rw [closed] at notOver
      cases notOver

theorem Stamped.transition {booking changed : Booking} (transition : Transition booking changed)
    (stamped : Stamped booking) : Stamped changed := by
  cases transition with
  | start from_ => exact .of_not_over rfl
  | enRoute from_ => exact .of_not_over rfl
  | complete now from_ => exact ⟨nofun, fun _ => rfl⟩
  | close from_ =>
      refine ⟨nofun, fun _ => stamped.completed (.inl ?_)⟩
      simpa [closableStatuses] using from_
  | cancel now actor from_ => exact ⟨fun _ => rfl, nofun⟩
  | assign technician from_ => exact .of_not_over rfl
  | unassign =>
      refine ⟨fun cancelled => stamped.cancelled ?_, fun completed => stamped.completed ?_⟩
      · revert cancelled
        cases booking.bookingStatus <;> simp [BookingStatus.withoutTechnician]
      · revert completed
        cases booking.bookingStatus <;> simp [BookingStatus.withoutTechnician]

theorem Stamped.afterRefund {payments : List Payment} {sourceId : PaymentId} {source : Payment}
    {booking : Booking} (stamped : Stamped booking) :
    Stamped (booking.afterRefund payments sourceId source) := by
  unfold Booking.afterRefund
  split
  · exact .of_not_over rfl
  · split
    · exact .of_not_over rfl
    · split
      · cases cancelledAt : booking.cancelledAt with
        | none => exact .of_not_over (by simp [BookingStatus.isOver])
        | some now => exact ⟨fun _ => rfl, by simp⟩
      · exact stamped

theorem stamped_kept : RoutinelyKept Stamped where
  moved := fun _ _ _ _ stamped => ⟨stamped.cancelled, stamped.completed⟩
  transition := fun _ _ => Stamped.transition

theorem stamped_made : RoutinelyMade Stamped where
  fresh := fun _ fresh => .of_not_over (by rw [fresh.bookingStatus]; rfl)
  workOrder := fun _ _ _ _ => .of_not_over rfl

theorem stamped_rewritten {effect : Effect} {bookingId : BookingId} {before after : Booking}
    (rewrites : effect.Rewrites bookingId before after) (stamped : Stamped before) : Stamped after := by
  cases rewrites with
  | confirmation now changedBy locked payments =>
      exact .of_not_over rfl
  | failure locked payments =>
      unfold Booking.markedFailed
      split
      · exact .of_not_over rfl
      · exact stamped
  | refund settlement =>
      exact stamped.afterRefund
  | workOrder =>
      exact .of_not_over rfl
  | manualPayment amount entry =>
      exact ⟨stamped.cancelled, stamped.completed⟩
  | balance _ _ amount payments =>
      exact ⟨stamped.cancelled, stamped.completed⟩

/-! What has ended stays ended, with a refund under way or made. -/

def BookingStatus.isEnded : BookingStatus → Bool
  | .cancelled | .completed | .closed | .refundPending | .refunded => true
  | _ => false

structure Ended (booking : Booking) : Prop where
  stamped : Stamped booking
  status : booking.bookingStatus.isEnded = true
  time : booking.cancelledAt.isSome = true ∨ booking.completedAt.isSome = true

theorem Stamped.ended {booking : Booking} (stamped : Stamped booking)
    (isOver : booking.bookingStatus.isOver = true) : Ended booking := by
  cases status : booking.bookingStatus with
  | cancelled => exact ⟨stamped, by rw [status]; rfl, .inl (stamped.cancelled status)⟩
  | completed => exact ⟨stamped, by rw [status]; rfl, .inr (stamped.completed (.inl status))⟩
  | closed => exact ⟨stamped, by rw [status]; rfl, .inr (stamped.completed (.inr status))⟩
  | _ => rw [status] at isOver; cases isOver

theorem Ended.inactive {booking : Booking} (ended : Ended booking) :
    booking.bookingStatus.isActive = false := by
  have status := ended.status
  revert status
  cases booking.bookingStatus <;> decide

theorem withoutTechnician_of_ended {status : BookingStatus} (ended : status.isEnded = true) :
    status.withoutTechnician = status := by
  cases status with
  | technicianAssigned => cases ended
  | _ => rfl

theorem Ended.transition {booking changed : Booking} (transition : Transition booking changed)
    (ended : Ended booking) : Ended changed := by
  have stamped := ended.stamped.transition transition
  have status := ended.status
  cases transition with
  | start from_ =>
      revert status from_
      cases booking.bookingStatus <;> intro _ _ <;> contradiction
  | enRoute from_ =>
      rw [from_] at status
      cases status
  | complete now from_ => exact ⟨stamped, rfl, .inr rfl⟩
  | close from_ => exact ⟨stamped, rfl, ended.time⟩
  | cancel now actor from_ => exact ⟨stamped, rfl, .inl rfl⟩
  | assign technician from_ =>
      revert status from_
      cases booking.bookingStatus <;> intro _ _ <;> contradiction
  | unassign => exact ⟨stamped, by rw [withoutTechnician_of_ended status]; exact status, ended.time⟩

theorem ended_kept : RoutinelyKept Ended where
  moved := fun booking _ _ from_ ended => by
    have status := ended.status
    revert status from_
    cases booking.bookingStatus <;> intro _ _ <;> contradiction
  transition := fun _ _ => Ended.transition

theorem Ended.afterRefund {settlement : RefundSettlement} (ended : Ended settlement.booking)
    (restored : settlement.restoresConfirmed = true → settlement.booking.completedAt.isNone = true) :
    Ended (settlement.booking.afterRefund settlement.payments.rows settlement.sourceId settlement.source) := by
  have stamped : Stamped (settlement.booking.afterRefund settlement.payments.rows settlement.sourceId
    settlement.source) := ended.stamped.afterRefund
  unfold Booking.afterRefund at stamped ⊢
  unfold RefundSettlement.restoresConfirmed at restored
  split at stamped
  · rename_i whole
    rw [if_pos whole]
    exact ⟨stamped, rfl, ended.time⟩
  · rename_i notWhole
    rw [if_neg notWhole]
    split at stamped
    · rename_i pending
      rw [if_pos pending]
      exact ⟨stamped, rfl, ended.time⟩
    · rename_i nonePending
      rw [if_neg nonePending]
      split at stamped
      · rename_i status
        rw [if_pos status]
        cases cancelledAt : settlement.booking.cancelledAt with
        | some now => exact ⟨by simpa [cancelledAt] using stamped, by simp [BookingStatus.isEnded], .inl rfl⟩
        | none =>
            -- only a completed booking is left, and the condition keeps it from being restored
            have incomplete := restored (by simp_all)
            rcases ended.time with cancelled | completed
            · simp [cancelledAt] at cancelled
            · simp [Option.isNone_iff_eq_none.mp incomplete] at completed
      · rename_i status
        rw [if_neg status]
        exact ended

theorem ended_rewritten {db : Db} {effect : Effect} {bookingId : BookingId} {before after : Booking}
    (condition : lifecycleCondition db effect = true)
    (rewrites : effect.Rewrites bookingId before after) (ended : Ended before) : Ended after := by
  have status := ended.status
  cases rewrites with
  | confirmation now changedBy locked payments =>
      simp only [lifecycleCondition] at condition
      revert status condition
      cases locked.booking.bookingStatus <;> intro _ _ <;> contradiction
  | failure locked payments =>
      unfold Booking.markedFailed
      split
      · rename_i awaiting
        rcases awaiting with pending | failed
        · rw [pending] at status
          cases status
        · rw [failed] at status
          cases status
      · exact ended
  | refund settlement =>
      refine ended.afterRefund fun restored => ?_
      simpa [lifecycleCondition, restored] using condition
  | workOrder =>
      simp only [lifecycleCondition] at condition
      revert status condition
      cases before.bookingStatus <;> intro _ _ <;> contradiction
  | manualPayment amount entry =>
      exact ⟨⟨ended.stamped.cancelled, ended.stamped.completed⟩, ended.status, ended.time⟩
  | balance _ _ amount payments =>
      exact ⟨⟨ended.stamped.cancelled, ended.stamped.completed⟩, ended.status, ended.time⟩

theorem verificationEffect_kinds {settings : Settings} {now : Instant} {orderId paymentId signature : String}
    {user : Option UserId} {db : Db} {effect : Effect}
    (present : verificationEffect settings now orderId paymentId signature user db = some effect) :
    (∃ locked payments, effect = .confirmation now user locked payments) ∨
      ∃ locked payments, effect = .failure locked payments := by
  simp only [verificationEffect, Option.bind_eq_some_iff] at present
  obtain ⟨change, _, changes⟩ := present
  cases change with
  | unchanged paymentId => simp [PaymentChange.effect] at changes
  | confirm locked payments =>
      simp only [PaymentChange.effect, Option.some.injEq] at changes
      exact .inl ⟨locked, payments, changes.symm⟩
  | fail locked payments =>
      simp only [PaymentChange.effect, Option.some.injEq] at changes
      exact .inr ⟨locked, payments, changes.symm⟩

theorem Op.confirms_effect {settings : Settings} {state : System} {op : Op} {effect : Effect}
    (confirms : op.confirms = true) (present : op.effect settings state = some effect) :
    (∃ now changedBy locked payments, effect = .confirmation now changedBy locked payments) ∨
      (∃ locked payments, effect = .failure locked payments) ∨ ∃ bookingId row, effect = .workOrder bookingId row := by
  cases op with
  | verifyRazorpayPayment now orderId paymentId signature user =>
      rcases verificationEffect_kinds present with ⟨locked, payments, isEffect⟩ | failed
      · exact .inl ⟨now, user, locked, payments, isEffect⟩
      · exact .inr (.inl failed)
  | dispatchWebhook now eventName payload =>
      simp only [Op.confirms, beq_iff_eq] at confirms
      simp only [Op.effect, webhookEffect, if_pos confirms, Option.bind_eq_some_iff] at present
      obtain ⟨captured, _, verified⟩ := present
      rcases verificationEffect_kinds verified with ⟨locked, payments, isEffect⟩ | failed
      · exact .inl ⟨now, none, locked, payments, isEffect⟩
      · exact .inr (.inl failed)
  | convertLeadToWorkOrder now lead performedBy booking notes =>
      cases booking with
      | none => simp [Op.effect] at present
      | some position =>
          simp only [Op.effect] at present
          split at present
          · simp only [workOrderEffect] at present
            split at present
            · simp at present
            · split at present
              · simp only [Option.some.injEq] at present
                exact .inr (.inr ⟨_, _, present.symm⟩)
              · simp at present
          · simp at present
  | _ => cases confirms

theorem Op.confirms_step (settings : Settings) (state : System) {op : Op} (confirms : op.confirms = true) :
    (∃ effect, op.effect settings state = some effect ∧
        Effective effect state.db (System.step settings state op).db) ∨
      ∃ added, (System.step settings state op).db.bookings = state.db.bookings ++ added := by
  have answered : Answered (op.effect settings state) state.db (System.step settings state op).db →
      (∃ effect, op.effect settings state = some effect ∧
        Effective effect state.db (System.step settings state op).db) ∨
      ∃ added, (System.step settings state op).db.bookings = state.db.bookings ++ added := by
    rintro (effective | unchanged)
    · exact .inl effective
    · exact .inr ⟨[], by rw [unchanged]; simp⟩
  cases op with
  | verifyRazorpayPayment now orderId paymentId signature user =>
      exact answered (verifyRazorpayPayment_answered settings now orderId paymentId signature user state.db)
  | dispatchWebhook now eventName payload =>
      exact answered (dispatchWebhook_answered settings now eventName payload state.db)
  | convertLeadToWorkOrder now lead performedBy booking notes =>
      simp only [System.step, System.commit]
      cases converted : state.convert now lead performedBy booking notes with
      | error error => exact .inr ⟨[], by simp [PsCore.commit]⟩
      | ok result =>
          simp only [System.convert, accepted_bind, accepted_orRaise] at converted
          obtain ⟨loaded, foundLead, accepted⟩ := converted
          cases booking with
          | none => exact .inr (convertFromLead_routine accepted).2
          | some position =>
              simp only [accepted_bind, accepted_orRaise] at accepted
              obtain ⟨object, foundBooking, accepted⟩ := accepted
              rcases convertBooking_effect accepted with unchanged | ⟨effect, present, effective⟩
              · exact .inr ⟨[], by simp [PsCore.commit, unchanged]⟩
              · refine .inl ⟨effect, ?_, effective⟩
                simp only [Op.effect, foundLead, foundBooking]
                exact present
  | _ => cases confirms

theorem paidStatus_rewritten {db : Db} {effect : Effect} {bookingId : BookingId} {before after : Booking}
    (kind : (∃ now changedBy locked payments, effect = .confirmation now changedBy locked payments) ∨
      (∃ locked payments, effect = .failure locked payments) ∨ ∃ bookingId row, effect = .workOrder bookingId row)
    (condition : lifecycleCondition db effect = true)
    (rewrites : effect.Rewrites bookingId before after)
    (paid : before.bookingStatus.awaitsPayment = false) : after.bookingStatus = before.bookingStatus := by
  rcases kind with ⟨now, changedBy, locked, payments, rfl⟩ | ⟨locked, payments, rfl⟩ | ⟨workId, row, rfl⟩
  · cases rewrites
    simp only [lifecycleCondition, paid, Bool.false_or, beq_iff_eq] at condition
    exact condition.symm
  · cases rewrites
    unfold Booking.markedFailed
    split
    · rename_i awaiting
      rcases awaiting with pending | failed
      · rw [pending] at paid
        cases paid
      · rw [failed] at paid
        cases paid
    · rfl
  · cases rewrites
    simp only [lifecycleCondition, paid, Bool.false_or, beq_iff_eq] at condition
    exact condition.symm

theorem keepsPaidStatus_step {settings : Settings} {state : System} {op : Op} (confirms : op.confirms = true)
    (meets : Op.meets settings lifecycleCondition state op) : KeepsPaidStatus settings state op := by
  intro bookingId before after present stored paid
  rcases Op.confirms_step settings state confirms with ⟨effect, isEffect, effective⟩ | ⟨added, bookings⟩
  · have condition : lifecycleCondition state.db effect = true := by
      rw [Op.meets, isEffect] at meets
      exact meets
    rcases effective.rewrites with same | ⟨rewrittenId, old, new, rewrites, found, bookings⟩
    · rw [same, present] at stored
      simp only [Option.some.injEq] at stored
      rw [stored]
    · rw [bookings] at stored
      by_cases target : rewrittenId = bookingId
      · subst target
        rw [List.getElem?_set_self (List.getElem?_eq_some_iff.mp found).1] at stored
        rw [found] at present
        simp only [Option.some.injEq] at stored present
        subst stored present
        exact paidStatus_rewritten (Op.confirms_effect confirms isEffect) condition rewrites paid
      · rw [List.getElem?_set_ne target, present] at stored
        simp only [Option.some.injEq] at stored
        rw [stored]
  · rw [bookings, List.getElem?_append_left (List.getElem?_eq_some_iff.mp present).1, present] at stored
    simp only [Option.some.injEq] at stored
    rw [stored]

/-- The lifecycle never goes backwards as long as nothing is confirmed late and no completed booking restored. -/
theorem neverBackwards_run {settings : Settings} {start : System} {ops : List Op} (initial : start.Initial)
    (guarded : Guarded (System.step settings) (Op.meets settings lifecycleCondition) start ops) :
    NeverBackwards settings start ops where
  confirmations := by
    intro earlier op later split confirms
    rw [split, Guarded.append] at guarded
    exact keepsPaidStatus_step confirms guarded.2.1
  endings := by
    intro earlier later split bookingId before after found reached isOver
    subst split
    rw [Guarded.append] at guarded
    have stamped := bookings_invariant stamped_kept stamped_made
      (fun _ _ _ _ _ _ => stamped_rewritten) initial guarded.1 before (List.mem_of_getElem? found)
    obtain ⟨last, lastReached, ended⟩ := booking_invariant ended_kept
      (fun _ _ _ _ _ condition => ended_rewritten condition) guarded.2 ⟨before, found, stamped.ended isOver⟩
    rw [runAll_append, lastReached] at reached
    simp only [Option.some.injEq] at reached
    rw [← reached]
    exact ended.inactive

def paidThenCancelled : List Op := [
  sampleBookingBy 0,
  .createAdvancePaymentOrder 0 0 "payment-key-1" (.ok "order_1"),
  samplePaymentEvent "payment.captured" "order_1" "pay_1" 20000,
  .cancelBooking sampleNow 0 (some 0) "" .customer]

theorem neverBackwards_run_paidThenCancelled : NeverBackwards sampleSettings sampleSystem paidThenCancelled :=
  neverBackwards_run sampleSystem_initial (by decide)

def cancelledThenPaid : List Op := [
  sampleBookingBy 0,
  .createAdvancePaymentOrder 0 0 "payment-key-1" (.ok "order_1"),
  .cancelBooking sampleNow 0 (some 0) "" .customer,
  samplePaymentEvent "payment.captured" "order_1" "pay_1" 20000]

theorem cancelled_booking_confirmed :
    ¬ ∀ (settings : Settings) (start : System) (ops : List Op), start.Initial →
      NeverBackwards settings start ops := by
  intro always
  have backwards := always sampleSettings sampleSystem cancelledThenPaid sampleSystem_initial
  have found : ((runAll (System.step sampleSettings) sampleSystem (cancelledThenPaid.take 3)).db.bookings[0]?).map
      Booking.bookingStatus = some .cancelled := by decide
  have reached : ((runAll (System.step sampleSettings) sampleSystem cancelledThenPaid).db.bookings[0]?).map
      Booking.bookingStatus = some .confirmed := by decide
  obtain ⟨before, foundBooking, isCancelled⟩ := Option.map_eq_some_iff.mp found
  obtain ⟨after, reachedBooking, isConfirmed⟩ := Option.map_eq_some_iff.mp reached
  have inactive := backwards.endings (cancelledThenPaid.take 3) (cancelledThenPaid.drop 3) rfl 0 before after
    foundBooking reachedBooking (by rw [isCancelled]; rfl)
  rw [isConfirmed] at inactive
  cases inactive

end PsCore
