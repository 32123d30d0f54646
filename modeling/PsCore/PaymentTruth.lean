import PsCore.Accounts

/-!
Whether a booking's payment status says what its amounts do. Three operations write the
status, each from other amounts.
-/

namespace PsCore

open Fallible RowTable TransitionRun

def Booking.owedStatus (booking : Booking) : PaymentStatus :=
  if booking.totalAmount ≤ booking.advancePaid + booking.balanceCollected then .paid
  else if booking.advancePaid = 0 ∧ booking.balanceCollected = 0 then .unpaid
  else .partiallyPaid

structure TruthfulStatus (booking : Booking) : Prop where
  paid : booking.paymentStatus = .paid ↔ booking.totalAmount ≤ booking.advancePaid + booking.balanceCollected
  unpaid : booking.paymentStatus = .unpaid ↔ booking.advancePaid = 0 ∧ booking.balanceCollected = 0
  partly : booking.paymentStatus = .partiallyPaid ↔
    ¬ booking.totalAmount ≤ booking.advancePaid + booking.balanceCollected ∧
      ¬ (booking.advancePaid = 0 ∧ booking.balanceCollected = 0)

/-- With a positive price, the status is true unless it tells of a failure or a refund. -/
def Truthful (booking : Booking) : Prop :=
  0 < booking.totalAmount → booking.paymentStatus ≠ .failed → booking.paymentStatus ≠ .refunded →
    TruthfulStatus booking

theorem TruthfulStatus.of_owed {booking : Booking} (priced : 0 < booking.totalAmount)
    (owed : booking.paymentStatus = booking.owedStatus) : TruthfulStatus booking := by
  unfold Booking.owedStatus at owed
  by_cases whole : booking.totalAmount ≤ booking.advancePaid + booking.balanceCollected
  · rw [if_pos whole] at owed
    have some_ : ¬ (booking.advancePaid = 0 ∧ booking.balanceCollected = 0) := by
      unfold Money at *
      omega
    constructor <;> simp [owed, whole, some_]
  · rw [if_neg whole] at owed
    by_cases nothing : booking.advancePaid = 0 ∧ booking.balanceCollected = 0
    · rw [if_pos nothing] at owed
      constructor <;> simp [owed, nothing, priced]
    · rw [if_neg nothing] at owed
      constructor <;> simp [owed, whole, nothing]

/-- Where the price is positive: a confirmation pays some of it but not all; a manual payment
pays all of it as an advance, or some but not all; a balance entry finds something paid
already, or pays all that remains. -/
def truthCondition (_ : Db) : Effect → Bool
  | .confirmation _ _ locked _ => locked.booking.totalAmount ≤ 0 ||
      (locked.payment.amount + locked.booking.balanceCollected < locked.booking.totalAmount &&
        (locked.payment.amount != 0 || locked.booking.balanceCollected != 0))
  | .manualPayment amount entry => entry.booking.totalAmount ≤ 0 ||
      entry.booking.totalAmount ≤ entry.booking.advancePaid + amount ||
      (entry.booking.advancePaid + amount + entry.booking.balanceCollected < entry.booking.totalAmount &&
        (entry.booking.advancePaid + amount != 0 || entry.booking.balanceCollected != 0))
  | .balance _ booking amount _ => booking.totalAmount ≤ 0 || booking.paymentStatus != .unpaid ||
      amount == booking.balanceDue - booking.balanceCollected
  | _ => true

structure TruthfulBalance (booking : Booking) : Prop where
  balance : booking.BalanceSound
  owed : 0 < booking.totalAmount → booking.paymentStatus = .failed ∨ booking.paymentStatus = .refunded ∨
    booking.paymentStatus = booking.owedStatus

theorem SameMoney.owedStatus {before after : Booking} (money : SameMoney before after) :
    after.owedStatus = before.owedStatus := by
  unfold Booking.owedStatus
  rw [money.totalAmount, money.advancePaid, money.balanceCollected]

theorem TruthfulBalance.same {before after : Booking} (truthful : TruthfulBalance before)
    (money : SameMoney before after)
    (status : after.paymentStatus = .failed ∨ after.paymentStatus = .refunded ∨
      after.paymentStatus = before.paymentStatus) : TruthfulBalance after := by
  refine ⟨truthful.balance.same money, fun priced => ?_⟩
  rw [money.totalAmount] at priced
  rcases status with failed | refunded | same
  · exact .inl failed
  · exact .inr (.inl refunded)
  · rw [same, money.owedStatus]
    exact truthful.owed priced

theorem UnpaidBooking.truthful {booking : Booking} (unpaid : UnpaidBooking booking) : TruthfulBalance booking := by
  refine ⟨unpaid.balanceSound, fun priced => .inr (.inr ?_)⟩
  obtain ⟨advancePaid, balanceCollected, _, paymentStatus⟩ := unpaid
  have nothing : ¬ booking.totalAmount ≤ booking.advancePaid + booking.balanceCollected := by
    unfold Money at *
    omega
  rw [paymentStatus, Booking.owedStatus, if_neg nothing, if_pos ⟨advancePaid, balanceCollected⟩]

theorem owedStatus_partly {booking : Booking}
    (open_ : booking.advancePaid + booking.balanceCollected < booking.totalAmount)
    (some_ : booking.advancePaid ≠ 0 ∨ booking.balanceCollected ≠ 0) : booking.owedStatus = .partiallyPaid := by
  have notWhole : ¬ booking.totalAmount ≤ booking.advancePaid + booking.balanceCollected := by
    unfold Money at *
    omega
  have notNothing : ¬ (booking.advancePaid = 0 ∧ booking.balanceCollected = 0) := by
    unfold Money at *
    omega
  rw [Booking.owedStatus, if_neg notWhole, if_neg notNothing]

theorem owedStatus_whole {booking : Booking}
    (whole : booking.totalAmount ≤ booking.advancePaid + booking.balanceCollected) : booking.owedStatus = .paid := by
  rw [Booking.owedStatus, if_pos whole]

theorem TruthfulBalance.collected {booking : Booking} {amount : Money} (truthful : TruthfulBalance booking)
    (positive : 0 < amount) (remaining : amount ≤ booking.balanceDue - booking.balanceCollected)
    (condition : booking.paymentStatus ≠ .unpaid ∨ amount = booking.balanceDue - booking.balanceCollected)
    (priced : 0 < booking.totalAmount) :
    (booking.collected amount).paymentStatus = .failed ∨ (booking.collected amount).paymentStatus = .refunded ∨
      (booking.collected amount).paymentStatus = (booking.collected amount).owedStatus := by
  obtain ⟨⟨collected, due⟩, owed⟩ := truthful
  -- something remained, so the balance that was due is the price less the advance
  have isDue : booking.balanceDue = booking.totalAmount - booking.advancePaid := by
    unfold Money at *
    omega
  by_cases whole : booking.balanceDue ≤ booking.balanceCollected + amount
  · have isWhole : (booking.collected amount).owedStatus = .paid := by
      refine owedStatus_whole ?_
      simp only [Booking.collected]
      unfold Money at *
      omega
    right; right
    rw [isWhole, Booking.collected, if_pos whole]
  · have unchanged : (booking.collected amount).paymentStatus = booking.paymentStatus := by
      rw [Booking.collected, if_neg whole]
    have isPartly : (booking.collected amount).owedStatus = .partiallyPaid := by
      refine owedStatus_partly ?_ (.inr ?_)
      · simp only [Booking.collected]
        unfold Money at *
        omega
      · simp only [Booking.collected]
        unfold Money at *
        omega
    rw [unchanged, isPartly]
    rcases owed priced with failed | refunded | status
    · exact .inl failed
    · exact .inr (.inl refunded)
    · -- the status was neither paid nor unpaid before
      have notPaid : ¬ booking.totalAmount ≤ booking.advancePaid + booking.balanceCollected := by
        unfold Money at *
        omega
      have notUnpaid : booking.paymentStatus ≠ .unpaid := by
        rcases condition with known | rest
        · exact known
        · refine absurd ?_ whole
          unfold Money at *
          omega
      rw [Booking.owedStatus, if_neg notPaid] at status
      split at status
      · exact absurd status notUnpaid
      · exact .inr (.inr status)

theorem TruthfulBalance.paidManually {booking : Booking} {amount : Money} (truthful : TruthfulBalance booking)
    (condition : booking.totalAmount ≤ booking.advancePaid + amount ∨
      (booking.advancePaid + amount + booking.balanceCollected < booking.totalAmount ∧
        (booking.advancePaid + amount ≠ 0 ∨ booking.balanceCollected ≠ 0))) :
    (booking.paidManually amount).paymentStatus = (booking.paidManually amount).owedStatus := by
  have collected := truthful.balance.collected
  by_cases whole : booking.totalAmount ≤ booking.advancePaid + amount
  · have nothingDue : max 0 (booking.totalAmount - (booking.advancePaid + amount)) = 0 := by
      unfold Money at *
      omega
    have isWhole : (booking.paidManually amount).owedStatus = .paid := by
      refine owedStatus_whole ?_
      simp only [Booking.paidManually]
      unfold Money at *
      omega
    rw [isWhole, Booking.paidManually]
    simp only [nothingDue, if_true]
  · have someDue : max 0 (booking.totalAmount - (booking.advancePaid + amount)) ≠ 0 := by
      unfold Money at *
      omega
    rcases condition with allPaid | ⟨open_, some_⟩
    · exact absurd allPaid whole
    · rw [owedStatus_partly open_ some_, Booking.paidManually]
      simp only [if_neg someDue]

theorem TruthfulBalance.rewritten {db : Db} {effect : Effect} {bookingId : BookingId} {before after : Booking}
    (condition : truthCondition db effect = true) (checked : effect.Checked)
    (rewrites : effect.Rewrites bookingId before after) (truthful : TruthfulBalance before) :
    TruthfulBalance after := by
  have balance := truthful.balance.rewritten checked rewrites
  cases rewrites with
  | confirmation now changedBy locked payments =>
      refine ⟨balance, fun priced => .inr (.inr ?_)⟩
      simp only [truthCondition, Bool.or_eq_true, Bool.and_eq_true, decide_eq_true_eq, bne_iff_ne] at condition
      simp only [Booking.confirmedBy] at priced
      rcases condition with free | ⟨open_, some_⟩
      · exact absurd priced (Int.not_lt.mpr free)
      · exact (owedStatus_partly open_ some_).symm
  | failure locked payments =>
      refine truthful.same (markedFailed_sameMoney _) ?_
      unfold Booking.markedFailed
      split
      · exact .inl rfl
      · exact .inr (.inr rfl)
  | refund settlement =>
      refine truthful.same (afterRefund_sameMoney _ _ _ _) ?_
      unfold Booking.afterRefund
      split
      · exact .inr (.inl rfl)
      · split
        · exact .inr (.inr rfl)
        · split <;> exact .inr (.inr rfl)
  | workOrder =>
      exact truthful.same ⟨rfl, rfl, rfl, rfl⟩ (.inr (.inr rfl))
  | manualPayment amount entry =>
      refine ⟨balance, fun priced => .inr (.inr (truthful.paidManually ?_))⟩
      simp only [truthCondition, Bool.or_eq_true, Bool.and_eq_true, decide_eq_true_eq, bne_iff_ne] at condition
      simp only [Booking.paidManually] at priced
      rcases condition with (free | whole) | partly
      · exact absurd priced (Int.not_lt.mpr free)
      · exact .inl whole
      · exact .inr partly
  | balance _ _ amount payments =>
      refine ⟨balance, fun priced => truthful.collected checked.1 checked.2 ?_ priced⟩
      simp only [truthCondition, Bool.or_eq_true, decide_eq_true_eq, bne_iff_ne, beq_iff_eq] at condition
      simp only [Booking.collected] at priced
      rcases condition with (free | known) | whole
      · exact absurd priced (Int.not_lt.mpr free)
      · exact .inl known
      · exact .inr whole

/-- The payment status tells the truth, as long as each operation that writes it sees all that it
depends on. -/
theorem truthful_run {settings : Settings} {start : System} {ops : List Op} (initial : start.Initial)
    (guarded : Guarded (System.step settings) (Op.meets settings truthCondition) start ops) :
    EveryBooking Truthful (runAll (System.step settings) start ops).db := by
  have truthful : EveryAccount (fun booking _ => TruthfulBalance booking)
      (runAll (System.step settings) start ops).db :=
    accounts_invariant
      (fun _ => .of_money fun _ _ money status truthful => truthful.same money (.inr (.inr status)))
      (.of_unpaid fun _ => UnpaidBooking.truthful)
      (fun _ _ _ _ _ condition checked rewrites truthful => truthful.rewritten condition checked rewrites)
      initial guarded
  intro booking member priced notFailed notRefunded
  obtain ⟨bookingId, present⟩ := List.mem_iff_getElem?.mp member
  rcases (truthful bookingId booking present).owed priced with failed | refunded | owed
  · exact absurd failed notFailed
  · exact absurd refunded notRefunded
  · exact .of_owed priced owed

def paidInFull : List Op := paidHistory ++ [
  .assignTechnician sampleNow 0 0 none "" "",
  .recordBalanceCollection sampleNow 0 30000 "CASH" none "",
  .recordBalanceCollection (sampleNow + hour) 0 50000 "CASH" none ""]

theorem truthful_run_paidInFull :
    EveryBooking Truthful (runAll (System.step sampleSettings) sampleSystem paidInFull).db :=
  truthful_run sampleSystem_initial (by decide)

def workOrderPartlyPaid : List Op := workOrdered ++ [
  .assignTechnician sampleNow 0 0 none "" "",
  .recordBalanceCollection sampleNow 0 30000 "CASH" none ""]

theorem paid_booking_unpaid :
    ¬ ∀ (settings : Settings) (start : System) (ops : List Op), start.Initial →
      EveryBooking Truthful (runAll (System.step settings) start ops).db := by
  intro always
  have truthful := always sampleSettings sampleSystem workOrderPartlyPaid sampleSystem_initial
  have stored : ((runAll (System.step sampleSettings) sampleSystem workOrderPartlyPaid).db.bookings[0]?).map
      (fun booking => (booking.totalAmount, booking.paymentStatus, booking.balanceCollected)) =
        some (100000, .unpaid, 30000) := by decide
  obtain ⟨booking, found, money⟩ := Option.map_eq_some_iff.mp stored
  simp only [Prod.mk.injEq] at money
  obtain ⟨totalAmount, paymentStatus, balanceCollected⟩ := money
  have truth := truthful booking (List.mem_of_getElem? found) (by rw [totalAmount]; decide)
    (by rw [paymentStatus]; decide) (by rw [paymentStatus]; decide)
  have nothing := (truth.unpaid.mp paymentStatus).2
  rw [balanceCollected] at nothing
  exact absurd nothing (by decide)

end PsCore
