import PsCore.LedgerAgreement

/-!
How much is collected for one booking. Balance entries are checked against what remains;
manual payments and captured advances are recorded as they come.
-/

namespace PsCore

open Fallible RowTable TransitionRun

/-- Neither the stored amounts nor the successful payment rows exceed the price. -/
structure WithinPrice (booking : Booking) (account : Account) : Prop where
  stored : booking.advancePaid + booking.balanceCollected ≤ booking.totalAmount
  rows : account.succeeded ≤ booking.totalAmount

def Db.covers (db : Db) (bookingId : BookingId) (booking : Booking) (amount : Money) : Bool :=
  (account db.payments.rows bookingId).succeeded + amount ≤ booking.totalAmount

/-- Where the price is not negative, it covers every payment that is recorded. -/
def collectionCondition (db : Db) : Effect → Bool
  | .confirmation _ _ locked _ => locked.booking.totalAmount < 0 ||
      (locked.payment.amount + locked.booking.balanceCollected ≤ locked.booking.totalAmount &&
        db.covers locked.payment.booking locked.booking locked.payment.amount)
  | .refund settlement => 0 ≤ settlement.source.amount
  | .manualPayment amount entry => entry.booking.totalAmount < 0 ||
      (entry.booking.advancePaid + entry.booking.balanceCollected + amount ≤ entry.booking.totalAmount &&
        db.covers entry.bookingId entry.booking amount)
  | .balance bookingId booking amount _ => booking.totalAmount < 0 || db.covers bookingId booking amount
  | _ => true

structure Collected (booking : Booking) (account : Account) : Prop where
  balance : booking.BalanceSound
  within : 0 ≤ booking.totalAmount → WithinPrice booking account

theorem Collected.same {before after : Booking} {account : Account} (collected : Collected before account)
    (money : SameMoney before after) : Collected after account := by
  refine ⟨collected.balance.same money, fun priced => ?_⟩
  rw [money.totalAmount] at priced
  obtain ⟨stored, rows⟩ := collected.within priced
  constructor
  · rw [money.advancePaid, money.balanceCollected, money.totalAmount]
    exact stored
  · rw [money.totalAmount]
    exact rows

theorem UnpaidBooking.collected {booking : Booking} (unpaid : UnpaidBooking booking) : Collected booking .empty := by
  refine ⟨unpaid.balanceSound, fun priced => ⟨?_, priced⟩⟩
  rw [unpaid.advancePaid, unpaid.balanceCollected]
  exact priced

theorem Effect.refund_succeeded {settlement : RefundSettlement} (nonneg : 0 ≤ settlement.source.amount) :
    (Effect.refund settlement).entry.succeeded ≤ 0 := by
  simp only [Effect.entry]
  split
  · simp only [Payment.entry]
    split <;> unfold Money at * <;> omega
  · decide

theorem Collected.rewritten {db : Db} {effect : Effect} {bookingId : BookingId} {before after : Booking}
    (condition : collectionCondition db effect = true) (checked : effect.Checked)
    (rewrites : effect.Rewrites bookingId before after)
    (collected : Collected before (account db.payments.rows bookingId)) :
    Collected after (account db.payments.rows bookingId + effect.entry) := by
  have balance := collected.balance.rewritten checked rewrites
  have within := collected.within
  have due := collected.balance.due
  have nonneg := collected.balance.collected
  refine ⟨balance, fun priced => ?_⟩
  cases rewrites with
  | confirmation now changedBy locked payments =>
      simp only [collectionCondition, Db.covers, Bool.or_eq_true, Bool.and_eq_true, decide_eq_true_eq] at condition
      simp only [Booking.confirmedBy] at priced
      rcases condition with negative | ⟨stored, rows⟩
      · exact absurd priced (Int.not_le.mpr negative)
      · exact ⟨stored, rows⟩
  | failure locked payments =>
      have same := (collected.same (markedFailed_sameMoney _)).within priced
      refine ⟨same.stored, ?_⟩
      have rows := same.rows
      simpa [Effect.entry] using rows
  | refund settlement =>
      simp only [collectionCondition, decide_eq_true_eq] at condition
      have lowered := Effect.refund_succeeded condition
      have same := (collected.same (afterRefund_sameMoney _ _ _ _)).within priced
      refine ⟨same.stored, ?_⟩
      have rows := same.rows
      rw [Account.add_succeeded]
      unfold Money at *
      omega
  | workOrder =>
      rw [Effect.entry, Account.add_empty]
      exact ⟨(within priced).stored, (within priced).rows⟩
  | manualPayment amount entry =>
      simp only [collectionCondition, Db.covers, Bool.or_eq_true, Bool.and_eq_true, decide_eq_true_eq] at condition
      simp only [Booking.paidManually] at priced
      rcases condition with negative | ⟨stored, rows⟩
      · exact absurd priced (Int.not_le.mpr negative)
      · refine ⟨?_, rows⟩
        simp only [Booking.paidManually]
        unfold Money at *
        omega
  | balance _ _ amount payments =>
      obtain ⟨positive, remaining⟩ := checked
      simp only [collectionCondition, Db.covers, Bool.or_eq_true, decide_eq_true_eq] at condition
      simp only [Booking.collected] at priced
      rcases condition with negative | rows
      · exact absurd priced (Int.not_le.mpr negative)
      · refine ⟨?_, rows⟩
        -- what remains is never more than the price less the advance
        simp only [Booking.collected]
        unfold Money at *
        omega

/-- No booking collects more than its price, as long as the price covers what is recorded
without a check of its own. -/
theorem withinPrice_run {settings : Settings} {start : System} {ops : List Op} (initial : start.Initial)
    (guarded : Guarded (System.step settings) (Op.meets settings collectionCondition) start ops) :
    EveryAccount (fun booking account => 0 ≤ booking.totalAmount → WithinPrice booking account)
      (runAll (System.step settings) start ops).db := by
  have collected : EveryAccount Collected (runAll (System.step settings) start ops).db :=
    accounts_invariant (fun _ => .of_money fun _ _ money _ collected => collected.same money)
      (.of_unpaid fun _ => UnpaidBooking.collected)
      (fun _ _ _ _ _ condition checked rewrites collected => collected.rewritten condition checked rewrites)
      initial guarded
  intro bookingId booking present
  exact (collected bookingId booking present).within

def workOrderPaid : List Op := workOrdered ++ [
  .recordManualLeadPayment sampleNow 1 20000 "MANUAL_UPI" "receipt 7" "",
  .assignTechnician sampleNow 0 0 none "" "",
  .recordBalanceCollection sampleNow 0 80000 "CASH" none ""]

theorem withinPrice_run_workOrderPaid :
    EveryAccount (fun booking account => 0 ≤ booking.totalAmount → WithinPrice booking account)
      (runAll (System.step sampleSettings) sampleSystem workOrderPaid).db :=
  withinPrice_run sampleSystem_initial (by decide)

def workOrderOverpaid : List Op := workOrdered ++ [
  .assignTechnician sampleNow 0 0 none "" "",
  .recordBalanceCollection sampleNow 0 100000 "CASH" none "",
  .recordManualLeadPayment sampleNow 1 20000 "MANUAL_UPI" "receipt 7" ""]

theorem booking_overpaid :
    ¬ ∀ (settings : Settings) (start : System) (ops : List Op), start.Initial →
      EveryAccount (fun booking account => 0 ≤ booking.totalAmount → WithinPrice booking account)
        (runAll (System.step settings) start ops).db := by
  intro always
  have within := always sampleSettings sampleSystem workOrderOverpaid sampleSystem_initial
  have overpaid : ((runAll (System.step sampleSettings) sampleSystem workOrderOverpaid).db.bookings[0]?).map
      (fun booking => (booking.totalAmount, booking.advancePaid, booking.balanceCollected)) =
        some (100000, 20000, 100000) := by decide
  obtain ⟨booking, found, money⟩ := Option.map_eq_some_iff.mp overpaid
  simp only [Prod.mk.injEq] at money
  obtain ⟨totalAmount, advancePaid, balanceCollected⟩ := money
  have stored := (within 0 booking found (by rw [totalAmount]; decide)).stored
  rw [totalAmount, advancePaid, balanceCollected] at stored
  exact absurd stored (by decide)

end PsCore
