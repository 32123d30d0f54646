import PsCore.Accounts

/-!
Whether the amounts that a booking stores are those of its payment rows. A confirmation
assigns the advance; every other operation adds to what is there or leaves it.
-/

namespace PsCore

open Fallible RowTable TransitionRun

structure LedgerAgrees (booking : Booking) (account : Account) : Prop where
  advances : booking.advancePaid = account.advances
  balances : booking.balanceCollected = account.balances

/-- A confirmed payment is the booking's only paid advance, a failed one was no paid advance,
and a wholly refunded one was. -/
def ledgerCondition (_ : Db) : Effect → Bool
  | .confirmation _ _ locked _ => locked.booking.advancePaid == locked.payment.paidAdvance
  | .failure locked _ => locked.payment.paidAdvance == 0
  | .refund settlement =>
      successfulRefunds settlement.payments.rows settlement.sourceId < settlement.source.amount ||
        settlement.source.paidAdvance == settlement.source.amount
  | _ => true

theorem ledgerAgrees_kept (account : Account) : RoutinelyKept fun booking => LedgerAgrees booking account :=
  .of_money fun _ _ money _ agrees =>
    ⟨money.advancePaid.trans agrees.advances, money.balanceCollected.trans agrees.balances⟩

theorem ledgerAgrees_made : RoutinelyMade fun booking => LedgerAgrees booking .empty :=
  .of_unpaid fun _ unpaid => ⟨unpaid.advancePaid, unpaid.balanceCollected⟩

/-- An effect keeps the agreement exactly under the condition. -/
theorem LedgerAgrees.rewritten_iff {db : Db} {effect : Effect} {bookingId : BookingId} {before after : Booking}
    {account : Account} (agrees : LedgerAgrees before account)
    (rewrites : effect.Rewrites bookingId before after) :
    LedgerAgrees after (account + effect.entry) ↔ ledgerCondition db effect = true := by
  obtain ⟨advances, balances⟩ := agrees
  have sum : LedgerAgrees after (account + effect.entry) ↔
      after.advancePaid = account.advances + effect.entry.advances ∧
        after.balanceCollected = account.balances + effect.entry.balances :=
    ⟨fun agrees => ⟨agrees.advances, agrees.balances⟩, fun ⟨advances, balances⟩ => ⟨advances, balances⟩⟩
  rw [sum]
  cases rewrites with
  | confirmation now changedBy locked payments =>
      simp only [Booking.confirmedBy, Effect.entry, ledgerCondition, beq_iff_eq]
      unfold Money at *
      omega
  | failure locked payments =>
      have money := markedFailed_sameMoney locked.booking
      simp only [money.advancePaid, money.balanceCollected, Effect.entry, ledgerCondition, beq_iff_eq]
      unfold Money at *
      omega
  | refund settlement =>
      have money :=
        afterRefund_sameMoney settlement.payments.rows settlement.sourceId settlement.source settlement.booking
      simp only [money.advancePaid, money.balanceCollected, ledgerCondition, Bool.or_eq_true, decide_eq_true_eq, beq_iff_eq]
      by_cases whole : settlement.source.amount ≤ successfulRefunds settlement.payments.rows settlement.sourceId
      · simp only [Effect.entry, if_pos whole]
        unfold Money at *
        omega
      · simp only [Effect.entry, if_neg whole, Account.empty]
        unfold Money at *
        omega
  | workOrder =>
      simp [Booking.asWorkOrder, Effect.entry, ledgerCondition, Account.empty, advances, balances]
  | manualPayment amount entry =>
      simp [Booking.paidManually, Effect.entry, ledgerCondition, advances, balances]
  | balance _ _ amount payments =>
      simp [Booking.collected, Effect.entry, ledgerCondition, advances, balances]

/-- The stored amounts are those of the payment rows, as long as payments are confirmed,
failed and refunded in their turn. -/
theorem ledgerAgrees_run {settings : Settings} {start : System} {ops : List Op} (initial : start.Initial)
    (guarded : Guarded (System.step settings) (Op.meets settings ledgerCondition) start ops) :
    EveryAccount LedgerAgrees (runAll (System.step settings) start ops).db :=
  accounts_invariant ledgerAgrees_kept ledgerAgrees_made
    (fun _ _ _ _ _ condition _ rewrites agrees => (agrees.rewritten_iff rewrites).mpr condition) initial guarded

def collectedHistory : List Op := paidHistory ++ [
  .assignTechnician sampleNow 0 0 none "" "",
  .recordBalanceCollection sampleNow 0 80000 "CASH" none "",
  .createRefund sampleNow 0 5000 "refund-key-1" (.ok { id := "rfnd_1", status := .text "processed" })]

theorem ledgerAgrees_run_collected :
    EveryAccount LedgerAgrees (runAll (System.step sampleSettings) sampleSystem collectedHistory).db :=
  ledgerAgrees_run sampleSystem_initial (by decide)

def failedAfterRefund : List Op := paidHistory ++ [
  .createRefund sampleNow 0 20000 "refund-key-1" (.ok { id := "rfnd_1", status := .text "processed" }),
  samplePaymentEvent "payment.failed" "order_1" "pay_0" 20000]

theorem ledger_disagrees :
    ¬ ∀ (settings : Settings) (start : System) (ops : List Op), start.Initial →
      EveryAccount LedgerAgrees (runAll (System.step settings) start ops).db := by
  intro always
  have agrees := always sampleSettings sampleSystem failedAfterRefund sampleSystem_initial
  have stored : ((runAll (System.step sampleSettings) sampleSystem failedAfterRefund).db.bookings[0]?).map
      Booking.advancePaid = some 20000 := by decide
  have paid : (account (runAll (System.step sampleSettings) sampleSystem failedAfterRefund).db.payments.rows 0).advances =
      0 := by decide
  obtain ⟨booking, found, advancePaid⟩ := Option.map_eq_some_iff.mp stored
  have same := (agrees 0 booking found).advances
  rw [advancePaid, paid] at same
  exact absurd same (by decide)

end PsCore
