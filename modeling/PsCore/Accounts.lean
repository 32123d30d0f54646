import PsCore.Ledger

/-!
The account of a booking: what its payment rows add up to. The booking stores the same
amounts again; each effect moves both, in its own way.
-/

namespace PsCore

open Fallible RowTable TransitionRun

def PaymentRecordStatus.isPaid : PaymentRecordStatus → Bool
  | .success | .refunded => true
  | .created | .pending | .failed => false

def Payment.isPaidAdvance (payment : Payment) : Bool :=
  payment.paymentType == .bookingAdvance && payment.status.isPaid

def Payment.isCollectedBalance (payment : Payment) : Bool :=
  payment.paymentType == .balance && payment.status == .success

def Payment.isSuccessfulCharge (payment : Payment) : Bool :=
  (payment.paymentType == .bookingAdvance || payment.paymentType == .balance) && payment.status == .success

@[ext] structure Account where
  advances : Money
  balances : Money
  succeeded : Money

instance : Add Account where
  add one other := {
    advances := one.advances + other.advances
    balances := one.balances + other.balances
    succeeded := one.succeeded + other.succeeded
  }

instance : Sub Account where
  sub one other := {
    advances := one.advances - other.advances
    balances := one.balances - other.balances
    succeeded := one.succeeded - other.succeeded
  }

def Account.empty : Account where
  advances := 0
  balances := 0
  succeeded := 0

@[simp] theorem Account.add_advances (one other : Account) :
    (one + other).advances = one.advances + other.advances := rfl

@[simp] theorem Account.add_balances (one other : Account) :
    (one + other).balances = one.balances + other.balances := rfl

@[simp] theorem Account.add_succeeded (one other : Account) :
    (one + other).succeeded = one.succeeded + other.succeeded := rfl

@[simp] theorem Account.sub_advances (one other : Account) :
    (one - other).advances = one.advances - other.advances := rfl

@[simp] theorem Account.sub_balances (one other : Account) :
    (one - other).balances = one.balances - other.balances := rfl

@[simp] theorem Account.sub_succeeded (one other : Account) :
    (one - other).succeeded = one.succeeded - other.succeeded := rfl

@[simp] theorem Account.add_empty (account : Account) : account + .empty = account := by
  ext <;> simp [Account.empty]

@[simp] theorem Account.sub_self (account : Account) : account - account = .empty := by
  ext <;> simp [Account.empty]

def Payment.entry (payment : Payment) : Account where
  advances := if payment.isPaidAdvance then payment.amount else 0
  balances := if payment.isCollectedBalance then payment.amount else 0
  succeeded := if payment.isSuccessfulCharge then payment.amount else 0

def account (rows : List Payment) (bookingId : BookingId) : Account where
  advances := sumWhere (fun payment => payment.booking == bookingId && payment.isPaidAdvance) Payment.amount rows
  balances := sumWhere (fun payment => payment.booking == bookingId && payment.isCollectedBalance) Payment.amount rows
  succeeded := sumWhere (fun payment => payment.booking == bookingId && payment.isSuccessfulCharge) Payment.amount rows

theorem account_append (rows : List Payment) (payment : Payment) (bookingId : BookingId) :
    account (rows ++ [payment]) bookingId =
      account rows bookingId + if payment.booking = bookingId then payment.entry else .empty := by
  by_cases own : payment.booking = bookingId
  · ext <;> simp [account, sumWhere_append, own, Payment.entry]
  · ext <;> simp [account, sumWhere_append, own]

theorem account_set {rows : List Payment} {key : PaymentId} {before after : Payment} (bookingId : BookingId)
    (found : rows[key]? = some before) (origin : SameOrigin before after) :
    account (rows.set key after) bookingId =
      account rows bookingId + if before.booking = bookingId then after.entry - before.entry else .empty := by
  have booking := origin.booking
  by_cases own : before.booking = bookingId
  · ext <;> simp only [account, sumWhere_set _ _ _ found, own, booking, Payment.entry, beq_self_eq_true,
      Bool.true_and, if_true, Account.add_advances, Account.add_balances, Account.add_succeeded,
      Account.sub_advances, Account.sub_balances, Account.sub_succeeded] <;> unfold Money at * <;> omega
  · ext <;> simp [account, sumWhere_set _ _ _ found, own, booking]

theorem Payment.entry_of_refund {payment : Payment} (kind : payment.paymentType = .refund) :
    payment.entry = .empty := by
  ext <;> simp [Payment.entry, Payment.isPaidAdvance, Payment.isCollectedBalance, Payment.isSuccessfulCharge,
    kind, Account.empty]

theorem Payment.entry_of_unpaid {payment : Payment} (unpaid : payment.status.isPaid = false) :
    payment.entry = .empty := by
  have notSuccess : payment.status ≠ .success := by
    intro success
    rw [success] at unpaid
    cases unpaid
  ext <;> simp [Payment.entry, Payment.isPaidAdvance, Payment.isCollectedBalance, Payment.isSuccessfulCharge,
    unpaid, notSuccess, Account.empty]

theorem account_of_absent {rows : List Payment} {bookingId : BookingId}
    (absent : ∀ payment ∈ rows, payment.booking ≠ bookingId) : account rows bookingId = .empty := by
  have rejected : ∀ counts : Payment → Bool,
      sumWhere (fun payment => payment.booking == bookingId && counts payment) Payment.amount rows = 0 := by
    intro counts
    refine sumWhere_none fun payment member => ?_
    simp [absent payment member]
  ext <;> exact rejected _

/-! What each effect adds to the account of the booking that it rewrites. -/

def Payment.paidAdvance (payment : Payment) : Money :=
  payment.entry.advances

def Effect.entry : Effect → Account
  | .confirmation _ _ locked _ => {
      advances := locked.payment.amount - locked.payment.paidAdvance
      balances := 0
      succeeded := locked.payment.amount
    }
  | .failure locked _ => { advances := 0 - locked.payment.paidAdvance, balances := 0, succeeded := 0 }
  | .refund settlement =>
      if settlement.source.amount ≤ successfulRefunds settlement.payments.rows settlement.sourceId then {
        advances := settlement.source.amount - settlement.source.paidAdvance
        balances := 0
        succeeded := 0 - settlement.source.entry.succeeded
      }
      else .empty
  | .workOrder _ _ => .empty
  | .manualPayment amount _ => { advances := amount, balances := 0, succeeded := amount }
  | .balance _ _ amount _ => { advances := 0, balances := amount, succeeded := amount }
  | .slotSave _ _ => .empty

theorem Payment.entry_succeeded {payment : Payment} (now : Instant) (paymentId : String)
    (advance : payment.paymentType = .bookingAdvance) (open_ : payment.status ≠ .success) :
    (payment.succeeded now paymentId).entry - payment.entry =
      { advances := payment.amount - payment.paidAdvance, balances := 0, succeeded := payment.amount } := by
  ext <;> simp [Payment.paidAdvance, Payment.entry, Payment.isPaidAdvance, Payment.isCollectedBalance,
    Payment.isSuccessfulCharge, Payment.succeeded, PaymentRecordStatus.isPaid, advance, open_]

theorem Payment.entry_markedFailed {payment : Payment} (paymentId : Option String)
    (open_ : payment.status ≠ .success) :
    (payment.markedFailed paymentId).entry - payment.entry =
      { advances := 0 - payment.paidAdvance, balances := 0, succeeded := 0 } := by
  have unpaid : (payment.markedFailed paymentId).entry = .empty := Payment.entry_of_unpaid rfl
  rw [unpaid]
  ext <;> simp [Payment.paidAdvance, Payment.entry, Payment.isCollectedBalance, Payment.isSuccessfulCharge, open_,
    Account.empty]

theorem Payment.entry_marked {payment : Payment} (advance : payment.paymentType = .bookingAdvance) :
    Payment.entry { payment with status := .refunded } - payment.entry =
      { advances := payment.amount - payment.paidAdvance, balances := 0, succeeded := 0 - payment.entry.succeeded } := by
  ext <;> simp [Payment.paidAdvance, Payment.entry, Payment.isPaidAdvance, Payment.isCollectedBalance,
    Payment.isSuccessfulCharge, PaymentRecordStatus.isPaid, advance]

/-- The effect's entry goes to the one booking, and every other account stays as it is. -/
def Posted (rows next : List Payment) (target : BookingId) (entry : Account) : Prop :=
  ∀ bookingId, account next bookingId =
    account rows bookingId + if target = bookingId then entry else .empty

theorem Posted.empty (rows : List Payment) (target : BookingId) : Posted rows rows target .empty := by
  intro bookingId
  split <;> simp

theorem Posted.append (rows : List Payment) (payment : Payment) :
    Posted rows (rows ++ [payment]) payment.booking payment.entry :=
  account_append rows payment

theorem Posted.set {rows : List Payment} {key : PaymentId} {before after : Payment}
    (found : rows[key]? = some before) (origin : SameOrigin before after) :
    Posted rows (rows.set key after) before.booking (after.entry - before.entry) :=
  fun bookingId => account_set bookingId found origin

theorem account_recorded {db : Db} {settlement : RefundSettlement} (sound : PaymentsSound db)
    (written : settlement.Written db) (bookingId : BookingId) :
    account settlement.payments.rows bookingId = account db.payments.rows bookingId := by
  have refund := sound.refund_kind written
  have empty := Payment.entry_of_refund refund
  cases written with
  | requested now key refundId amount status paid positive bounded free row booking rows =>
      rw [rows, account_append, empty]
      split <;> simp
  | delivered now currency refundId amount status paid free row new booking rows =>
      rw [rows, account_append, empty]
      split <;> simp
  | rewritten now earlier status foundRefund row owner rows =>
      have origin : SameOrigin earlier settlement.refund := by
        rw [row]
        exact earlier.withRefundStatus_origin now status
      have emptyBefore : earlier.entry = .empty := Payment.entry_of_refund (by rw [← origin.kind]; exact refund)
      rw [rows, account_set bookingId foundRefund origin, empty, emptyBefore]
      split <;> simp

theorem Posted.settled {db : Db} {settlement : RefundSettlement} (sound : PaymentsSound db)
    (found : db.payments.rows[settlement.sourceId]? = some settlement.source) (written : settlement.Written db) :
    Posted db.payments.rows settlement.settledRows settlement.bookingId (Effect.refund settlement).entry := by
  intro bookingId
  have present := sound.source_untouched found written
  have advance := sound.source_advance found written
  obtain ⟨_, booking⟩ := sound.source_ordered found written
  simp only [RefundSettlement.settledRows, Effect.entry]
  by_cases whole : settlement.source.amount ≤ successfulRefunds settlement.payments.rows settlement.sourceId
  · have origin := settlement.source.status_origin .refunded
    rw [if_pos whole, if_pos whole, account_set bookingId present origin, account_recorded sound written,
      Payment.entry_marked advance, booking]
  · rw [if_neg whole, if_neg whole, account_recorded sound written]
    split <;> simp

theorem Effective.accounts {effect : Effect} {db next : Db} (sound : PaymentsSound db)
    (written : Effective effect db next) :
    (next.bookings = db.bookings ∧ next.payments = db.payments) ∨
      ∃ bookingId before after, effect.Rewrites bookingId before after ∧
        db.bookings[bookingId]? = some before ∧ next.bookings = db.bookings.set bookingId after ∧
        Posted db.payments.rows next.payments.rows bookingId effect.entry := by
  cases written with
  | @confirmed _ _ now changedBy locked payments orderId paymentId found foundBooking ordered amount open_ rows writtenEq =>
      subst writtenEq
      have advance := (sound.rows _ (List.mem_of_getElem? found)).advance (by rw [ordered]; rfl)
      refine .inr ⟨_, _, _, .confirmation .., foundBooking, confirmBookingAfterPayment_bookings .., ?_⟩
      rw [confirmBookingAfterPayment_payments, rows, Effect.entry,
        ← Payment.entry_succeeded now paymentId advance open_]
      exact .set found (locked.payment.succeeded_origin now paymentId)
  | failed orderId paymentId found foundBooking ordered open_ rows writtenEq =>
      subst writtenEq
      refine .inr ⟨_, _, _, .failure .., foundBooking, markPaymentFailed_bookings .., ?_⟩
      rw [markPaymentFailed_payments, rows, Effect.entry, ← Payment.entry_markedFailed paymentId open_]
      exact .set found (Payment.markedFailed_origin ..)
  | refundSettled found foundBooking grounded bookings rows slots =>
      refine .inr ⟨_, _, _, .refund .., foundBooking, bookings, ?_⟩
      rw [rows]
      exact .settled sound found grounded
  | refundLost => exact .inl ⟨rfl, rfl⟩
  | workOrder found bookings payments slots =>
      refine .inr ⟨_, _, _, .workOrder .., found, bookings, ?_⟩
      rw [payments]
      exact .empty _ _
  | manuallyPaid now leadId reference positive found inserted bookings payments slots =>
      refine .inr ⟨_, _, _, .manualPayment .., found, bookings, ?_⟩
      rw [payments, inserted]
      exact .append _ _
  | balanceCollected now found from_ positive remaining inserted bookings payments slots =>
      refine .inr ⟨_, _, _, .balance .., found, bookings, ?_⟩
      rw [payments, inserted]
      exact .append _ _
  | slotSaved bookings payments slots => exact .inl ⟨bookings, payments⟩

structure SameMoney (before after : Booking) : Prop where
  totalAmount : after.totalAmount = before.totalAmount
  advancePaid : after.advancePaid = before.advancePaid
  balanceDue : after.balanceDue = before.balanceDue
  balanceCollected : after.balanceCollected = before.balanceCollected

theorem Transition.sameMoney {booking changed : Booking} (transition : Transition booking changed) :
    SameMoney booking changed := by
  cases transition <;> exact ⟨rfl, rfl, rfl, rfl⟩

theorem Transition.paymentStatus {booking changed : Booking} (transition : Transition booking changed) :
    changed.paymentStatus = booking.paymentStatus := by
  cases transition <;> rfl

theorem markedFailed_sameMoney (booking : Booking) : SameMoney booking booking.markedFailed := by
  obtain ⟨_, _, written⟩ := markedFailed_statuses booking
  rw [written]
  exact ⟨rfl, rfl, rfl, rfl⟩

theorem afterRefund_sameMoney (payments : List Payment) (sourceId : PaymentId) (source : Payment)
    (booking : Booking) : SameMoney booking (booking.afterRefund payments sourceId source) := by
  obtain ⟨_, _, written⟩ := afterRefund_statuses payments sourceId source booking
  rw [written]
  exact ⟨rfl, rfl, rfl, rfl⟩

theorem RoutinelyKept.of_money {property : Booking → Prop}
    (same : ∀ before after, SameMoney before after → after.paymentStatus = before.paymentStatus →
      property before → property after) : RoutinelyKept property where
  moved := fun booking _ _ _ => same booking _ ⟨rfl, rfl, rfl, rfl⟩ rfl
  transition := fun booking changed transition => same booking changed transition.sameMoney transition.paymentStatus

structure UnpaidBooking (booking : Booking) : Prop where
  advancePaid : booking.advancePaid = 0
  balanceCollected : booking.balanceCollected = 0
  balanceDue : booking.balanceDue = booking.totalAmount
  paymentStatus : booking.paymentStatus = .unpaid

theorem RoutinelyMade.of_unpaid {property : Booking → Prop}
    (unpaid : ∀ booking, UnpaidBooking booking → property booking) : RoutinelyMade property where
  fresh := fun booking fresh =>
    unpaid booking ⟨fresh.advancePaid, fresh.balanceCollected, fresh.balanceDue, fresh.paymentStatus⟩
  workOrder := fun booking lead service fresh => by
    apply unpaid
    unfold Booking.repriced Booking.asWorkOrder
    split
    · exact ⟨fresh.advancePaid, fresh.balanceCollected, fresh.balanceDue, fresh.paymentStatus⟩
    · exact ⟨fresh.advancePaid, fresh.balanceCollected, rfl, fresh.paymentStatus⟩

/-- Nothing negative is collected, and what is due is the price less the advance. -/
structure Booking.BalanceSound (booking : Booking) : Prop where
  collected : 0 ≤ booking.balanceCollected
  due : booking.balanceDue = booking.totalAmount - booking.advancePaid ∨
    (booking.balanceDue = 0 ∧ booking.totalAmount ≤ booking.advancePaid)

theorem Booking.BalanceSound.same {before after : Booking} (sound : before.BalanceSound)
    (money : SameMoney before after) : after.BalanceSound := by
  obtain ⟨totalAmount, advancePaid, balanceDue, balanceCollected⟩ := money
  constructor
  · rw [balanceCollected]
    exact sound.collected
  · rw [balanceDue, totalAmount, advancePaid]
    exact sound.due

theorem UnpaidBooking.balanceSound {booking : Booking} (unpaid : UnpaidBooking booking) : booking.BalanceSound := by
  obtain ⟨advancePaid, balanceCollected, balanceDue, _⟩ := unpaid
  constructor
  · exact Int.le_of_eq balanceCollected.symm
  · rw [advancePaid, balanceDue]
    exact .inl (Int.sub_zero _).symm

/-- What the code has checked of an amount before it records it. -/
def Effect.Checked : Effect → Prop
  | .manualPayment amount _ => 0 < amount
  | .balance _ booking amount _ => 0 < amount ∧ amount ≤ booking.balanceDue - booking.balanceCollected
  | _ => True

theorem Effective.checked {effect : Effect} {db next : Db} (written : Effective effect db next) : effect.Checked := by
  cases written with
  | manuallyPaid now leadId reference positive found inserted bookings payments slots => exact positive
  | balanceCollected now found from_ positive remaining inserted bookings payments slots => exact ⟨positive, remaining⟩
  | _ => trivial

theorem Booking.BalanceSound.rewritten {effect : Effect} {bookingId : BookingId} {before after : Booking}
    (sound : before.BalanceSound) (checked : effect.Checked)
    (rewrites : effect.Rewrites bookingId before after) : after.BalanceSound := by
  cases rewrites with
  | confirmation now changedBy locked payments =>
      exact ⟨sound.collected, .inl rfl⟩
  | failure locked payments =>
      exact sound.same (markedFailed_sameMoney _)
  | refund settlement =>
      exact sound.same (afterRefund_sameMoney _ _ _ _)
  | workOrder =>
      exact sound.same ⟨rfl, rfl, rfl, rfl⟩
  | manualPayment amount entry =>
      refine ⟨sound.collected, ?_⟩
      simp only [Booking.paidManually]
      unfold Money at *
      omega
  | balance _ _ amount payments =>
      have positive := checked.1
      have collected := sound.collected
      refine ⟨?_, sound.due⟩
      simp only [Booking.collected]
      unfold Money at *
      omega

def EveryAccount (property : Booking → Account → Prop) (db : Db) : Prop :=
  ∀ (bookingId : BookingId) (booking : Booking), db.bookings[bookingId]? = some booking →
    property booking (account db.payments.rows bookingId)

section

variable {property : Booking → Account → Prop} {db next : Db}

theorem EveryAccount.rewrite (holds : EveryAccount property db) {target : BookingId} {before after : Booking}
    {entry : Account} (found : db.bookings[target]? = some before)
    (bookings : next.bookings = db.bookings.set target after)
    (posted : Posted db.payments.rows next.payments.rows target entry)
    (kept : property before (account db.payments.rows target) →
      property after (account db.payments.rows target + entry)) : EveryAccount property next := by
  intro bookingId booking present
  rw [bookings] at present
  rw [posted bookingId]
  rcases set_cases present with ⟨rfl, rfl⟩ | old
  · rw [if_pos rfl]
    exact kept (holds _ before found)
  · by_cases isTarget : target = bookingId
    · subst isTarget
      rw [List.getElem?_set_self (List.getElem?_eq_some_iff.mp found).1, Option.some.injEq] at present
      rw [if_pos rfl, ← present]
      exact kept (holds _ before found)
    · rw [if_neg isTarget, Account.add_empty]
      exact holds bookingId booking old

theorem EveryAccount.create (holds : EveryAccount property db) (sound : PaymentsSound db) {added : Booking}
    (bookings : next.bookings = db.bookings ++ [added]) (payments : next.payments = db.payments)
    (new : property added .empty) : EveryAccount property next := by
  intro bookingId booking present
  rw [bookings] at present
  rw [payments]
  rcases append_cases present with old | ⟨rfl, rfl⟩
  · exact holds bookingId booking old
  · have absent : ∀ payment ∈ db.payments.rows, payment.booking ≠ db.bookings.length := by
      intro payment member isNew
      obtain ⟨booked, found, _⟩ := (sound.rows payment member).booked
      have below := (List.getElem?_eq_some_iff.mp found).1
      rw [isNew] at below
      exact Nat.lt_irrefl _ below
    rw [account_of_absent absent]
    exact new

theorem EveryAccount.same (holds : EveryAccount property db) (bookings : next.bookings = db.bookings)
    (payments : next.payments = db.payments) : EveryAccount property next := by
  unfold EveryAccount
  rw [bookings, payments]
  exact holds

theorem EveryAccount.transition (holds : EveryAccount property db) {target : BookingId} {before after : Booking}
    (found : db.bookings[target]? = some before) (bookings : next.bookings = db.bookings.set target after)
    (payments : next.payments = db.payments) (kept : ∀ account, property before account → property after account) :
    EveryAccount property next := by
  have posted : Posted db.payments.rows next.payments.rows target .empty := by
    rw [payments]
    exact .empty _ _
  refine holds.rewrite found bookings posted fun before => ?_
  rw [Account.add_empty]
  exact kept _ before

theorem EveryAccount.routine (kept : ∀ account, RoutinelyKept fun booking => property booking account)
    (made : RoutinelyMade fun booking => property booking .empty) (holds : EveryAccount property db)
    (sound : PaymentsSound db) (change : Routine db next) : EveryAccount property next := by
  cases change with
  | auxiliary bookings payments slots => exact holds.same bookings payments
  | slotAdded slot bookings payments slots => exact holds.same bookings payments
  | bookingCreated booking slot fresh found free bookings payments slots =>
      exact holds.create sound bookings payments (made.fresh booking fresh)
  | workOrderCreated booking slot lead service fresh found free bookings payments slots =>
      exact holds.create sound bookings payments (made.workOrder booking lead service fresh)
  | bookingMoved bookingId booking slotId slot found from_ foundSlot free bookings payments slots =>
      exact holds.transition found bookings payments fun account =>
        (kept account).moved booking slotId slot.date from_
  | transition bookingId booking changed found transition bookings payments slots =>
      exact holds.transition found bookings payments fun account =>
        (kept account).transition booking changed transition
  | orderCreated bookingId booking orderId key found awaiting bookings payments slots =>
      -- an order that nobody has paid yet is in no account
      have unpaid : (newAdvancePayment bookingId booking orderId key).entry = .empty := Payment.entry_of_unpaid rfl
      intro otherId other present
      rw [bookings] at present
      rw [payments, account_append, unpaid]
      have before := holds otherId other present
      split <;> simpa using before

end

structure SoundAccounts (property : Booking → Account → Prop) (db : Db) : Prop where
  sound : PaymentsSound db
  accounts : EveryAccount property db

/-- What a guarded run keeps of every booking and its account, by one goal for each way to rewrite them. -/
theorem accounts_invariant {settings : Settings} {condition : Db → Effect → Bool}
    {property : Booking → Account → Prop} (kept : ∀ account, RoutinelyKept fun booking => property booking account)
    (made : RoutinelyMade fun booking => property booking .empty)
    (rewritten : ∀ db effect bookingId before after, condition db effect = true → effect.Checked →
      effect.Rewrites bookingId before after → property before (account db.payments.rows bookingId) →
      property after (account db.payments.rows bookingId + effect.entry))
    {start : System} {ops : List Op} (initial : start.Initial)
    (guarded : Guarded (System.step settings) (Op.meets settings condition) start ops) :
    EveryAccount property (runAll (System.step settings) start ops).db := by
  have initially : SoundAccounts property start.db := by
    refine ⟨initial.paymentsSound, fun bookingId booking present => ?_⟩
    rw [initial.bookings] at present
    cases present
  have routine : ∀ db next, SoundAccounts property db → Routine db next → SoundAccounts property next := by
    intro db next holds change
    exact ⟨holds.sound.routine change, holds.accounts.routine kept made holds.sound change⟩
  refine (run_invariant routine (fun db next effect holds meets written => ?_) guarded initially).accounts
  refine ⟨holds.sound.effective written, ?_⟩
  rcases written.accounts holds.sound with
    ⟨bookings, payments⟩ | ⟨bookingId, before, after, rewrites, found, bookings, posted⟩
  · exact holds.accounts.same bookings payments
  · exact holds.accounts.rewrite found bookings posted
      (rewritten db effect bookingId before after meets written.checked rewrites)

end PsCore
