import PsCore.InvoiceAmounts
import PsCore.Lifecycle
import PsCore.Records

/-!
How long an invoice is available: from the full payment or the completion of a booking until the closing of the job, a
manual payment or a verification takes the one and the other back.
-/

namespace PsCore

open Fallible RowTable SerialCounter TransitionRun

structure Billing where
  platform : System
  tables : InvoiceTables

inductive BillingOp
  | work (op : Op)
  | issueInvoice (now : Instant) (bookingId : BookingId)

namespace Billing

def step (settings : Settings) (business : BusinessSettings) (state : Billing) : BillingOp → Billing
  | .work op => { state with platform := System.step settings state.platform op }
  | .issueInvoice now bookingId => match PsCore.issueInvoice business now bookingId state.platform.db state.tables with
      | .ok (_, tables) => { state with tables := tables }
      | .error _ => state

structure Initial (state : Billing) : Prop where
  platform : state.platform.Initial
  invoices : state.tables.invoices = []

end Billing

/-- The steps of a job and its money, and the loading of the lead that a manual payment is for. -/
def Op.worksOnJob : Op → Bool
  | .startBooking _ _ _ | .markTechnicianEnRoute _ _ _ | .completeBooking _ _ _ _ | .closeBooking _ _ _
  | .assignTechnician _ _ _ _ _ _ | .removeTechnicianAssignment _ _ _ _ | .recordBalanceCollection _ _ _ _ _ _
  | .recordManualLeadPayment _ _ _ _ _ _ | .verifyRazorpayPayment _ _ _ _ _ | .loadLead _ => true
  | .dispatchWebhook _ eventName _ => eventName == "payment.captured"
  | _ => false

abbrev JobOp := { op : Op // op.worksOnJob = true }

def JobOp.step (settings : Settings) (state : System) (op : JobOp) : System := System.step settings state op.1

/-! What takes an invoice back. -/

def Booking.IsInvoiceable (booking : Booking) : Prop :=
  booking.paymentStatus = .paid ∨ booking.bookingStatus = .completed

instance (booking : Booking) : Decidable booking.IsInvoiceable := inferInstanceAs (Decidable (_ ∨ _))

def Effect.worksOnJob : Effect → Bool
  | .confirmation _ _ _ _ | .failure _ _ | .manualPayment _ _ | .balance _ _ _ _ => true
  | _ => false

/-- A confirmation of the booking, a failure while it awaits its payment, and a manual payment that leaves a rest
before the job is completed. -/
def Effect.withdrawsInvoice (bookingId : BookingId) : Effect → Bool
  | .confirmation _ _ locked _ => locked.payment.booking == bookingId
  | .failure locked _ => locked.payment.booking == bookingId &&
      (locked.booking.bookingStatus == .pendingPayment || locked.booking.bookingStatus == .paymentFailed)
  | .manualPayment amount entry => entry.bookingId == bookingId && entry.booking.bookingStatus != .completed &&
      entry.booking.advancePaid + amount < entry.booking.totalAmount
  | _ => false

/-- A completed job that is not marked as paid is closed, or one of the effects. -/
def Op.withdrawsInvoice (settings : Settings) (bookingId : BookingId) (state : System) : Op → Bool
  | .closeBooking other _ _ => other == bookingId && (state.db.bookings[bookingId]?).any fun booking =>
      booking.bookingStatus == .completed && booking.paymentStatus != .paid
  | op => (op.effect settings state).any (Effect.withdrawsInvoice bookingId)

def InvoiceTables.hasInvoice (bookingId : BookingId) (tables : InvoiceTables) : Bool :=
  tables.invoices.any (·.booking == bookingId)

/-- The booking has its invoice already, or the step does not take it back. -/
def KeepsInvoice (settings : Settings) (tables : InvoiceTables) (bookingId : BookingId) (state : System)
    (op : JobOp) : Prop :=
  tables.hasInvoice bookingId = true ∨ op.1.withdrawsInvoice settings bookingId state = false

def InvoiceTables.Numbered (tables : InvoiceTables) : Prop :=
  ∀ invoice ∈ tables.invoices, ∃ serial, IssuedInvoice.Formed ⟨serial, invoice⟩ ∧
    serial < nextNumber invoice.financialYear tables.sequences

section

variable {business : BusinessSettings} {now : Instant} {bookingId : BookingId} {db : Db}
  {tables after : InvoiceTables} {invoice : Invoice}

theorem newInvoice_formed (business : BusinessSettings) (now : Instant) (bookingId : BookingId) (booking : Booking)
    (customer : User) (number : Nat) : IssuedInvoice.Formed
      ⟨number, newInvoice business now bookingId booking customer (financialYear (utcDate now)) number⟩ :=
  ⟨rfl, rfl⟩

theorem nextNumber_saved (label year : String) (sequences : List InvoiceSequence) :
    nextNumber year (yearlyCounter.saved ⟨label, nextNumber label sequences⟩ sequences) =
      if label = year then nextNumber label sequences + 1 else nextNumber year sequences := by
  by_cases same : label = year
  · subst same
    have saved : yearlyCounter.rowOf label (yearlyCounter.saved ⟨label, nextNumber label sequences⟩ sequences) =
        some ⟨label, nextNumber label sequences⟩ := Table.rowOf_saved _
    rw [if_pos rfl, nextNumber, saved]
    rfl
  · have kept : yearlyCounter.rowOf year (yearlyCounter.saved ⟨label, nextNumber label sequences⟩ sequences) =
        yearlyCounter.rowOf year sequences := Table.rowOf_saved_other same
    rw [if_neg same, nextNumber, kept]
    rfl

theorem Numbered.fresh (numbered : tables.Numbered) (booking : Booking) (customer : User) {other : Invoice}
    (member : other ∈ tables.invoices) : other.invoiceNumber ≠ (newInvoice business now bookingId booking customer
      (financialYear (utcDate now)) (nextNumber (financialYear (utcDate now)) tables.sequences)).invoiceNumber := by
  intro same
  obtain ⟨serial, formed, below⟩ := numbered other member
  have entries := formedInvoice_injective formed (newInvoice_formed ..) same
  obtain ⟨sameYear, sameSerial⟩ : other.financialYear = financialYear (utcDate now) ∧
      serial = nextNumber (financialYear (utcDate now)) tables.sequences := Prod.mk.inj entries
  rw [sameSerial, sameYear] at below
  exact Nat.lt_irrefl _ below

theorem issueInvoice_numbered (numbered : tables.Numbered)
    (issued : issueInvoice business now bookingId db tables = .ok (invoice, after)) : after.Numbered := by
  simp only [issueInvoice, lockForInvoice, accepted_bind, accepted_orRaise, accepted_pure] at issued
  obtain ⟨⟨booking, customer⟩, _, issued⟩ := issued
  simp only at issued
  split at issued
  · rw [accepted_pure, Prod.mk.injEq] at issued
    rw [← issued.2]
    exact numbered
  · simp only [accepted_bind, accepted_pure, Prod.mk.injEq] at issued
    obtain ⟨_, _, _, _, rfl, rfl⟩ := issued
    intro other member
    simp only [nextNumber_saved]
    rcases List.mem_append.mp member with old | new
    · obtain ⟨serial, formed, below⟩ := numbered other old
      refine ⟨serial, formed, ?_⟩
      split
      · rename_i same
        rw [← same] at below
        omega
      · exact below
    · rw [List.mem_singleton] at new
      subst new
      refine ⟨_, newInvoice_formed .., ?_⟩
      have sameYear : financialYear (utcDate now) = (newInvoice business now bookingId booking customer
          (financialYear (utcDate now)) (nextNumber (financialYear (utcDate now)) tables.sequences)).financialYear :=
        rfl
      rw [if_pos sameYear]
      exact Nat.lt_succ_self _

/-- The booking and its customer are there, and it has an invoice or may be given one. -/
def Issuable (db : Db) (tables : InvoiceTables) (bookingId : BookingId) : Prop :=
  ∃ booking customer, db.bookings[bookingId]? = some booking ∧
    db.directory.users[booking.customer]? = some customer ∧
    (tables.hasInvoice bookingId = true ∨ booking.IsInvoiceable)

theorem issueInvoice_isOk_iff (numbered : tables.Numbered) :
    (issueInvoice business now bookingId db tables).isOk = true ↔ Issuable db tables bookingId := by
  have present : tables.hasInvoice bookingId = true ↔
      ∃ existing, tables.invoices.find? (·.booking == bookingId) = some existing := by
    rw [InvoiceTables.hasInvoice, ← Option.isSome_iff_exists, List.find?_isSome, List.any_eq_true]
  rw [isOk_iff]
  constructor
  · rintro ⟨answer, issued⟩
    simp only [issueInvoice, lockForInvoice, accepted_bind, accepted_orRaise, accepted_pure] at issued
    obtain ⟨⟨booking, customer⟩, ⟨_, found, _, foundCustomer, isPair⟩, issued⟩ := issued
    obtain ⟨rfl, rfl⟩ := Prod.mk.inj isPair
    refine ⟨_, _, found, foundCustomer, ?_⟩
    simp only at issued
    split at issued
    · rename_i existing isExisting
      exact .inl (present.mpr ⟨existing, isExisting⟩)
    · simp only [Booking.requireInvoiceable, accepted_bind, accepted_require] at issued
      obtain ⟨_, invoiceable, _⟩ := issued
      exact .inr invoiceable
  · rintro ⟨booking, customer, found, foundCustomer, ground⟩
    have locked : lockForInvoice db bookingId = .ok (booking, customer) := by
      rw [lockForInvoice, found]
      simp only [orRaise, ok_bind, foundCustomer]
      rfl
    rw [issueInvoice, locked, ok_bind]
    simp only
    cases absent : tables.invoices.find? (·.booking == bookingId) with
    | some existing => exact ⟨_, rfl⟩
    | none =>
        have invoiceable : booking.IsInvoiceable := by
          rcases ground with has | invoiceable
          · obtain ⟨existing, isExisting⟩ := present.mp has
            rw [absent] at isExisting
            cases isExisting
          · exact invoiceable
        have unique : (newInvoice business now bookingId booking customer (financialYear (utcDate now))
            (nextNumber (financialYear (utcDate now)) tables.sequences)).requireUnique tables.invoices = .ok () := by
          refine accepted_require.mpr fun other member => ⟨fun sameBooking => ?_, Numbered.fresh numbered _ _ member⟩
          exact List.find?_eq_none.mp absent other member (beq_iff_eq.mpr sameBooking)
        have allowed : booking.requireInvoiceable = .ok () := accepted_require.mpr invoiceable
        simp only [allowed, ok_bind, unique]
        exact ⟨_, rfl⟩

end

/-! The booking after a step. -/

def Stays (keeps : Prop) (bookingId : BookingId) (before : Booking) (next : Db) : Prop :=
  ∃ after, next.bookings[bookingId]? = some after ∧ after.customer = before.customer ∧ (after.IsInvoiceable ↔ keeps)

/-- One booking is rewritten, and may be given an invoice if it could be given one before. -/
def KeepsInvoiceable (db next : Db) : Prop :=
  ∃ other booking changed, db.bookings[other]? = some booking ∧ next.bookings = db.bookings.set other changed ∧
    changed.customer = booking.customer ∧ (booking.IsInvoiceable → changed.IsInvoiceable)

section

variable {keeps : Prop} {bookingId other : BookingId} {before booking changed : Booking} {db next : Db}
  {settings : Settings} {state : System}

theorem Stays.same (found : db.bookings[bookingId]? = some before) (invoiceable : before.IsInvoiceable) (kept : keeps)
    (bookings : next.bookings = db.bookings) : Stays keeps bookingId before next :=
  ⟨before, by rw [bookings]; exact found, rfl, fun _ => kept, fun _ => invoiceable⟩

theorem Stays.rewritten (found : db.bookings[bookingId]? = some before) (invoiceable : before.IsInvoiceable)
    (foundOther : db.bookings[other]? = some booking) (bookings : next.bookings = db.bookings.set other changed)
    (customer : changed.customer = booking.customer) (elsewhere : other ≠ bookingId → keeps)
    (here : other = bookingId → booking = before → (changed.IsInvoiceable ↔ keeps)) :
    Stays keeps bookingId before next := by
  by_cases isBooking : other = bookingId
  · subst isBooking
    rw [found, Option.some.injEq] at foundOther
    subst foundOther
    refine ⟨changed, ?_, customer, here rfl rfl⟩
    rw [bookings, List.getElem?_set_self (List.getElem?_eq_some_iff.mp found).1]
  · refine ⟨before, ?_, rfl, fun _ => elsewhere isBooking, fun _ => invoiceable⟩
    rw [bookings, List.getElem?_set_ne isBooking, found]

theorem Stays.committed {α : Type} {transaction : Except ServiceError (α × Db)}
    (found : db.bookings[bookingId]? = some before) (invoiceable : before.IsInvoiceable) (kept : keeps)
    (written : ∀ result next, transaction = .ok (result, next) → KeepsInvoiceable db next) :
    Stays keeps bookingId before (commit db transaction).2 := by
  cases transaction with
  | error error => exact .same found invoiceable kept rfl
  | ok answer =>
      obtain ⟨other, booking, changed, foundOther, bookings, customer, keepsInvoice⟩ := written answer.1 answer.2 rfl
      refine .rewritten found invoiceable foundOther bookings customer (fun _ => kept) fun _ isBefore => ?_
      subst isBefore
      exact ⟨fun _ => kept, fun _ => keepsInvoice invoiceable⟩

theorem Booking.IsInvoiceable.unlessCompleted (invoiceable : booking.IsInvoiceable)
    (notCompleted : booking.bookingStatus ≠ .completed) (samePayment : changed.paymentStatus = booking.paymentStatus) :
    changed.IsInvoiceable := by
  rcases invoiceable with paid | completed
  · exact .inl (samePayment.trans paid)
  · exact absurd completed notCompleted

theorem statusIn_notCompleted {statuses : List BookingStatus} (member : statuses.contains booking.bookingStatus = true)
    (absent : statuses.contains .completed = false) : booking.bookingStatus ≠ .completed := by
  intro completed
  rw [completed, absent] at member
  cases member

theorem markedFailed_invoiceable (invoiceable : booking.IsInvoiceable) : booking.markedFailed.IsInvoiceable ↔
    ¬ (booking.bookingStatus = .pendingPayment ∨ booking.bookingStatus = .paymentFailed) := by
  unfold Booking.markedFailed
  by_cases awaiting : booking.bookingStatus = .pendingPayment ∨ booking.bookingStatus = .paymentFailed
  · rw [if_pos awaiting]
    simp [awaiting, Booking.IsInvoiceable]
  · rw [if_neg awaiting]
    simp only [invoiceable, awaiting, not_false_eq_true]

theorem paidManually_invoiceable (amount : Money) (booking : Booking) : (booking.paidManually amount).IsInvoiceable ↔
    booking.bookingStatus = .completed ∨ booking.totalAmount ≤ booking.advancePaid + amount := by
  have noRest : max 0 (booking.totalAmount - (booking.advancePaid + amount)) = 0 ↔
      booking.totalAmount ≤ booking.advancePaid + amount := by
    unfold Money at *
    omega
  unfold Booking.IsInvoiceable Booking.paidManually
  simp only [noRest]
  by_cases paid : booking.totalAmount ≤ booking.advancePaid + amount
  · simp [paid]
  · simp [paid]

theorem Effective.stays {effect : Effect} (found : db.bookings[bookingId]? = some before)
    (invoiceable : before.IsInvoiceable) (effective : Effective effect db next)
    (works : effect.worksOnJob = true) :
    Stays (effect.withdrawsInvoice bookingId = false) bookingId before next := by
  cases effective with
  | @confirmed _ _ now changedBy locked payments orderId paymentId foundPayment foundBooking ordered amount open_ rows
      written =>
      have bookings : next.bookings = db.bookings.set locked.payment.booking
          (locked.booking.confirmedBy now locked.payment.amount) := by
        rw [written, confirmBookingAfterPayment_bookings]
      refine .rewritten found invoiceable foundBooking bookings rfl (fun isOther => ?_) fun isBooking _ => ?_
      · simpa [Effect.withdrawsInvoice] using isOther
      · simp [Effect.withdrawsInvoice, isBooking, Booking.IsInvoiceable, Booking.confirmedBy]
  | @failed _ _ locked payments orderId paymentId foundPayment foundBooking ordered open_ rows written =>
      have bookings : next.bookings = db.bookings.set locked.payment.booking locked.booking.markedFailed := by
        rw [written, markPaymentFailed_bookings]
      have customer : locked.booking.markedFailed.customer = locked.booking.customer := by
        unfold Booking.markedFailed
        split <;> rfl
      refine .rewritten found invoiceable foundBooking bookings customer (fun isOther => ?_)
        fun isBooking isBefore => ?_
      · simp [Effect.withdrawsInvoice, isOther]
      · rw [markedFailed_invoiceable (isBefore ▸ invoiceable)]
        simp [Effect.withdrawsInvoice, isBooking]
  | @manuallyPaid _ _ amount entry now leadId reference positive foundBooking inserted bookings payments slots =>
      refine .rewritten found invoiceable foundBooking bookings rfl (fun isOther => ?_) fun isBooking isBefore => ?_
      · simp [Effect.withdrawsInvoice, isOther]
      · rw [paidManually_invoiceable]
        simp [Effect.withdrawsInvoice, isBooking, Decidable.or_iff_not_imp_left]
  | @balanceCollected _ _ other booking amount payments now foundBooking from_ positive remaining inserted bookings
      paymentsWritten slots =>
      refine .rewritten found invoiceable foundBooking bookings rfl (fun _ => rfl) fun _ isBefore => ?_
      subst isBefore
      refine ⟨fun _ => rfl, fun _ => ?_⟩
      rcases invoiceable with paid | completed
      · refine .inl ?_
        simp [Booking.collected, paid]
      · exact .inr completed
  | _ => cases works

theorem Stays.answered {effect : Option Effect} (found : db.bookings[bookingId]? = some before)
    (invoiceable : before.IsInvoiceable) (works : ∀ present, effect = some present → present.worksOnJob = true)
    (answered : (effect = none ∧ next = db) ∨ ∃ present, effect = some present ∧ Effective present db next) :
    Stays (effect.any (Effect.withdrawsInvoice bookingId) = false) bookingId before next := by
  rcases answered with ⟨rfl, rfl⟩ | ⟨present, rfl, effective⟩
  · exact .same found invoiceable rfl rfl
  · exact effective.stays found invoiceable (works present rfl)

theorem verificationEffect_worksOnJob {now : Instant} {orderId paymentId signature : String} {user : Option UserId}
    {effect : Effect}
    (isEffect : verificationEffect settings now orderId paymentId signature user db = some effect) :
    effect.worksOnJob = true := by
  rcases verificationEffect_kinds isEffect with ⟨_, _, rfl⟩ | ⟨_, _, rfl⟩ <;> rfl

theorem closeBooking_stays (other : BookingId) (changedBy : Option UserId) (notes : String)
    (found : state.db.bookings[bookingId]? = some before) (invoiceable : before.IsInvoiceable) :
    Stays (Op.withdrawsInvoice settings bookingId state (.closeBooking other changedBy notes) = false) bookingId before
      (System.step settings state (.closeBooking other changedBy notes)).db := by
  simp only [System.step, System.commit, Op.withdrawsInvoice, found, Option.any_some]
  cases closed : closeBooking other changedBy notes state.db with
  | error error =>
      refine .same found invoiceable ?_ rfl
      by_cases isBooking : other = bookingId
      · subst isBooking
        have notCompleted : before.bookingStatus ≠ .completed := by
          intro completed
          have accepted : (closeBooking other changedBy notes state.db).isOk = true := by
            simp only [closeBooking, lockBooking, found, orRaise, ok_bind, completed]
            rfl
          rw [closed] at accepted
          cases accepted
        simp [notCompleted]
      · simp [isBooking]
  | ok answer =>
      obtain ⟨_, next⟩ := answer
      obtain ⟨booking, from_, written⟩ := closeBooking_job closed
      have completed : booking.bookingStatus = .completed := by
        simpa [closableStatuses] using from_
      refine .rewritten found invoiceable written.found written.bookings rfl (fun isOther => ?_)
        fun isBooking isBefore => ?_
      · simp [isOther]
      · subst isBefore
        simp [isBooking, completed, Booking.IsInvoiceable]

theorem startBooking_keepsInvoiceable {changedBy : Option UserId} {notes : String}
    (accepted : startBooking other changedBy notes db = .ok ((), next)) : KeepsInvoiceable db next := by
  obtain ⟨booking, from_, _, written⟩ := startBooking_job accepted
  exact ⟨other, booking, _, written.found, written.bookings, rfl, fun invoiceable =>
    invoiceable.unlessCompleted (statusIn_notCompleted from_ rfl) rfl⟩

theorem markTechnicianEnRoute_keepsInvoiceable {changedBy : Option UserId} {notes : String}
    (accepted : markTechnicianEnRoute other changedBy notes db = .ok ((), next)) : KeepsInvoiceable db next := by
  obtain ⟨booking, from_, written⟩ := markTechnicianEnRoute_job accepted
  exact ⟨other, booking, _, written.found, written.bookings, rfl, fun invoiceable =>
    invoiceable.unlessCompleted (by rw [from_]; decide) rfl⟩

theorem completeBooking_keepsInvoiceable {now : Instant} {changedBy : Option UserId} {notes : String}
    (accepted : completeBooking settings now other changedBy notes db = .ok ((), next)) : KeepsInvoiceable db next := by
  obtain ⟨booking, _, _, _, written⟩ := completeBooking_job accepted
  exact ⟨other, booking, _, written.found, written.bookings, rfl, fun _ => .inr rfl⟩

theorem assignTechnician_keepsInvoiceable {now : Instant} {technicianId : TechnicianId} {assignedBy : Option UserId}
    {notes reason : String} {assignmentId : AssignmentId}
    (accepted : assignTechnician now other technicianId assignedBy notes reason db = .ok (assignmentId, next)) :
    KeepsInvoiceable db next := by
  obtain ⟨booking, _, _, _, _, from_, _, _, _, _, written⟩ := assignTechnician_job accepted
  exact ⟨other, booking, _, written.found, written.bookings, rfl, fun invoiceable =>
    invoiceable.unlessCompleted (statusIn_notCompleted from_ rfl) rfl⟩

theorem removeTechnicianAssignment_keepsInvoiceable {now : Instant} {changedBy : Option UserId} {notes : String}
    (accepted : removeTechnicianAssignment now other changedBy notes db = .ok ((), next)) :
    KeepsInvoiceable db next := by
  obtain ⟨booking, _, _, _, _, _, written⟩ := removeTechnicianAssignment_job accepted
  refine ⟨other, booking, _, written.found, written.bookings, rfl, fun invoiceable => ?_⟩
  rcases invoiceable with paid | completed
  · exact .inl paid
  · refine .inr ?_
    simp [completed, BookingStatus.withoutTechnician]

theorem recordBalanceCollection_stays (now : Instant) (other : BookingId) (amount : Money) (method : String)
    (changedBy : Option UserId) (notes : String) (found : state.db.bookings[bookingId]? = some before)
    (invoiceable : before.IsInvoiceable) :
    Stays (Op.withdrawsInvoice settings bookingId state
      (.recordBalanceCollection now other amount method changedBy notes) = false) bookingId before
      (System.step settings state (.recordBalanceCollection now other amount method changedBy notes)).db := by
  refine .answered found invoiceable (fun present isEffect => ?_) ?_
  · obtain ⟨_, _, rfl⟩ := Option.map_eq_some_iff.mp isEffect
    rfl
  · simp only [System.step, System.commit, Op.effect]
    cases entered : balanceEntry now other amount state.db with
    | error error =>
        refine .inl ⟨rfl, ?_⟩
        simp only [recordBalanceCollection, entered]
        rfl
    | ok entry =>
        refine .inr ⟨_, rfl, ?_⟩
        cases recorded : recordBalanceCollection now other amount method changedBy notes state.db with
        | error error =>
            simp only [recordBalanceCollection, entered] at recorded
            cases recorded
        | ok answer =>
            obtain ⟨_, _, isEntry, effective⟩ := recordBalanceCollection_effect recorded
            rw [entered, Except.ok.injEq] at isEntry
            subst isEntry
            exact effective

theorem recordManualLeadPayment_stays (now : Instant) (lead : Nat) (amount : Money) (method reference note : String)
    (found : state.db.bookings[bookingId]? = some before) (invoiceable : before.IsInvoiceable) :
    Stays (Op.withdrawsInvoice settings bookingId state
      (.recordManualLeadPayment now lead amount method reference note) = false) bookingId before
      (System.step settings state (.recordManualLeadPayment now lead amount method reference note)).db := by
  refine .answered found invoiceable (fun present isEffect => ?_) ?_
  · simp only [Op.effect] at isEffect
    split at isEffect
    · obtain ⟨_, _, rfl⟩ := Option.map_eq_some_iff.mp isEffect
      rfl
    · cases isEffect
  · simp only [System.step, System.commit, Op.effect]
    cases foundLead : state.loadedLeads[lead]? with
    | none => exact .inl ⟨rfl, rfl⟩
    | some loaded =>
        simp only [orRaise, ok_bind]
        cases entered : manualPaymentEntry now loaded amount method reference note state.db with
        | error error =>
            refine .inl ⟨rfl, ?_⟩
            simp only [recordManualLeadPayment, entered]
            rfl
        | ok entry =>
            refine .inr ⟨_, rfl, ?_⟩
            cases recorded : recordManualLeadPayment now loaded amount method reference note state.db with
            | error error =>
                simp only [recordManualLeadPayment, entered] at recorded
                cases recorded
            | ok answer =>
                obtain ⟨_, isEntry, effective⟩ := recordManualLeadPayment_effect recorded
                rw [entered, Except.ok.injEq] at isEntry
                subst isEntry
                exact effective

theorem verifyRazorpayPayment_stays (now : Instant) (orderId paymentId signature : String) (user : Option UserId)
    (found : db.bookings[bookingId]? = some before) (invoiceable : before.IsInvoiceable) :
    Stays ((verificationEffect settings now orderId paymentId signature user db).any
      (Effect.withdrawsInvoice bookingId) = false) bookingId before
      (verifyRazorpayPayment settings now orderId paymentId signature user db).2 := by
  refine .answered found invoiceable (fun present isEffect => ?_) (verifyRazorpayPayment_cases ..)
  exact verificationEffect_worksOnJob isEffect

theorem captureWebhook_stays (now : Instant) (payload : Json) (found : state.db.bookings[bookingId]? = some before)
    (invoiceable : before.IsInvoiceable) :
    Stays (Op.withdrawsInvoice settings bookingId state (.dispatchWebhook now "payment.captured" payload) = false)
      bookingId before (System.step settings state (.dispatchWebhook now "payment.captured" payload)).db := by
  simp only [System.step, Op.withdrawsInvoice, Op.effect, webhookEffect, dispatchWebhook, if_true]
  cases captured : capturedPayment payload state.db with
  | error error => exact .same found invoiceable rfl rfl
  | ok ids => exact verifyRazorpayPayment_stays now ids.1 ids.2 _ none found invoiceable

theorem jobOp_stays (settings : Settings) (op : Op) (works : op.worksOnJob = true)
    (found : state.db.bookings[bookingId]? = some before) (invoiceable : before.IsInvoiceable) :
    Stays (op.withdrawsInvoice settings bookingId state = false) bookingId before
      (System.step settings state op).db := by
  cases op with
  | startBooking other changedBy notes =>
      exact .committed found invoiceable rfl fun _ _ accepted => startBooking_keepsInvoiceable accepted
  | markTechnicianEnRoute other changedBy notes =>
      exact .committed found invoiceable rfl fun _ _ accepted => markTechnicianEnRoute_keepsInvoiceable accepted
  | completeBooking now other changedBy notes =>
      exact .committed found invoiceable rfl fun _ _ accepted => completeBooking_keepsInvoiceable accepted
  | assignTechnician now other technicianId assignedBy notes reason =>
      exact .committed found invoiceable rfl fun _ _ accepted => assignTechnician_keepsInvoiceable accepted
  | removeTechnicianAssignment now other changedBy notes =>
      exact .committed found invoiceable rfl fun _ _ accepted => removeTechnicianAssignment_keepsInvoiceable accepted
  | closeBooking other changedBy notes => exact closeBooking_stays other changedBy notes found invoiceable
  | recordBalanceCollection now other amount method changedBy notes =>
      exact recordBalanceCollection_stays now other amount method changedBy notes found invoiceable
  | recordManualLeadPayment now lead amount method reference note =>
      exact recordManualLeadPayment_stays now lead amount method reference note found invoiceable
  | verifyRazorpayPayment now orderId paymentId signature user =>
      exact verifyRazorpayPayment_stays now orderId paymentId signature user found invoiceable
  | dispatchWebhook now eventName payload =>
      simp only [Op.worksOnJob, beq_iff_eq] at works
      subst works
      exact captureWebhook_stays now payload found invoiceable
  | loadLead leadId => exact .same found invoiceable rfl (by rw [step_onlyLoads settings state rfl])
  | _ => cases works

theorem jobOp_issuable_iff {tables : InvoiceTables} {op : JobOp} (issuable : Issuable state.db tables bookingId) :
    Issuable (JobOp.step settings state op).db tables bookingId ↔
      KeepsInvoice settings tables bookingId state op := by
  obtain ⟨booking, customer, found, foundCustomer, ground⟩ := issuable
  have keepsRows : op.1.keepsRows state = true := by
    obtain ⟨op, works⟩ := op
    cases op <;> first | rfl | cases works
  have rows := (step_leaves settings state op.1).rowsKept keepsRows
  have stillUser : booking.customer < (JobOp.step settings state op).db.directory.users.length :=
    Nat.lt_of_lt_of_le (List.getElem?_eq_some_iff.mp foundCustomer).1 rows.users
  obtain ⟨user, foundUser⟩ : ∃ user, (JobOp.step settings state op).db.directory.users[booking.customer]? = some user :=
    ⟨_, List.getElem?_eq_getElem stillUser⟩
  by_cases invoiced : tables.hasInvoice bookingId = true
  · obtain ⟨after, foundAfter, sameCustomer⟩ := rows.bookings bookingId booking found
    refine ⟨fun _ => .inl invoiced, fun _ => ⟨after, user, foundAfter, ?_, .inl invoiced⟩⟩
    rw [sameCustomer]
    exact foundUser
  · have invoiceable : booking.IsInvoiceable := ground.resolve_left invoiced
    obtain ⟨after, foundAfter, sameCustomer, stays⟩ := jobOp_stays settings op.1 op.2 found invoiceable
    constructor
    · rintro ⟨row, _, isRow, _, later⟩
      have same := isRow.symm.trans foundAfter
      rw [Option.some.injEq] at same
      subst same
      exact .inr (stays.mp (later.resolve_left invoiced))
    · rintro (has | keeps)
      · exact absurd has invoiced
      · refine ⟨after, user, foundAfter, ?_, .inr (stays.mpr keeps)⟩
        rw [sameCustomer]
        exact foundUser

end

theorem billing_numbered {settings : Settings} {business : BusinessSettings} {start : Billing}
    (initial : start.Initial) (ops : List BillingOp) :
    (runAll (Billing.step settings business) start ops).tables.Numbered := by
  have preserved : ∀ (state : Billing) (op : BillingOp), state.tables.Numbered → True →
      (Billing.step settings business state op).tables.Numbered := by
    intro state op numbered _
    cases op with
    | work op => exact numbered
    | issueInvoice now bookingId =>
        simp only [Billing.step]
        split
        · rename_i issued
          exact issueInvoice_numbered numbered issued
        · exact numbered
  refine (Guarded.always (fun _ _ => trivial) start ops).invariant preserved fun invoice member => ?_
  rw [initial.invoices] at member
  cases member

/-- An available invoice stays available all along the steps of a job and its money, exactly if none of them takes it
back: while the booking has no invoice, a completed job is closed only once it is paid in full, a manual payment
before the completion leaves no rest, and the booking is not verified again. -/
theorem staysAvailable_iff {settings : Settings} {business : BusinessSettings} {start reached : Billing}
    {ops : List BillingOp} {now : Instant} {bookingId : BookingId} (initial : start.Initial)
    (isReached : runAll (Billing.step settings business) start ops = reached)
    (available : (issueInvoice business now bookingId reached.platform.db reached.tables).isOk = true)
    (later : List JobOp) :
    Guarded (JobOp.step settings) (KeepsInvoice settings reached.tables bookingId) reached.platform later ↔
      ∀ earlier rest, later = earlier ++ rest → ∀ moment, (issueInvoice business moment bookingId
        (runAll (JobOp.step settings) reached.platform earlier).db reached.tables).isOk = true := by
  have numbered : reached.tables.Numbered := by
    rw [← isReached]
    exact billing_numbered initial ops
  have issuable : Issuable reached.platform.db reached.tables bookingId := (issueInvoice_isOk_iff numbered).mp available
  have holds (state : System) (issuable : Issuable state.db reached.tables bookingId) (moment : Instant) :
      (issueInvoice business moment bookingId state.db reached.tables).isOk = true :=
    (issueInvoice_isOk_iff numbered).mpr issuable
  have preserved (state : System) (op : JobOp) (issuable : Issuable state.db reached.tables bookingId)
      (keeps : KeepsInvoice settings reached.tables bookingId state op) :
      Issuable (JobOp.step settings state op).db reached.tables bookingId :=
    (jobOp_issuable_iff issuable).mpr keeps
  have broken (state : System) (op : JobOp) (issuable : Issuable state.db reached.tables bookingId)
      (loses : ¬ KeepsInvoice settings reached.tables bookingId state op) :
      ¬ ∀ moment, (issueInvoice business moment bookingId (JobOp.step settings state op).db
        reached.tables).isOk = true := by
    intro still
    exact loses ((jobOp_issuable_iff issuable).mp ((issueInvoice_isOk_iff numbered).mp (still now)))
  exact Guarded.iff_throughout holds preserved broken issuable

instance (settings : Settings) (tables : InvoiceTables) (bookingId : BookingId) (state : System) (op : JobOp) :
    Decidable (KeepsInvoice settings tables bookingId state op) :=
  inferInstanceAs (Decidable (_ ∨ _))

def billingOf (platform : System) : Billing where
  platform := platform
  tables := noInvoices

def jobToItsEnd : List JobOp := [
  ⟨.startBooking 0 none "", rfl⟩,
  ⟨.completeBooking sampleNow 0 none "", rfl⟩,
  ⟨.closeBooking 0 none "", rfl⟩]

def settledBilling : Billing :=
  runAll (Billing.step sampleSettings sampleBusiness) (billingOf sampleSystem)
    ((sampleBookingBy 0 :: settledWith 80000).map .work)

theorem staysAvailable_iff_settled : (issueInvoice sampleBusiness sampleNow 0
    (runAll (JobOp.step sampleSettings) settledBilling.platform jobToItsEnd).db settledBilling.tables).isOk = true := by
  have available : (issueInvoice sampleBusiness sampleNow 0 settledBilling.platform.db settledBilling.tables).isOk =
      true := by decide
  exact (staysAvailable_iff ⟨sampleSystem_initial, rfl⟩ rfl available jobToItsEnd).mp (by decide) jobToItsEnd [] rfl
    sampleNow

def prepaidSystem : System :=
  { sampleSystem with db := { sampleSystem.db with directory := { sampleDirectory with
    services := [{ sampleService with advanceAmount := 100000, clean := by decide }] } } }

def prepaidJob : List Op := [
  sampleBookingBy 0,
  .createAdvancePaymentOrder 0 0 "payment-key-1" (.ok "order_1"),
  samplePaymentEvent "payment.captured" "order_1" "pay_1" 100000,
  .assignTechnician sampleNow 0 0 none "" "",
  .startBooking 0 none "",
  .completeBooking sampleNow 0 none ""]

theorem prepaidSystem_initial : prepaidSystem.Initial := by
  constructor <;> rfl

theorem closing_withdraws :
    ¬ ∀ (settings : Settings) (business : BusinessSettings) (start : Billing) (ops : List BillingOp)
      (now moment : Instant) (bookingId : BookingId) (later : List JobOp), start.Initial →
      (issueInvoice business now bookingId (runAll (Billing.step settings business) start ops).platform.db
        (runAll (Billing.step settings business) start ops).tables).isOk = true →
      (issueInvoice business moment bookingId
        (runAll (JobOp.step settings) (runAll (Billing.step settings business) start ops).platform later).db
        (runAll (Billing.step settings business) start ops).tables).isOk = true := by
  intro always
  have available := always sampleSettings sampleBusiness (billingOf prepaidSystem) (prepaidJob.map .work) sampleNow
    sampleNow 0 [⟨.closeBooking 0 none "", rfl⟩] ⟨prepaidSystem_initial, rfl⟩ (by decide)
  revert available
  decide

end PsCore
