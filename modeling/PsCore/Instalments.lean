import PsCore.Accounts
import PsCore.LeadRows

/-!
Instalments that the office records by hand on a converted lead, one call after another.
-/

namespace PsCore

open Fallible RowTable TransitionRun

structure Instalment where
  now : Instant
  amount : Money
  method : String
  reference : String
  note : String
  allowed : manualPaymentMethods.contains method = true
  positive : 0 < amount
  referenced : reference ≠ ""

def sumOfInstalments : List Instalment → Money
  | [] => 0
  | instalment :: rest => instalment.amount + sumOfInstalments rest

structure InstalmentPlan (totalAmount : Money) where
  instalments : List Instalment
  nonempty : instalments ≠ []
  references : (instalments.map Instalment.reference).Nodup
  within : sumOfInstalments instalments ≤ totalAmount

def InstalmentPlan.amount {totalAmount : Money} (plan : InstalmentPlan totalAmount) : Money :=
  sumOfInstalments plan.instalments

def Instalment.row (leadId : LeadId) (bookingId : BookingId) (instalment : Instalment) : Payment :=
  newManualPayment instalment.now leadId bookingId instalment.amount instalment.reference

/-- `columns` is what the database answers to the texts of a new row; some count the characters of a column. -/
def recordInstalment (columns : Payment → Except ServiceError Unit) (leadId : LeadId) (instalment : Instalment)
    (db : Db) : Except ServiceError Db := do
  let (paymentId, next) ← recordFreshPayment instalment.now leadId instalment.amount instalment.method
    instalment.reference instalment.note db
  let row ← orRaise next.payments.rows[paymentId]? (.doesNotExist "Payment")
  columns row
  pure next

def recordInstalments (columns : Payment → Except ServiceError Unit) (leadId : LeadId) :
    List Instalment → Db → Except ServiceError Db
  | [], db => .ok db
  | instalment :: rest, db => do
      let next ← recordInstalment columns leadId instalment db
      recordInstalments columns leadId rest next

/-- Every call succeeds, and in the end the booking holds the sum of what was recorded. -/
def InstalmentsAddUp (columns : Payment → Except ServiceError Unit) (leadId : LeadId) (bookingId : BookingId)
    {totalAmount : Money} (plan : InstalmentPlan totalAmount) (db : Db) : Prop :=
  ∃ next booking, recordInstalments columns leadId plan.instalments db = .ok next ∧
    next.bookings[bookingId]? = some booking ∧ booking.advancePaid = plan.amount ∧
    booking.balanceDue = totalAmount - plan.amount ∧ (booking.paymentStatus = .paid ↔ plan.amount = totalAmount)

/-! Whoever has paid an advance has a payment. -/

section

variable {db next : Db}

def HasPayments (rows : List Payment) (bookingId : BookingId) : Prop :=
  ∃ payment ∈ rows, payment.booking = bookingId

def AdvancesRecorded (db : Db) : Prop :=
  ∀ (bookingId : BookingId) (booking : Booking), db.bookings[bookingId]? = some booking →
    booking.advancePaid ≠ 0 → HasPayments db.payments.rows bookingId

theorem HasPayments.kept {rows after : List Payment} {bookingId : BookingId} (has : HasPayments rows bookingId)
    (kept : PaymentsKept rows after) : HasPayments after bookingId := by
  obtain ⟨payment, member, isOwn⟩ := has
  obtain ⟨paymentId, found⟩ := List.mem_iff_getElem?.mp member
  obtain ⟨stored, present, origin⟩ := kept paymentId payment found
  exact ⟨stored, List.mem_of_getElem? present, origin.booking.trans isOwn⟩

inductive AdvanceSource (db next : Db) (bookingId : BookingId) (after : Booking) : Prop
  | unpaid (zero : after.advancePaid = 0)
  | paid (has : HasPayments next.payments.rows bookingId)
  | same (before : Booking) (found : db.bookings[bookingId]? = some before)
      (advancePaid : after.advancePaid = before.advancePaid)

theorem AdvancesRecorded.change (recorded : AdvancesRecorded db)
    (kept : PaymentsKept db.payments.rows next.payments.rows)
    (sources : ∀ (bookingId : BookingId) (after : Booking), next.bookings[bookingId]? = some after →
      AdvanceSource db next bookingId after) : AdvancesRecorded next := by
  intro bookingId after found advanced
  cases sources bookingId after found with
  | unpaid zero => exact absurd zero advanced
  | paid has => exact has
  | same before foundBefore advancePaid =>
      rw [advancePaid] at advanced
      exact (recorded bookingId before foundBefore advanced).kept kept

theorem AdvanceSource.of_same (bookings : next.bookings = db.bookings) {bookingId : BookingId} {after : Booking}
    (found : next.bookings[bookingId]? = some after) : AdvanceSource db next bookingId after := by
  rw [bookings] at found
  exact .same after found rfl

theorem AdvanceSource.of_append {added : Booking} (bookings : next.bookings = db.bookings ++ [added])
    (zero : added.advancePaid = 0) {bookingId : BookingId} {after : Booking}
    (found : next.bookings[bookingId]? = some after) : AdvanceSource db next bookingId after := by
  rw [bookings] at found
  rcases append_cases found with old | ⟨_, rfl⟩
  · exact .same after old rfl
  · exact .unpaid zero

theorem AdvanceSource.of_set {target : BookingId} {before changed : Booking}
    (foundBefore : db.bookings[target]? = some before) (bookings : next.bookings = db.bookings.set target changed)
    (advanced : changed.advancePaid = before.advancePaid ∨ HasPayments next.payments.rows target)
    {bookingId : BookingId} {after : Booking} (found : next.bookings[bookingId]? = some after) :
    AdvanceSource db next bookingId after := by
  rw [bookings] at found
  rcases set_cases found with ⟨rfl, rfl⟩ | old
  · rcases advanced with same | has
    · exact .same before foundBefore same
    · exact .paid has
  · exact .same after old rfl

theorem Routine.advanceSource (change : Routine db next) {bookingId : BookingId} {after : Booking}
    (found : next.bookings[bookingId]? = some after) : AdvanceSource db next bookingId after := by
  have made : RoutinelyMade fun booking => booking.advancePaid = 0 := .of_unpaid fun _ unpaid => unpaid.advancePaid
  cases change with
  | auxiliary bookings payments slots => exact .of_same bookings found
  | slotAdded slot bookings payments slots => exact .of_same bookings found
  | bookingCreated booking slot fresh foundSlot free bookings payments slots =>
      exact .of_append bookings (made.fresh booking fresh) found
  | workOrderCreated booking slot lead service fresh foundSlot free bookings payments slots =>
      exact .of_append bookings (made.workOrder booking lead service fresh) found
  | bookingMoved target booking slotId slot foundBefore from_ foundSlot free bookings payments slots =>
      exact .of_set foundBefore bookings (.inl rfl) found
  | transition target booking changed foundBefore transition bookings payments slots =>
      exact .of_set foundBefore bookings (.inl transition.sameMoney.advancePaid) found
  | orderCreated target booking orderId key foundBefore awaiting bookings payments slots =>
      exact .of_same bookings found

theorem Effective.advanceSource {effect : Effect} (sound : PaymentsSound db) (written : Effective effect db next)
    {bookingId : BookingId} {after : Booking} (found : next.bookings[bookingId]? = some after) :
    AdvanceSource db next bookingId after := by
  have kept := written.paymentsKept sound
  rcases written.rewrites with same | ⟨target, before, changed, rewrites, foundBefore, bookings⟩
  · exact .of_same same found
  · refine .of_set foundBefore bookings ?_ found
    cases rewrites with
    | confirmation now changedBy locked payments =>
        right
        cases written with
        | confirmed orderId paymentId foundRow foundBooking ordered amount open_ rows isNext =>
            have has : HasPayments db.payments.rows locked.payment.booking :=
              ⟨locked.payment, List.mem_of_getElem? foundRow, rfl⟩
            exact has.kept kept
    | failure locked payments => exact .inl (markedFailed_sameMoney _).advancePaid
    | refund settlement => exact .inl (afterRefund_sameMoney ..).advancePaid
    | workOrder => exact .inl rfl
    | manualPayment amount entry =>
        right
        cases written with
        | manuallyPaid now leadId reference positive foundBooking inserted bookings payments slots =>
            refine ⟨newManualPayment now leadId entry.bookingId amount reference, ?_, rfl⟩
            rw [payments, inserted]
            exact List.mem_append_right _ (List.mem_singleton.mpr rfl)
    | balance => exact .inl rfl

/-- In every reachable state a booking without payments has no advance. -/
theorem advancesRecorded_run {settings : Settings} {start : System} (initial : start.Initial) (ops : List Op) :
    AdvancesRecorded (runAll (System.step settings) start ops).db := by
  have routine (db next : Db) (holds : PaymentsSound db ∧ AdvancesRecorded db) (change : Routine db next) :
      PaymentsSound next ∧ AdvancesRecorded next := by
    refine ⟨holds.1.routine change, holds.2.change change.paymentsKept fun bookingId after found => ?_⟩
    exact change.advanceSource found
  have initially : AdvancesRecorded start.db := by
    intro bookingId booking found
    rw [initial.bookings] at found
    cases found
  refine (run_invariant routine (fun db next effect holds _ written => ?_) (guarded_true settings start ops)
    ⟨initial.paymentsSound, initially⟩).2
  refine ⟨holds.1.effective written, holds.2.change (written.paymentsKept holds.1) fun bookingId after found => ?_⟩
  exact written.advanceSource holds.1 found

end

section

variable {columns : Payment → Except ServiceError Unit} {leadId : LeadId} {bookingId : BookingId} {db next : Db}

theorem Instalment.row_clashes (leadId : LeadId) (instalment : Instalment) {other : Payment} :
    other.clashes (instalment.row leadId bookingId) = true → other.booking = bookingId := by
  intro clashes
  simp only [Payment.clashes, sameValue, Instalment.row, newManualPayment, Bool.or_eq_true, Bool.and_eq_true,
    beq_iff_eq] at clashes
  rcases clashes with (((⟨isSome, isNone⟩ | ⟨isSome, isNone⟩) | ⟨isSome, isNone⟩) | active) | keyed
  · rw [isNone] at isSome
    cases isSome
  · rw [isNone] at isSome
    cases isSome
  · rw [isNone] at isSome
    cases isSome
  · exact active.1.1
  · exact keyed.1.1.1

theorem Instalment.rows_clash (leadId : LeadId) (first second : Instalment) :
    (first.row leadId bookingId).clashes (second.row leadId bookingId) = true := by
  have active (instalment : Instalment) : (instalment.row leadId bookingId).isActiveAdvance = true := rfl
  have sameBooking : (first.row leadId bookingId).booking == (second.row leadId bookingId).booking :=
    beq_self_eq_true bookingId
  simp only [Payment.clashes, active first, active second, sameBooking, Bool.and_self, Bool.or_true, Bool.true_or]

structure InstalmentRecorded (columns : Payment → Except ServiceError Unit) (leadId : LeadId) (instalment : Instalment)
    (db next : Db) (lead : Lead) (bookingId : BookingId) (booking : Booking) : Prop where
  found : db.leads[leadId]? = some lead
  converted : lead.convertedBooking = some bookingId
  booked : db.bookings[bookingId]? = some booking
  fresh : ∀ other ∈ db.payments.rows, ¬ other.clashes (instalment.row leadId bookingId) = true
  clean : (lead.paidManually instalment.now).fullCleanErrors db.leads (some leadId) = []
  fits : columns (instalment.row leadId bookingId) = .ok ()
  leads : next.leads = db.leads.set leadId (lead.paidManually instalment.now)
  bookings : next.bookings = db.bookings.set bookingId (booking.paidManually instalment.amount)
  payments : next.payments.rows = db.payments.rows ++ [instalment.row leadId bookingId]

theorem recordInstalment_recorded {instalment : Instalment}
    (accepted : recordInstalment columns leadId instalment db = .ok next) :
    ∃ lead bookingId booking, InstalmentRecorded columns leadId instalment db next lead bookingId booking := by
  simp only [recordInstalment, accepted_bind, accepted_orRaise, accepted_pure] at accepted
  obtain ⟨⟨_, _⟩, recorded, payment, foundPayment, _, fits, rfl⟩ := accepted
  obtain ⟨lead, bookingId, booking, payments, found, converted, booked, inserted, clean, rfl, rfl⟩ :=
    recordFreshPayment_cases recorded
  obtain ⟨rows, fresh⟩ := UniqueTable.insert?_some inserted
  have isNew : payment = instalment.row leadId bookingId := by
    simp only [rows] at foundPayment
    rw [List.getElem?_append_right (Nat.le_refl _), Nat.sub_self, List.getElem?_cons_zero] at foundPayment
    exact (Option.some.inj foundPayment).symm
  subst isNew
  exact ⟨lead, bookingId, booking, found, converted, booked, fresh, clean, fits, rfl, rfl, rows⟩

theorem recordInstalment_accepted {instalment : Instalment} {lead : Lead} {booking : Booking}
    (found : db.leads[leadId]? = some lead) (converted : lead.convertedBooking = some bookingId)
    (booked : db.bookings[bookingId]? = some booking)
    (fresh : ∀ other ∈ db.payments.rows, ¬ other.clashes (instalment.row leadId bookingId) = true)
    (clean : (lead.paidManually instalment.now).fullCleanErrors db.leads (some leadId) = [])
    (fits : columns (instalment.row leadId bookingId) = .ok ()) :
    ∃ next, recordInstalment columns leadId instalment db = .ok next := by
  obtain ⟨payments, inserted⟩ := UniqueTable.insert?_fresh fresh
  have rows := (UniqueTable.insert?_some inserted).1
  have stored : payments.rows[db.payments.rows.length]? = some (instalment.row leadId bookingId) := by
    rw [rows, List.getElem?_append_right (Nat.le_refl _), Nat.sub_self, List.getElem?_cons_zero]
  have entered (loaded : LoadedLead) (isLead : loaded.lead = lead) (isLeadId : loaded.leadId = leadId) :
      manualPaymentEntry instalment.now loaded instalment.amount instalment.method instalment.reference
        instalment.note db = .ok {
          bookingId := bookingId
          booking := booking
          payments := payments
          leads := db.leads.set leadId (lead.paidManually instalment.now)
        } := by
    simp only [manualPaymentEntry, isLead, isLeadId, accepted_bind, accepted_pure, accepted_orRaise,
      accepted_require, saveLead_iff]
    exact ⟨(), instalment.allowed, (), .inl instalment.referenced, (), instalment.positive, bookingId, converted,
      booking, booked, payments, inserted, lead, found, _, ⟨clean, rfl⟩, rfl⟩
  refine ⟨{ db with
    payments := payments
    bookings := db.bookings.set bookingId (booking.paidManually instalment.amount)
    leads := db.leads.set leadId (lead.paidManually instalment.now) }, ?_⟩
  simp only [recordInstalment, recordFreshPayment, loadLead, recordManualLeadPayment, accepted_bind, accepted_pure,
    accepted_orRaise]
  exact ⟨_, ⟨_, ⟨lead, found, rfl⟩, _, entered _ rfl rfl, rfl⟩, _, stored, (), fits, rfl⟩

theorem recordInstalments_cons {instalment : Instalment} {rest : List Instalment} :
    recordInstalments columns leadId (instalment :: rest) db = .ok next ↔
      ∃ middle, recordInstalment columns leadId instalment db = .ok middle ∧
        recordInstalments columns leadId rest middle = .ok next :=
  accepted_bind

theorem InstalmentRecorded.last {first second : Instalment} {middle : Db} {lead : Lead} {booking : Booking}
    (recorded : InstalmentRecorded columns leadId first db middle lead bookingId booking)
    (accepted : recordInstalment columns leadId second middle = .ok next) : False := by
  obtain ⟨later, target, _, again⟩ := recordInstalment_recorded accepted
  have sameLead : later = lead.paidManually first.now := by
    have found := again.found
    rw [recorded.leads, List.getElem?_set_self (List.getElem?_eq_some_iff.mp recorded.found).1] at found
    exact (Option.some.inj found).symm
  have sameBooking : target = bookingId := by
    have converted : (lead.paidManually first.now).convertedBooking = some target := sameLead ▸ again.converted
    exact Option.some.inj (converted.symm.trans recorded.converted)
  subst sameBooking
  have member : first.row leadId target ∈ middle.payments.rows := by
    rw [recorded.payments]
    exact List.mem_append_right _ (List.mem_singleton.mpr rfl)
  exact again.fresh _ member (first.rows_clash leadId second)

theorem Booking.paidManually_first {booking : Booking} {amount : Money} (unpaid : booking.advancePaid = 0)
    (within : amount ≤ booking.totalAmount) :
    (booking.paidManually amount).advancePaid = amount ∧
      (booking.paidManually amount).balanceDue = booking.totalAmount - amount ∧
      ((booking.paidManually amount).paymentStatus = .paid ↔ amount = booking.totalAmount) := by
  have left : max 0 (booking.totalAmount - amount) = booking.totalAmount - amount := by
    unfold Money at *
    omega
  simp only [Booking.paidManually, unpaid, Int.zero_add, left]
  refine ⟨trivial, trivial, ?_⟩
  by_cases settled : booking.totalAmount - amount = 0
  · rw [if_pos settled]
    constructor
    · intro _
      unfold Money at *
      omega
    · intro _
      rfl
  · rw [if_neg settled]
    constructor
    · intro isPaid
      cases isPaid
    · intro whole
      unfold Money at *
      omega

end

/-- Instalments add up exactly when there is one of them, and its texts fit the columns of the database. -/
theorem instalmentsAddUp_iff {settings : Settings} {start : System} (initial : start.Initial)
    (sound : LeadsSound start.db.leads) (ops : List Op) (columns : Payment → Except ServiceError Unit)
    {leadId : LeadId} {lead : Lead} {bookingId : BookingId} {booking : Booking} {totalAmount : Money}
    (found : (runAll (System.step settings) start ops).db.leads[leadId]? = some lead)
    (converted : lead.convertedBooking = some bookingId)
    (booked : (runAll (System.step settings) start ops).db.bookings[bookingId]? = some booking)
    (priced : booking.totalAmount = totalAmount)
    (unpaid : ¬ HasPayments (runAll (System.step settings) start ops).db.payments.rows bookingId)
    (plan : InstalmentPlan totalAmount) :
    InstalmentsAddUp columns leadId bookingId plan (runAll (System.step settings) start ops).db ↔
      ∃ only, plan.instalments = [only] ∧ columns (only.row leadId bookingId) = .ok () := by
  have leads : LeadsSound (runAll (System.step settings) start ops).db.leads := leadsSound_run sound ops
  have noAdvance : booking.advancePaid = 0 :=
    Decidable.byContradiction fun advanced =>
      unpaid (advancesRecorded_run initial ops bookingId booking booked advanced)
  subst priced
  generalize (runAll (System.step settings) start ops).db = db at found booked unpaid leads ⊢
  constructor
  · rintro ⟨next, after, accepted, _⟩
    cases listed : plan.instalments with
    | nil => exact absurd listed plan.nonempty
    | cons first rest =>
        rw [listed, recordInstalments_cons] at accepted
        obtain ⟨middle, recording, remaining⟩ := accepted
        obtain ⟨owner, target, _, recorded⟩ := recordInstalment_recorded recording
        have sameLead : owner = lead := Option.some.inj (recorded.found.symm.trans found)
        subst sameLead
        have sameBooking : target = bookingId := Option.some.inj (recorded.converted.symm.trans converted)
        subst sameBooking
        cases rest with
        | nil => exact ⟨first, rfl, recorded.fits⟩
        | cons second more =>
            obtain ⟨_, again, _⟩ := recordInstalments_cons.mp remaining
            exact (recorded.last again).elim
  · rintro ⟨only, listed, fits⟩
    have amount : plan.amount = only.amount := by
      rw [InstalmentPlan.amount, listed]
      exact Int.add_zero only.amount
    have within : only.amount ≤ booking.totalAmount := amount ▸ plan.within
    have fresh (other : Payment) (member : other ∈ db.payments.rows) :
        ¬ other.clashes (only.row leadId bookingId) = true :=
      fun clashes => unpaid ⟨other, member, only.row_clashes leadId clashes⟩
    have clean : (lead.paidManually only.now).fullCleanErrors db.leads (some leadId) = [] :=
      leads.clean_of_converted found rfl ⟨rfl, rfl, rfl⟩ (by rw [converted]; exact Option.some_ne_none _)
    obtain ⟨next, recording⟩ := recordInstalment_accepted found converted booked fresh clean fits
    obtain ⟨owner, target, stored, recorded⟩ := recordInstalment_recorded recording
    have sameLead : owner = lead := Option.some.inj (recorded.found.symm.trans found)
    subst sameLead
    have sameBooking : target = bookingId := Option.some.inj (recorded.converted.symm.trans converted)
    subst sameBooking
    have sameRow : stored = booking := Option.some.inj (recorded.booked.symm.trans booked)
    subst sameRow
    have accepted : recordInstalments columns leadId plan.instalments db = .ok next := by
      rw [listed, recordInstalments_cons]
      exact ⟨next, recording, rfl⟩
    have written : next.bookings[target]? = some (stored.paidManually only.amount) := by
      rw [recorded.bookings, List.getElem?_set_self (List.getElem?_eq_some_iff.mp booked).1]
    rw [InstalmentsAddUp, amount]
    exact ⟨next, _, accepted, written, Booking.paidManually_first noAdvance within⟩

def convertedLead : System := runAll (System.step sampleSettings) sampleSystem workOrdered

theorem convertedLead_unpaid : ∃ lead booking, convertedLead.db.leads[0]? = some lead ∧
    lead.convertedBooking = some 0 ∧ convertedLead.db.bookings[0]? = some booking ∧ booking.totalAmount = 100000 ∧
    ¬ HasPayments convertedLead.db.payments.rows 0 := by
  have isConverted : (convertedLead.db.leads[0]?).map Lead.convertedBooking = some (some 0) := by decide
  have isPriced : (convertedLead.db.bookings[0]?).map Booking.totalAmount = some 100000 := by decide
  have noRows : convertedLead.db.payments.rows = [] := by decide
  obtain ⟨lead, found, converted⟩ := Option.map_eq_some_iff.mp isConverted
  obtain ⟨booking, booked, priced⟩ := Option.map_eq_some_iff.mp isPriced
  refine ⟨lead, booking, found, converted, booked, priced, ?_⟩
  rintro ⟨payment, member, _⟩
  rw [noRows] at member
  cases member

theorem sampleSystem_leadsSound : LeadsSound sampleSystem.db.leads := by
  have none : sampleSystem.db.leads = [] := rfl
  rw [none]
  exact .nil

def anyText (_ : Payment) : Except ServiceError Unit := .ok ()

def singleInstalment : InstalmentPlan 100000 where
  instalments := [{
    now := sampleNow
    amount := 30000
    method := "MANUAL_CASH"
    reference := "A"
    note := ""
    allowed := by decide
    positive := by decide
    referenced := by decide
  }]
  nonempty := nofun
  references := by decide
  within := by decide

theorem instalmentsAddUp_iff_single : InstalmentsAddUp anyText 0 0 singleInstalment convertedLead.db := by
  obtain ⟨lead, booking, found, converted, booked, priced, unpaid⟩ := convertedLead_unpaid
  exact (instalmentsAddUp_iff sampleSystem_initial sampleSystem_leadsSound workOrdered anyText found converted booked
    priced unpaid singleInstalment).mpr ⟨_, rfl, rfl⟩

def doubleInstalment : InstalmentPlan 100000 where
  instalments := singleInstalment.instalments ++ [{
    now := sampleNow
    amount := 70000
    method := "MANUAL_UPI"
    reference := "B"
    note := ""
    allowed := by decide
    positive := by decide
    referenced := by decide
  }]
  nonempty := nofun
  references := by decide
  within := by decide

theorem second_instalment_refused :
    ¬ ∀ (settings : Settings) (start : System) (ops : List Op) (leadId : LeadId) (lead : Lead) (bookingId : BookingId)
      (booking : Booking) (totalAmount : Money) (plan : InstalmentPlan totalAmount), start.Initial →
      LeadsSound start.db.leads → (runAll (System.step settings) start ops).db.leads[leadId]? = some lead →
      lead.convertedBooking = some bookingId →
      (runAll (System.step settings) start ops).db.bookings[bookingId]? = some booking →
      booking.totalAmount = totalAmount →
      ¬ HasPayments (runAll (System.step settings) start ops).db.payments.rows bookingId →
      InstalmentsAddUp anyText leadId bookingId plan (runAll (System.step settings) start ops).db := by
  intro always
  obtain ⟨lead, booking, found, converted, booked, priced, unpaid⟩ := convertedLead_unpaid
  obtain ⟨next, _, accepted, _⟩ := always sampleSettings sampleSystem workOrdered 0 lead 0 booking 100000
    doubleInstalment sampleSystem_initial sampleSystem_leadsSound found converted booked priced unpaid
  have refused : (recordInstalments anyText 0 doubleInstalment.instalments convertedLead.db).isOk = false := by decide
  have answered : recordInstalments anyText 0 doubleInstalment.instalments convertedLead.db = .ok next := accepted
  rw [answered] at refused
  cases refused

end PsCore
