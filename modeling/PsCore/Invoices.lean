import PsCore.CheckoutCore
import PsCore.SerialTexts
import PsCore.Library.SerialCounter
import PsCore.Library.TransitionRun
import Mathlib.Data.List.InsertIdx
import Mathlib.Data.List.Nodup

/-!
The invoices. A call locks the row of its booking and then the counter of the financial year; the statements of
other transactions come between its own.
-/

namespace PsCore

open Fallible SerialCounter TransitionRun

structure InvoiceSequence where
  financialYear : String
  currentNumber : Nat
  deriving DecidableEq, Repr

structure Invoice where
  booking : BookingId
  invoiceNumber : String
  financialYear : String
  sellerName : String
  sellerGstin : String
  sellerAddress : String
  customerName : String
  customerPhone : String
  taxableValue : Money
  cgstAmount : Money
  sgstAmount : Money
  igstAmount : Money
  totalAmount : Money
  issuedAt : Instant
  deriving DecidableEq, Repr

structure BusinessSettings where
  businessLegalName : String
  businessGstin : String
  businessAddress : String

structure InvoiceTables where
  invoices : List Invoice
  sequences : List InvoiceSequence

def yearlyCounter : Table InvoiceSequence String where
  key := InvoiceSequence.financialYear
  value := InvoiceSequence.currentNumber

/-- `timezone.now().date()`, which is the date in UTC. -/
def utcDate (now : Instant) : Date := (now - utcOffset) / day

def financialYear (date : Date) : String :=
  let (year, month, _) := civil date
  let start := if 4 ≤ month then year else year - 1
  let next := (toString (start + 1)).toList
  toString start ++ "-" ++ String.ofList (next.drop (next.length - 2))

example : financialYear 20543 = "2025-26" ∧ financialYear 20544 = "2026-27" ∧ financialYear 10957 = "1999-00" := by
  decide

def lockForInvoice (db : Db) (bookingId : BookingId) : Except ServiceError (Booking × User) := do
  let booking ← orRaise db.bookings[bookingId]? (.doesNotExist "Booking")
  let customer ← orRaise db.directory.users[booking.customer]? (.doesNotExist "User")
  pure (booking, customer)

def Booking.requireInvoiceable (booking : Booking) : Except ServiceError Unit :=
  require (booking.paymentStatus = .paid ∨ booking.bookingStatus = .completed)
    (.validation "Invoice is available after full payment or service completion.")

def nextNumber (label : String) (sequences : List InvoiceSequence) : Nat :=
  ((yearlyCounter.rowOf label sequences).map (·.currentNumber)).getD 0 + 1

def newInvoice (business : BusinessSettings) (issuedAt : Instant) (bookingId : BookingId) (booking : Booking)
    (customer : User) (label : String) (number : Nat) : Invoice :=
  let cgst := roundHalfEven booking.taxAmount 2
  { booking := bookingId
    invoiceNumber := "PS/" ++ label ++ "/" ++ padded 6 number
    financialYear := label
    sellerName := business.businessLegalName
    sellerGstin := business.businessGstin
    sellerAddress := business.businessAddress
    customerName := orText (strip (customer.displayName.getD ""))
      (orText (strip (joinParts " " [customer.firstName, customer.lastName])) customer.phoneNumber)
    customerPhone := customer.phoneNumber
    taxableValue := booking.subtotal - booking.discountAmount
    cgstAmount := cgst
    sgstAmount := booking.taxAmount - cgst
    igstAmount := 0
    totalAmount := booking.totalAmount
    issuedAt }

def Invoice.requireUnique (invoice : Invoice) (invoices : List Invoice) : Except ServiceError Unit :=
  require (∀ other ∈ invoices, other.booking ≠ invoice.booking ∧ other.invoiceNumber ≠ invoice.invoiceNumber)
    (.integrity "Invoice")

def issueInvoice (business : BusinessSettings) (now : Instant) (bookingId : BookingId) (db : Db)
    (tables : InvoiceTables) : Except ServiceError (Invoice × InvoiceTables) := do
  let (booking, customer) ← lockForInvoice db bookingId
  match tables.invoices.find? (·.booking == bookingId) with
  | some existing => pure (existing, tables)
  | none =>
      booking.requireInvoiceable
      let label := financialYear (utcDate now)
      let number := nextNumber label tables.sequences
      let invoice := newInvoice business now bookingId booking customer label number
      invoice.requireUnique tables.invoices
      pure (invoice, {
        invoices := tables.invoices ++ [invoice]
        sequences := yearlyCounter.saved ⟨label, number⟩ tables.sequences })

/-! The transactions. -/

/-- An invoice with the serial that its number was made from. -/
structure IssuedInvoice where
  serial : Nat
  invoice : Invoice

inductive IssueStage
  | idle
  /-- The row of the booking is locked. -/
  | locked (bookingId : BookingId) (booking : Booking) (customer : User)
  | payable (bookingId : BookingId) (booking : Booking) (customer : User)
  /-- The row of the counter is saved; `earlier` is what a rollback of this call goes back to. -/
  | numbered (serial : Nat) (invoice : Invoice) (earlier : List InvoiceSequence)

def IssueStage.booking : IssueStage → Option BookingId
  | .idle => none
  | .locked bookingId _ _ | .payable bookingId _ _ => some bookingId
  | .numbered _ invoice _ => some invoice.booking

/-- One connection: what its transaction has written and answered, and the bookings that its earlier calls have
locked. -/
structure InvoiceSession where
  locks : List BookingId
  invoices : List IssuedInvoice
  sequences : List InvoiceSequence
  answers : List (BookingId × Invoice)
  stage : IssueStage

def InvoiceSession.fresh : InvoiceSession where
  locks := []
  invoices := []
  sequences := []
  answers := []
  stage := .idle

/-- The answers are those of the calls whose transactions are committed. -/
structure Invoices where
  invoices : List IssuedInvoice
  sequences : List InvoiceSequence
  answers : List (BookingId × Invoice)
  sessions : List InvoiceSession

/-- The other tables of the database are as they may be when the booking is locked. -/
inductive IssueStep
  | lock (session : Nat) (bookingId : BookingId) (rest : Db)
  | check (session : Nat)
  | number (session : Nat) (now : Instant)
  | insert (session : Nat)
  | fail (session : Nat)
  | commit (session : Nat)
  | rollback (session : Nat)

namespace InvoiceSession

def heldLocks (session : InvoiceSession) : List BookingId :=
  session.locks ++ session.stage.booking.toList

/-- The call is rolled back to where it began; the transaction goes on. -/
def failed (session : InvoiceSession) : InvoiceSession :=
  match session.stage with
  | .numbered _ _ earlier => { session with sequences := earlier, stage := .idle }
  | .idle | .locked _ _ _ | .payable _ _ _ => { session with stage := .idle }

def answered (bookingId : BookingId) (invoice : Invoice) (session : InvoiceSession) : InvoiceSession :=
  { session with
    locks := session.locks ++ [bookingId]
    answers := session.answers ++ [(bookingId, invoice)]
    stage := .idle }

end InvoiceSession

namespace Invoices

def visible (state : Invoices) (session : InvoiceSession) : List Invoice :=
  (state.invoices ++ session.invoices).map (·.invoice)

def isBookingLocked (state : Invoices) (session : Nat) (bookingId : BookingId) : Bool :=
  (state.sessions.eraseIdx session).any fun other => other.heldLocks.contains bookingId

def isYearLocked (state : Invoices) (session : Nat) (label : String) : Bool :=
  (state.sessions.eraseIdx session).any fun other => (yearlyCounter.rowOf label other.sequences).isSome

end Invoices

namespace InvoiceSession

def check (state : Invoices) (session : InvoiceSession) : InvoiceSession :=
  match session.stage with
  | .locked bookingId booking customer =>
      match (state.visible session).find? (·.booking == bookingId), booking.requireInvoiceable with
      | some existing, _ => session.answered bookingId existing
      | none, .ok () => { session with stage := .payable bookingId booking customer }
      | none, .error _ => session.failed
  | .idle | .payable _ _ _ | .numbered _ _ _ => session

def number (business : BusinessSettings) (now : Instant) (state : Invoices) (bookingId : BookingId)
    (booking : Booking) (customer : User) (session : InvoiceSession) : InvoiceSession :=
  let label := financialYear (utcDate now)
  let serial := nextNumber label (yearlyCounter.overlaid session.sequences state.sequences)
  { session with
    sequences := yearlyCounter.saved ⟨label, serial⟩ session.sequences
    stage := .numbered serial (newInvoice business now bookingId booking customer label serial) session.sequences }

def insert (state : Invoices) (session : InvoiceSession) : InvoiceSession :=
  match session.stage with
  | .numbered serial invoice _ => match invoice.requireUnique (state.visible session) with
      | .ok () =>
          let written : InvoiceSession := { session with invoices := session.invoices ++ [⟨serial, invoice⟩] }
          written.answered invoice.booking invoice
      | .error _ => session.failed
  | .idle | .locked _ _ _ | .payable _ _ _ => session

end InvoiceSession

namespace Invoices

def step (business : BusinessSettings) (state : Invoices) : IssueStep → Invoices
  | .lock position bookingId rest => match state.sessions[position]? with
      | some session => match session.stage, lockForInvoice rest bookingId with
          | .idle, .ok (booking, customer) =>
              if state.isBookingLocked position bookingId then state
              else
                let next := { session with stage := .locked bookingId booking customer }
                { state with sessions := state.sessions.set position next }
          | _, _ => state
      | none => state
  | .check position => match state.sessions[position]? with
      | some session => { state with sessions := state.sessions.set position (session.check state) }
      | none => state
  | .number position now => match state.sessions[position]? with
      | some session => match session.stage with
          | .payable bookingId booking customer =>
              if state.isYearLocked position (financialYear (utcDate now)) then state
              else
                let next := session.number business now state bookingId booking customer
                { state with sessions := state.sessions.set position next }
          | _ => state
      | none => state
  | .insert position => match state.sessions[position]? with
      | some session => { state with sessions := state.sessions.set position (session.insert state) }
      | none => state
  | .fail position => match state.sessions[position]? with
      | some session => { state with sessions := state.sessions.set position session.failed }
      | none => state
  | .commit position => match state.sessions[position]? with
      | some session => match session.stage with
          | .idle => {
              invoices := state.invoices ++ session.invoices
              sequences := yearlyCounter.overlaid session.sequences state.sequences
              answers := state.answers ++ session.answers
              sessions := state.sessions.set position .fresh }
          | _ => state
      | none => state
  | .rollback position => match state.sessions[position]? with
      | some _ => { state with sessions := state.sessions.set position .fresh }
      | none => state

def Initial (state : Invoices) : Prop :=
  state.invoices = [] ∧ state.sequences = [] ∧ state.answers = [] ∧ ∀ session ∈ state.sessions, session = .fresh

end Invoices

def InFinancialYear (start : Nat) (date : Date) : Prop :=
  ((civil date).1 = start ∧ 4 ≤ (civil date).2.1) ∨ ((civil date).1 = start + 1 ∧ (civil date).2.1 ≤ 3)

structure InvoicedGaplessly (state : Invoices) : Prop where
  single : (state.invoices.map (·.invoice.booking)).Nodup
  answered : ∀ answer ∈ state.answers, ∃ issued ∈ state.invoices,
    issued.invoice = answer.2 ∧ issued.invoice.booking = answer.1
  found : ∀ session ∈ state.sessions, ∀ issued ∈ state.invoices,
    (state.visible session).find? (·.booking == issued.invoice.booking) = some issued.invoice
  distinct : (state.invoices.map (·.invoice.invoiceNumber)).Nodup
  dated : ∀ issued ∈ state.invoices,
    issued.invoice.financialYear = financialYear (utcDate issued.invoice.issuedAt)
  gapless : ∀ label, let year := state.invoices.filter (·.invoice.financialYear = label)
    year.map (·.invoice.invoiceNumber) =
      (List.range' 1 year.length).map fun serial => "PS/" ++ label ++ "/" ++ padded 6 serial

theorem append_separator_inj {separator : Char} {first second restFirst restSecond : List Char}
    (absentFirst : separator ∉ first) (absentSecond : separator ∉ second)
    (same : first ++ separator :: restFirst = second ++ separator :: restSecond) :
    first = second ∧ restFirst = restSecond := by
  have before (text rest : List Char) (absent : separator ∉ text) :
      (text ++ separator :: rest).takeWhile (· ≠ separator) = text := by
    rw [List.takeWhile_append_of_pos (fun character member => by
      simp only [ne_eq, decide_eq_true_eq]
      rintro rfl
      exact absent member)]
    simp
  have firstEq : first = second := by
    rw [← before first restFirst absentFirst, same, before second restSecond absentSecond]
  subst firstEq
  exact ⟨rfl, by simpa using same⟩

theorem toString_isDigit {number : Nat} {character : Char} (member : character ∈ (toString number).toList) :
    character.isDigit = true := by
  have digits : character ∈ (Nat.repr number).toList := member
  rw [Nat.repr, String.toList_ofList] at digits
  exact Nat.isDigit_of_mem_toDigits (by decide) (by decide) digits

theorem toString_injective {first second : Nat} (same : (toString first).toList = (toString second).toList) :
    first = second := by
  have digits : (Nat.repr first).toList = (Nat.repr second).toList := same
  rw [Nat.repr, Nat.repr, String.toList_ofList, String.toList_ofList] at digits
  rw [← Nat.ofDigitChars_ten_toDigits (n := first), digits, Nat.ofDigitChars_ten_toDigits]

def startYear (date : Date) : Nat := if 4 ≤ (civil date).2.1 then (civil date).1 else (civil date).1 - 1

theorem financialYear_toList (date : Date) : ∃ next : List Char,
    (financialYear date).toList = (toString (startYear date)).toList ++ '-' ::
      next.drop (next.length - 2) ∧ next = (toString (startYear date + 1)).toList := by
  refine ⟨_, ?_, rfl⟩
  simp [financialYear, startYear]

theorem financialYear_eq_iff (first second : Date) :
    financialYear first = financialYear second ↔ startYear first = startYear second := by
  constructor
  · intro same
    obtain ⟨_, firstText, -⟩ := financialYear_toList first
    obtain ⟨_, secondText, -⟩ := financialYear_toList second
    rw [same, secondText] at firstText
    have noDash (year : Nat) : '-' ∉ (toString year).toList := fun member => by
      cases toString_isDigit member
    exact (toString_injective (append_separator_inj (noDash _) (noDash _) firstText).1).symm
  · intro same
    have text (date : Date) : financialYear date =
        let next := (toString (startYear date + 1)).toList
        toString (startYear date) ++ "-" ++ String.ofList (next.drop (next.length - 2)) := rfl
    rw [text, text, same]

theorem slash_not_mem_financialYear (date : Date) : '/' ∉ (financialYear date).toList := by
  obtain ⟨next, text, isNext⟩ := financialYear_toList date
  rw [text]
  intro member
  rcases List.mem_append.mp member with digit | rest
  · cases toString_isDigit digit
  · rcases List.mem_cons.mp rest with dash | digit
    · cases dash
    · rw [isNext] at digit
      cases toString_isDigit (List.mem_of_mem_drop digit)

theorem civil_positive (date : Date) : 0 < (civil date).1 := by
  have era : 4 ≤ (date + 719468) / 146097 :=
    (Nat.le_div_iff_mul_le (by decide)).mpr (Nat.le_trans (by decide) (Nat.le_add_left 719468 date))
  have year (month yearOfEra : Nat) :
      0 < if month ≤ 2 then yearOfEra + (date + 719468) / 146097 * 400 + 1
        else yearOfEra + (date + 719468) / 146097 * 400 := by
    split <;> omega
  exact year _ _

theorem startYear_iff (date : Date) (start : Nat) : InFinancialYear start date ↔ startYear date = start := by
  have positive := civil_positive date
  unfold InFinancialYear startYear
  split <;> omega

/-- Two dates bear the same label exactly when they lie in the same April-to-March year. -/
theorem financialYear_eq_iff_same (first second : Date) :
    financialYear first = financialYear second ↔
      ∃ start, InFinancialYear start first ∧ InFinancialYear start second := by
  rw [financialYear_eq_iff]
  constructor
  · intro same
    exact ⟨startYear first, (startYear_iff first _).mpr rfl, (startYear_iff second _).mpr same.symm⟩
  · rintro ⟨start, inFirst, inSecond⟩
    rw [(startYear_iff first start).mp inFirst, (startYear_iff second start).mp inSecond]

def IssuedInvoice.entry (issued : IssuedInvoice) : String × Nat :=
  (issued.invoice.financialYear, issued.serial)

structure IssuedInvoice.Formed (issued : IssuedInvoice) : Prop where
  dated : issued.invoice.financialYear = financialYear (utcDate issued.invoice.issuedAt)
  number : issued.invoice.invoiceNumber = "PS/" ++ issued.invoice.financialYear ++ "/" ++ padded 6 issued.serial

namespace InvoiceSession

def inHand (session : InvoiceSession) : Option IssuedInvoice :=
  match session.stage with
  | .numbered serial invoice _ => some { serial, invoice }
  | .idle | .locked _ _ _ | .payable _ _ _ => none

def held (session : InvoiceSession) : List IssuedInvoice :=
  session.invoices ++ session.inHand.toList

def savepoint (session : InvoiceSession) : Option (Nat × List InvoiceSequence) :=
  match session.stage with
  | .numbered _ _ earlier => some (session.invoices.length, earlier)
  | .idle | .locked _ _ _ | .payable _ _ _ => none

def transaction (session : InvoiceSession) : Transaction InvoiceSequence String where
  taken := session.held.map (·.entry)
  rows := session.sequences
  savepoint := session.savepoint

end InvoiceSession

def Invoices.office (state : Invoices) : Office InvoiceSequence String where
  issued := state.invoices.map (·.entry)
  rows := state.sequences
  transactions := state.sessions.map (·.transaction)

structure SessionSound (invoices : List IssuedInvoice) (session : InvoiceSession) : Prop where
  formed : ∀ issued ∈ session.held, issued.Formed
  locked : ∀ issued ∈ session.invoices, issued.invoice.booking ∈ session.locks
  single : ((invoices ++ session.held).map (·.invoice.booking)).Nodup
  uninvoiced : ∀ bookingId booking customer, session.stage = .payable bookingId booking customer →
    bookingId ∉ (invoices ++ session.invoices).map (·.invoice.booking)
  answered : ∀ answer ∈ session.answers, ∃ issued ∈ invoices ++ session.invoices,
    issued.invoice = answer.2 ∧ issued.invoice.booking = answer.1

structure WellIssued (state : Invoices) : Prop where
  kept : state.office.Kept yearlyCounter
  formed : ∀ issued ∈ state.invoices, issued.Formed
  single : (state.invoices.map (·.invoice.booking)).Nodup
  answered : ∀ answer ∈ state.answers, ∃ issued ∈ state.invoices,
    issued.invoice = answer.2 ∧ issued.invoice.booking = answer.1
  sessions : ∀ session ∈ state.sessions, SessionSound state.invoices session
  exclusive : ∀ (first second : Nat) (left right : InvoiceSession), first ≠ second →
    state.sessions[first]? = some left → state.sessions[second]? = some right →
    ∀ bookingId ∈ left.heldLocks, bookingId ∉ right.heldLocks

section

variable {business : BusinessSettings} {position : Nat} {state : Invoices} {session later : InvoiceSession}
  {now : Instant} {bookingId : BookingId} {booking : Booking} {customer : User} {invoices : List IssuedInvoice}

theorem invoiceTransaction_found (found : state.sessions[position]? = some session) :
    state.office.transactions[position]? = some session.transaction := by
  simp [Invoices.office, found]

theorem heldInvoices_idle (noneInHand : session.inHand = none) : session.held = session.invoices := by
  rw [InvoiceSession.held, noneInHand, Option.toList_none, List.append_nil]

theorem sound_fresh (single : (invoices.map (·.invoice.booking)).Nodup) : SessionSound invoices .fresh := by
  refine ⟨fun issued member => ?_, fun issued member => ?_, ?_, fun _ _ _ isStage => ?_, fun answer member => ?_⟩
  · cases member
  · cases member
  · have held : InvoiceSession.fresh.held = [] := rfl
    rw [held, List.append_nil]
    exact single
  · cases isStage
  · cases member

theorem WellIssued.goesOn (well : WellIssued state) (found : state.sessions[position]? = some session)
    (kept : Office.Kept yearlyCounter
      { state.office with transactions := state.office.transactions.set position later.transaction })
    (sound : SessionSound state.invoices later)
    (locks : ∀ bookingId ∈ later.heldLocks, bookingId ∈ session.heldLocks ∨
      state.isBookingLocked position bookingId = false) :
    WellIssued { state with sessions := state.sessions.set position later } := by
  have free (other : Nat) (holder : InvoiceSession) (differs : other ≠ position)
      (foundHolder : state.sessions[other]? = some holder) :
      ∀ bookingId ∈ later.heldLocks, bookingId ∉ holder.heldLocks := by
    intro bookingId isLocked
    rcases locks bookingId isLocked with already | free
    · exact well.exclusive position other session holder (Ne.symm differs) found foundHolder bookingId already
    · have member := List.mem_eraseIdx_iff_getElem?.mpr ⟨other, differs, foundHolder⟩
      simpa using List.any_eq_false.mp free holder member
  refine ⟨?_, well.formed, well.single, well.answered, fun other member => ?_, ?_⟩
  · rw [Invoices.office, List.map_set]
    exact kept
  · rcases List.mem_or_eq_of_mem_set member with member | rfl
    · exact well.sessions other member
    · exact sound
  · intro first second left right differs foundLeft foundRight
    rw [List.getElem?_set] at foundLeft foundRight
    split at foundLeft
    · rename_i isFirst
      subst isFirst
      rw [if_neg differs] at foundRight
      split at foundLeft <;> cases foundLeft
      exact free second right (Ne.symm differs) foundRight
    · split at foundRight
      · rename_i isSecond
        subst isSecond
        split at foundRight <;> cases foundRight
        exact fun bookingId isLeft isRight => free first left differs foundLeft bookingId isRight isLeft
      · exact well.exclusive first second left right differs foundLeft foundRight

theorem WellIssued.restages (well : WellIssued state) (found : state.sessions[position]? = some session)
    (held : later.held = session.held) (sequences : later.sequences = session.sequences)
    (savepoint : later.savepoint = none) (sound : SessionSound state.invoices later)
    (locks : ∀ bookingId ∈ later.heldLocks, bookingId ∈ session.heldLocks ∨
      state.isBookingLocked position bookingId = false) :
    WellIssued { state with sessions := state.sessions.set position later } :=
  well.goesOn found (well.kept.releases (invoiceTransaction_found found) (congrArg (List.map IssuedInvoice.entry) held)
    sequences savepoint) sound locks

theorem failed_inHand : session.failed.inHand = none := by
  unfold InvoiceSession.failed
  split <;> rfl

theorem failed_invoices : session.failed.invoices = session.invoices := by
  unfold InvoiceSession.failed
  split <;> rfl

theorem failed_heldLocks : session.failed.heldLocks = session.locks := by
  unfold InvoiceSession.failed
  split <;> exact List.append_nil _

theorem SessionSound.failed (sound : SessionSound invoices session) : SessionSound invoices session.failed := by
  have held : session.failed.held = session.invoices := (heldInvoices_idle failed_inHand).trans failed_invoices
  have locks : session.failed.locks = session.locks := by
    unfold InvoiceSession.failed
    split <;> rfl
  have answers : session.failed.answers = session.answers := by
    unfold InvoiceSession.failed
    split <;> rfl
  have idle : session.failed.stage = .idle := by
    unfold InvoiceSession.failed
    split <;> rfl
  have part : (invoices ++ session.invoices).Sublist (invoices ++ session.held) :=
    (List.append_sublist_append_left _).mpr (List.sublist_append_left _ _)
  refine ⟨fun issued member => ?_, ?_, ?_, fun _ _ _ isStage => ?_, ?_⟩
  · exact sound.formed issued (List.mem_append_left _ (held ▸ member))
  · rw [failed_invoices, locks]
    exact sound.locked
  · rw [held]
    exact sound.single.sublist (part.map _)
  · rw [idle] at isStage
    cases isStage
  · rw [failed_invoices, answers]
    exact sound.answered

theorem WellIssued.fails (well : WellIssued state) (found : state.sessions[position]? = some session) :
    WellIssued { state with sessions := state.sessions.set position session.failed } := by
  have sound := (well.sessions session (List.mem_of_getElem? found)).failed
  have locks : ∀ bookingId ∈ session.failed.heldLocks, bookingId ∈ session.heldLocks ∨
      state.isBookingLocked position bookingId = false := by
    rw [failed_heldLocks]
    exact fun bookingId member => .inl (List.mem_append_left _ member)
  cases isStage : session.stage with
  | idle | locked | payable =>
      have noneInHand : session.inHand = none := by simp [InvoiceSession.inHand, isStage]
      have held : session.failed.held = session.held := by
        rw [heldInvoices_idle failed_inHand, failed_invoices, heldInvoices_idle noneInHand]
      refine well.restages found held ?_ ?_ sound locks
      · simp [InvoiceSession.failed, isStage]
      · simp [InvoiceSession.failed, InvoiceSession.savepoint, isStage]
  | numbered serial invoice earlier =>
      have present : session.transaction.savepoint = some (session.invoices.length, earlier) := by
        simp only [InvoiceSession.transaction, InvoiceSession.savepoint, isStage]
      refine well.goesOn found (well.kept.goesBack (invoiceTransaction_found found) present ?_ ?_ ?_) sound locks
      · simp [InvoiceSession.transaction, failed_inHand, failed_invoices, InvoiceSession.held]
      · simp [InvoiceSession.transaction, InvoiceSession.failed, isStage]
      · simp [InvoiceSession.transaction, InvoiceSession.failed, InvoiceSession.savepoint, isStage]

theorem WellIssued.discards (well : WellIssued state) (found : state.sessions[position]? = some session) :
    WellIssued { state with sessions := state.sessions.set position .fresh } := by
  refine well.goesOn found (well.kept.discards (invoiceTransaction_found found)) (sound_fresh well.single) ?_
  intro bookingId member
  cases member

theorem heldLocks_booking (sound : SessionSound invoices session) {issued : IssuedInvoice}
    (member : issued ∈ session.held) : issued.invoice.booking ∈ session.heldLocks := by
  rcases List.mem_append.mp member with written | inHand
  · exact List.mem_append_left _ (sound.locked issued written)
  · refine List.mem_append_right _ ?_
    cases isStage : session.stage with
    | idle | locked | payable => simp [InvoiceSession.inHand, isStage] at inHand
    | numbered serial invoice earlier =>
        simp only [InvoiceSession.inHand, isStage, Option.toList_some, List.mem_singleton] at inHand
        simp [IssueStage.booking, inHand]

theorem SessionSound.issues {more : List IssuedInvoice} (sound : SessionSound invoices session)
    (moreSingle : ((invoices ++ more).map (·.invoice.booking)).Nodup)
    (apart : ∀ issued ∈ more, issued.invoice.booking ∉ session.heldLocks) :
    SessionSound (invoices ++ more) session := by
  refine ⟨sound.formed, sound.locked, ?_, fun bookingId booking customer isStage => ?_, fun answer member => ?_⟩
  · have own := sound.single
    rw [List.map_append, List.nodup_append] at own
    rw [List.map_append, List.nodup_append]
    refine ⟨moreSingle, own.2.1, fun bookingId committed other held => ?_⟩
    rw [List.map_append] at committed
    rcases List.mem_append.mp committed with earlier | later
    · exact own.2.2 bookingId earlier other held
    · rintro rfl
      obtain ⟨left, isLeft, rfl⟩ := List.mem_map.mp later
      obtain ⟨right, isRight, same⟩ := List.mem_map.mp held
      exact apart left isLeft (same ▸ heldLocks_booking sound isRight)
  · intro member
    have uninvoiced := sound.uninvoiced bookingId booking customer isStage
    rw [List.map_append, List.map_append, List.append_assoc] at member
    rw [List.map_append] at uninvoiced
    rcases List.mem_append.mp member with committed | rest
    · exact uninvoiced (List.mem_append_left _ committed)
    · rcases List.mem_append.mp rest with later | own
      · obtain ⟨issued, isIssued, rfl⟩ := List.mem_map.mp later
        refine apart issued isIssued (List.mem_append_right _ ?_)
        simp [isStage, IssueStage.booking]
      · exact uninvoiced (List.mem_append_right _ own)
  · obtain ⟨issued, isIssued, answers⟩ := sound.answered answer member
    refine ⟨issued, ?_, answers⟩
    rcases List.mem_append.mp isIssued with committed | own
    · exact List.mem_append_left _ (List.mem_append_left _ committed)
    · exact List.mem_append_right _ own

theorem WellIssued.commits (well : WellIssued state) (found : state.sessions[position]? = some session)
    (noneInHand : session.inHand = none) : WellIssued {
      invoices := state.invoices ++ session.invoices
      sequences := yearlyCounter.overlaid session.sequences state.sequences
      answers := state.answers ++ session.answers
      sessions := state.sessions.set position .fresh } := by
  have member := List.mem_of_getElem? found
  have sound := well.sessions session member
  have held := heldInvoices_idle noneInHand
  have single : ((state.invoices ++ session.invoices).map (·.invoice.booking)).Nodup := held ▸ sound.single
  refine ⟨?_, fun issued isIssued => ?_, single, fun answer isAnswer => ?_, fun other isOther => ?_,
    (well.discards found).exclusive⟩
  · have committed := well.kept.commits (invoiceTransaction_found found)
    rw [Invoices.office, List.map_append, List.map_set, ← held]
    exact committed
  · rcases List.mem_append.mp isIssued with committed | own
    · exact well.formed issued committed
    · exact sound.formed issued (held ▸ own)
  · rcases List.mem_append.mp isAnswer with committed | own
    · obtain ⟨issued, isIssued, answers⟩ := well.answered answer committed
      exact ⟨issued, List.mem_append_left _ isIssued, answers⟩
    · exact sound.answered answer own
  · obtain ⟨otherPosition, foundOther⟩ := List.getElem?_of_mem isOther
    rw [List.getElem?_set] at foundOther
    split at foundOther
    · split at foundOther <;> cases foundOther
      exact sound_fresh single
    · rename_i differs
      refine (well.sessions other (List.mem_of_getElem? foundOther)).issues single fun issued isIssued => ?_
      exact well.exclusive position otherPosition session other differs found foundOther _
        (heldLocks_booking sound (List.mem_append_left _ isIssued))

theorem WellIssued.locks (well : WellIssued state) (found : state.sessions[position]? = some session)
    (isStage : session.stage = .idle) (free : state.isBookingLocked position bookingId = false) :
    WellIssued { state with
      sessions := state.sessions.set position { session with stage := .locked bookingId booking customer } } := by
  have sound := well.sessions session (List.mem_of_getElem? found)
  have held : ({ session with stage := .locked bookingId booking customer } : InvoiceSession).held = session.held := by
    simp [InvoiceSession.held, InvoiceSession.inHand, isStage]
  refine well.restages found held rfl rfl ⟨?_, sound.locked, ?_, fun _ _ _ isPayable => ?_, sound.answered⟩ ?_
  · exact held ▸ sound.formed
  · exact held ▸ sound.single
  · cases isPayable
  · intro other isLocked
    rcases List.mem_append.mp isLocked with earlier | own
    · exact .inl (List.mem_append_left _ earlier)
    · rw [List.mem_singleton.mp own]
      exact .inr free

theorem SessionSound.returns (sound : SessionSound invoices session) (written : List IssuedInvoice)
    (issued : IssuedInvoice) (held : session.invoices ++ written = session.held)
    (isIssued : issued ∈ invoices ++ (session.invoices ++ written)) (isBooking : issued.invoice.booking = bookingId)
    (locked : ∀ other ∈ written, other.invoice.booking = bookingId) :
    SessionSound invoices (({ session with invoices := session.invoices ++ written } : InvoiceSession).answered
      bookingId issued.invoice) := by
  have later : (({ session with invoices := session.invoices ++ written } : InvoiceSession).answered
      bookingId issued.invoice).held = session.held := (List.append_nil _).trans held
  refine ⟨?_, fun other member => ?_, ?_, fun _ _ _ isPayable => ?_, fun answer member => ?_⟩
  · exact later ▸ sound.formed
  · rcases List.mem_append.mp member with earlier | own
    · exact List.mem_append_left _ (sound.locked other earlier)
    · rw [locked other own]
      exact List.mem_append_right _ (List.mem_singleton.mpr rfl)
  · exact later ▸ sound.single
  · cases isPayable
  · rcases List.mem_append.mp member with earlier | own
    · obtain ⟨other, isOther, answers⟩ := sound.answered answer earlier
      refine ⟨other, ?_, answers⟩
      rcases List.mem_append.mp isOther with committed | mine
      · exact List.mem_append_left _ committed
      · exact List.mem_append_right _ (List.mem_append_left _ mine)
    · rw [List.mem_singleton.mp own]
      exact ⟨issued, isIssued, rfl, isBooking⟩

theorem answered_heldLocks (isBooking : session.stage.booking = some bookingId) {invoice : Invoice} {other : BookingId}
    (locks : later.locks = session.locks) (isLocked : other ∈ (later.answered bookingId invoice).heldLocks) :
    other ∈ session.heldLocks := by
  rw [InvoiceSession.heldLocks, isBooking]
  simpa [InvoiceSession.heldLocks, InvoiceSession.answered, IssueStage.booking, locks] using isLocked

theorem sessions_set_self (found : state.sessions[position]? = some session) :
    { state with sessions := state.sessions.set position session } = state := by
  obtain ⟨inBounds, rfl⟩ := List.getElem?_eq_some_iff.mp found
  rw [List.set_getElem_self]

theorem WellIssued.checks (well : WellIssued state) (found : state.sessions[position]? = some session) :
    WellIssued { state with sessions := state.sessions.set position (session.check state) } := by
  have sound := well.sessions session (List.mem_of_getElem? found)
  cases isStage : session.stage with
  | idle | payable | numbered =>
      have same : session.check state = session := by simp [InvoiceSession.check, isStage]
      rw [same, sessions_set_self found]
      exact well
  | locked bookingId booking customer =>
      have noneInHand : session.inHand = none := by simp [InvoiceSession.inHand, isStage]
      have isBooking : session.stage.booking = some bookingId := by rw [isStage, IssueStage.booking]
      simp only [InvoiceSession.check, isStage]
      split
      · rename_i existing isExisting
        obtain ⟨issued, isIssued, rfl⟩ := List.mem_map.mp (List.mem_of_find?_eq_some isExisting)
        have ofBooking := List.find?_some isExisting
        rw [beq_iff_eq] at ofBooking
        have returned := sound.returns [] issued ((List.append_nil _).trans (heldInvoices_idle noneInHand).symm)
          ((List.append_nil session.invoices).symm ▸ isIssued) ofBooking nofun
        rw [List.append_nil] at returned
        refine well.restages found ?_ rfl rfl returned fun other isLocked => .inl ?_
        · rw [heldInvoices_idle noneInHand]
          exact List.append_nil _
        · exact answered_heldLocks isBooking rfl isLocked
      · rename_i absent invoiceable
        have held : ({ session with stage := .payable bookingId booking customer } : InvoiceSession).held =
            session.held := by
          simp [InvoiceSession.held, InvoiceSession.inHand, isStage]
        refine well.restages found held rfl rfl ⟨held ▸ sound.formed, sound.locked, held ▸ sound.single, ?_,
          sound.answered⟩ fun other isLocked => .inl ?_
        · intro other _ _ same
          cases same
          intro member
          obtain ⟨issued, isIssued, ofBooking⟩ := List.mem_map.mp member
          have differs := List.find?_eq_none.mp absent issued.invoice (List.mem_map_of_mem isIssued)
          exact differs (beq_iff_eq.mpr ofBooking)
        · simpa [InvoiceSession.heldLocks, IssueStage.booking, isStage] using isLocked
      · exact well.fails found

theorem WellIssued.numbers (well : WellIssued state) (found : state.sessions[position]? = some session)
    (isStage : session.stage = .payable bookingId booking customer)
    (free : state.isYearLocked position (financialYear (utcDate now)) = false) :
    WellIssued { state with
      sessions := state.sessions.set position (session.number business now state bookingId booking customer) } := by
  have sound := well.sessions session (List.mem_of_getElem? found)
  have noneInHand : session.inHand = none := by simp [InvoiceSession.inHand, isStage]
  have held := heldInvoices_idle noneInHand
  have counted := well.kept.rows session.transaction (List.mem_of_getElem? (invoiceTransaction_found found))
  have unlocked : ∀ other ∈ state.office.transactions.eraseIdx position,
      yearlyCounter.rowOf (financialYear (utcDate now)) other.rows = none := by
    intro other isOther
    rw [Invoices.office, List.eraseIdx_map] at isOther
    obtain ⟨holder, isHolder, rfl⟩ := List.mem_map.mp isOther
    have unlocked := List.any_eq_false.mp free holder isHolder
    rwa [Bool.not_eq_true, Option.isSome_eq_false_iff, Option.isNone_iff_eq_none] at unlocked
  have serial : nextNumber (financialYear (utcDate now)) (yearlyCounter.overlaid session.sequences state.sequences) =
      (serials (financialYear (utcDate now)) (state.office.issued ++ session.transaction.taken)).length + 1 := by
    have counts : (yearlyCounter.rowOf (financialYear (utcDate now))
        (yearlyCounter.overlaid session.sequences state.sequences)).map (·.currentNumber) = _ :=
      counted.overlaid well.kept.counters (financialYear (utcDate now))
    rw [nextNumber, counts]
    split
    · rename_i empty
      rw [empty]
      rfl
    · simp
  have next : yearlyCounter.value ⟨financialYear (utcDate now), nextNumber (financialYear (utcDate now))
      (yearlyCounter.overlaid session.sequences state.sequences)⟩ = _ := serial
  unfold InvoiceSession.number
  refine well.goesOn found (well.kept.takes (invoiceTransaction_found found) unlocked rfl next ?_ rfl ?_)
    ⟨fun issued member => ?_, sound.locked, ?_, fun _ _ _ isPayable => ?_, sound.answered⟩ fun other isLocked => .inl ?_
  · simp only [InvoiceSession.transaction, InvoiceSession.held, noneInHand, Option.toList_none, List.append_nil]
    rw [List.map_append]
    rfl
  · simp only [InvoiceSession.transaction, held, List.length_map]
    rfl
  · rcases List.mem_append.mp member with own | inHand
    · exact sound.formed issued (held ▸ own)
    · cases List.mem_singleton.mp inHand
      exact ⟨rfl, rfl⟩
  · have single := sound.single
    have uninvoiced := sound.uninvoiced bookingId booking customer isStage
    rw [held] at single
    rw [InvoiceSession.held, ← List.append_assoc, List.map_append]
    refine List.nodup_append.mpr ⟨single, List.pairwise_singleton _ _, fun earlier isEarlier other isOther same => ?_⟩
    have same : earlier = bookingId := same.trans (List.mem_singleton.mp isOther)
    exact uninvoiced (same ▸ isEarlier)
  · cases isPayable
  · simpa [InvoiceSession.heldLocks, IssueStage.booking, isStage, newInvoice] using isLocked

theorem WellIssued.inserts (well : WellIssued state) (found : state.sessions[position]? = some session) :
    WellIssued { state with sessions := state.sessions.set position (session.insert state) } := by
  have sound := well.sessions session (List.mem_of_getElem? found)
  cases isStage : session.stage with
  | idle | locked | payable =>
      have same : session.insert state = session := by simp [InvoiceSession.insert, isStage]
      rw [same, sessions_set_self found]
      exact well
  | numbered serial invoice earlier =>
      have isBooking : session.stage.booking = some invoice.booking := by rw [isStage, IssueStage.booking]
      have held : session.invoices ++ [⟨serial, invoice⟩] = session.held := by
        simp [InvoiceSession.held, InvoiceSession.inHand, isStage]
      simp only [InvoiceSession.insert, isStage]
      split
      · refine well.restages found ((List.append_nil _).trans held) rfl rfl ?_ fun other isLocked => .inl ?_
        · refine sound.returns _ ⟨serial, invoice⟩ held ?_ rfl fun other member => ?_
          · simp
          · rw [List.mem_singleton.mp member]
        · have locks : ({ session with invoices := session.invoices ++ [⟨serial, invoice⟩] } : InvoiceSession).locks =
              session.locks := rfl
          exact answered_heldLocks isBooking locks isLocked
      · exact well.fails found

theorem WellIssued.step (well : WellIssued state) (input : IssueStep) : WellIssued (state.step business input) := by
  cases input with
  | lock position bookingId rest =>
      simp only [Invoices.step]
      split
      · rename_i session found
        split
        · rename_i booking customer isStage lockable
          split
          · exact well
          · rename_i free
            exact well.locks found isStage (Bool.eq_false_iff.mpr free)
        · exact well
      · exact well
  | check position =>
      simp only [Invoices.step]
      split
      · exact well.checks ‹_›
      · exact well
  | number position now =>
      simp only [Invoices.step]
      split
      · rename_i session found
        split
        · rename_i bookingId booking customer isStage
          split
          · exact well
          · rename_i free
            exact well.numbers found isStage (Bool.eq_false_iff.mpr free)
        · exact well
      · exact well
  | insert position =>
      simp only [Invoices.step]
      split
      · exact well.inserts ‹_›
      · exact well
  | fail position =>
      simp only [Invoices.step]
      split
      · exact well.fails ‹_›
      · exact well
  | commit position =>
      simp only [Invoices.step]
      split
      · rename_i session found
        split
        · rename_i isStage
          exact well.commits found (by simp [InvoiceSession.inHand, isStage])
        · exact well
      · exact well
  | rollback position =>
      simp only [Invoices.step]
      split
      · exact well.discards ‹_›
      · exact well

theorem wellIssued_initial (initial : state.Initial) : WellIssued state := by
  obtain ⟨noInvoices, noSequences, noAnswers, fresh⟩ := initial
  have transactions : state.office.transactions = List.replicate state.sessions.length .fresh := by
    refine List.eq_replicate_iff.mpr ⟨by simp [Invoices.office], fun transaction member => ?_⟩
    obtain ⟨session, isSession, rfl⟩ := List.mem_map.mp member
    rw [fresh session isSession]
    rfl
  refine ⟨?_, fun issued member => ?_, ?_, fun answer member => ?_, fun session member => ?_,
    fun first second left right _ foundLeft _ bookingId isLocked => ?_⟩
  · have empty := Office.kept_empty yearlyCounter state.sessions.length
    rw [← transactions] at empty
    rw [Invoices.office, noInvoices, noSequences]
    exact empty
  · rw [noInvoices] at member
    cases member
  · rw [noInvoices]
    exact .nil
  · rw [noAnswers] at member
    cases member
  · rw [fresh session member, noInvoices]
    exact sound_fresh .nil
  · rw [fresh left (List.mem_of_getElem? foundLeft)] at isLocked
    cases isLocked

/-! What the invoices are. -/

theorem formedInvoice_injective {left right : IssuedInvoice} (formedLeft : left.Formed) (formedRight : right.Formed)
    (same : left.invoice.invoiceNumber = right.invoice.invoiceNumber) : left.entry = right.entry := by
  have text (issued : IssuedInvoice) (formed : issued.Formed) : issued.invoice.invoiceNumber.toList =
      "PS/".toList ++ (issued.invoice.financialYear.toList ++ '/' :: (padded 6 issued.serial).toList) := by
    rw [formed.number]
    simp
  have noSlash (issued : IssuedInvoice) (formed : issued.Formed) : '/' ∉ issued.invoice.financialYear.toList := by
    rw [formed.dated]
    exact slash_not_mem_financialYear _
  have characters : left.invoice.invoiceNumber.toList = right.invoice.invoiceNumber.toList := by rw [same]
  rw [text left formedLeft, text right formedRight, List.append_right_inj] at characters
  obtain ⟨years, serials⟩ := append_separator_inj (noSlash left formedLeft) (noSlash right formedRight) characters
  rw [IssuedInvoice.entry, IssuedInvoice.entry, String.toList_injective years,
    padded_injective (String.toList_injective serials)]

theorem WellIssued.invoicedGaplessly (well : WellIssued state) : InvoicedGaplessly state where
  single := well.single
  answered := well.answered
  found := by
    intro session member issued isIssued
    have single := (well.sessions session member).single
    have visible : (state.visible session).map (·.booking) =
        (state.invoices ++ session.invoices).map (·.invoice.booking) := by
      rw [Invoices.visible, List.map_map]
      rfl
    have part : (state.invoices ++ session.invoices).Sublist (state.invoices ++ session.held) :=
      (List.append_sublist_append_left _).mpr (List.sublist_append_left _ _)
    have distinct : ((state.visible session).map (·.booking)).Nodup := by
      rw [visible]
      exact single.sublist (part.map _)
    have isVisible : issued.invoice ∈ state.visible session :=
      List.mem_map_of_mem (List.mem_append_left _ isIssued)
    cases isFound : (state.visible session).find? (·.booking == issued.invoice.booking) with
    | none => exact absurd (beq_self_eq_true _) (List.find?_eq_none.mp isFound issued.invoice isVisible)
    | some existing =>
        have sameBooking := List.find?_some isFound
        rw [beq_iff_eq] at sameBooking
        rw [List.inj_on_of_nodup_map distinct (List.mem_of_find?_eq_some isFound) isVisible sameBooking]
  distinct := by
    have entries := well.kept.gapless.nodup
    rw [List.Nodup, Office.book, Invoices.office, List.pairwise_map] at entries
    rw [List.Nodup, List.pairwise_map]
    refine entries.imp_of_mem fun {left right} isLeft isRight differ same => differ ?_
    exact formedInvoice_injective (well.formed left isLeft) (well.formed right isRight) same
  dated := fun issued member => (well.formed issued member).dated
  gapless := by
    intro label
    have contiguous := well.kept.gapless.issued label
    have serialsEq : serials label (state.invoices.map (·.entry)) =
        (state.invoices.filter (·.invoice.financialYear = label)).map (·.serial) := by
      rw [serials, List.filter_map, List.map_map]
      rfl
    rw [Office.book, Invoices.office, serialsEq, List.length_map] at contiguous
    dsimp only
    rw [← contiguous, List.map_map]
    refine List.map_congr_left fun issued member => ?_
    obtain ⟨isIssued, isLabel⟩ := List.mem_filter.mp member
    rw [decide_eq_true_eq] at isLabel
    rw [(well.formed issued isIssued).number, Function.comp_apply, isLabel]

end

/-- Invoices are numbered without gaps and each booking has one, however the calls come between one another; and
the labels are those of the years from April to March. -/
theorem invoicedGaplessly_run (business : BusinessSettings) {start : Invoices} (initial : start.Initial)
    (steps : List IssueStep) :
    InvoicedGaplessly (runAll (Invoices.step business) start steps) ∧
      ∀ first second, financialYear first = financialYear second ↔
        ∃ start, InFinancialYear start first ∧ InFinancialYear start second := by
  have guarded : Guarded (Invoices.step business) (fun _ _ => True) start steps := .always (fun _ _ => trivial) _ _
  have preserved : ∀ state input, WellIssued state → True → WellIssued (Invoices.step business state input) :=
    fun _ input well _ => well.step input
  exact ⟨(guarded.invariant preserved (wellIssued_initial initial)).invoicedGaplessly, financialYear_eq_iff_same⟩

def completedDb : Db :=
  let booked := (runAll (System.step sampleSettings) sampleSystem [sampleBookingBy 0]).db
  { booked with bookings := booked.bookings.map fun booking => { booking with bookingStatus := .completed } }

/-- A first call is rolled back while a second one waits for the booking; the second and a third get one invoice. -/
theorem invoicedGaplessly_run_repeated :
    InvoicedGaplessly (runAll (Invoices.step ⟨"Purple Squad", "", ""⟩) ⟨[], [], [], [.fresh, .fresh]⟩
      [.lock 0 0 completedDb, .check 0, .number 0 sampleNow, .insert 0, .lock 1 0 completedDb, .rollback 0,
        .lock 1 0 completedDb, .check 1, .number 1 sampleNow, .insert 1, .commit 1,
        .lock 0 0 completedDb, .check 0, .commit 0]) ∧
      ∀ first second, financialYear first = financialYear second ↔
        ∃ start, InFinancialYear start first ∧ InFinancialYear start second :=
  invoicedGaplessly_run _ ⟨rfl, rfl, rfl, by simp⟩ _

/-- A transaction that nothing comes between does what the code does. -/
theorem issueInvoice_alone (business : BusinessSettings) (now : Instant) (bookingId : BookingId) (db : Db)
    (invoices : List IssuedInvoice) (sequences : List InvoiceSequence) :
    let after := runAll (Invoices.step business) ⟨invoices, sequences, [], [.fresh]⟩
      [.lock 0 bookingId db, .check 0, .number 0 now, .insert 0, .commit 0]
    match issueInvoice business now bookingId db ⟨invoices.map (·.invoice), sequences⟩ with
    | .ok (invoice, tables) => after.answers = [(bookingId, invoice)] ∧
        after.invoices.map (·.invoice) = tables.invoices ∧ after.sequences = tables.sequences
    | .error _ => after.answers = [] ∧ after.invoices = invoices ∧ after.sequences = sequences := by
  have noOwn : yearlyCounter.overlaid [] sequences = sequences := by
    simp [Table.overlaid, Table.rowOf]
  have own (row : InvoiceSequence) : yearlyCounter.overlaid (yearlyCounter.saved row []) sequences =
      yearlyCounter.saved row sequences := by
    simp only [Table.overlaid, Table.saved, Table.rowOf, List.filter_nil, List.find?_singleton, List.singleton_append]
    congr 1
    refine List.filter_congr fun other _ => ?_
    by_cases same : yearlyCounter.key row = yearlyCounter.key other
    · simp [same]
    · simp [same, Ne.symm same]
  have ofBooking (booking : Booking) (customer : User) (label : String) (number : Nat) :
      (newInvoice business now bookingId booking customer label number).booking = bookingId := rfl
  cases lockable : lockForInvoice db bookingId with
  | error error =>
      simp [issueInvoice, lockable, bind, Except.bind, Invoices.step, InvoiceSession.fresh, InvoiceSession.check,
        InvoiceSession.insert, noOwn]
  | ok found =>
      obtain ⟨booking, customer⟩ := found
      cases existing : (invoices.map (·.invoice)).find? (·.booking == bookingId) with
      | some invoice =>
          simp [issueInvoice, lockable, existing, bind, Except.bind, pure, Except.pure, Invoices.step,
            InvoiceSession.fresh, InvoiceSession.check, InvoiceSession.insert, InvoiceSession.answered,
            Invoices.visible, Invoices.isBookingLocked, noOwn]
      | none =>
          cases invoiceable : booking.requireInvoiceable with
          | error error =>
              simp [issueInvoice, lockable, existing, invoiceable, bind, Except.bind, Invoices.step,
                InvoiceSession.fresh, InvoiceSession.check, InvoiceSession.insert, InvoiceSession.failed,
                Invoices.visible, Invoices.isBookingLocked, noOwn]
          | ok done =>
              cases unique : (newInvoice business now bookingId booking customer (financialYear (utcDate now))
                  (nextNumber (financialYear (utcDate now)) sequences)).requireUnique (invoices.map (·.invoice)) with
              | error error =>
                  simp [issueInvoice, lockable, existing, invoiceable, unique, bind, Except.bind, Invoices.step,
                    InvoiceSession.fresh, InvoiceSession.check, InvoiceSession.number, InvoiceSession.insert,
                    InvoiceSession.failed, Invoices.visible, Invoices.isBookingLocked, Invoices.isYearLocked, noOwn]
              | ok done =>
                  simp [issueInvoice, lockable, existing, invoiceable, unique, bind, Except.bind, pure, Except.pure,
                    Invoices.step, InvoiceSession.fresh, InvoiceSession.check, InvoiceSession.number,
                    InvoiceSession.insert, InvoiceSession.answered, Invoices.visible, Invoices.isBookingLocked,
                    Invoices.isYearLocked, noOwn, own, ofBooking]

end PsCore
