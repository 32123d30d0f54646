import PsCore.ServicePrices
import PsCore.Invoices

/-!
The amounts of an invoice. A booking is priced once, from its service or from the quote of its lead, and its invoice
copies five of the amounts, whenever it is issued.
-/

namespace PsCore

open Fallible RowTable TransitionRun

/-- The parts of the invoice make up its total, and the two halves of the tax differ by a paisa at most. -/
structure Invoice.AddsUp (invoice : Invoice) : Prop where
  total : invoice.taxableValue + invoice.cgstAmount + invoice.sgstAmount + invoice.igstAmount = invoice.totalAmount
  halves : invoice.cgstAmount - invoice.sgstAmount ≤ 1 ∧ invoice.sgstAmount - invoice.cgstAmount ≤ 1

/-- A new booking, and what its service asks for training: one that a customer has made, or one that was made of a
lead, at the fee of the loaded service if the lead has a quote and else at the current one. -/
inductive PricedBy (db next : Db) : BookingId → Money → Prop
  | created {now : Instant} {customer : UserId} {request : BookingRequest} {bookingId : BookingId} {service : Service}
      (found : db.directory.services[request.serviceId]? = some service)
      (accepted : createBooking now customer request db = .ok (bookingId, next)) :
      PricedBy db next bookingId (service.feeFor request.quantity)
  | converted {now : Instant} {loaded : LoadedLead} {performedBy : Option UserId} {notes : String} {lead : Lead}
      {serviceId : ServiceId} {current service : Service} (new : loaded.lead.isConverted = false)
      (required : loaded.lead.requiredService = some serviceId)
      (found : db.directory.services[serviceId]? = some current) (isLoaded : loaded.requiredService = some service)
      (accepted : convertLeadToWorkOrder now loaded performedBy none notes db = .ok (lead, next)) :
      PricedBy db next db.bookings.length
        (if loaded.lead.quotedAmount.isSome then service.trainingFee else current.trainingFee)

/-! What a booking is charged stays as it was made. -/

structure SamePrice (before after : Booking) : Prop where
  subtotal : after.subtotal = before.subtotal
  discountAmount : after.discountAmount = before.discountAmount
  trainingFee : after.trainingFee = before.trainingFee
  taxAmount : after.taxAmount = before.taxAmount
  totalAmount : after.totalAmount = before.totalAmount

theorem SamePrice.refl (booking : Booking) : SamePrice booking booking := ⟨rfl, rfl, rfl, rfl, rfl⟩

theorem SamePrice.trans {first second third : Booking} (one : SamePrice first second) (two : SamePrice second third) :
    SamePrice first third where
  subtotal := two.subtotal.trans one.subtotal
  discountAmount := two.discountAmount.trans one.discountAmount
  trainingFee := two.trainingFee.trans one.trainingFee
  taxAmount := two.taxAmount.trans one.taxAmount
  totalAmount := two.totalAmount.trans one.totalAmount

theorem JobStep.samePrice {before after : Booking} (step : JobStep before after) : SamePrice before after := by
  cases step <;> constructor <;> rfl

theorem Effect.Rewrites.samePrice {effect : Effect} {bookingId : BookingId} {before after : Booking}
    (rewrites : effect.Rewrites bookingId before after) : SamePrice before after := by
  cases rewrites with
  | failure locked payments =>
      unfold Booking.markedFailed
      split <;> constructor <;> rfl
  | refund settlement =>
      unfold Booking.afterRefund
      split
      · constructor <;> rfl
      · split
        · constructor <;> rfl
        · split <;> constructor <;> rfl
  | _ => constructor <;> rfl

section

variable {settings : Settings} {state : System} {op : Op} {bookingId : BookingId} {before after : Booking}

theorem BookingWritten.samePrice (written : BookingWritten settings state op bookingId before after) :
    SamePrice before after := by
  cases written with
  | jobStep step => exact step.samePrice
  | moved now slotId changedBy notes slot isOp from_ foundSlot => constructor <;> rfl
  | assigned technician slot from_ foundSlot free => constructor <;> rfl
  | removed now changedBy notes isOp => constructor <;> rfl
  | effective effect isEffect rewrites => exact rewrites.samePrice

end

theorem price_kept (settings : Settings) (state : System) (ops : List Op) :
    KeptBy SamePrice state.db.bookings (runAll (System.step settings) state ops).db.bookings := by
  induction ops generalizing state with
  | nil => exact .refl SamePrice.refl _
  | cons op rest ih =>
      have first := (step_leaves settings state op).bookings_kept SamePrice.refl fun _ _ _ => BookingWritten.samePrice
      exact KeptBy.trans (fun _ _ _ one two => one.trans two) first (ih _)

def Booking.ChargesTraining (fee : Money) (booking : Booking) : Prop :=
  booking.taxAmount = 0 ∧ booking.totalAmount = booking.subtotal - booking.discountAmount + fee

theorem SamePrice.chargesTraining {fee : Money} {before after : Booking} (same : SamePrice before after)
    (charges : before.ChargesTraining fee) : after.ChargesTraining fee := by
  unfold Booking.ChargesTraining
  rw [same.taxAmount, same.totalAmount, same.subtotal, same.discountAmount]
  exact charges

theorem newBooking_chargesTraining {service : ServiceFields} {quantity : Nat} {amounts : BookingAmounts}
    (accepted : bookingAmounts service quantity = .ok amounts) (number : String) (customer : UserId)
    (serviceId : ServiceId) (addressId : AddressId) (address : Address) (slotId : SlotId) (slot : TimeSlot) :
    (newBooking number customer serviceId addressId address slotId slot quantity amounts).ChargesTraining
      (service.feeFor quantity) := by
  obtain ⟨subtotal, discountAmount, _, taxAmount⟩ := bookingAmounts_parts accepted
  have total := (bookingAmounts_accepted accepted).1
  refine ⟨taxAmount, ?_⟩
  simp only [newBooking]
  unfold Money at *
  omega

theorem repriced_chargesTraining {booking : Booking} {current : Money} (lead : Lead) (service : ServiceFields)
    (charges : booking.ChargesTraining current) :
    (booking.repriced lead service).asWorkOrder.ChargesTraining
      (if lead.quotedAmount.isSome then service.trainingFee else current) := by
  unfold Booking.repriced
  cases lead.quotedAmount with
  | none => exact charges
  | some quotedAmount =>
      refine ⟨rfl, ?_⟩
      simp [Booking.asWorkOrder]

theorem PricedBy.booking {db next : Db} {bookingId : BookingId} {fee : Money}
    (priced : PricedBy db next bookingId fee) :
    ∃ booking, next.bookings[bookingId]? = some booking ∧ booking.ChargesTraining fee := by
  cases priced with
  | @created now customer request _ service found accepted =>
      obtain ⟨current, address, slot, _, amounts, number, _, booking, isCurrent, _, _, priced, rfl, rfl, rfl⟩ :=
        createBooking_made accepted
      rw [found, Option.some.injEq] at isCurrent
      subst isCurrent
      exact ⟨_, List.getElem?_concat_length, newBooking_chargesTraining priced ..⟩
  | @converted now loaded performedBy notes lead serviceId current service new required found isLoaded accepted =>
      rcases convertFromLead_made accepted with ⟨converted, _⟩ |
        ⟨otherId, other, isOther, amounts, booking, sameId, foundOther, sameService, priced, made, bookings⟩
      · rw [new] at converted
        cases converted
      · rw [required, Option.some.injEq] at sameId
        subst sameId
        rw [found, Option.some.injEq] at foundOther
        rw [isLoaded, Option.some.injEq] at sameService
        subst foundOther sameService
        obtain ⟨number, customer, addressId, address, slotId, slot, rfl⟩ := made
        have unit : current.feeFor 1 = current.trainingFee := by
          simp [ServiceFields.feeFor]
        have charges := newBooking_chargesTraining priced number customer serviceId addressId address slotId slot
        rw [unit] at charges
        refine ⟨_, ?_, repriced_chargesTraining loaded.lead service.toServiceFields charges⟩
        rw [bookings]
        exact List.getElem?_concat_length

theorem roundHalfEven_halves (amount : Int) :
    roundHalfEven amount 2 - (amount - roundHalfEven amount 2) ≤ 1 ∧
      amount - roundHalfEven amount 2 - roundHalfEven amount 2 ≤ 1 := by
  simp only [roundHalfEven]
  split
  · omega
  · split
    · omega
    · split <;> omega

theorem issueInvoice_new {business : BusinessSettings} {now : Instant} {bookingId : BookingId} {db : Db}
    {tables after : InvoiceTables} {invoice : Invoice}
    (uninvoiced : ∀ other ∈ tables.invoices, other.booking ≠ bookingId)
    (issued : issueInvoice business now bookingId db tables = .ok (invoice, after)) :
    ∃ booking customer number, db.bookings[bookingId]? = some booking ∧
      invoice = newInvoice business now bookingId booking customer (financialYear (utcDate now)) number := by
  have absent : tables.invoices.find? (·.booking == bookingId) = none := by
    apply List.find?_eq_none.mpr
    intro other member
    simpa using uninvoiced other member
  simp only [issueInvoice, lockForInvoice, absent, accepted_bind, accepted_orRaise, accepted_pure,
    Prod.mk.injEq] at issued
  obtain ⟨⟨booking, customer⟩, ⟨_, found, _, _, rfl, _⟩, _, _, _, _, rfl, _⟩ := issued
  exact ⟨_, _, _, found, rfl⟩

theorem newInvoice_addsUp_iff (business : BusinessSettings) (now : Instant) (bookingId : BookingId) {booking : Booking}
    (customer : User) (label : String) (number : Nat) {fee : Money} (charges : booking.ChargesTraining fee) :
    (newInvoice business now bookingId booking customer label number).AddsUp ↔ fee = 0 := by
  obtain ⟨taxAmount, total⟩ := charges
  constructor
  · intro addsUp
    have sum := addsUp.total
    simp only [newInvoice] at sum
    unfold Money at *
    omega
  · rintro rfl
    refine ⟨?_, roundHalfEven_halves booking.taxAmount⟩
    simp only [newInvoice]
    unfold Money at *
    omega

/-- Whenever the invoice of a new booking is issued, it adds up exactly if nothing was charged for training. -/
theorem addsUp_iff {settings : Settings} {db : Db} {made : System} {bookingId : BookingId} {fee : Money}
    (priced : PricedBy db made.db bookingId fee) {ops : List Op} {business : BusinessSettings} {now : Instant}
    {tables after : InvoiceTables} {invoice : Invoice}
    (uninvoiced : ∀ other ∈ tables.invoices, other.booking ≠ bookingId)
    (issued : issueInvoice business now bookingId (runAll (System.step settings) made ops).db tables =
      .ok (invoice, after)) : invoice.AddsUp ↔ fee = 0 := by
  obtain ⟨booking, found, charges⟩ := priced.booking
  obtain ⟨later, present, same⟩ := price_kept settings made ops bookingId booking found
  obtain ⟨row, customer, number, isRow, rfl⟩ := issueInvoice_new uninvoiced issued
  rw [present, Option.some.injEq] at isRow
  subst isRow
  exact newInvoice_addsUp_iff business now bookingId customer _ number (same.chargesTraining charges)

def settledWith (rest : Money) : List Op := [
  .createAdvancePaymentOrder 0 0 "payment-key-1" (.ok "order_1"),
  samplePaymentEvent "payment.captured" "order_1" "pay_1" 20000,
  .assignTechnician sampleNow 0 0 none "" "",
  .recordBalanceCollection sampleNow 0 rest "CASH" none ""]

def sampleBooked (state : System) : System := System.step sampleSettings state (sampleBookingBy 0)

theorem sampleBooked_created {state : System}
    (accepted : (createBooking sampleNow 0 { serviceId := 0, addressId := 0, slotId := 0, quantity := 1 }
      state.db).isOk = true) (empty : state.db.bookings = []) :
    createBooking sampleNow 0 { serviceId := 0, addressId := 0, slotId := 0, quantity := 1 } state.db =
      .ok (0, (sampleBooked state).db) := by
  obtain ⟨⟨bookingId, next⟩, created⟩ := isOk_iff.mp accepted
  have isNext : (sampleBooked state).db = next := by
    simp only [sampleBooked, sampleBookingBy, System.step, System.commit, commit, created]
  obtain ⟨_, _, _, _, _, _, _, _, _, _, _, _, _, isFirst, _⟩ := createBooking_made created
  rw [empty] at isFirst
  rw [created, isNext, isFirst]
  rfl

theorem sampleBooked_priced {state : System} (service : Service)
    (found : state.db.directory.services[0]? = some service)
    (accepted : (createBooking sampleNow 0 { serviceId := 0, addressId := 0, slotId := 0, quantity := 1 }
      state.db).isOk = true) (empty : state.db.bookings = []) :
    PricedBy state.db (sampleBooked state).db 0 service.trainingFee := by
  have priced := PricedBy.created found (sampleBooked_created accepted empty)
  have unit : service.feeFor 1 = service.trainingFee := by
    simp [ServiceFields.feeFor]
  rw [← unit]
  exact priced

def sampleBusiness : BusinessSettings where
  businessLegalName := "Sample Services"
  businessGstin := ""
  businessAddress := "1 Residency Road"

def noInvoices : InvoiceTables where
  invoices := []
  sequences := []

theorem addsUp_iff_settled : ∃ invoice after,
    issueInvoice sampleBusiness sampleNow 0
      (runAll (System.step sampleSettings) (sampleBooked sampleSystem) (settledWith 80000)).db noInvoices =
        .ok (invoice, after) ∧ invoice.AddsUp := by
  have issued : (issueInvoice sampleBusiness sampleNow 0
      (runAll (System.step sampleSettings) (sampleBooked sampleSystem) (settledWith 80000)).db noInvoices).isOk =
        true := by decide
  obtain ⟨⟨invoice, after⟩, isIssued⟩ := isOk_iff.mp issued
  have priced : PricedBy sampleSystem.db (sampleBooked sampleSystem).db 0 sampleService.trainingFee :=
    sampleBooked_priced sampleService rfl (by decide) rfl
  exact ⟨invoice, after, isIssued, (addsUp_iff priced (by decide) isIssued).mpr rfl⟩

def trainingSystem : System :=
  { sampleSystem with db := { sampleSystem.db with directory := { sampleDirectory with
    services := [{ sampleService with trainingFee := 5000, clean := by decide }] } } }

theorem training_not_taxable :
    ¬ ∀ (settings : Settings) (db : Db) (made : System) (bookingId : BookingId) (fee : Money) (ops : List Op)
      (business : BusinessSettings) (now : Instant) (tables after : InvoiceTables) (invoice : Invoice),
      PricedBy db made.db bookingId fee → (∀ other ∈ tables.invoices, other.booking ≠ bookingId) →
      issueInvoice business now bookingId (runAll (System.step settings) made ops).db tables = .ok (invoice, after) →
      invoice.AddsUp := by
  intro always
  have amounts : (issueInvoice sampleBusiness sampleNow 0
      (runAll (System.step sampleSettings) (sampleBooked trainingSystem) (settledWith 85000)).db
      noInvoices).toOption.map (fun issued => issued.1.taxableValue + issued.1.cgstAmount + issued.1.sgstAmount +
        issued.1.igstAmount - issued.1.totalAmount) = some (-5000) := by decide
  have priced : PricedBy trainingSystem.db (sampleBooked trainingSystem).db 0 5000 :=
    sampleBooked_priced { sampleService with trainingFee := 5000, clean := by decide } rfl (by decide) rfl
  cases issued : issueInvoice sampleBusiness sampleNow 0
      (runAll (System.step sampleSettings) (sampleBooked trainingSystem) (settledWith 85000)).db noInvoices with
  | error error =>
      rw [issued] at amounts
      cases amounts
  | ok answer =>
      have addsUp := always _ _ _ 0 5000 _ _ _ _ _ _ priced (by decide) issued
      have difference : answer.1.taxableValue + answer.1.cgstAmount + answer.1.sgstAmount + answer.1.igstAmount -
          answer.1.totalAmount = -5000 := by
        rw [issued] at amounts
        exact Option.some.inj amounts
      rw [addsUp.total] at difference
      simp at difference

end PsCore
