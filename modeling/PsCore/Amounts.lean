import PsCore.Collection

/-!
The amounts that a booking stores. Pricing, repricing from a lead, the confirmation of a
payment and manual payments each write some of them, and what is still due decides whether
the job may be completed.
-/

namespace PsCore

open Fallible RowTable TransitionRun Relation

theorem roundHalfEven_nonneg {numerator : Int} (denominator : Nat) (nonneg : 0 ≤ numerator) :
    0 ≤ roundHalfEven numerator denominator := by
  have quotient : 0 ≤ numerator / denominator := Int.ediv_nonneg nonneg (Int.natCast_nonneg denominator)
  simp only [roundHalfEven]
  split
  · exact quotient
  · split
    · omega
    · split <;> omega

theorem roundHalfEven_le {numerator bound : Int} {denominator : Nat} (positive : 0 < denominator)
    (below : numerator ≤ bound * denominator) : roundHalfEven numerator denominator ≤ bound := by
  have divided : denominator * (numerator / denominator) + numerator % denominator = numerator :=
    Int.mul_ediv_add_emod numerator denominator
  have remainder : 0 ≤ numerator % denominator := Int.emod_nonneg _ (by omega)
  rcases Int.lt_or_le (numerator / denominator) bound with less | atLeast
  · simp only [roundHalfEven]
    split
    · omega
    · split
      · omega
      · split <;> omega
  · -- nothing is left over at the bound, so there is nothing to round up
    have scaled : (denominator : Int) * bound ≤ denominator * (numerator / denominator) :=
      Int.mul_le_mul_of_nonneg_left atLeast (Int.natCast_nonneg denominator)
    rw [Int.mul_comm bound] at below
    have whole : numerator % denominator = 0 := by omega
    have exactly : numerator / denominator ≤ bound := by
      refine Int.le_of_mul_le_mul_left ?_ (Int.natCast_pos.mpr positive)
      omega
    simp only [roundHalfEven]
    rw [if_pos (by omega)]
    exact exactly

structure ServiceFields.Priced (service : ServiceFields) : Prop where
  effectivePrice : 0 ≤ service.effectivePrice
  advanceAmount : 0 ≤ service.advanceAmount
  trainingFee : 0 ≤ service.trainingFee
  percentage : service.advancePaymentType = .percentage → ∀ value, service.advancePaymentValue = some value →
    0 ≤ value ∧ value ≤ 10000

theorem Service.priced (service : Service) : service.toServiceFields.Priced := by
  have clean := service.clean
  simp only [ServiceFields.cleanErrors_nil, ServiceFields.negativeErrors, List.append_eq_nil_iff, ite_eq_right_iff,
    List.cons_ne_nil, imp_false, not_and, Bool.not_eq_true] at clean
  obtain ⟨⟨⟨⟨⟨basePrice, sellingPrice⟩, advanceAmount⟩, advanceValue⟩, trainingFee⟩, percentage, _⟩ := clean
  refine ⟨?_, Int.not_lt.mp advanceAmount, Int.not_lt.mp trainingFee, fun isPercentage value present => ?_⟩
  · unfold ServiceFields.effectivePrice
    cases price : service.sellingPrice with
    | none => exact Int.not_lt.mp basePrice
    | some amount =>
        rw [price] at sellingPrice
        simpa using sellingPrice
  · have atMost := percentage isPercentage
    rw [present] at advanceValue atMost
    simp only [Option.any_some, decide_eq_false_iff_not] at advanceValue atMost
    unfold Money at *
    omega

def ServiceFields.unitAdvance (service : ServiceFields) : Money :=
  let totalAmount := service.effectivePrice + service.trainingFee
  match service.advancePaymentType with
  | .percentage => roundHalfEven (totalAmount * service.advancePaymentValue.getD 0) 10000
  | .fixed => min service.advanceAmount totalAmount

def ServiceFields.feeFor (service : ServiceFields) (quantity : Nat) : Money :=
  if service.trainingFeePerUnit then service.trainingFee * quantity else service.trainingFee

theorem bookingAmounts_accepted {service : ServiceFields} {quantity : Nat} {amounts : BookingAmounts}
    (accepted : bookingAmounts service quantity = .ok amounts) :
    amounts.totalAmount = service.effectivePrice * quantity + service.feeFor quantity ∧
      ((service.advancePaymentType = .percentage ∧ ∃ value, service.advancePaymentValue = some value ∧
          amounts.advanceRequired = roundHalfEven (amounts.totalAmount * value) 10000) ∨
        (service.advancePaymentType = .fixed ∧
          amounts.advanceRequired = min service.advanceAmount amounts.totalAmount)) := by
  simp only [bookingAmounts] at accepted
  split at accepted
  · rename_i isPercentage
    simp only [accepted_bind, accepted_orRaise, accepted_pure] at accepted
    obtain ⟨value, present, _, rfl, rfl⟩ := accepted
    refine ⟨?_, .inl ⟨isPercentage, value, present, rfl⟩⟩
    simp only [ServiceFields.feeFor]
    unfold Money
    omega
  · rename_i isFixed
    simp only [accepted_bind, accepted_pure] at accepted
    obtain ⟨_, rfl, rfl⟩ := accepted
    refine ⟨?_, .inr ⟨isFixed, rfl⟩⟩
    simp only [ServiceFields.feeFor]
    unfold Money
    omega

structure BookingAmounts.Sound (amounts : BookingAmounts) : Prop where
  nonneg : 0 ≤ amounts.advanceRequired
  covered : amounts.advanceRequired ≤ amounts.totalAmount

theorem bookingAmounts_sound {service : ServiceFields} {quantity : Nat} {amounts : BookingAmounts}
    (priced : service.Priced) (accepted : bookingAmounts service quantity = .ok amounts) : amounts.Sound := by
  have items : 0 ≤ service.effectivePrice * quantity :=
    Int.mul_nonneg priced.effectivePrice (Int.natCast_nonneg quantity)
  have fee : 0 ≤ service.feeFor quantity := by
    unfold ServiceFields.feeFor
    split
    · exact Int.mul_nonneg priced.trainingFee (Int.natCast_nonneg quantity)
    · exact priced.trainingFee
  obtain ⟨totalEq, advance⟩ := bookingAmounts_accepted accepted
  have total : 0 ≤ amounts.totalAmount := by
    rw [totalEq]
    exact Int.add_nonneg items fee
  rcases advance with ⟨isPercentage, value, present, required⟩ | ⟨_, required⟩
  · obtain ⟨valueNonneg, valueBound⟩ := priced.percentage isPercentage value present
    constructor
    · rw [required]
      exact roundHalfEven_nonneg _ (Int.mul_nonneg total valueNonneg)
    · rw [required]
      exact roundHalfEven_le (by decide) (Int.mul_le_mul_of_nonneg_left valueBound total)
  · constructor
    · rw [required]
      exact Int.le_min.mpr ⟨priced.advanceAmount, total⟩
    · rw [required]
      exact Int.min_le_right ..

theorem bookingAmounts_unit {service : ServiceFields} {amounts : BookingAmounts}
    (accepted : bookingAmounts service 1 = .ok amounts) : amounts.advanceRequired = service.unitAdvance := by
  obtain ⟨totalEq, advance⟩ := bookingAmounts_accepted accepted
  have total : amounts.totalAmount = service.effectivePrice + service.trainingFee := by
    rw [totalEq]
    simp [ServiceFields.feeFor]
  rw [total] at advance
  unfold ServiceFields.unitAdvance
  rcases advance with ⟨isPercentage, value, present, required⟩ | ⟨isFixed, required⟩
  · rw [isPercentage, present]
    exact required
  · rw [isFixed]
    exact required

/-! The amounts of a booking. -/

structure AmountsConsistent (booking : Booking) : Prop where
  advanceNonneg : 0 ≤ booking.advanceRequired
  advanceCovered : booking.advanceRequired ≤ booking.totalAmount
  balanceDue : booking.balanceDue = booking.totalAmount - booking.advancePaid
  dueNonneg : 0 ≤ booking.balanceDue

/-- What the lead was quoted pays for the advance: the lead's own one, or that of the service. -/
def LoadedLead.coversAdvance (services : List Service) (loaded : LoadedLead) : Bool :=
  match loaded.lead.quotedAmount, loaded.requiredService with
  | some quotedAmount, some service =>
      let totalAmount := quotedAmount + service.trainingFee
      match loaded.lead.advanceAmount with
      | some advanceAmount => 0 ≤ advanceAmount && 0 ≤ totalAmount
      | none => (loaded.lead.requiredService.bind fun serviceId => services[serviceId]?).all
          fun current => current.unitAdvance ≤ totalAmount
  | _, _ => true

def Op.coversAdvance (state : System) : Op → Bool
  | .convertLeadToWorkOrder _ lead _ none _ =>
      (state.loadedLeads[lead]?).all (LoadedLead.coversAdvance state.db.directory.services)
  | _ => true

def Effect.withinDue : Effect → Bool
  | .manualPayment amount entry => amount ≤ entry.booking.totalAmount - entry.booking.advancePaid
  | _ => true

def Op.keepsAmounts (settings : Settings) (state : System) (op : Op) : Bool :=
  op.coversAdvance state && (op.effect settings state).all Effect.withinDue

theorem AmountsConsistent.same {before after : Booking} (consistent : AmountsConsistent before)
    (money : SameMoney before after) (terms : SameTerms before after) : AmountsConsistent after := by
  obtain ⟨advanceNonneg, advanceCovered, balanceDue, dueNonneg⟩ := consistent
  constructor
  · rw [terms.advanceRequired]
    exact advanceNonneg
  · rw [terms.advanceRequired, terms.totalAmount]
    exact advanceCovered
  · rw [money.balanceDue, money.totalAmount, money.advancePaid]
    exact balanceDue
  · rw [money.balanceDue]
    exact dueNonneg

theorem amountsConsistent_kept : RoutinelyKept AmountsConsistent where
  moved := fun _ _ _ _ consistent => consistent.same ⟨rfl, rfl, rfl, rfl⟩ ⟨rfl, rfl⟩
  transition := fun _ _ transition consistent => consistent.same transition.sameMoney transition.sameTerms

theorem AmountsConsistent.of_unpaid {booking : Booking} (nonneg : 0 ≤ booking.advanceRequired)
    (covered : booking.advanceRequired ≤ booking.totalAmount) (advancePaid : booking.advancePaid = 0)
    (balanceDue : booking.balanceDue = booking.totalAmount) : AmountsConsistent booking := by
  refine ⟨nonneg, covered, ?_, ?_⟩
  · rw [balanceDue, advancePaid]
    exact (Int.sub_zero _).symm
  · rw [balanceDue]
    exact Int.le_trans nonneg covered

theorem Effective.consistent {effect : Effect} {db next : Db} (written : Effective effect db next)
    (withinDue : effect.withinDue = true) :
    KeptBy (fun before after => AmountsConsistent before → AmountsConsistent after) db.bookings next.bookings := by
  have reflexive : ∀ booking, AmountsConsistent booking → AmountsConsistent booking := fun _ consistent => consistent
  cases written with
  | @confirmed _ _ now changedBy locked payments orderId paymentId found foundBooking ordered amount open_ rows
      writtenEq =>
      subst writtenEq
      rw [confirmBookingAfterPayment_bookings]
      refine .set reflexive foundBooking fun consistent => ?_
      have covered := consistent.advanceCovered
      rw [← amount] at covered
      exact ⟨consistent.advanceNonneg, consistent.advanceCovered, rfl, Int.sub_nonneg.mpr covered⟩
  | @failed _ _ locked payments orderId paymentId found foundBooking ordered open_ rows writtenEq =>
      subst writtenEq
      rw [markPaymentFailed_bookings]
      exact .set reflexive foundBooking fun consistent =>
        consistent.same (markedFailed_sameMoney _) (Effect.Rewrites.sameTerms (.failure locked payments))
  | @refundSettled _ _ settlement found foundBooking grounded bookings rows slots =>
      rw [bookings]
      exact .set reflexive foundBooking fun consistent =>
        consistent.same (afterRefund_sameMoney _ _ _ _) (Effect.Rewrites.sameTerms (.refund settlement))
  | refundLost => exact .refl reflexive _
  | workOrder found bookings payments slots =>
      rw [bookings]
      exact .set reflexive found fun consistent => consistent.same ⟨rfl, rfl, rfl, rfl⟩ ⟨rfl, rfl⟩
  | @manuallyPaid _ _ amount entry now leadId reference positive found inserted bookings payments slots =>
      rw [bookings]
      refine .set reflexive found fun consistent => ?_
      simp only [Effect.withinDue, decide_eq_true_eq] at withinDue
      have due : max 0 (entry.booking.totalAmount - (entry.booking.advancePaid + amount)) =
          entry.booking.totalAmount - (entry.booking.advancePaid + amount) := by
        unfold Money at *
        omega
      exact ⟨consistent.advanceNonneg, consistent.advanceCovered, due, Int.le_max_left ..⟩
  | balanceCollected now found from_ positive remaining inserted bookings paymentsWritten slots =>
      rw [bookings]
      exact .set reflexive found fun consistent =>
        ⟨consistent.advanceNonneg, consistent.advanceCovered, consistent.balanceDue, consistent.dueNonneg⟩
  | slotSaved bookings payments slots =>
      rw [bookings]
      exact .refl reflexive _

theorem Routine.consistent {db next : Db} (change : Routine db next) :
    KeptBy (fun before after => AmountsConsistent before → AmountsConsistent after) db.bookings next.bookings := by
  have reflexive : ∀ booking, AmountsConsistent booking → AmountsConsistent booking := fun _ consistent => consistent
  cases change with
  | auxiliary bookings payments slots =>
      rw [bookings]
      exact .refl reflexive _
  | slotAdded slot bookings payments slots =>
      rw [bookings]
      exact .refl reflexive _
  | bookingCreated booking slot fresh found free bookings payments slots =>
      rw [bookings]
      exact .append reflexive _ _
  | workOrderCreated booking slot lead service fresh found free bookings payments slots =>
      rw [bookings]
      exact .append reflexive _ _
  | bookingMoved bookingId booking slotId slot found from_ foundSlot free bookings payments slots =>
      rw [bookings]
      exact .set reflexive found (amountsConsistent_kept.moved booking slotId slot.date from_)
  | transition bookingId booking changed found transition bookings payments slots =>
      rw [bookings]
      exact .set reflexive found (amountsConsistent_kept.transition booking changed transition)
  | orderCreated bookingId booking orderId key found awaiting bookings payments slots =>
      rw [bookings]
      exact .refl reflexive _

theorem step_consistent {settings : Settings} {state : System} {op : Op}
    (keeps : op.keepsAmounts settings state = true) :
    KeptBy (fun before after => AmountsConsistent before → AmountsConsistent after) state.db.bookings
      (System.step settings state op).db.bookings := by
  simp only [Op.keepsAmounts, Bool.and_eq_true] at keeps
  rcases step_explained settings state op with ⟨effect, isEffect, written⟩ | path
  · rw [isEffect] at keeps
    exact written.consistent keeps.2
  · generalize (System.step settings state op).db = next at path
    induction path with
    | refl => exact .refl (fun _ consistent => consistent) _
    | tail _ change ih =>
        exact ih.trans (fun _ _ _ toSecond toThird consistent => toThird (toSecond consistent)) change.consistent

/-! New bookings come from three operations. -/

/-- The rows that a step adds have the property. -/
def NewBookings (property : Booking → Prop) (db next : Db) : Prop :=
  ∀ bookingId booking, db.bookings.length ≤ bookingId → next.bookings[bookingId]? = some booking → property booking

section

variable {property : Booking → Prop}

theorem NewBookings.of_length {db next : Db} (same : next.bookings.length = db.bookings.length) :
    NewBookings property db next := by
  intro bookingId booking isNew present
  have below := (List.getElem?_eq_some_iff.mp present).1
  omega

theorem NewBookings.of_append {db next : Db} {added : List Booking} (bookings : next.bookings = db.bookings ++ added)
    (holds : ∀ booking ∈ added, property booking) : NewBookings property db next := by
  intro bookingId booking isNew present
  rw [bookings, List.getElem?_append_right isNew] at present
  exact holds booking (List.mem_of_getElem? present)

end

theorem Effective.bookings_length {effect : Effect} {db next : Db} (written : Effective effect db next) :
    next.bookings.length = db.bookings.length := by
  rcases written.rewrites with same | ⟨_, _, _, _, _, bookings⟩
  · rw [same]
  · rw [bookings, List.length_set]

theorem createBooking_priced {now : Instant} {customer : UserId} {request : BookingRequest} {db next : Db}
    {bookingId : BookingId} (accepted : createBooking now customer request db = .ok (bookingId, next)) :
    ∃ booking service amounts, db.directory.services[request.serviceId]? = some service ∧
      bookingAmounts service.toServiceFields request.quantity = .ok amounts ∧ FreshBooking booking ∧
      booking.totalAmount = amounts.totalAmount ∧ booking.advanceRequired = amounts.advanceRequired ∧
      bookingId = db.bookings.length ∧ next.bookings = db.bookings ++ [booking] := by
  obtain ⟨service, address, slot, _, amounts, number, _, booking, found, _, _, priced, isNew, rfl, rfl⟩ :=
    createBooking_made accepted
  have fresh := newBooking_fresh number customer request.serviceId request.addressId address request.slotId slot
    request.quantity amounts
  subst isNew
  exact ⟨_, service, amounts, found, priced, fresh, rfl, rfl, rfl, rfl⟩

theorem FreshBooking.consistent {booking : Booking} {service : Service} {quantity : Nat} {amounts : BookingAmounts}
    (fresh : FreshBooking booking) (priced : bookingAmounts service.toServiceFields quantity = .ok amounts)
    (totalAmount : booking.totalAmount = amounts.totalAmount)
    (advanceRequired : booking.advanceRequired = amounts.advanceRequired) : AmountsConsistent booking := by
  have sound := bookingAmounts_sound service.priced priced
  refine .of_unpaid ?_ ?_ fresh.advancePaid fresh.balanceDue
  · rw [advanceRequired]
    exact sound.nonneg
  · rw [advanceRequired, totalAmount]
    exact sound.covered

theorem createBooking_consistent {now : Instant} {customer : UserId} {request : BookingRequest} {db next : Db}
    {bookingId : BookingId} (accepted : createBooking now customer request db = .ok (bookingId, next)) :
    ∃ booking, next.bookings = db.bookings ++ [booking] ∧ AmountsConsistent booking := by
  obtain ⟨booking, service, amounts, _, priced, fresh, totalAmount, advanceRequired, _, bookings⟩ :=
    createBooking_priced accepted
  exact ⟨booking, bookings, fresh.consistent priced totalAmount advanceRequired⟩

theorem createBookings_new {property : Booking → Prop} {now : Instant} {customer : UserId}
    (one : ∀ request db bookingId next, createBooking now customer request db = .ok (bookingId, next) →
      ∃ booking, next.bookings = db.bookings ++ [booking] ∧ property booking)
    {requests : List BookingRequest} {db next : Db} {bookingIds : List BookingId}
    (accepted : createBookings now customer requests db = .ok (bookingIds, next)) :
    ∃ added, next.bookings = db.bookings ++ added ∧ ∀ booking ∈ added, property booking := by
  refine createBookings_induction
    (motive := fun _ db next => ∃ added, next.bookings = db.bookings ++ added ∧ ∀ booking ∈ added, property booking)
    (fun db => ⟨[], by rw [List.append_nil], List.forall_mem_nil _⟩)
    (fun request rest db bookingId middle last created remaining => ?_) accepted
  obtain ⟨booking, bookings, holds⟩ := one request db bookingId middle created
  obtain ⟨added, appended, others⟩ := remaining
  refine ⟨booking :: added, by rw [appended, bookings, List.append_assoc]; rfl, ?_⟩
  exact List.forall_mem_cons.mpr ⟨holds, others⟩

theorem convertFromLead_made {now : Instant} {loaded : LoadedLead} {performedBy : Option UserId}
    {notes : String} {db next : Db} {lead : Lead}
    (accepted : convertLeadToWorkOrder now loaded performedBy none notes db = .ok (lead, next)) :
    (loaded.lead.isConverted = true ∧ next = db) ∨
      ∃ serviceId current service amounts booking,
        loaded.lead.requiredService = some serviceId ∧ db.directory.services[serviceId]? = some current ∧
        loaded.requiredService = some service ∧ bookingAmounts current.toServiceFields 1 = .ok amounts ∧
        (∃ number customer addressId address slotId slot,
          booking = newBooking number customer serviceId addressId address slotId slot 1 amounts) ∧
        next.bookings = db.bookings ++ [(booking.repriced loaded.lead service.toServiceFields).asWorkOrder] := by
  rcases convertLeadToWorkOrder_cases accepted with ⟨converted, _, isNext⟩ |
    ⟨⟨bookingId, row⟩, booked, leads, _, ordered, _, rfl⟩
  · exact .inl ⟨converted, isNext⟩
  · obtain ⟨made, service, fromLead, foundRow, isService, rfl⟩ := workOrderBooking_new ordered
    obtain ⟨preparation, sound, created⟩ := createBookingFromLead_prepares fromLead
    obtain ⟨current, address, slot, _, amounts, number, _, booking, foundService, _, _, priced, isNew, rfl, rfl⟩ :=
      createBooking_made created
    have isRow : booking = row := by
      simpa using foundRow
    subst isRow
    refine .inr ⟨preparation.serviceId, current, service, amounts, booking, sound.service, foundService, isService,
      priced, ⟨_, _, _, _, _, _, isNew⟩, ?_⟩
    simp [List.set_append_right, LeadPreparation.prepared]

theorem AmountsConsistent.repriced {booking : Booking} {loaded : LoadedLead} {service current : Service}
    {services : List Service} (consistent : AmountsConsistent booking) (unpaid : booking.advancePaid = 0)
    (covers : loaded.coversAdvance services = true) (isService : loaded.requiredService = some service)
    (isCurrent : (loaded.lead.requiredService.bind fun serviceId => services[serviceId]?) = some current)
    (advance : booking.advanceRequired = current.unitAdvance) :
    AmountsConsistent (booking.repriced loaded.lead service.toServiceFields).asWorkOrder := by
  unfold LoadedLead.coversAdvance at covers
  unfold Booking.repriced
  cases quoted : loaded.lead.quotedAmount with
  | none => exact consistent.same ⟨rfl, rfl, rfl, rfl⟩ ⟨rfl, rfl⟩
  | some quotedAmount =>
      rw [quoted, isService] at covers
      cases asked : loaded.lead.advanceAmount with
      | none =>
          simp only [asked, isCurrent, Option.all_some, decide_eq_true_eq] at covers
          exact .of_unpaid consistent.advanceNonneg (advance ▸ covers) unpaid rfl
      | some advanceAmount =>
          simp only [asked, Bool.and_eq_true, decide_eq_true_eq] at covers
          exact .of_unpaid (Int.le_min.mpr covers) (Int.min_le_right ..) unpaid rfl

theorem convertFromLead_consistent {now : Instant} {loaded : LoadedLead} {performedBy : Option UserId}
    {notes : String} {db next : Db} {lead : Lead} (covers : loaded.coversAdvance db.directory.services = true)
    (accepted : convertLeadToWorkOrder now loaded performedBy none notes db = .ok (lead, next)) :
    NewBookings AmountsConsistent db next := by
  rcases convertFromLead_made accepted with ⟨_, rfl⟩ |
    ⟨serviceId, current, service, amounts, booking, requiredService, found, isService, priced, made, bookings⟩
  · exact NewBookings.of_length rfl
  · obtain ⟨number, customer, addressId, address, slotId, slot, rfl⟩ := made
    have fresh := newBooking_fresh number customer serviceId addressId address slotId slot 1 amounts
    have isCurrent : (loaded.lead.requiredService.bind fun serviceId => db.directory.services[serviceId]?) =
        some current := by
      rw [requiredService]
      exact found
    have consistent := fresh.consistent priced rfl rfl
    have repriced := consistent.repriced fresh.advancePaid covers isService isCurrent (bookingAmounts_unit priced)
    exact NewBookings.of_append bookings (List.forall_mem_singleton.mpr repriced)

section

variable {property : Booking → Prop}

theorem commit_new {α : Type} {db : Db} {transaction : Except ServiceError (α × Db)}
    (new : ∀ result next, transaction = .ok (result, next) → NewBookings property db next) :
    NewBookings property db (commit db transaction).2 := by
  cases transaction with
  | error error => exact .of_length rfl
  | ok committed => exact new committed.1 committed.2 rfl

theorem Answered.new {effect : Option Effect} {db next : Db} (answered : Answered effect db next) :
    NewBookings property db next := by
  rcases answered with ⟨effect, _, written⟩ | unchanged
  · exact .of_length written.bookings_length
  · exact .of_length (by rw [unchanged])

theorem loads_new {settings : Settings} {state : System} {op : Op} (loads : op.onlyLoads = true) :
    NewBookings property state.db (System.step settings state op).db :=
  .of_length (by rw [step_onlyLoads settings state loads])

theorem leads_new {settings : Settings} {state : System} {op : Op} (writes : op.writesLeads = true) :
    NewBookings property state.db (System.step settings state op).db := by
  obtain ⟨leads, written⟩ := step_writesLeads settings state writes
  exact .of_length (by rw [written])

theorem slots_new {settings : Settings} {state : System} {op : Op} (writes : op.writesSlots = true) :
    NewBookings property state.db (System.step settings state op).db := by
  obtain ⟨slots, written⟩ := step_writesSlots settings state writes
  exact .of_length (by rw [written])

theorem job_new {settings : Settings} {state : System} {op : Op} (rewrites : op.rewritesJob = true) :
    NewBookings property state.db (System.step settings state op).db := by
  rcases step_rewritesJob settings state rewrites with unchanged | ⟨_, _, _, _, _, written⟩
  · exact .of_length (by rw [unchanged])
  · exact .of_length written.length

theorem createAdvancePaymentOrder_new {settings : Settings} {bookingId : BookingId} {user : UserId} {key : String}
    {providerOrder : Except ServiceError String} {answer : PaymentId × OrderResponse} {db next : Db}
    (accepted : createAdvancePaymentOrder settings bookingId user key providerOrder db = .ok (answer, next)) :
    NewBookings property db next := by
  rcases createAdvancePaymentOrder_cases accepted with ⟨_, _, _, _, _, rfl⟩ | ⟨_, _, _, _, _, _, _, rfl⟩
  · exact .of_length rfl
  · exact .of_length rfl

theorem createRefund_new {now : Instant} {sourceId refundId : PaymentId} {amount : Money} {key : String}
    {providerRefund : Except ServiceError ProviderRefund} {db next : Db}
    (accepted : createRefund now sourceId amount key providerRefund db = .ok (refundId, next)) :
    NewBookings property db next := by
  rcases createRefund_effect accepted with rfl | ⟨settlement, _, written⟩
  · exact .of_length rfl
  · exact .of_length written.bookings_length

/-- A conversion with a booking that is there makes none. -/
theorem convert_new {now : Instant} {position : Nat} {performedBy : Option UserId} {booking : Option Nat}
    {notes : String} {state : System} {lead : Lead} {next : Db}
    (made : ∀ loaded, booking = none → state.loadedLeads[position]? = some loaded →
      convertLeadToWorkOrder now loaded performedBy none notes state.db = .ok (lead, next) →
      NewBookings property state.db next)
    (accepted : state.convert now position performedBy booking notes = .ok (lead, next)) :
    NewBookings property state.db next := by
  simp only [System.convert, accepted_bind, accepted_orRaise] at accepted
  obtain ⟨loaded, foundLead, converted⟩ := accepted
  cases booking with
  | none => exact made loaded rfl foundLead converted
  | some given =>
      simp only [accepted_bind, accepted_orRaise] at converted
      obtain ⟨object, _, converted⟩ := converted
      rcases convertBooking_effect converted with rfl | ⟨_, _, written⟩
      · exact .of_length rfl
      · exact .of_length written.bookings_length

/-- The bookings that a step adds: those of customers, and the work order of a lead. -/
theorem step_newBookings {settings : Settings} {state : System} {op : Op}
    (created : ∀ now customer request db bookingId next, createBooking now customer request db = .ok (bookingId, next) →
      ∃ booking, next.bookings = db.bookings ++ [booking] ∧ property booking)
    (converted : ∀ now position performedBy notes loaded lead next,
      op = .convertLeadToWorkOrder now position performedBy none notes → state.loadedLeads[position]? = some loaded →
      convertLeadToWorkOrder now loaded performedBy none notes state.db = .ok (lead, next) →
      NewBookings property state.db next) :
    NewBookings property state.db (System.step settings state op).db := by
  cases op with
  | createBooking now customer request =>
      refine commit_new fun bookingId next accepted => ?_
      obtain ⟨booking, bookings, holds⟩ := created now customer request state.db bookingId next accepted
      exact .of_append bookings (List.forall_mem_singleton.mpr holds)
  | checkout now customer requests =>
      refine commit_new fun bookingIds next accepted => ?_
      obtain ⟨added, bookings, holds⟩ := createBookings_new (created now customer) accepted
      exact .of_append bookings holds
  | rescheduleBooking | cancelBooking | startBooking | markTechnicianEnRoute | completeBooking | closeBooking
  | assignTechnician | removeTechnicianAssignment => exact job_new rfl
  | recordBalanceCollection now bookingId amount method changedBy notes =>
      refine commit_new fun paymentId next accepted => ?_
      obtain ⟨_, _, _, written⟩ := recordBalanceCollection_effect accepted
      exact .of_length written.bookings_length
  | createAdvancePaymentOrder bookingId user key providerOrder =>
      exact commit_new fun _ _ accepted => createAdvancePaymentOrder_new accepted
  | verifyRazorpayPayment now orderId paymentId signature user =>
      exact (verifyRazorpayPayment_answered settings now orderId paymentId signature user state.db).new
  | dispatchWebhook now eventName payload => exact (dispatchWebhook_answered settings now eventName payload state.db).new
  | createRefund now sourceId amount key providerRefund =>
      exact commit_new fun _ _ accepted => createRefund_new accepted
  | reconcileRefund now refundId providerStatus =>
      refine commit_new fun answerId next accepted => ?_
      obtain ⟨_, _, written⟩ := reconcileRefund_effect accepted
      exact .of_length written.bookings_length
  | convertLeadToWorkOrder now position performedBy booking notes =>
      refine commit_new fun lead next accepted => convert_new (fun loaded isNew found made => ?_) accepted
      exact converted now position performedBy notes loaded lead next (by rw [isNew]) found made
  | recordManualLeadPayment now lead amount method reference note =>
      refine commit_new fun paymentId next accepted => ?_
      simp only [accepted_bind, accepted_orRaise] at accepted
      obtain ⟨loaded, _, paid⟩ := accepted
      obtain ⟨_, _, written⟩ := recordManualLeadPayment_effect paid
      exact .of_length written.bookings_length
  | recordLeadContact | upsertLead | addLead | editLead => exact leads_new rfl
  | ensureDailySlots | createSlot | saveSlot => exact slots_new rfl
  | loadLead | loadBooking | loadSlot | validateSlotEdit => exact loads_new rfl
  | editDirectory directory => exact .of_length rfl

/-- What holds of new bookings, and is kept by every step, holds of every booking. -/
theorem everyBooking_run {settings : Settings} {start : System} {ops : List Op} {admits : System → Op → Prop}
    (initial : start.Initial)
    (new : ∀ state op, admits state op → NewBookings property state.db (System.step settings state op).db)
    (kept : ∀ state op, admits state op → KeptBy (fun before after => property before → property after)
      state.db.bookings (System.step settings state op).db.bookings)
    (guarded : Guarded (System.step settings) admits start ops) :
    EveryBooking property (runAll (System.step settings) start ops).db := by
  have preserved : ∀ state op, EveryBooking property state.db → admits state op →
      EveryBooking property (System.step settings state op).db := by
    intro state op holds admitted booking member
    obtain ⟨bookingId, present⟩ := List.mem_iff_getElem?.mp member
    by_cases old : bookingId < state.db.bookings.length
    · have found := List.getElem?_eq_getElem old
      obtain ⟨after, isAfter, keeps⟩ := kept state op admitted bookingId _ found
      rw [present, Option.some.injEq] at isAfter
      rw [isAfter]
      exact keeps (holds _ (List.mem_of_getElem? found))
    · exact new state op admitted bookingId booking (Nat.le_of_not_lt old) present
  refine guarded.invariant preserved fun booking member => ?_
  rw [initial.bookings] at member
  cases member

end

theorem step_new {settings : Settings} {state : System} {op : Op} (covers : op.coversAdvance state = true) :
    NewBookings AmountsConsistent state.db (System.step settings state op).db := by
  refine step_newBookings (fun _ _ _ _ _ _ => createBooking_consistent) ?_
  rintro now position performedBy notes loaded lead next rfl foundLead accepted
  simp only [Op.coversAdvance, foundLead, Option.all_some] at covers
  exact convertFromLead_consistent covers accepted

/-- The amounts of every booking stay consistent, as long as a lead's quote covers the advance
and no manual payment is more than what is left of the price. -/
theorem amountsConsistent_run {settings : Settings} {start : System} {ops : List Op} (initial : start.Initial)
    (guarded : Guarded (System.step settings) (fun state op => op.keepsAmounts settings state = true) start ops) :
    EveryBooking AmountsConsistent (runAll (System.step settings) start ops).db := by
  refine everyBooking_run initial (fun state op keeps => ?_) (fun _ _ => step_consistent) guarded
  simp only [Op.keepsAmounts, Bool.and_eq_true] at keeps
  exact step_new keeps.1

/-- A booking is confirmed by its advance; another becomes a work order at its lead's own price
and is paid by hand. -/
def repricedHistory : List Op := paidHistory ++ [
  .addLead { sampleLead with quotedAmount := some 90000, advanceAmount := some 30000 },
  .loadLead 1,
  .convertLeadToWorkOrder sampleNow 0 none none "",
  .loadLead 1,
  .recordManualLeadPayment sampleNow 1 90000 "MANUAL_UPI" "receipt 7" ""]

theorem amountsConsistent_run_repriced :
    EveryBooking AmountsConsistent (runAll (System.step sampleSettings) sampleSystem repricedHistory).db :=
  amountsConsistent_run sampleSystem_initial (by decide)

def paidBeyondPrice : List Op := workOrdered ++ [
  .recordManualLeadPayment sampleNow 1 120000 "MANUAL_UPI" "receipt 7" ""]

theorem amounts_inconsistent :
    ¬ ∀ (settings : Settings) (start : System) (ops : List Op), start.Initial →
      (∀ service ∈ start.db.directory.services, service.effectivePrice ≤ service.basePrice) →
      EveryBooking AmountsConsistent (runAll (System.step settings) start ops).db := by
  intro always
  have consistent := always sampleSettings sampleSystem paidBeyondPrice sampleSystem_initial (by decide)
  have stored : ((runAll (System.step sampleSettings) sampleSystem paidBeyondPrice).db.bookings[0]?).map
      (fun booking => (booking.totalAmount, booking.advancePaid, booking.balanceDue)) =
        some (100000, 120000, 0) := by decide
  obtain ⟨booking, found, money⟩ := Option.map_eq_some_iff.mp stored
  simp only [Prod.mk.injEq] at money
  obtain ⟨totalAmount, advancePaid, balanceDue⟩ := money
  have due := (consistent booking (List.mem_of_getElem? found)).balanceDue
  rw [totalAmount, advancePaid, balanceDue] at due
  exact absurd due (by decide)

/-- What is due is never less than the price without the advance. -/
def DueCovers (booking : Booking) : Prop :=
  booking.totalAmount - booking.advancePaid ≤ booking.balanceDue

theorem SameMoney.dueCovers {before after : Booking} (money : SameMoney before after) (covers : DueCovers before) :
    DueCovers after := by
  unfold DueCovers
  rw [money.totalAmount, money.advancePaid, money.balanceDue]
  exact covers

theorem UnpaidBooking.dueCovers {booking : Booking} (unpaid : UnpaidBooking booking) : DueCovers booking := by
  unfold DueCovers
  rw [unpaid.advancePaid, unpaid.balanceDue]
  exact Int.le_of_eq (Int.sub_zero _)

theorem DueCovers.rewritten {effect : Effect} {bookingId : BookingId} {before after : Booking}
    (rewrites : effect.Rewrites bookingId before after) (covers : DueCovers before) : DueCovers after := by
  cases rewrites with
  | confirmation now changedBy locked payments => exact Int.le_refl _
  | failure locked payments => exact (markedFailed_sameMoney _).dueCovers covers
  | refund settlement => exact (afterRefund_sameMoney _ _ _ _).dueCovers covers
  | workOrder => exact covers
  | manualPayment amount entry => exact Int.le_max_right ..
  | balance _ _ amount payments => exact covers

theorem dueCovers_run {settings : Settings} {start : System} (initial : start.Initial) (ops : List Op) :
    EveryBooking DueCovers (runAll (System.step settings) start ops).db :=
  bookings_invariant (.of_money fun _ _ money _ covers => money.dueCovers covers) (.of_unpaid fun _ => UnpaidBooking.dueCovers)
    (fun _ _ _ _ _ _ rewrites covers => covers.rewritten rewrites) initial (guarded_true settings start ops)

theorem completeBooking_collected {settings : Settings} {now : Instant} {bookingId : BookingId}
    {changedBy : Option UserId} {notes : String} {db next : Db}
    (required : settings.bookingRequireBalanceBeforeCompletion = true)
    (accepted : completeBooking settings now bookingId changedBy notes db = .ok ((), next)) :
    ∃ booking, db.bookings[bookingId]? = some booking ∧ booking.balanceDue ≤ booking.balanceCollected := by
  obtain ⟨booking, _, _, collected, written⟩ := completeBooking_job accepted
  exact ⟨booking, written.found, collected required⟩

/-- Where the balance is required, a job is completed only after its price has been paid. -/
theorem completeBooking_paid {settings : Settings} {start : System} {ops : List Op} {now : Instant}
    {bookingId : BookingId} {changedBy : Option UserId} {notes : String} {next : Db} (initial : start.Initial)
    (required : settings.bookingRequireBalanceBeforeCompletion = true)
    (completed : completeBooking settings now bookingId changedBy notes
      (runAll (System.step settings) start ops).db = .ok ((), next)) :
    ∃ booking, (runAll (System.step settings) start ops).db.bookings[bookingId]? = some booking ∧
      booking.totalAmount ≤ booking.advancePaid + booking.balanceCollected := by
  obtain ⟨booking, found, collected⟩ := completeBooking_collected required completed
  have covers : booking.totalAmount - booking.advancePaid ≤ booking.balanceDue :=
    dueCovers_run initial ops booking (List.mem_of_getElem? found)
  refine ⟨booking, found, ?_⟩
  unfold Money at *
  omega

def readyToComplete : List Op := workOrderPaid ++ [.startBooking 0 none ""]

theorem completeBooking_paid_ready :
    ∃ booking, (runAll (System.step sampleSettings) sampleSystem readyToComplete).db.bookings[0]? = some booking ∧
      booking.totalAmount ≤ booking.advancePaid + booking.balanceCollected := by
  have accepted : (completeBooking sampleSettings sampleNow 0 none ""
      (runAll (System.step sampleSettings) sampleSystem readyToComplete).db).isOk = true := by decide
  obtain ⟨⟨_, next⟩, completed⟩ := isOk_iff.mp accepted
  exact completeBooking_paid sampleSystem_initial rfl completed

end PsCore
