import PsCore.CheckoutCore
import PsCore.KeylessCheckouts
import PsCore.Amounts

/-!
Which services can be priced. The cleaning of a service looks at each price on its own and at the advance of one
unit; a booking multiplies, subtracts, and takes a percentage that need not be there.
-/

namespace PsCore

open Fallible

/-- An amount of ten digits, two of them decimals. -/
def FitsColumn (amount : Money) : Prop := -9999999999 ≤ amount ∧ amount ≤ 9999999999

instance (amount : Money) : Decidable (FitsColumn amount) :=
  inferInstanceAs (Decidable (_ ∧ _))

structure ServiceFields.FitsColumns (service : ServiceFields) : Prop where
  basePrice : FitsColumn service.basePrice
  sellingPrice : ∀ price, service.sellingPrice = some price → FitsColumn price
  advancePaymentValue : ∀ value, service.advancePaymentValue = some value → FitsColumn value
  advanceAmount : FitsColumn service.advanceAmount
  trainingFee : FitsColumn service.trainingFee

def Booking.amounts (booking : Booking) : List Money :=
  [booking.subtotal, booking.discountAmount, booking.trainingFee, booking.taxAmount, booking.totalAmount,
    booking.advanceRequired, booking.advancePaid, booking.balanceDue, booking.balanceCollected]

structure Booking.SoundlyPriced (service : ServiceFields) (booking : Booking) : Prop where
  discount : 0 ≤ booking.discountAmount ∧ booking.discountAmount ≤ booking.subtotal
  total : booking.totalAmount = service.effectivePrice * booking.quantity + service.feeFor booking.quantity
  advance : 0 ≤ booking.advanceRequired ∧ booking.advanceRequired ≤ booking.totalAmount
  stored : ∀ amount ∈ booking.amounts, FitsColumn amount

/-- The arithmetic of a new booking does not raise, whatever else the booking holds. -/
def ServiceFields.IsPriced (service : ServiceFields) (quantity : Nat) : Prop :=
  ∃ amounts, bookingAmounts service quantity = .ok amounts ∧
    ∀ number customer serviceId addressId address slotId slot,
      (newBooking number customer serviceId addressId address slotId slot quantity amounts).SoundlyPriced service

/-- A percentage has its value, the price is not above the base price, and neither the undiscounted nor the whole
price outgrows its column. -/
structure ServiceFields.Priceable (service : ServiceFields) (quantity : Nat) : Prop where
  hasAdvance : service.hasAdvance = true
  discounted : service.effectivePrice ≤ service.basePrice
  subtotal : service.basePrice * quantity ≤ 9999999999
  total : service.effectivePrice * quantity + service.feeFor quantity ≤ 9999999999

section

variable {service : ServiceFields} {quantity : Nat} {amounts : BookingAmounts}

theorem bookingAmounts_parts (accepted : bookingAmounts service quantity = .ok amounts) :
    amounts.subtotal = service.basePrice * quantity ∧
      amounts.discountAmount = service.basePrice * quantity - service.effectivePrice * quantity ∧
      amounts.trainingFee = service.feeFor quantity ∧ amounts.taxAmount = 0 := by
  simp only [bookingAmounts] at accepted
  split at accepted
  · simp only [accepted_bind, accepted_orRaise, accepted_pure] at accepted
    obtain ⟨_, _, _, _, rfl⟩ := accepted
    exact ⟨rfl, rfl, rfl, rfl⟩
  · simp only [accepted_bind, accepted_pure] at accepted
    obtain ⟨_, _, rfl⟩ := accepted
    exact ⟨rfl, rfl, rfl, rfl⟩

theorem bookingAmounts_isOk (quantity : Nat) (hasAdvance : service.hasAdvance = true) :
    ∃ amounts, bookingAmounts service quantity = .ok amounts := by
  unfold bookingAmounts
  unfold ServiceFields.hasAdvance at hasAdvance
  cases isType : service.advancePaymentType with
  | fixed => exact ⟨_, rfl⟩
  | percentage =>
      cases isValue : service.advancePaymentValue with
      | none => simp [isType, isValue] at hasAdvance
      | some value => exact ⟨_, rfl⟩

theorem feeFor_nonneg (priced : service.Priced) : 0 ≤ service.feeFor quantity := by
  unfold ServiceFields.feeFor
  split
  · exact Int.mul_nonneg priced.trainingFee (Int.natCast_nonneg quantity)
  · exact priced.trainingFee

theorem priceable_of_isPriced (positive : 0 < quantity) (priced : service.IsPriced quantity) :
    service.Priceable quantity := by
  obtain ⟨amounts, accepted, sound⟩ := priced
  obtain ⟨subtotal, discount, _, _⟩ := bookingAmounts_parts accepted
  -- any booking will do
  obtain ⟨discounted, total, _, stored⟩ := sound "" 0 0 0 (sampleAddress 0) 0 sampleSlot
  have subtotalFits : FitsColumn amounts.subtotal := stored _ (by simp [Booking.amounts, newBooking])
  have totalFits : FitsColumn amounts.totalAmount := stored _ (by simp [Booking.amounts, newBooking])
  simp only [newBooking] at discounted total
  refine ⟨bookingAmounts_hasAdvance accepted, ?_, ?_, ?_⟩
  · apply Int.le_of_mul_le_mul_right _ (Int.natCast_pos.mpr positive)
    rw [discount] at discounted
    exact Int.sub_nonneg.mp discounted.1
  · rw [← subtotal]
    exact subtotalFits.2
  · rw [← total]
    exact totalFits.2

theorem isPriced_of_priceable (priced : service.Priced) (priceable : service.Priceable quantity) :
    service.IsPriced quantity := by
  obtain ⟨amounts, accepted⟩ := bookingAmounts_isOk quantity priceable.hasAdvance
  obtain ⟨subtotal, discount, trainingFee, taxAmount⟩ := bookingAmounts_parts accepted
  have total := (bookingAmounts_accepted accepted).1
  have advance := bookingAmounts_sound priced accepted
  have items : 0 ≤ service.effectivePrice * quantity :=
    Int.mul_nonneg priced.effectivePrice (Int.natCast_nonneg quantity)
  have atMost : service.effectivePrice * quantity ≤ service.basePrice * quantity :=
    Int.mul_le_mul_of_nonneg_right priceable.discounted (Int.natCast_nonneg quantity)
  have fee : 0 ≤ service.feeFor quantity := feeFor_nonneg priced
  have subtotalBound := priceable.subtotal
  have totalBound := priceable.total
  obtain ⟨advanceNonneg, advanceBound⟩ := advance
  refine ⟨amounts, accepted, fun number customer serviceId addressId address slotId slot => ?_⟩
  constructor
  · simp only [newBooking]
    unfold Money at *
    omega
  · exact total
  · exact ⟨advanceNonneg, advanceBound⟩
  · intro amount member
    simp only [Booking.amounts, newBooking, List.mem_cons, List.not_mem_nil, or_false] at member
    unfold FitsColumn
    unfold Money at *
    omega

end

theorem isPriced_iff (service : Service) {quantity : Nat} (positive : 0 < quantity) :
    service.toServiceFields.IsPriced quantity ↔ service.toServiceFields.Priceable quantity :=
  ⟨priceable_of_isPriced positive, isPriced_of_priceable service.priced⟩

theorem isPriced_iff_sample : sampleService.toServiceFields.IsPriced 20 :=
  (isPriced_iff sampleService (by decide)).mpr (by constructor <;> decide)

theorem clean_service_unpriced :
    ¬ ∀ (service : Service) (quantity : Nat), service.FitsColumns → 1 ≤ quantity → quantity ≤ 20 →
      service.toServiceFields.IsPriced quantity := by
  intro always
  have fits : unpricedService.FitsColumns := by
    constructor
    · decide
    · nofun
    · nofun
    · decide
    · decide
  obtain ⟨amounts, accepted, _⟩ := always unpricedService 1 fits (by decide) (by decide)
  cases accepted

end PsCore
