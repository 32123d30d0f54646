import PsCore.Payments

/-!
When the unique columns and constraints of the payment table let a row be written.
-/

namespace PsCore

open Fallible RowTable

theorem sameValue_comm (first second : Option String) : sameValue first second = sameValue second first := by
  unfold sameValue
  cases first with
  | none => cases second <;> rfl
  | some left =>
      cases second with
      | none => rfl
      | some right => simp [Bool.beq_comm (a := left)]

@[simp] theorem sameValue_none (first : Option String) : sameValue first none = false := by
  unfold sameValue
  cases first <;> rfl

theorem sameValue_some {first : Option String} {value : String} :
    sameValue first (some value) = true ↔ first = some value := by
  unfold sameValue
  cases first <;> simp

theorem clashes_symm (first second : Payment) (clash : first.clashes second = true) :
    second.clashes first = true := by
  simp only [Payment.clashes, Bool.or_eq_true, Bool.and_eq_true, beq_iff_eq, bne_iff_ne,
    sameValue_comm second.providerOrderId, sameValue_comm second.providerPaymentId,
    sameValue_comm second.providerRefundId] at clash ⊢
  rcases clash with ((((order | payment) | refund) | ⟨⟨booking, left⟩, right⟩) | ⟨⟨⟨booking, kind⟩, key⟩, given⟩)
  · exact .inl (.inl (.inl (.inl order)))
  · exact .inl (.inl (.inl (.inr payment)))
  · exact .inl (.inl (.inr refund))
  · exact .inl (.inr ⟨⟨booking.symm, right⟩, left⟩)
  · exact .inr ⟨⟨⟨booking.symm, kind.symm⟩, key.symm⟩, by rw [← key]; exact given⟩

/-- The columns that no later write of a payment touches. -/
structure SameOrigin (before after : Payment) : Prop where
  order : after.providerOrderId = before.providerOrderId
  refund : after.providerRefundId = before.providerRefundId
  booking : after.booking = before.booking
  kind : after.paymentType = before.paymentType
  key : after.idempotencyKey = before.idempotencyKey
  amount : after.amount = before.amount
  parent : after.parentPayment = before.parentPayment

theorem SameOrigin.refl (payment : Payment) : SameOrigin payment payment :=
  ⟨rfl, rfl, rfl, rfl, rfl, rfl, rfl⟩

theorem SameOrigin.trans {first second third : Payment} (one : SameOrigin first second)
    (two : SameOrigin second third) : SameOrigin first third :=
  ⟨two.order.trans one.order, two.refund.trans one.refund, two.booking.trans one.booking, two.kind.trans one.kind,
    two.key.trans one.key, two.amount.trans one.amount, two.parent.trans one.parent⟩

theorem Payment.succeeded_origin (payment : Payment) (now : Instant) (providerPaymentId : String) :
    SameOrigin payment (payment.succeeded now providerPaymentId) :=
  ⟨rfl, rfl, rfl, rfl, rfl, rfl, rfl⟩

theorem Payment.markedFailed_origin (payment : Payment) (providerPaymentId : Option String) :
    SameOrigin payment (payment.markedFailed providerPaymentId) :=
  ⟨rfl, rfl, rfl, rfl, rfl, rfl, rfl⟩

theorem Payment.withRefundStatus_origin (refund : Payment) (now : Instant) (status : PaymentRecordStatus) :
    SameOrigin refund (refund.withRefundStatus now status) :=
  ⟨rfl, rfl, rfl, rfl, rfl, rfl, rfl⟩

theorem Payment.status_origin (payment : Payment) (status : PaymentRecordStatus) :
    SameOrigin payment { payment with status := status } :=
  ⟨rfl, rfl, rfl, rfl, rfl, rfl, rfl⟩

theorem clashes_rewritten {other before after : Payment} (origin : SameOrigin before after)
    (apart : ¬ other.clashes before = true) :
    other.clashes after = true ↔ sameValue other.providerPaymentId after.providerPaymentId = true ∨
      (other.booking = before.booking ∧ other.isActiveAdvance = true ∧ after.isActiveAdvance = true) := by
  simp only [Payment.clashes, Bool.or_eq_true, Bool.and_eq_true, beq_iff_eq, bne_iff_ne, not_or] at apart ⊢
  obtain ⟨⟨⟨⟨order, _⟩, refund⟩, _⟩, key⟩ := apart
  rw [origin.order, origin.refund, origin.booking, origin.kind, origin.key]
  constructor
  · rintro ((((sameOrder | samePayment) | sameRefund) | ⟨⟨booking, left⟩, right⟩) | sameKey)
    · exact absurd sameOrder order
    · exact .inl samePayment
    · exact absurd sameRefund refund
    · exact .inr ⟨booking, left, right⟩
    · exact absurd sameKey key
  · rintro (samePayment | ⟨booking, left, right⟩)
    · exact .inl (.inl (.inl (.inr samePayment)))
    · exact .inl (.inr ⟨⟨booking, left⟩, right⟩)

def PaymentIdFree (payments : List Payment) (paymentId : PaymentId) (providerPaymentId : String) : Prop :=
  ∀ (position : PaymentId) (other : Payment), payments[position]? = some other → position ≠ paymentId →
    other.providerPaymentId ≠ some providerPaymentId

def OnlyAdvance (payments : List Payment) (paymentId : PaymentId) (bookingId : BookingId) : Prop :=
  ∀ (position : PaymentId) (other : Payment), payments[position]? = some other → position ≠ paymentId →
    other.booking = bookingId → other.isActiveAdvance = false

theorem storePayment_iff {payments : PaymentTable} {paymentId : PaymentId} {before after : Payment}
    (found : payments.rows[paymentId]? = some before) (origin : SameOrigin before after) :
    (∃ next, storePayment payments paymentId after = .ok next) ↔
      ∀ (position : PaymentId) (other : Payment), payments.rows[position]? = some other → position ≠ paymentId →
        ¬ sameValue other.providerPaymentId after.providerPaymentId = true ∧
        ¬ (other.booking = before.booking ∧ other.isActiveAdvance = true ∧ after.isActiveAdvance = true) := by
  have stored : (∃ next, storePayment payments paymentId after = .ok next) ↔
      (payments.replace? paymentId after).isSome = true := by
    simp only [storePayment, accepted_orRaise, Option.isSome_iff_exists]
  rw [stored, UniqueTable.replace?_isSome_iff clashes_symm]
  constructor
  · intro fresh position other present differs
    have apart := payments.apart clashes_symm present found differs
    have free := fresh position other present differs
    rw [clashes_rewritten origin apart, not_or] at free
    exact free
  · intro free position other present differs
    have apart := payments.apart clashes_symm present found differs
    rw [clashes_rewritten origin apart, not_or]
    exact free position other present differs

theorem storePayment_succeeded_iff {payments : PaymentTable} {paymentId : PaymentId} {payment : Payment}
    {now : Instant} {providerPaymentId : String} (found : payments.rows[paymentId]? = some payment)
    (advance : payment.paymentType = .bookingAdvance) :
    (∃ next, storePayment payments paymentId (payment.succeeded now providerPaymentId) = .ok next) ↔
      PaymentIdFree payments.rows paymentId providerPaymentId ∧
        OnlyAdvance payments.rows paymentId payment.booking := by
  have active : (payment.succeeded now providerPaymentId).isActiveAdvance = true := by
    simp [Payment.isActiveAdvance, Payment.succeeded, PaymentRecordStatus.isActiveAdvance, advance]
  have origin := payment.succeeded_origin now providerPaymentId
  rw [storePayment_iff found origin]
  constructor
  · intro free
    refine ⟨fun position other present differs => ?_, fun position other present differs booking => ?_⟩
    · have unused := (free position other present differs).1
      rw [Payment.succeeded, sameValue_some] at unused
      exact unused
    · have only := (free position other present differs).2
      simpa [booking, active] using only
  · rintro ⟨unused, only⟩ position other present differs
    refine ⟨?_, ?_⟩
    · rw [Payment.succeeded, sameValue_some]
      exact unused position other present differs
    · rintro ⟨booking, isActive, _⟩
      rw [only position other present differs booking] at isActive
      cases isActive

theorem storePayment_markedFailed_iff {payments : PaymentTable} {paymentId : PaymentId} {payment : Payment}
    {providerPaymentId : Option String} (found : payments.rows[paymentId]? = some payment) :
    (∃ next, storePayment payments paymentId (payment.markedFailed providerPaymentId) = .ok next) ↔
      ∀ given, providerPaymentId = some given → PaymentIdFree payments.rows paymentId given := by
  have inactive : (payment.markedFailed providerPaymentId).isActiveAdvance = false := by
    simp [Payment.isActiveAdvance, Payment.markedFailed, PaymentRecordStatus.isActiveAdvance]
  have origin := payment.markedFailed_origin providerPaymentId
  rw [storePayment_iff found origin]
  constructor
  · intro free given isGiven position other present differs
    have unused := (free position other present differs).1
    subst isGiven
    have isStored : (payment.markedFailed (some given)).providerPaymentId = some given := rfl
    rw [isStored, sameValue_some] at unused
    exact unused
  · intro unused position other present differs
    refine ⟨?_, by simp [inactive]⟩
    cases providerPaymentId with
    | some given =>
        have isStored : (payment.markedFailed (some given)).providerPaymentId = some given := rfl
        rw [isStored, sameValue_some]
        exact unused given rfl position other present differs
    | none =>
        -- the stored payment id stays, and the table had no clash on it
        have isStored : (payment.markedFailed none).providerPaymentId = payment.providerPaymentId := rfl
        rw [isStored]
        intro same
        have apart := payments.apart clashes_symm present found differs
        simp [Payment.clashes, same] at apart

theorem storePayment_inactive {payments : PaymentTable} {paymentId : PaymentId} {before after : Payment}
    (found : payments.rows[paymentId]? = some before) (origin : SameOrigin before after)
    (paymentIdKept : after.providerPaymentId = before.providerPaymentId)
    (inactive : after.isActiveAdvance = false) :
    ∃ next, storePayment payments paymentId after = .ok next := by
  rw [storePayment_iff found origin]
  intro position other present differs
  refine ⟨?_, by simp [inactive]⟩
  rw [paymentIdKept]
  intro same
  have apart := payments.apart clashes_symm present found differs
  simp [Payment.clashes, same] at apart

end PsCore
