import PsCore.CheckoutCore
import PsCore.UniquePayments
import PsCore.Library.TransitionRun

/-!
What a refund request of an administrator is answered with. A key is looked up on the booking alone, and the
key that stands in for a missing one is the same for all refunds of a payment.
-/

namespace PsCore

open Fallible RowTable TransitionRun

structure RefundPost where
  now : Instant
  source : PaymentId
  header : String
  amount : Money
  providerRefund : Except ServiceError ProviderRefund

def RefundPost.key (request : RefundPost) : Except ServiceError String :=
  idempotencyKeyFromRequest request.header ("refund-" ++ toString request.source)

def refundPost (request : RefundPost) (db : Db) : Except ServiceError (PaymentId × Db) := do
  let _ ← orRaise db.payments.rows[request.source]? (.doesNotExist "Payment")
  let key ← request.key
  createRefund request.now request.source request.amount key request.providerRefund db

inductive RefundStep
  | operation (op : Op)
  | refund (request : RefundPost)

def RefundStep.step (settings : Settings) (state : System) : RefundStep → System
  | .operation op => System.step settings state op
  | .refund request => state.commit (refundPost request state.db)

/-- The refund is what the request asks for. -/
def RefundPost.Asks (request : RefundPost) (refund : Payment) : Prop :=
  refund.parentPayment = some request.source ∧ refund.amount = request.amount

instance RefundPost.Asks.decidable (request : RefundPost) (refund : Payment) : Decidable (request.Asks refund) :=
  inferInstanceAs (Decidable (_ ∧ _))

section

variable {db next : Db} {request : RefundPost} {source : Payment} {key : String}

end

end PsCore
