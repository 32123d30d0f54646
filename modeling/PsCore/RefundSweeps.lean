import PsCore.Ledger
import PsCore.Library.Sweep

/-!
The sweep over the refunds that wait for the gateway. It asks for the newest five hundred, settles each
in a transaction of its own and stops at the first that fails.
-/

namespace PsCore

open Fallible RowTable TransitionRun Sweep

abbrev RefundGateway := String → Except ServiceError Json

def Payment.awaitsGateway (payment : Payment) : Bool :=
  payment.paymentType == .refund && (payment.status == .created || payment.status == .pending) &&
    payment.providerRefundId.isSome

/-- The newest first, as the table orders its rows. -/
def awaitingRefunds (payments : List Payment) : List PaymentId :=
  ((List.range payments.length).filter fun paymentId => payments[paymentId]?.any Payment.awaitsGateway).reverse

def refundReference (db : Db) (refundId : PaymentId) : String :=
  ((db.payments.rows[refundId]?.bind Payment.providerRefundId).getD "")

def reconcileRefundTask (now : Instant) (gateway : RefundGateway) (refundId : PaymentId) (db : Db) :
    Except ServiceError Db := do
  let (_, next) ← reconcileRefund now refundId (gateway (refundReference db refundId)) db
  pure next

def reconcilePendingRefunds (now : Instant) (gateway : RefundGateway) (db : Db) : Except ServiceError Nat × Db :=
  sweep (reconcileRefundTask now gateway) ((awaitingRefunds db.payments.rows).take 500) db

def refundRow (db : Db) (refundId : PaymentId) : Option Payment :=
  db.payments.rows[refundId]?.filter (·.paymentType = .refund)

/-- Every refund came with its source and with a reference of the gateway. -/
def Payment.Referenced (payment : Payment) : Prop :=
  payment.paymentType = .refund → payment.parentPayment.isSome = true ∧ payment.providerRefundId.any (· ≠ "") = true

structure SweepReady (db : Db) : Prop where
  sound : PaymentsSound db
  referenced : ∀ payment ∈ db.payments.rows, payment.Referenced

def AnsweredBy (now : Instant) (gateway : RefundGateway) (before after : Payment) : Prop :=
  ∃ reference answer, before.providerRefundId = some reference ∧ gateway reference = .ok answer ∧
    after = before.withRefundStatus now (refundStatus answer)

/-- A sweep has given a part of the chosen refunds their answers, in their order, and touched no other
refund; what is left of the chosen ones begins with one that the gateway failed on. -/
structure ReconciledUpTo (now : Instant) (gateway : RefundGateway) (db : Db) (done : List PaymentId)
    (outcome : Except ServiceError Nat × Db) : Prop where
  stops : ((awaitingRefunds db.payments.rows).take 500 = done ∧ outcome.1 = .ok done.length) ∨
    ∃ refundId later error, (awaitingRefunds db.payments.rows).take 500 = done ++ refundId :: later ∧
      gateway (refundReference db refundId) = .error error ∧ outcome.1 = .error error
  settled : ∀ refundId ∈ done, ∃ before after, refundRow db refundId = some before ∧
    refundRow outcome.2 refundId = some after ∧ AnsweredBy now gateway before after
  untouched : ∀ refundId, refundId ∉ done → refundRow outcome.2 refundId = refundRow db refundId
  rows : outcome.2.payments.rows.length = db.payments.rows.length

section

variable {now : Instant} {gateway : RefundGateway} {db next : Db} {refundId : PaymentId}

theorem refundRow_some {refund : Payment} :
    refundRow db refundId = some refund ↔ db.payments.rows[refundId]? = some refund ∧ refund.paymentType = .refund := by
  simp [refundRow, Option.filter_eq_some_iff]

theorem mem_awaitingRefunds {payments : List Payment} : refundId ∈ awaitingRefunds payments ↔
    ∃ payment, payments[refundId]? = some payment ∧ payment.awaitsGateway = true := by
  simp only [awaitingRefunds, List.mem_reverse, List.mem_filter, List.mem_range, Option.any_eq_true]
  constructor
  · rintro ⟨_, awaits⟩
    exact awaits
  · rintro ⟨payment, found, awaits⟩
    exact ⟨(List.getElem?_eq_some_iff.mp found).1, payment, found, awaits⟩

theorem awaitingRefunds_nodup (payments : List Payment) : (awaitingRefunds payments).Nodup :=
  (List.reverse_perm _).nodup_iff.mpr (List.nodup_range.filter _)

theorem Payment.Referenced.kept {before after : Payment} (referenced : before.Referenced)
    (origin : SameOrigin before after) : after.Referenced := by
  intro isRefund
  rw [origin.parent, origin.refund]
  exact referenced (origin.kind.symm.trans isRefund)

theorem settledRows_referenced {settlement : RefundSettlement} {refund : Payment} {status : PaymentRecordStatus}
    (referenced : ∀ payment ∈ db.payments.rows, payment.Referenced)
    (found : db.payments.rows[settlement.refundId]? = some refund)
    (foundSource : db.payments.rows[settlement.sourceId]? = some settlement.source)
    (rows : settlement.payments.rows = db.payments.rows.set settlement.refundId (refund.withRefundStatus now status)) :
    ∀ payment ∈ settlement.settledRows, payment.Referenced := by
  have written : ∀ payment ∈ settlement.payments.rows, payment.Referenced := by
    intro payment member
    rw [rows] at member
    rcases List.mem_or_eq_of_mem_set member with old | isRefund
    · exact referenced payment old
    · rw [isRefund]
      exact (referenced refund (List.mem_of_getElem? found)).kept (refund.withRefundStatus_origin now status)
  intro payment member
  unfold RefundSettlement.settledRows at member
  split at member
  · rcases List.mem_or_eq_of_mem_set member with old | isSource
    · exact written payment old
    · rw [isSource]
      exact (referenced _ (List.mem_of_getElem? foundSource)).kept (settlement.source.status_origin .refunded)
  · exact written payment member

structure Reconciled (now : Instant) (gateway : RefundGateway) (db next : Db) (refundId : PaymentId) : Prop where
  ready : SweepReady next
  rows : next.payments.rows.length = db.payments.rows.length
  settled : ∃ before after, refundRow db refundId = some before ∧ refundRow next refundId = some after ∧
    AnsweredBy now gateway before after
  others : ∀ other, other ≠ refundId → refundRow next other = refundRow db other

theorem reconcileRefundTask_accepted (ready : SweepReady db)
    (accepted : reconcileRefundTask now gateway refundId db = .ok next) :
    Reconciled now gateway db next refundId := by
  simp only [reconcileRefundTask, accepted_bind, accepted_pure] at accepted
  obtain ⟨⟨answerId, last⟩, reconciled, rfl⟩ := accepted
  obtain ⟨_, _, effective⟩ := reconcileRefund_effect reconciled
  simp only [reconcileRefund, reconciledRefund, updateRefund, accepted_bind, accepted_orRaise, accepted_require,
    accepted_pure, Option.filter_eq_some_iff, decide_eq_true_eq, Prod.mk.injEq] at reconciled
  obtain ⟨⟨refund, settlement⟩, ⟨_, ⟨found, isRefund⟩, booking, _, _, named, sourceId, parent, source,
    foundSource, answer, answered, settlement', ⟨payments, stored, rfl⟩, rfl, rfl⟩, after, settles, rfl, rfl⟩ :=
    reconciled
  have rows := storePayment_accepted stored
  have settledRows := (settleRefund_accepted settles).2.1
  obtain ⟨_, present, ordered, _⟩ := ready.sound.parents refund (List.mem_of_getElem? found) sourceId parent
  rw [foundSource, Option.some.injEq] at present
  subst present
  have advance := (ready.sound.rows source (List.mem_of_getElem? foundSource)).advance ordered
  have apart : refundId ≠ sourceId := by
    intro same
    rw [same, foundSource, Option.some.injEq] at found
    rw [← found, advance] at isRefund
    cases isRefund
  obtain ⟨reference, isReference⟩ : ∃ reference, refund.providerRefundId = some reference := by
    cases isReference : refund.providerRefundId with
    | some reference => exact ⟨reference, rfl⟩
    | none => simp [isReference] at named
  have asked : gateway reference = .ok answer := by
    simpa [refundReference, found, isReference] using answered
  -- the source is an advance, so marking it changes no refund's row
  have place : ∀ other, refundRow after other =
      (db.payments.rows.set refundId (refund.withRefundStatus now (refundStatus answer)))[other]?.filter
        (·.paymentType = .refund) := by
    intro other
    unfold refundRow
    rw [settledRows]
    unfold RefundSettlement.settledRows
    simp only [rows]
    split
    · by_cases atSource : sourceId = other
      · subst atSource
        rw [List.getElem?_set_ne apart, foundSource, List.getElem?_set_self (by
          rw [List.length_set]; exact (List.getElem?_eq_some_iff.mp foundSource).1)]
        simp [Option.filter, advance]
      · rw [List.getElem?_set_ne atSource]
    · rfl
  refine ⟨⟨ready.sound.effective effective, ?_⟩, ?_, ⟨refund, _, refundRow_some.mpr ⟨found, isRefund⟩, ?_,
    reference, answer, isReference, asked, rfl⟩, fun other differs => ?_⟩
  · rw [settledRows]
    exact settledRows_referenced ready.referenced found foundSource rows
  · rw [settledRows]
    unfold RefundSettlement.settledRows
    split <;> simp [rows]
  · rw [place, List.getElem?_set_self (List.getElem?_eq_some_iff.mp found).1]
    simp [Option.filter, Payment.withRefundStatus, isRefund]
  · rw [place, List.getElem?_set_ne (Ne.symm differs)]
    rfl

theorem settleRefund_runs (db : Db) (settlement : RefundSettlement) (initiated completed : Bool)
    (marks : ∃ payments, storePayment settlement.payments settlement.sourceId
      { settlement.source with status := .refunded } = .ok payments) :
    ∃ next, settleRefund settlement initiated completed db = .ok next := by
  obtain ⟨payments, stored⟩ := marks
  simp only [settleRefund, applyRefundState, accepted_bind, accepted_pure]
  split
  · exact ⟨_, _, by simp only [stored, accepted_bind, accepted_pure]; exact ⟨payments, rfl, rfl⟩, rfl⟩
  · exact ⟨_, _, rfl, rfl⟩

/-- Nothing but the gateway can fail on a refund. -/
theorem reconcileRefundTask_runs (now : Instant) (ready : SweepReady db) {refund : Payment} {answer : Json}
    (found : refundRow db refundId = some refund) (answered : gateway (refundReference db refundId) = .ok answer) :
    ∃ next, reconcileRefundTask now gateway refundId db = .ok next := by
  obtain ⟨foundRow, isRefund⟩ := refundRow_some.mp found
  have member := List.mem_of_getElem? foundRow
  obtain ⟨hasParent, named⟩ := ready.referenced refund member isRefund
  obtain ⟨sourceId, parent⟩ := Option.isSome_iff_exists.mp hasParent
  obtain ⟨source, foundSource, ordered, _⟩ := ready.sound.parents refund member sourceId parent
  obtain ⟨⟨booking, foundBooking, _⟩, _⟩ := ready.sound.rows refund member
  have advance := (ready.sound.rows source (List.mem_of_getElem? foundSource)).advance ordered
  have origin := refund.withRefundStatus_origin now (refundStatus answer)
  have inactive : (refund.withRefundStatus now (refundStatus answer)).isActiveAdvance = false := by
    simp [Payment.isActiveAdvance, Payment.withRefundStatus, isRefund]
  obtain ⟨payments, stored⟩ := storePayment_inactive foundRow origin rfl inactive
  have apart : refundId ≠ sourceId := by
    intro same
    rw [same, foundSource, Option.some.injEq] at foundRow
    rw [← foundRow, advance] at isRefund
    cases isRefund
  have stillThere : payments.rows[sourceId]? = some source := by
    rw [storePayment_accepted stored, List.getElem?_set_ne apart, foundSource]
  have marks : ∃ marked, storePayment payments sourceId { source with status := .refunded } = .ok marked :=
    storePayment_inactive stillThere (source.status_origin .refunded) rfl
      (by simp [Payment.isActiveAdvance, PaymentRecordStatus.isActiveAdvance])
  obtain ⟨next, settled⟩ := settleRefund_runs db {
      payments := payments
      refundId := refundId
      refund := refund.withRefundStatus now (refundStatus answer)
      sourceId := sourceId
      source := source
      bookingId := refund.booking
      booking := booking } false
    (decide (refund.status ≠ .success ∧ (refund.withRefundStatus now (refundStatus answer)).status = .success)) marks
  refine ⟨next, ?_⟩
  simp only [reconcileRefundTask, reconcileRefund, reconciledRefund, updateRefund, accepted_bind, accepted_orRaise,
    accepted_require, accepted_pure, Option.filter_eq_some_iff, decide_eq_true_eq]
  exact ⟨(refundId, next), ⟨_, ⟨refund, ⟨foundRow, isRefund⟩, booking, foundBooking, (), named, sourceId, parent, source,
    foundSource, answer, answered, _, ⟨payments, stored, rfl⟩, rfl⟩, next, settled, rfl⟩, rfl⟩

theorem reconcileRefundTask_fails (ready : SweepReady db) {refund : Payment} {error : ServiceError}
    (found : refundRow db refundId = some refund) (failed : gateway (refundReference db refundId) = .error error) :
    reconcileRefundTask now gateway refundId db = .error error := by
  obtain ⟨foundRow, isRefund⟩ := refundRow_some.mp found
  have member := List.mem_of_getElem? foundRow
  obtain ⟨hasParent, named⟩ := ready.referenced refund member isRefund
  obtain ⟨sourceId, parent⟩ := Option.isSome_iff_exists.mp hasParent
  obtain ⟨source, foundSource, _⟩ := ready.sound.parents refund member sourceId parent
  obtain ⟨⟨booking, foundBooking, _⟩, _⟩ := ready.sound.rows refund member
  have asked : reconciledRefund now refundId (gateway (refundReference db refundId)) db = .error error := by
    rw [reconciledRefund, foundRow, Option.filter_some_pos (by simpa using isRefund)]
    simp only [orRaise, ok_bind, foundBooking, require_of _ named, parent, foundSource, failed]
    rfl
  rw [reconcileRefundTask, reconcileRefund, asked]
  rfl

theorem refundReference_eq {before after : Db} (same : refundRow after refundId = refundRow before refundId)
    {refund : Payment} (found : refundRow before refundId = some refund) :
    refundReference after refundId = refundReference before refundId := by
  unfold refundReference
  rw [(refundRow_some.mp found).1, (refundRow_some.mp (same.trans found)).1]

theorem reconcilePendingRefunds_upTo (ready : SweepReady db) (now : Instant) (gateway : RefundGateway) :
    ∃ done, ReconciledUpTo now gateway db done (reconcilePendingRefunds now gateway db) ∧
      SweepReady (reconcilePendingRefunds now gateway db).2 := by
  obtain ⟨done, works, stops⟩ := sweep_stopped (reconcileRefundTask now gateway)
    ((awaitingRefunds db.payments.rows).take 500) db
  have distinct := (awaitingRefunds_nodup db.payments.rows).sublist (List.take_sublist 500 _)
  have doneDistinct : done.Nodup := by
    rcases stops with ⟨all, _⟩ | ⟨refundId, later, error, split, _⟩
    · rw [← all]
      exact distinct
    · rw [split] at distinct
      exact (List.nodup_append.mp distinct).1
  obtain ⟨settled, untouched⟩ := works.places refundRow (AnsweredBy now gateway) SweepReady doneDistinct
    (fun _ _ _ ready accepted => (reconcileRefundTask_accepted ready accepted).ready)
    (fun _ _ _ ready accepted => (reconcileRefundTask_accepted ready accepted).settled)
    (fun _ _ _ other ready accepted => (reconcileRefundTask_accepted ready accepted).others other) ready
  have kept := works.keeps
    (fun state => SweepReady state ∧ state.payments.rows.length = db.payments.rows.length)
    (fun _ _ _ _ holds accepted => by
      have reconciled := reconcileRefundTask_accepted holds.1 accepted
      exact ⟨reconciled.ready, reconciled.rows.trans holds.2⟩) ⟨ready, rfl⟩
  refine ⟨done, ⟨?_, settled, untouched, kept.2⟩, kept.1⟩
  rcases stops with all | ⟨refundId, later, error, split, fails, outcome⟩
  · exact .inl all
  · refine .inr ⟨refundId, later, error, split, ?_, outcome⟩
    -- the refund that failed was still waiting, so it was the gateway that failed
    have chosen : refundId ∈ (awaitingRefunds db.payments.rows).take 500 := by rw [split]; simp
    obtain ⟨payment, found, awaits⟩ := mem_awaitingRefunds.mp (List.mem_of_mem_take chosen)
    have fresh : refundId ∉ done := by
      rw [split] at distinct
      intro member
      exact (List.nodup_append.mp distinct).2.2 refundId member refundId (List.mem_cons_self) rfl
    have isRefund : payment.paymentType = .refund := by
      simp only [Payment.awaitsGateway, Bool.and_eq_true, beq_iff_eq] at awaits
      exact awaits.1.1
    have waiting : refundRow db refundId = some payment := refundRow_some.mpr ⟨found, isRefund⟩
    have unchanged := untouched refundId fresh
    rw [← refundReference_eq unchanged waiting]
    cases answered : gateway (refundReference (sweep (reconcileRefundTask now gateway)
        ((awaitingRefunds db.payments.rows).take 500) db).2 refundId) with
    | ok answer =>
        obtain ⟨next, runs⟩ := reconcileRefundTask_runs now kept.1 (unchanged.trans waiting) answered
        rw [fails] at runs
        cases runs
    | error reason =>
        rw [reconcileRefundTask_fails kept.1 (unchanged.trans waiting) answered] at fails
        rw [Except.error.inj fails]

/-! A gateway that has made up its mind about every refund. -/

def RefundGateway.IsFinal (gateway : RefundGateway) : Prop :=
  ∀ reference, ∃ answer, gateway reference = .ok answer ∧ refundStatus answer ≠ .pending

def sweeps (gateway : RefundGateway) (db : Db) (times : List Instant) : Db :=
  times.foldl (fun db now => (reconcilePendingRefunds now gateway db).2) db

theorem awaits_refundRow (db : Db) (refundId : PaymentId) :
    db.payments.rows[refundId]?.any Payment.awaitsGateway = (refundRow db refundId).any Payment.awaitsGateway := by
  unfold refundRow
  cases found : db.payments.rows[refundId]? with
  | none => rfl
  | some payment =>
      by_cases isRefund : payment.paymentType = .refund
      · rw [Option.filter_some_pos (by simpa using isRefund)]
      · rw [Option.filter_some_neg (by simpa using isRefund)]
        simp [Payment.awaitsGateway, isRefund]

theorem AnsweredBy.settled {before after : Payment} (final : gateway.IsFinal)
    (answered : AnsweredBy now gateway before after) : after.awaitsGateway = false := by
  obtain ⟨reference, answer, _, isAnswer, rfl⟩ := answered
  obtain ⟨other, isOther, decided⟩ := final reference
  rw [isAnswer, Except.ok.injEq] at isOther
  subst isOther
  have notCreated : refundStatus answer ≠ .created := by
    unfold refundStatus
    dsimp only
    generalize String.ofList _ = name
    split
    · simp
    · split <;> simp
  simp [Payment.awaitsGateway, Payment.withRefundStatus, decided, notCreated]

/-- One sweep takes the newest five hundred off the list. -/
theorem ReconciledUpTo.drained {done : List PaymentId} {outcome : Except ServiceError Nat × Db}
    (final : gateway.IsFinal) (reconciled : ReconciledUpTo now gateway db done outcome) :
    done = (awaitingRefunds db.payments.rows).take 500 ∧ outcome.1 = .ok done.length ∧
      awaitingRefunds outcome.2.payments.rows = (awaitingRefunds db.payments.rows).drop 500 := by
  have complete : done = (awaitingRefunds db.payments.rows).take 500 ∧ outcome.1 = .ok done.length := by
    rcases reconciled.stops with ⟨all, isOk⟩ | ⟨refundId, later, error, _, fails, _⟩
    · exact ⟨all.symm, isOk⟩
    · obtain ⟨answer, isAnswer, _⟩ := final (refundReference db refundId)
      rw [fails] at isAnswer
      cases isAnswer
  refine ⟨complete.1, complete.2, ?_⟩
  have stillAwaits (refundId : PaymentId) : outcome.2.payments.rows[refundId]?.any Payment.awaitsGateway =
      (db.payments.rows[refundId]?.any Payment.awaitsGateway && decide (refundId ∉ done)) := by
    rw [awaits_refundRow, awaits_refundRow]
    by_cases worked : refundId ∈ done
    · obtain ⟨before, after, _, isAfter, answered⟩ := reconciled.settled refundId worked
      simp [isAfter, answered.settled final, worked]
    · simp [reconciled.untouched refundId worked, worked]
  calc awaitingRefunds outcome.2.payments.rows
      = (awaitingRefunds db.payments.rows).filter fun refundId => decide (refundId ∉ done) := by
        unfold awaitingRefunds
        rw [reconciled.rows, List.filter_reverse, List.filter_filter]
        refine congrArg List.reverse (List.filter_congr fun refundId _ => ?_)
        rw [stillAwaits, Bool.and_comm]
    _ = (awaitingRefunds db.payments.rows).drop 500 := by
        rw [complete.1]
        exact filter_beyond (awaitingRefunds_nodup _) 500

/-- What any number of sweeps leaves: the oldest refunds wait, the others have their answers. -/
structure Drained (gateway : RefundGateway) (db next : Db) (count : Nat) : Prop where
  awaiting : awaitingRefunds next.payments.rows = (awaitingRefunds db.payments.rows).drop count
  settled : ∀ refundId ∈ (awaitingRefunds db.payments.rows).take count, ∃ now before after,
    refundRow db refundId = some before ∧ refundRow next refundId = some after ∧ AnsweredBy now gateway before after
  untouched : ∀ refundId, refundId ∉ (awaitingRefunds db.payments.rows).take count →
    refundRow next refundId = refundRow db refundId

theorem sweeps_drain (final : gateway.IsFinal) (ready : SweepReady db) (times : List Instant) :
    Drained gateway db (sweeps gateway db times) (500 * times.length) := by
  induction times generalizing db with
  | nil => exact ⟨by simp [sweeps], by simp, fun _ _ => rfl⟩
  | cons now rest ih =>
      obtain ⟨done, reconciled, readyNext⟩ := reconcilePendingRefunds_upTo ready now gateway
      obtain ⟨isDone, _, left⟩ := reconciled.drained final
      subst isDone
      obtain ⟨awaitingLater, settledLater, untouchedLater⟩ := ih readyNext
      rw [left] at awaitingLater settledLater untouchedLater
      have count : 500 * (now :: rest).length = 500 + 500 * rest.length := by
        rw [List.length_cons]
        omega
      rw [count]
      have parts := List.take_add (l := awaitingRefunds db.payments.rows) (i := 500) (j := 500 * rest.length)
      have distinct := awaitingRefunds_nodup db.payments.rows
      refine ⟨by rw [← List.drop_drop]; exact awaitingLater, fun refundId member => ?_, fun refundId fresh => ?_⟩
      · rw [parts, List.mem_append] at member
        rcases member with first | second
        · obtain ⟨before, after, isBefore, isAfter, answered⟩ := reconciled.settled refundId first
          -- an answered refund is in no later sweep
          have notLater : refundId ∉ ((awaitingRefunds db.payments.rows).drop 500).take (500 * rest.length) := by
            intro again
            rw [← List.take_append_drop 500 (awaitingRefunds db.payments.rows), List.nodup_append] at distinct
            exact distinct.2.2 refundId first refundId (List.mem_of_mem_take again) rfl
          exact ⟨now, before, after, isBefore, (untouchedLater refundId notLater).trans isAfter, answered⟩
        · have notFirst : refundId ∉ (awaitingRefunds db.payments.rows).take 500 := by
            intro first
            rw [← List.take_append_drop 500 (awaitingRefunds db.payments.rows), List.nodup_append] at distinct
            exact distinct.2.2 refundId first refundId (List.mem_of_mem_take second) rfl
          obtain ⟨time, before, after, isBefore, isAfter, answered⟩ := settledLater refundId second
          exact ⟨time, before, after, (reconciled.untouched refundId notFirst).symm.trans isBefore, isAfter, answered⟩
      · rw [parts, List.mem_append, not_or] at fresh
        exact (untouchedLater refundId fresh.2).trans (reconciled.untouched refundId fresh.1)

end

def refundsNamed (_ : Db) : Effect → Bool
  | .refund settlement => settlement.refund.providerRefundId.any (· ≠ "")
  | _ => true

theorem newRefund_referenced {now : Instant} {sourceId : PaymentId} {source : Payment} {amount : Money}
    {currency key refundId : String} {status : PaymentRecordStatus} (named : refundId ≠ "") :
    (newRefund now sourceId source amount currency key refundId status).Referenced :=
  fun _ => ⟨rfl, by simpa [newRefund] using named⟩

theorem recorded_referenced {db : Db} {settlement : RefundSettlement}
    (referenced : ∀ payment ∈ db.payments.rows, payment.Referenced)
    (named : settlement.refund.providerRefundId.any (· ≠ "") = true) (written : settlement.Written db) :
    ∀ payment ∈ settlement.payments.rows, payment.Referenced := by
  intro payment member
  cases written with
  | requested now key refundId amount status paid positive bounded free row booking rows =>
      rw [rows, List.mem_append, List.mem_singleton] at member
      rcases member with old | rfl
      · exact referenced payment old
      · rw [row] at named ⊢
        exact newRefund_referenced (by simpa [newRefund] using named)
  | delivered now currency refundId amount status paid free row new booking rows =>
      rw [rows, List.mem_append, List.mem_singleton] at member
      rcases member with old | rfl
      · exact referenced payment old
      · rw [row] at named ⊢
        exact newRefund_referenced (by simpa [newRefund] using named)
  | rewritten now earlier status found row owner rows =>
      rw [rows] at member
      rcases List.mem_or_eq_of_mem_set member with old | isRefund
      · exact referenced payment old
      · rw [isRefund, row]
        exact (referenced earlier (List.mem_of_getElem? found)).kept (earlier.withRefundStatus_origin now status)

theorem Effective.referenced {db next : Db} {effect : Effect} (named : refundsNamed db effect = true)
    (referenced : ∀ payment ∈ db.payments.rows, payment.Referenced) (written : Effective effect db next) :
    ∀ payment ∈ next.payments.rows, payment.Referenced := by
  intro payment member
  cases written.rowsWritten with
  | same rows =>
      rw [rows] at member
      exact referenced payment member
  | advance position before after found ordered origin rows =>
      rw [rows] at member
      rcases List.mem_or_eq_of_mem_set member with old | rfl
      · exact referenced payment old
      · exact (referenced before (List.mem_of_getElem? found)).kept origin
  | offline new booking found offline rows =>
      rw [rows, List.mem_append, List.mem_singleton] at member
      rcases member with old | rfl
      · exact referenced payment old
      · exact fun isRefund => absurd isRefund offline.kind
  | settled settlement isEffect found grounded rows =>
      subst isEffect
      have recorded := recorded_referenced referenced named grounded
      rw [rows, RefundSettlement.settledRows] at member
      split at member
      · rcases List.mem_or_eq_of_mem_set member with old | rfl
        · exact recorded payment old
        · exact (referenced _ (List.mem_of_getElem? found)).kept (settlement.source.status_origin .refunded)
      · exact recorded payment member

theorem sweepReady_run {settings : Settings} {start : System} (initial : start.Initial) {ops : List Op}
    (named : Guarded (System.step settings) (Op.meets settings refundsNamed) start ops) :
    SweepReady (runAll (System.step settings) start ops).db := by
  refine ⟨paymentsSound_run initial ops, ?_⟩
  have routine : ∀ db next : Db, (∀ payment ∈ db.payments.rows, payment.Referenced) → Routine db next →
      ∀ payment ∈ next.payments.rows, payment.Referenced := by
    intro db next referenced change payment member
    rcases change.payments_cases with same | ⟨bookingId, booking, orderId, key, _, _, rows⟩
    · rw [same] at member
      exact referenced payment member
    · rw [rows, List.mem_append, List.mem_singleton] at member
      rcases member with old | rfl
      · exact referenced payment old
      · exact nofun
  refine run_invariant routine (fun db next effect referenced meets written => written.referenced meets referenced)
    named ?_
  rw [initial.payments]
  exact List.forall_mem_nil _

/-- In every reachable state, whatever the gateway does. -/
theorem reconciledUpTo_run {settings : Settings} {start : System} (initial : start.Initial) {ops : List Op}
    (named : Guarded (System.step settings) (Op.meets settings refundsNamed) start ops) (now : Instant)
    (gateway : RefundGateway) :
    ∃ done, ReconciledUpTo now gateway (runAll (System.step settings) start ops).db done
      (reconcilePendingRefunds now gateway (runAll (System.step settings) start ops).db) := by
  obtain ⟨done, reconciled, _⟩ := reconcilePendingRefunds_upTo (sweepReady_run initial named) now gateway
  exact ⟨done, reconciled⟩

def refundRequested : List Op := paidHistory ++ [
  .createRefund sampleNow 0 5000 "refund-key-1" (.ok { id := "rfnd_1", status := .text "pending" })]

def decidedGateway : RefundGateway := fun _ => .ok (.text "processed")

theorem reconciledUpTo_run_refundRequested :
    ∃ done, ReconciledUpTo sampleNow decidedGateway (runAll (System.step sampleSettings) sampleSystem refundRequested).db
      done (reconcilePendingRefunds sampleNow decidedGateway
        (runAll (System.step sampleSettings) sampleSystem refundRequested).db) :=
  reconciledUpTo_run sampleSystem_initial (by decide) sampleNow decidedGateway

/-- Once the gateway has decided every refund, each sweep takes five hundred off the list. -/
theorem drained_run {settings : Settings} {start : System} (initial : start.Initial) {ops : List Op}
    (named : Guarded (System.step settings) (Op.meets settings refundsNamed) start ops) {gateway : RefundGateway}
    (final : gateway.IsFinal) (times : List Instant) :
    Drained gateway (runAll (System.step settings) start ops).db
      (sweeps gateway (runAll (System.step settings) start ops).db times) (500 * times.length) :=
  sweeps_drain final (sweepReady_run initial named) times

theorem decidedGateway_isFinal : decidedGateway.IsFinal :=
  fun _ => ⟨.text "processed", rfl, by decide⟩

theorem drained_run_refundRequested :
    Drained decidedGateway (runAll (System.step sampleSettings) sampleSystem refundRequested).db
      (sweeps decidedGateway (runAll (System.step sampleSettings) sampleSystem refundRequested).db [sampleNow]) 500 :=
  drained_run sampleSystem_initial (by decide) decidedGateway_isFinal [sampleNow]

end PsCore
