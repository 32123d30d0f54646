import PsCore.RefundDelivery

/-!
How much is refunded of one payment. A refund is checked against what is left of its source
when it is asked for; afterwards its status moves it in and out of the sum.
-/

namespace PsCore

open Fallible RowTable TransitionRun

def Db.remains (db : Db) (amount : Money) (sourceId : PaymentId) : Bool :=
  match db.payments.rows[sourceId]? with
  | some source => amount ≤ source.amount - requestedRefunds db.payments.rows sourceId
  | none => false

/-- A failed refund comes back, and a refund that only a webhook knows of comes in, within
what is left of the source. -/
def refundCondition (db : Db) : Effect → Bool
  | .refund settlement =>
      match db.payments.rows[settlement.refundId]? with
      | some earlier =>
          earlier.status != .failed || settlement.refund.status == .failed ||
            earlier.parentPayment.all (db.remains earlier.amount)
      | none =>
          settlement.refund.providerRefundId.all
              (fun reference => settlement.refund.idempotencyKey != "webhook-" ++ reference) ||
            (0 < settlement.refund.amount && db.remains settlement.refund.amount settlement.sourceId)
  | _ => true

structure Payment.Plain (payment : Payment) : Prop where
  kind : payment.paymentType ≠ .refund
  parent : payment.parentPayment = none

structure RefundsBounded (rows : List Payment) : Prop where
  positive : ∀ payment ∈ rows, payment.Plain ∨ 0 < payment.amount
  bounded : ∀ refund ∈ rows, ∀ sourceId, refund.parentPayment = some sourceId →
    ∃ source, rows[sourceId]? = some source ∧ requestedRefunds rows sourceId ≤ source.amount
  single : ∀ (first second : PaymentId) (one other : Payment), rows[first]? = some one → rows[second]? = some other →
    one.paymentType = .refund → other.isKeyed one.booking .refund one.idempotencyKey = true → first = second

theorem requestedRefunds_append (rows : List Payment) (payment : Payment) (sourceId : PaymentId) :
    requestedRefunds (rows ++ [payment]) sourceId = requestedRefunds rows sourceId +
      if payment.isRefundOf sourceId && payment.status != .failed then payment.amount else 0 :=
  sumWhere_append _ _ _ _

theorem requestedRefunds_set {rows : List Payment} {key : PaymentId} {before : Payment} (after : Payment)
    (sourceId : PaymentId) (found : rows[key]? = some before) :
    requestedRefunds (rows.set key after) sourceId = requestedRefunds rows sourceId -
      (if before.isRefundOf sourceId && before.status != .failed then before.amount else 0) +
      if after.isRefundOf sourceId && after.status != .failed then after.amount else 0 :=
  sumWhere_set _ _ _ found

theorem RefundsBounded.append {rows : List Payment} (bounds : RefundsBounded rows) {payment : Payment}
    (positive : payment.Plain ∨ 0 < payment.amount)
    (covered : ∀ sourceId, payment.parentPayment = some sourceId → ∃ source, rows[sourceId]? = some source ∧
      payment.amount ≤ source.amount - requestedRefunds rows sourceId)
    (free : payment.paymentType = .refund →
      ∀ other ∈ rows, other.isKeyed payment.booking .refund payment.idempotencyKey = false) :
    RefundsBounded (rows ++ [payment]) := by
  have kept : ∀ (sourceId : PaymentId) (source : Payment), rows[sourceId]? = some source →
      (rows ++ [payment])[sourceId]? = some source := by
    intro sourceId source present
    rw [List.getElem?_append_left (List.getElem?_eq_some_iff.mp present).1, present]
  refine ⟨?_, ?_, ?_⟩
  · intro other member
    rw [List.mem_append, List.mem_singleton] at member
    rcases member with old | rfl
    · exact bounds.positive other old
    · exact positive
  · intro refund member sourceId parent
    rw [requestedRefunds_append]
    by_cases isNew : payment.parentPayment = some sourceId
    · obtain ⟨source, present, covers⟩ := covered sourceId isNew
      refine ⟨source, kept sourceId source present, ?_⟩
      have positiveAmount : 0 < payment.amount := by
        rcases positive with plainNew | positiveAmount
        · rw [plainNew.parent] at isNew
          cases isNew
        · exact positiveAmount
      unfold Money at *
      split <;> omega
    · have other : (payment.isRefundOf sourceId && payment.status != .failed) = false := by
        simp [Payment.isRefundOf, isNew]
      rw [List.mem_append, List.mem_singleton] at member
      rcases member with old | rfl
      · obtain ⟨source, present, bound⟩ := bounds.bounded refund old sourceId parent
        refine ⟨source, kept sourceId source present, ?_⟩
        rw [other]
        simpa using bound
      · exact absurd parent isNew
  · intro first second one other atFirst atSecond kind sameKey
    rcases append_cases atFirst with oldFirst | ⟨isFirst, rfl⟩
    · rcases append_cases atSecond with oldSecond | ⟨_, rfl⟩
      · exact bounds.single first second one other oldFirst oldSecond kind sameKey
      · simp only [Payment.isKeyed, Bool.and_eq_true, beq_iff_eq] at sameKey
        have isFree := free sameKey.1.2 one (List.mem_of_getElem? oldFirst)
        simp [Payment.isKeyed, sameKey, kind] at isFree
    · rcases append_cases atSecond with oldSecond | ⟨isSecond, _⟩
      · have isFree := free kind other (List.mem_of_getElem? oldSecond)
        rw [sameKey] at isFree
        cases isFree
      · rw [isFirst, isSecond]

theorem SameOrigin.plain {before after : Payment} (origin : SameOrigin before after) (plain : before.Plain) :
    after.Plain :=
  ⟨by rw [origin.kind]; exact plain.kind, by rw [origin.parent]; exact plain.parent⟩

theorem RefundsBounded.set {rows : List Payment} (bounds : RefundsBounded rows) {key : PaymentId}
    {before after : Payment} (found : rows[key]? = some before) (origin : SameOrigin before after)
    (covered : before.status = .failed → after.status ≠ .failed → ∀ sourceId source,
      before.parentPayment = some sourceId → rows[sourceId]? = some source →
        before.amount ≤ source.amount - requestedRefunds rows sourceId) :
    RefundsBounded (rows.set key after) := by
  have inBounds := (List.getElem?_eq_some_iff.mp found).1
  refine ⟨?_, ?_, ?_⟩
  · intro payment member
    obtain ⟨position, present⟩ := List.mem_iff_getElem?.mp member
    obtain ⟨original, old, same⟩ := set_origin found origin present
    rcases bounds.positive original (List.mem_of_getElem? old) with plain | positive
    · exact .inl (same.plain plain)
    · exact .inr (by rw [same.amount]; exact positive)
  · intro refund member sourceId parent
    obtain ⟨position, present⟩ := List.mem_iff_getElem?.mp member
    obtain ⟨original, old, same⟩ := set_origin found origin present
    rw [same.parent] at parent
    obtain ⟨source, foundSource, bound⟩ := bounds.bounded original (List.mem_of_getElem? old) sourceId parent
    obtain ⟨stored, foundStored, sameSource⟩ := PaymentsKept.set found origin sourceId source foundSource
    refine ⟨stored, foundStored, ?_⟩
    rw [requestedRefunds_set after sourceId found, sameSource.amount]
    simp only [Payment.isRefundOf, origin.parent, origin.amount]
    by_cases isParent : before.parentPayment = some sourceId
    · have positive : 0 < before.amount := by
        rcases bounds.positive before (List.mem_of_getElem? found) with plainBefore | positive
        · rw [plainBefore.parent] at isParent
          cases isParent
        · exact positive
      by_cases wasFailed : before.status = .failed
      · by_cases isFailed : after.status = .failed
        · simp only [isParent, wasFailed, isFailed, bne_self_eq_false, Bool.and_false]
          simpa using bound
        · have covers := covered wasFailed isFailed sourceId source isParent foundSource
          simp only [isParent, wasFailed, isFailed, beq_self_eq_true, bne_self_eq_false, Bool.and_false,
            Bool.true_and, bne_iff_ne, ne_eq, not_false_eq_true, if_true, Bool.false_eq_true, if_false]
          unfold Money at *
          omega
      · simp only [isParent, wasFailed, beq_self_eq_true, Bool.true_and, bne_iff_ne, ne_eq, not_false_eq_true,
          if_true]
        unfold Money at *
        split <;> omega
    · have other : (before.parentPayment == some sourceId) = false := by simpa using isParent
      simp only [other, Bool.false_and]
      simpa using bound
  · intro first second one other atFirst atSecond kind sameKey
    obtain ⟨original, oldFirst, sameFirst⟩ := set_origin found origin atFirst
    obtain ⟨originalOther, oldSecond, sameSecond⟩ := set_origin found origin atSecond
    rw [sameFirst.kind] at kind
    simp only [Payment.isKeyed, sameFirst.booking, sameFirst.key, sameSecond.booking, sameSecond.kind,
      sameSecond.key] at sameKey
    exact bounds.single first second original originalOther oldFirst oldSecond kind sameKey

theorem RefundsBounded.set_plain {rows : List Payment} (bounds : RefundsBounded rows) {key : PaymentId}
    {before after : Payment} (found : rows[key]? = some before) (origin : SameOrigin before after)
    (plain : before.Plain) : RefundsBounded (rows.set key after) := by
  refine bounds.set found origin fun _ _ sourceId source parent => ?_
  rw [plain.parent] at parent
  cases parent

theorem RefundsBounded.append_plain {rows : List Payment} (bounds : RefundsBounded rows) {payment : Payment}
    (plain : payment.Plain) : RefundsBounded (rows ++ [payment]) := by
  refine bounds.append (.inl plain) (fun sourceId parent => ?_) fun kind => absurd kind plain.kind
  rw [plain.parent] at parent
  cases parent

theorem Payment.Sound.plain_of_order {bookings : List Booking} {payment : Payment} (sound : payment.Sound bookings)
    (ordered : payment.providerOrderId.isSome = true) : payment.Plain := by
  have advance := sound.advance ordered
  refine ⟨by rw [advance]; nofun, ?_⟩
  cases parent : payment.parentPayment with
  | none => rfl
  | some sourceId =>
      have refund := sound.refund (.inr (by rw [parent]; rfl))
      rw [advance] at refund
      cases refund

structure BoundedDb (db : Db) : Prop where
  sound : PaymentsSound db
  bounds : RefundsBounded db.payments.rows

theorem RefundsBounded.routine {db next : Db} (bounds : RefundsBounded db.payments.rows)
    (change : Routine db next) : RefundsBounded next.payments.rows := by
  rcases change.payments_cases with same | ⟨bookingId, booking, orderId, key, found, bookings, payments⟩
  · rw [same]
    exact bounds
  · rw [payments]
    exact bounds.append_plain ⟨nofun, rfl⟩

theorem Db.remains_iff {db : Db} {amount : Money} {sourceId : PaymentId} {source : Payment}
    (found : db.payments.rows[sourceId]? = some source) :
    db.remains amount sourceId = true ↔ amount ≤ source.amount - requestedRefunds db.payments.rows sourceId := by
  simp [Db.remains, found]

theorem RefundsBounded.recorded {db : Db} {settlement : RefundSettlement} (bounds : RefundsBounded db.payments.rows)
    (found : db.payments.rows[settlement.sourceId]? = some settlement.source)
    (condition : refundCondition db (.refund settlement) = true) (written : settlement.Written db) :
    RefundsBounded settlement.payments.rows := by
  cases written with
  | requested now key refundId amount status paid positive bounded free row booking rows =>
      rw [rows, row]
      refine bounds.append (.inr positive) (fun sourceId parent => ?_) fun _ => free
      simp only [newRefund, Option.some.injEq] at parent
      rw [← parent]
      exact ⟨settlement.source, found, bounded⟩
  | delivered now currency refundId amount status paid free row new booking rows =>
      have absent : db.payments.rows[settlement.refundId]? = none := by
        rw [new]
        simp
      simp only [refundCondition, absent, row, newRefund, Option.all_some, bne_self_eq_false, Bool.false_or,
        Bool.and_eq_true, decide_eq_true_eq, Db.remains_iff found] at condition
      rw [rows, row]
      refine bounds.append (.inr condition.1) (fun sourceId parent => ?_) fun _ => free
      simp only [newRefund, Option.some.injEq] at parent
      rw [← parent]
      exact ⟨settlement.source, found, condition.2⟩
  | rewritten now earlier status foundRefund row owner rows =>
      rw [rows]
      have origin : SameOrigin earlier settlement.refund := by
        rw [row]
        exact earlier.withRefundStatus_origin now status
      refine bounds.set foundRefund origin fun wasFailed isOpen sourceId parentSource parent present => ?_
      simp only [refundCondition, foundRefund, wasFailed, parent, Option.all_some, bne_self_eq_false,
        Bool.false_or, Bool.or_eq_true, beq_iff_eq, isOpen, false_or, Db.remains_iff present] at condition
      exact condition

theorem RefundsBounded.settled {db : Db} {settlement : RefundSettlement} (bounds : RefundsBounded db.payments.rows)
    (sound : PaymentsSound db) (found : db.payments.rows[settlement.sourceId]? = some settlement.source)
    (condition : refundCondition db (.refund settlement) = true) (written : settlement.Written db) :
    RefundsBounded settlement.settledRows := by
  have recorded := bounds.recorded found condition written
  have present := sound.source_untouched found written
  have source := sound.rows settlement.source (List.mem_of_getElem? found)
  have plain := source.plain_of_order (sound.source_ordered found written).1
  unfold RefundSettlement.settledRows
  split
  · exact recorded.set_plain present (settlement.source.status_origin _) plain
  · exact recorded

theorem RefundsBounded.effective {db next : Db} {effect : Effect} (bounds : RefundsBounded db.payments.rows)
    (sound : PaymentsSound db) (condition : refundCondition db effect = true)
    (written : Effective effect db next) : RefundsBounded next.payments.rows := by
  cases written.rowsWritten with
  | same rows =>
      rw [rows]
      exact bounds
  | advance position before after found ordered origin rows =>
      rw [rows]
      have payment := sound.rows before (List.mem_of_getElem? found)
      exact bounds.set_plain found origin (payment.plain_of_order ordered)
  | offline payment booking found offline rows =>
      rw [rows]
      exact bounds.append_plain ⟨offline.kind, offline.parent⟩
  | settled settlement isEffect found grounded rows =>
      subst isEffect
      rw [rows]
      exact bounds.settled sound found condition grounded

theorem BoundedDb.routine {db next : Db} (bounded : BoundedDb db) (change : Routine db next) : BoundedDb next :=
  ⟨bounded.sound.routine change, bounded.bounds.routine change⟩

theorem BoundedDb.effective {db next : Db} {effect : Effect} (bounded : BoundedDb db)
    (condition : refundCondition db effect = true) (written : Effective effect db next) : BoundedDb next :=
  ⟨bounded.sound.effective written, bounded.bounds.effective bounded.sound condition written⟩

theorem System.Initial.boundedDb {start : System} (initial : start.Initial) : BoundedDb start.db := by
  refine ⟨initial.paymentsSound, ?_⟩
  rw [initial.payments]
  exact ⟨by simp, by simp, by simp⟩

/-- What is refunded is positive and covered by its source, and a key has one refund. -/
structure NoOverRefund (db : Db) : Prop where
  positive : ∀ refund ∈ db.payments.rows, refund.paymentType = .refund → 0 < refund.amount
  covered : ∀ refund ∈ db.payments.rows, ∀ sourceId, refund.parentPayment = some sourceId →
    ∃ source, db.payments.rows[sourceId]? = some source ∧ requestedRefunds db.payments.rows sourceId ≤ source.amount
  single : ∀ (first second : PaymentId) (one other : Payment), db.payments.rows[first]? = some one →
    db.payments.rows[second]? = some other → one.paymentType = .refund → other.paymentType = .refund →
    one.booking = other.booking → one.idempotencyKey = other.idempotencyKey → first = second

def AnswersAgain (refundId : PaymentId) (refund : Payment) (db : Db) : Prop :=
  ∀ (sourceId : PaymentId) (source : Payment) (amount : Money) (plan : RefundPlan),
    db.payments.rows[sourceId]? = some source → source.booking = refund.booking →
    createRefundPlan sourceId amount refund.idempotencyKey db = .ok plan → plan = .existing refundId

structure RefundsWithinBounds (settings : Settings) (start : System) (ops : List Op) : Prop where
  reached : NoOverRefund (runAll (System.step settings) start ops).db
  repeated : ∀ earlier later, ops = earlier ++ later → ∀ (refundId : PaymentId) (refund : Payment),
    (runAll (System.step settings) start earlier).db.payments.rows[refundId]? = some refund →
    refund.paymentType = .refund → AnswersAgain refundId refund (runAll (System.step settings) start ops).db

theorem RefundsBounded.noOverRefund {db : Db} (bounds : RefundsBounded db.payments.rows) : NoOverRefund db := by
  refine ⟨?_, ?_, ?_⟩
  · intro refund member kind
    rcases bounds.positive refund member with plain | positive
    · exact absurd kind plain.kind
    · exact positive
  · intro refund member sourceId parent
    exact bounds.bounded refund member sourceId parent
  · intro first second one other atFirst atSecond oneKind otherKind booking key
    exact bounds.single first second one other atFirst atSecond oneKind
      (by simp [Payment.isKeyed, otherKind, booking, key])

theorem RefundsBounded.answersAgain {db : Db} (bounds : RefundsBounded db.payments.rows) {refundId : PaymentId}
    {refund : Payment} (found : db.payments.rows[refundId]? = some refund) (kind : refund.paymentType = .refund) :
    AnswersAgain refundId refund db := by
  intro sourceId source amount plan present booking planned
  simp only [createRefundPlan, accepted_bind, accepted_orRaise, accepted_require] at planned
  obtain ⟨source', foundSource, booking', _, _, _, reference, _, decided⟩ := planned
  rw [present, Option.some.injEq] at foundSource
  subst foundSource
  split at decided
  · rename_i otherId other latest
    simp only [accepted_pure] at decided
    obtain ⟨foundOther, isKeyed⟩ := latestRow_some latest
    rw [booking] at isKeyed
    have same := bounds.single refundId otherId refund other found foundOther kind isKeyed
    rw [← decided, same]
  · rename_i none_
    have other := latestRow_none.mp none_ refund (List.mem_of_getElem? found)
    simp [Payment.isKeyed, booking, kind] at other

structure RefundStored (refundId : PaymentId) (refund : Payment) (db : Db) : Prop where
  bounded : BoundedDb db
  row : ∃ after, db.payments.rows[refundId]? = some after ∧ SameOrigin refund after

theorem RefundStored.kept {refundId : PaymentId} {refund : Payment} {db next : Db}
    (stored : RefundStored refundId refund db) (bounded : BoundedDb next)
    (kept : PaymentsKept db.payments.rows next.payments.rows) : RefundStored refundId refund next := by
  obtain ⟨middle, present, same⟩ := stored.row
  obtain ⟨after, found, sameAfter⟩ := kept refundId middle present
  exact ⟨bounded, after, found, same.trans sameAfter⟩

theorem refundStored_run {settings : Settings} {start : System} {ops : List Op} {refundId : PaymentId}
    {refund : Payment} (stored : RefundStored refundId refund start.db)
    (guarded : Guarded (System.step settings) (Op.meets settings refundCondition) start ops) :
    RefundStored refundId refund (runAll (System.step settings) start ops).db :=
  run_invariant (fun _ _ stored change => stored.kept (stored.bounded.routine change) change.paymentsKept)
    (fun _ _ _ stored condition written =>
      stored.kept (stored.bounded.effective condition written) (written.paymentsKept stored.bounded.sound)) guarded stored

/-- No run over-refunds or refunds twice under one key, as long as failed refunds only come
back, and unknown ones only come in, within what is left. -/
theorem refundsWithinBounds_run {settings : Settings} {start : System} {ops : List Op} (initial : start.Initial)
    (guarded : Guarded (System.step settings) (Op.meets settings refundCondition) start ops) :
    RefundsWithinBounds settings start ops := by
  have bounded : ∀ reachedOps, Guarded (System.step settings) (Op.meets settings refundCondition) start reachedOps →
      BoundedDb (runAll (System.step settings) start reachedOps).db := by
    intro reachedOps reachedGuarded
    exact run_invariant (fun _ _ bounded change => bounded.routine change)
      (fun _ _ _ bounded condition written => bounded.effective condition written) reachedGuarded initial.boundedDb
  refine ⟨(bounded ops guarded).bounds.noOverRefund, ?_⟩
  intro earlier later split refundId refund found kind
  subst split
  rw [Guarded.append] at guarded
  have stored := refundStored_run ⟨bounded earlier guarded.1, refund, found, .refl refund⟩ guarded.2
  rw [← runAll_append] at stored
  obtain ⟨after, foundAfter, same⟩ := stored.row
  have again := stored.bounded.bounds.answersAgain foundAfter (by rw [same.kind]; exact kind)
  unfold AnswersAgain at again
  rw [same.booking, same.key] at again
  exact again

/-! The provider's side: every refund's statuses in their order, and reports of them. -/

inductive ProviderStep
  | moves (refundReference : String) (status : PaymentRecordStatus)
  | platform (op : Op)

def ProviderStep.op? : ProviderStep → Option Op
  | .moves _ _ => none
  | .platform op => some op

abbrev ProviderLog := List (String × PaymentRecordStatus)

def ProviderLog.status (log : ProviderLog) (reference : String) : Option PaymentRecordStatus :=
  (latestRow (fun entry => entry.1 == reference) log).map fun found => found.2.2

/-- Answers tell the refund's current status; a webhook tells one that it has had, of a
refund that is stored. -/
def Op.honest (log : ProviderLog) (state : System) : Op → Bool
  | .createRefund _ _ _ _ (.ok answer) => log.status answer.id == some (PsCore.refundStatus answer.status)
  | .reconcileRefund _ refundId (.ok answer) =>
      match state.db.payments.rows[refundId]? with
      | some refund => refund.providerRefundId.all fun reference =>
          log.status reference == some (PsCore.refundStatus answer)
      | none => true
  | .dispatchWebhook _ eventName payload =>
      !(["refund.created", "refund.processed", "refund.failed"].contains eventName) ||
      match refundFields payload with
      | .ok fields =>
          log.contains (fields.id.str, PsCore.refundStatus fields.status) &&
          state.db.payments.rows.any (·.providerRefundId == some fields.id.str)
      | .error _ => true
  | _ => true

def consistent (settings : Settings) : ProviderLog → System → List ProviderStep → Bool
  | _, _, [] => true
  | log, state, .moves reference status :: rest =>
      (log.status reference != some .failed || status == .failed) &&
      consistent settings (log ++ [(reference, status)]) state rest
  | log, state, .platform op :: rest =>
      op.honest log state && consistent settings log (System.step settings state op) rest

def sampleRefundWebhook (eventName reference status : String) : Op :=
  .dispatchWebhook sampleNow eventName (.object [("payload", .object [("refund", .object [("entity", .object [
    ("id", .text reference), ("payment_id", .text "pay_1"), ("status", .text status),
    ("amount", .number 20000)])])])])

def replacedRefund : List ProviderStep :=
  (paidHistory.map .platform) ++ [
    .moves "rfnd_1" .pending,
    .platform (.createRefund sampleNow 0 20000 "refund-key-1" (.ok { id := "rfnd_1", status := .text "created" })),
    .moves "rfnd_1" .failed,
    .platform (sampleRefundWebhook "refund.failed" "rfnd_1" "failed"),
    .moves "rfnd_2" .pending,
    .platform (.createRefund sampleNow 0 20000 "refund-key-2" (.ok { id := "rfnd_2", status := .text "created" }))]

theorem refundsWithinBounds_run_replaced :
    RefundsWithinBounds sampleSettings sampleSystem (replacedRefund.filterMap ProviderStep.op?) :=
  refundsWithinBounds_run sampleSystem_initial (by decide)

def lateRefundCreated : List ProviderStep :=
  replacedRefund ++ [.platform (sampleRefundWebhook "refund.created" "rfnd_1" "created")]

theorem payment_over_refunded :
    ¬ ∀ (settings : Settings) (start : System) (steps : List ProviderStep), start.Initial →
      consistent settings [] start steps = true →
      RefundsWithinBounds settings start (steps.filterMap ProviderStep.op?) := by
  intro always
  have bounds := (always sampleSettings sampleSystem lateRefundCreated sampleSystem_initial (by decide)).reached
  have requested : requestedRefunds (runAll (System.step sampleSettings) sampleSystem
      (lateRefundCreated.filterMap ProviderStep.op?)).db.payments.rows 0 = 40000 := by decide
  have child : ((runAll (System.step sampleSettings) sampleSystem
      (lateRefundCreated.filterMap ProviderStep.op?)).db.payments.rows[1]?).map Payment.parentPayment =
        some (some 0) := by decide
  have amount : ((runAll (System.step sampleSettings) sampleSystem
      (lateRefundCreated.filterMap ProviderStep.op?)).db.payments.rows[0]?).map Payment.amount = some 20000 := by decide
  obtain ⟨refund, found, parent⟩ := Option.map_eq_some_iff.mp child
  obtain ⟨source, foundSource, bound⟩ := bounds.covered refund (List.mem_of_getElem? found) 0 parent
  rw [foundSource, Option.map_some, Option.some.injEq] at amount
  rw [requested, amount] at bound
  exact absurd bound (by decide)

end PsCore
