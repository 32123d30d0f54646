import PsCore.RefundsCore

/-!
Laws of the refund machine: repeated answers, answers in order, and the pending detour.
-/

namespace PsCore

namespace RefundState

@[simp] theorem settle_refund (terms : RefundTerms) (state : RefundState) (status : PaymentRecordStatus) :
    (state.settle terms status).refund = some status := by
  unfold settle
  split <;> rfl

theorem settle_whole {terms : RefundTerms} {state : RefundState} {status : PaymentRecordStatus}
    (whole : terms.isWhole status = true) : state.settle terms status =
      { refund := some status, source := .refunded, booking := .refunded, payment := .refunded } :=
  if_pos whole

theorem restored_ne_pending (terms : RefundTerms) : terms.restored ≠ .refundPending := by
  unfold RefundTerms.restored
  split <;> nofun

theorem settle_idem (terms : RefundTerms) (state : RefundState) (status : PaymentRecordStatus) :
    (state.settle terms status).settle terms status = state.settle terms status := by
  by_cases whole : terms.isWhole status = true
  · rw [settle_whole whole, settle_whole whole]
  · unfold settle
    rw [if_neg whole, if_neg whole]
    by_cases awaited : terms.isAwaited status = true
    · simp only [if_pos awaited]
    · simp only [if_neg awaited]
      by_cases pending : state.booking = .refundPending
      · simp only [if_pos pending, if_neg (restored_ne_pending terms)]
      · simp only [if_neg pending]

/-! Lists of answers. -/

theorem foldl_settle_repeated {terms : RefundTerms} {state : RefundState} {status : PaymentRecordStatus}
    {answers : List PaymentRecordStatus} (same : ∀ answer ∈ answers, answer = status) :
    answers.foldl (RefundState.settle terms) (state.settle terms status) = state.settle terms status := by
  induction answers with
  | nil => rfl
  | cons answer rest ih =>
      rw [List.foldl_cons, same answer List.mem_cons_self, settle_idem]
      exact ih fun other member => same other (List.mem_cons_of_mem _ member)

theorem InOrder.all_success {answers : List PaymentRecordStatus} (inOrder : InOrder (some .success) answers) :
    ∀ answer ∈ answers, answer = .success := by
  induction answers with
  | nil =>
      intro answer member
      cases member
  | cons first rest ih =>
      have isSuccess := inOrder.1 rfl
      subst isSuccess
      intro answer member
      rcases List.mem_cons.mp member with rfl | inRest
      · rfl
      · exact ih inOrder.2 answer inRest

theorem foldl_settle_inOrder {terms : RefundTerms} {answers : List PaymentRecordStatus}
    (answered : ∀ answer ∈ answers, answer = .pending ∨ answer = .success) (succeeds : .success ∈ answers)
    {state : RefundState} (inOrder : InOrder state.refund answers) :
    answers.foldl (RefundState.settle terms) state =
      (if .pending ∈ answers then state.settle terms .pending else state).settle terms .success := by
  induction answers generalizing state with
  | nil => cases succeeds
  | cons first rest ih =>
      obtain ⟨_, later⟩ := inOrder
      rw [List.foldl_cons]
      rcases answered first List.mem_cons_self with rfl | rfl
      · have succeedsLater : .success ∈ rest := by simpa using succeeds
        have restAnswered := fun answer member => answered answer (List.mem_cons_of_mem _ member)
        have laterInOrder : InOrder (state.settle terms .pending).refund rest := by
          rw [settle_refund]
          exact later
        rw [ih restAnswered succeedsLater laterInOrder, if_pos List.mem_cons_self]
        by_cases pendingAgain : .pending ∈ rest
        · rw [if_pos pendingAgain, settle_idem]
        · rw [if_neg pendingAgain]
      · have onlySuccess := later.all_success
        have noPending : .pending ∉ .success :: rest := by
          intro member
          rcases List.mem_cons.mp member with same | inRest
          · cases same
          · cases onlySuccess _ inRest
        rw [if_neg noPending]
        exact foldl_settle_repeated onlySuccess

theorem completions_pos {answers : List PaymentRecordStatus} {previous : Option PaymentRecordStatus}
    (open_ : previous ≠ some .success) (succeeds : .success ∈ answers) : 0 < completions previous answers := by
  induction answers generalizing previous with
  | nil => cases succeeds
  | cons first rest ih =>
      unfold completions
      by_cases isSuccess : first = .success
      · rw [if_pos ⟨isSuccess, open_⟩]
        omega
      · have inRest : .success ∈ rest := by
          rcases List.mem_cons.mp succeeds with same | inRest
          · exact absurd same.symm isSuccess
          · exact inRest
        have later : 0 < completions (some first) rest := ih (by simpa using isSuccess) inRest
        omega

theorem getLast?_cons_or (first : PaymentRecordStatus) (rest : List PaymentRecordStatus)
    (previous : Option PaymentRecordStatus) :
    (first :: rest).getLast?.or previous = rest.getLast?.or (some first) := by
  rw [List.getLast?_cons]
  cases rest.getLast? <;> rfl

theorem foldl_settle_refund (terms : RefundTerms) (answers : List PaymentRecordStatus) (state : RefundState) :
    (answers.foldl (RefundState.settle terms) state).refund = answers.getLast?.or state.refund := by
  induction answers generalizing state with
  | nil => rfl
  | cons first rest ih => rw [List.foldl_cons, ih, settle_refund, getLast?_cons_or]

theorem InOrder.announced_once {answers : List PaymentRecordStatus} {previous : Option PaymentRecordStatus}
    (inOrder : InOrder previous answers) (succeeds : previous = some .success ∨ .success ∈ answers) :
    answers.getLast?.or previous = some .success ∧
      completions previous answers = if previous = some .success then 0 else 1 := by
  induction answers generalizing previous with
  | nil =>
      rcases succeeds with isSuccess | member
      · rw [isSuccess]
        exact ⟨rfl, rfl⟩
      · cases member
  | cons first rest ih =>
      obtain ⟨kept, later⟩ := inOrder
      have succeedsLater : some first = some .success ∨ .success ∈ rest := by
        rcases succeeds with isSuccess | member
        · exact .inl (by rw [kept isSuccess])
        · rcases List.mem_cons.mp member with same | inRest
          · exact .inl (by rw [same])
          · exact .inr inRest
      obtain ⟨last, count⟩ := ih later succeedsLater
      rw [getLast?_cons_or, completions, count]
      refine ⟨last, ?_⟩
      by_cases isFirst : first = .success
      · by_cases isSuccess : previous = some .success <;> simp [isFirst, isSuccess]
      · have open_ : previous ≠ some .success := fun isSuccess => isFirst (kept isSuccess)
        simp [isFirst, open_]

theorem inOrder_of_announced {answers : List PaymentRecordStatus} {previous : Option PaymentRecordStatus}
    (last : answers.getLast?.or previous = some .success)
    (count : completions previous answers = if previous = some .success then 0 else 1) :
    InOrder previous answers := by
  induction answers generalizing previous with
  | nil => trivial
  | cons first rest ih =>
      rw [getLast?_cons_or] at last
      unfold completions at count
      by_cases isFirst : first = .success
      · refine ⟨fun _ => isFirst, ih last ?_⟩
        by_cases isSuccess : previous = some .success
        · simpa [isFirst, isSuccess] using count
        · simpa [isFirst, isSuccess] using count
      · by_cases isSuccess : previous = some .success
        · -- the refund has left its success, so it is announced again when it comes back
          have succeedsLater : .success ∈ rest := by
            cases rest.eq_nil_or_concat with
            | inl empty => simp [empty, isFirst] at last
            | inr split =>
                obtain ⟨earlier, final, rfl⟩ := split
                simp only [List.concat_eq_append, List.getLast?_append, List.getLast?_singleton,
                  Option.some_or, Option.some.injEq] at last
                simp [last]
          have again : 0 < completions (some first) rest := completions_pos (by simpa using isFirst) succeedsLater
          simp [isFirst, isSuccess] at count
          omega
        · refine ⟨fun already => absurd already isSuccess, ih last ?_⟩
          simpa [isFirst, isSuccess] using count

theorem isWhole_of_pending {terms : RefundTerms} (nonneg : 0 ≤ terms.amount) (final : PaymentRecordStatus)
    (whole : terms.isWhole .pending = true) : terms.isWhole final = true := by
  have others : terms.sourceAmount ≤ terms.otherRefunds := by
    simpa [RefundTerms.isWhole, RefundTerms.paidBack] using whole
  by_cases isSuccess : final = .success
  · simp only [RefundTerms.isWhole, RefundTerms.paidBack, isSuccess, if_true, decide_eq_true_eq]
    unfold Money at *
    omega
  · simpa [RefundTerms.isWhole, RefundTerms.paidBack, isSuccess] using others

/-- A pending answer before the final one makes no difference where the refund is whole, is
not the only one awaited, or leaves the booking with the status that would be restored. -/
theorem settle_detour_iff {terms : RefundTerms} (state : RefundState) {final : PaymentRecordStatus}
    (nonneg : 0 ≤ terms.amount) (settles : final.isPending = false) :
    (state.settle terms .pending).settle terms final = state.settle terms final ↔
      terms.isWhole final = true ∨ 0 < terms.otherPending ∨ state.booking = .refundPending ∨
        state.booking = terms.restored := by
  by_cases whole : terms.isWhole final = true
  · simp only [settle_whole whole, whole, true_or]
  · have started : ¬ terms.isWhole .pending = true := fun isWhole => whole (isWhole_of_pending nonneg final isWhole)
    have detour : state.settle terms .pending =
        { state with refund := some .pending, booking := .refundPending } := by
      simp [settle, started, RefundTerms.isAwaited, PaymentRecordStatus.isPending]
    have restored := restored_ne_pending terms
    rw [detour]
    by_cases others : 0 < terms.otherPending
    · simp [settle, whole, others, RefundTerms.isAwaited]
    · by_cases pending : state.booking = .refundPending
      · simp [settle, whole, others, settles, pending, RefundTerms.isAwaited]
      · simp [settle, whole, others, settles, pending, RefundTerms.isAwaited, eq_comm]

end RefundState

end PsCore
