import PsCore.Webhooks

/-!
Whether an acknowledged body was processed. A duplicate that comes in while a handler is at
work is acknowledged before anybody knows what the handler comes to.
-/

namespace PsCore

open Fallible RowTable TransitionRun

/-- A failure is written while nobody was acknowledged, or while another handler of the body is running. -/
def WebhookStep.harmless (payloadHash : String) (system : WebhookSystem) : WebhookStep → Bool
  | .conclude position => match system.handlers[position]? with
      | some handler => match handler.progress with
          | .dispatched (.error _) => handler.payloadHash != payloadHash ||
              !system.acknowledged payloadHash || decide (1 < system.running payloadHash)
          | _ => true
      | none => true
  | _ => true

namespace WebhookSystem

/-- Once no handler of the body is running, the record of an acknowledged body is PROCESSED. -/
def AcknowledgedProcessed (payloadHash : String) (system : WebhookSystem) : Prop :=
  system.running payloadHash = 0 → system.acknowledged payloadHash = true →
    (system.recordOf payloadHash).any (fun found => found.2.status == .processed) = true

instance (payloadHash : String) (system : WebhookSystem) : Decidable (system.AcknowledgedProcessed payloadHash) :=
  inferInstanceAs (Decidable (_ → _ → _))

variable {settings : WebhookSettings} {system : WebhookSystem} {payloadHash : String}

theorem mark_done (status : WebhookProcessingStatus) : status.mark = .done ↔ status = .processed := by
  cases status <;> simp [WebhookProcessingStatus.mark]

theorem acknowledgedProcessed_iff_kept :
    system.AcknowledgedProcessed payloadHash ↔ (system.job payloadHash).Kept := by
  have idle : ¬ Lease.Underway (system.job payloadHash).attempts ↔ system.running payloadHash = 0 := by
    rw [Lease.Underway, unsettled_running, Nat.not_lt, Nat.le_zero]
  have isDone : Lease.IsDone (system.job payloadHash).record ↔
      (system.recordOf payloadHash).any (fun found => found.2.status == .processed) = true := by
    cases found : system.recordOf payloadHash with
    | none => simp [Lease.IsDone, job, found]
    | some entry => simp [Lease.IsDone, job, found, PaymentWebhookEvent.lease, mark_done]
  rw [AcknowledgedProcessed, Lease.Job.Kept, idle, isDone]
  rfl

theorem harmless_job (settings : WebhookSettings) {step : WebhookStep} :
    step.harmless payloadHash system = true ↔
      ∀ event ∈ step.events settings payloadHash system, Lease.Harmless (system.job payloadHash) event := by
  cases step with
  | conclude position =>
      simp only [WebhookStep.harmless, WebhookStep.events]
      cases present : system.handlers[position]? with
      | none => simp
      | some handler =>
          by_cases own : handler.payloadHash = payloadHash
          · have place := attempt_place present own
            simp only [if_pos own, List.forall_mem_singleton, Lease.Harmless, place, Option.some.injEq,
              forall_eq', unsettled_running]
            cases progress : handler.progress with
            | dispatching => simp [stage_dispatching progress]
            | concluded outcome => simp [stage_concluded progress]
            | dispatched outcome =>
                rw [stage_dispatched progress]
                cases outcome with
                | ok processed => simp
                | error error => simp [own, job]
          · simp only [if_neg own]
            cases handler.progress with
            | dispatched outcome => cases outcome <;> simp [own]
            | _ => simp
  | operation op => simp [WebhookStep.harmless, WebhookStep.events]
  | wait duration => simp [WebhookStep.harmless, WebhookStep.events, Lease.Harmless]
  | deliver rawBody signature =>
      simp only [WebhookStep.harmless, WebhookStep.events, true_iff]
      intro event member
      split at member
      · split at member
        · rw [List.mem_singleton.mp member]
          trivial
        · cases member
      · cases member
  | dispatch position =>
      simp only [WebhookStep.harmless, WebhookStep.events, true_iff]
      intro event member
      split at member
      · split at member
        · rw [List.mem_singleton.mp member]
          trivial
        · cases member
      · cases member

theorem harmful_job (linked : system.Linked) {step : WebhookStep} (harmful : ¬ step.harmless payloadHash system = true) :
    ∃ event, ¬ Lease.Harmless (system.job payloadHash) event ∧
      (system.step settings step).job payloadHash = Lease.step webhookTerm (system.job payloadHash) event := by
  rw [harmless_job settings] at harmful
  rw [job_step linked]
  rcases events_cases settings system step payloadHash with none | ⟨event, one, _⟩
  · rw [none] at harmful
    exact absurd nofun harmful
  · rw [one, List.forall_mem_singleton] at harmful
    exact ⟨event, harmful, by rw [one, runAll_cons, runAll_nil]⟩

/-- All along a run acknowledged bodies are processed, exactly when no failure is written too late. -/
theorem acknowledgedProcessed_run (settings : WebhookSettings) (payloadHash : String) (system : WebhookSystem)
    (initial : system.Initial) (steps : List WebhookStep) :
    Guarded (step settings) (fun state step => step.harmless payloadHash state = true) system steps ↔
      ∀ before after, steps = before ++ after →
        AcknowledgedProcessed payloadHash (runAll (step settings) system before) := by
  have preserved : ∀ (state : WebhookSystem) (step : WebhookStep),
      state.Linked ∧ Lease.Backed (state.job payloadHash) → step.harmless payloadHash state = true →
      (state.step settings step).Linked ∧ Lease.Backed ((state.step settings step).job payloadHash) := by
    rintro state step ⟨linked, backed⟩ harmless
    refine ⟨linked.step step, ?_⟩
    exact events_step (fun job event backed harmless => backed.step event harmless) linked backed
      ((harmless_job settings).mp harmless)
  have broken : ∀ (state : WebhookSystem) (step : WebhookStep),
      state.Linked ∧ Lease.Backed (state.job payloadHash) → ¬ step.harmless payloadHash state = true →
      ¬ (state.step settings step).AcknowledgedProcessed payloadHash := by
    rintro state step ⟨linked, backed⟩ harmful
    obtain ⟨event, late, after⟩ := harmful_job linked harmful
    rw [acknowledgedProcessed_iff_kept, after]
    exact backed.broken late
  have start : Lease.Backed (system.job payloadHash) := by
    rw [initial.job payloadHash]
    exact ⟨fun _ => ⟨rfl, rfl⟩, nofun, nofun⟩
  exact Guarded.iff_throughout (fun state holds => acknowledgedProcessed_iff_kept.mpr holds.2.kept) preserved
    broken ⟨initial.linked, start⟩

/-- The first delivery is at work, a second one is acknowledged, the first one fails. -/
def acknowledgedDeliveries : List WebhookStep :=
  [sampleDelivery "capture", sampleDelivery "capture", .dispatch 0, .conclude 0]

theorem acknowledged_without_processing :
    ¬ ∀ (settings : WebhookSettings) (payloadHash : String) (system : WebhookSystem) (steps : List WebhookStep),
      system.Initial → AcknowledgedProcessed payloadHash (runAll (step settings) system steps) := by
  intro claimed
  have holds := claimed sampleWebhookSettings (sampleWebhookSettings.payloadHash (bodyBytes "capture"))
    sampleWebhookSystem acknowledgedDeliveries sampleWebhookSystem_initial
  exact absurd holds (by decide)

def earlyCaptureSettings : WebhookSettings :=
  { sampleWebhookSettings with
    jsonLoads := fun _ => some (.object [("event", .text "payment.captured"),
      ("payload", .object [("payment", .object [("entity",
        .object [("order_id", .text "order_1"), ("id", .text "pay_1"), ("amount", .number 20000)])])])]) }

/-- The first dispatch raises, the second delivery is processed, and the third one is a duplicate. -/
def recoveredDeliveries : List WebhookStep :=
  [sampleDelivery "capture", .dispatch 0, .conclude 0, .operation (sampleBookingBy 0),
    .operation (.createAdvancePaymentOrder 0 0 "payment-key-1" (.ok "order_1")), .wait minute,
    sampleDelivery "capture", .dispatch 1, .conclude 1, sampleDelivery "capture"]

theorem acknowledgedProcessed_run_recovered :
    (runAll (step earlyCaptureSettings) sampleWebhookSystem recoveredDeliveries).replies.map (·.result.isOk) =
      [false, true, true] ∧
    AcknowledgedProcessed (earlyCaptureSettings.payloadHash (bodyBytes "capture"))
      (runAll (step earlyCaptureSettings) sampleWebhookSystem recoveredDeliveries) :=
  ⟨by decide +kernel, (acknowledgedProcessed_run earlyCaptureSettings _ sampleWebhookSystem sampleWebhookSystem_initial
    recoveredDeliveries).mp (by decide +kernel) _ [] (List.append_nil _).symm⟩

end WebhookSystem

end PsCore
