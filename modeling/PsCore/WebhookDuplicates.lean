import PsCore.Webhooks

/-!
Repeated deliveries of one body. The lease keeps duplicates away while a handler is at work,
the final status afterwards.
-/

namespace PsCore

open Fallible RowTable TransitionRun

def WebhookHandler.succeeded (handler : WebhookHandler) : Bool :=
  match handler.progress with
  | .dispatching => false
  | .dispatched outcome | .concluded outcome => outcome.isOk

/-- No handler of the body takes more than five minutes, and none dies. -/
def WebhookStep.timely (payloadHash : String) (system : WebhookSystem) : WebhookStep → Bool
  | .wait duration => system.handlers.all fun handler =>
      handler.payloadHash != payloadHash || !handler.unfinished ||
        system.clock + duration ≤ handler.claimedAt + 5 * minute
  | _ => true

namespace WebhookSystem

def dispatchesBegun (system : WebhookSystem) (payloadHash : String) : Nat :=
  (system.handlersOf payloadHash).length

/-- What holds of a body's deliveries at any time: one dispatch at most is running, none begins
after one that succeeded, the next delivery after a failure begins one, and `attempts` counts them. -/
structure Deduplicated (settings : WebhookSettings) (payloadHash : String) (system : WebhookSystem) : Prop where
  single : system.running payloadHash ≤ 1
  final : ∀ step, (system.step settings step).dispatchesBegun payloadHash ≠ system.dispatchesBegun payloadHash →
    ∀ handler ∈ system.handlers, handler.payloadHash = payloadHash → handler.succeeded = false
  retried : ∀ rawBody signature request handler error, readWebhook settings rawBody signature = .ok request →
    request.payloadHash = payloadHash → (system.handlersOf payloadHash).getLast? = some handler →
    handler.progress = .concluded (.error error) →
    (system.deliver settings rawBody signature).dispatchesBegun payloadHash =
      system.dispatchesBegun payloadHash + 1
  attempts : ((system.recordOf payloadHash).map fun found => found.2.attempts).getD 0 =
    system.dispatchesBegun payloadHash

variable {settings : WebhookSettings} {system : WebhookSystem} {payloadHash : String}

theorem attempts_length (system : WebhookSystem) (payloadHash : String) :
    (system.job payloadHash).attempts.length = system.dispatchesBegun payloadHash := by
  simp [job, dispatchesBegun]

theorem succeeded_of_failed {handler : WebhookHandler} (failed : handler.attempt.stage = .settled false) :
    handler.succeeded = false := by
  unfold WebhookHandler.succeeded
  cases progress : handler.progress with
  | dispatching => rfl
  | dispatched outcome =>
      rw [stage_dispatched progress] at failed
      cases failed
  | concluded outcome =>
      rw [stage_concluded progress, Lease.Stage.settled.injEq] at failed
      exact failed

theorem attempt_mem {handler : WebhookHandler} (member : handler ∈ system.handlers)
    (own : handler.payloadHash = payloadHash) : handler.attempt ∈ (system.job payloadHash).attempts := by
  refine List.mem_map_of_mem (List.mem_filter.mpr ⟨member, ?_⟩)
  simpa using own

theorem timely_job {step : WebhookStep} (timely : step.timely payloadHash system = true) :
    ∀ event ∈ step.events settings payloadHash system,
      Lease.Timely webhookTerm (system.job payloadHash) event := by
  intro event member
  cases event with
  | pass duration =>
      have isWait : step = .wait duration := by
        rcases events_cases settings system step payloadHash with none | ⟨only, one, waits⟩
        · rw [none] at member
          cases member
        · rw [one, List.mem_singleton] at member
          exact waits duration member.symm
      subst isWait
      intro attempt isAttempt unsettled
      obtain ⟨handler, isHandler, rfl⟩ := List.mem_map.mp isAttempt
      obtain ⟨inHandlers, own⟩ := List.mem_filter.mp isHandler
      have within := List.all_eq_true.mp timely handler inHandlers
      have isOwn : handler.payloadHash = payloadHash := by simpa using own
      rw [attempt_unsettled] at unsettled
      have bound : system.clock + duration ≤ handler.claimedAt + 5 * minute := by
        simpa [isOwn, unsettled] using within
      exact bound
  | ask => trivial
  | finish position succeeded => trivial
  | settle position => trivial

/-! An orderly job is a body delivered without duplicates. -/

theorem orderly_final (linked : system.Linked) (orderly : Lease.Orderly webhookTerm (system.job payloadHash))
    {step : WebhookStep}
    (begins : (system.step settings step).dispatchesBegun payloadHash ≠ system.dispatchesBegun payloadHash) :
    ∀ handler ∈ system.handlers, handler.payloadHash = payloadHash → handler.succeeded = false := by
  intro handler member own
  have opens : (system.job payloadHash).record.any
      (Lease.Record.keepsAway webhookTerm (system.job payloadHash).clock) = false := by
    rw [← attempts_length, ← attempts_length, job_step linked] at begins
    rcases events_cases settings system step payloadHash with none | ⟨event, one, _⟩
    · rw [none] at begins
      exact absurd rfl begins
    · rw [one, runAll_cons, runAll_nil] at begins
      exact (Lease.step_attempts webhookTerm (system.job payloadHash) event).resolve_left begins
  exact succeeded_of_failed (orderly.begins_iff.mp opens handler.attempt (attempt_mem member own))

theorem orderly_retried (orderly : Lease.Orderly webhookTerm (system.job payloadHash)) {rawBody : List (Fin 256)}
    {signature : String} {request : WebhookRequest} {handler : WebhookHandler} {error : ServiceError}
    (read : readWebhook settings rawBody signature = .ok request) (own : request.payloadHash = payloadHash)
    (last : (system.handlersOf payloadHash).getLast? = some handler)
    (failed : handler.progress = .concluded (.error error)) (linked : system.Linked) :
    (system.deliver settings rawBody signature).dispatchesBegun payloadHash =
      system.dispatchesBegun payloadHash + 1 := by
  subst own
  have lastAttempt : (system.job request.payloadHash).attempts.getLast? = some handler.attempt := by
    simp [job, last]
  have opens := orderly.begins_iff.mpr (orderly.all_failed lastAttempt (stage_concluded failed))
  have member : handler ∈ system.handlersOf request.payloadHash := List.mem_of_getLast? last
  obtain ⟨inHandlers, isOwn⟩ := List.mem_filter.mp member
  obtain ⟨record, found⟩ := linked handler inHandlers
  rw [show handler.payloadHash = request.payloadHash by simpa using isOwn] at found
  have after := (job_claim_known found).2
  rw [Lease.step_ask_begins opens] at after
  have delivered : system.deliver settings rawBody signature = system.claim request := by
    simp only [deliver, read]
  rw [delivered, ← attempts_length, ← attempts_length, after]
  simp [Lease.Job.begin]

theorem Deduplicated.of_orderly (linked : system.Linked)
    (orderly : Lease.Orderly webhookTerm (system.job payloadHash)) :
    Deduplicated settings payloadHash system := by
  constructor
  · rw [← unsettled_running]
    exact orderly.atMostOne
  · intro step begins
    exact orderly_final linked orderly begins
  · intro rawBody signature request handler error read own last failed
    exact orderly_retried orderly read own last failed linked
  · have counted := orderly.counted
    rw [attempts_length] at counted
    rw [← counted]
    simp only [job, Option.map_map]
    rfl

/-- However the deliveries of a body come and go, if no handler outlives its lease. -/
theorem deduplicated_run (settings : WebhookSettings) (payloadHash : String) (system : WebhookSystem)
    (initial : system.Initial) (steps : List WebhookStep)
    (timely : Guarded (step settings) (fun state step => step.timely payloadHash state = true) system steps) :
    Deduplicated settings payloadHash (runAll (step settings) system steps) := by
  have preserved : ∀ (state : WebhookSystem) (step : WebhookStep),
      state.Linked ∧ Lease.Orderly webhookTerm (state.job payloadHash) → step.timely payloadHash state = true →
      (state.step settings step).Linked ∧ Lease.Orderly webhookTerm ((state.step settings step).job payloadHash) := by
    rintro state step ⟨linked, orderly⟩ meets
    refine ⟨linked.step step, ?_⟩
    exact events_step (fun job event orderly within => orderly.step event within) linked orderly (timely_job meets)
  have start : Lease.Orderly webhookTerm (system.job payloadHash) := by
    rw [initial.job payloadHash]
    exact .untouched rfl rfl
  obtain ⟨linked, orderly⟩ := timely.invariant preserved ⟨initial.linked, start⟩
  exact .of_orderly linked orderly

def retriedDeliveries : List WebhookStep :=
  [sampleDelivery "capture", sampleDelivery "capture", .dispatch 0, .conclude 0, .wait minute,
    sampleDelivery "capture"]

theorem deduplicated_run_retried :
    Deduplicated sampleWebhookSettings (sampleWebhookSettings.payloadHash (bodyBytes "capture"))
      (runAll (step sampleWebhookSettings) sampleWebhookSystem retriedDeliveries) :=
  deduplicated_run _ _ _ sampleWebhookSystem_initial retriedDeliveries (by decide)

end WebhookSystem

end PsCore
