import PsCore.WebhooksCore
import PsCore.Library.TransitionRun

/-!
The deliveries of one body are attempts at a job under a lease: the record's status and time
are the lease, and each step of a delivery is an event of the job.
-/

namespace PsCore

open Fallible RowTable TransitionRun

def webhookTerm : Nat := 5 * minute

def WebhookProgress.stage : WebhookProgress → Lease.Stage
  | .dispatching => .running
  | .dispatched outcome => .ended outcome.isOk
  | .concluded outcome => .settled outcome.isOk

def WebhookHandler.unfinished (handler : WebhookHandler) : Bool :=
  match handler.progress with
  | .dispatching | .dispatched _ => true
  | .concluded _ => false

def WebhookHandler.attempt (handler : WebhookHandler) : Lease.Attempt where
  begun := handler.claimedAt
  stage := handler.progress.stage

def WebhookProcessingStatus.mark : WebhookProcessingStatus → Lease.Mark
  | .processing => .taken
  | .processed => .done
  | .failed => .failed

def PaymentWebhookEvent.lease (record : PaymentWebhookEvent) : Lease.Record where
  mark := record.status.mark
  attempts := record.attempts
  stamp := record.updatedAt

namespace WebhookSystem

def recordOf (system : WebhookSystem) (payloadHash : String) : Option (Nat × PaymentWebhookEvent) :=
  firstRow (·.payloadHash == payloadHash) system.events

def handlersOf (system : WebhookSystem) (payloadHash : String) : List WebhookHandler :=
  system.handlers.filter (·.payloadHash == payloadHash)

def acknowledged (system : WebhookSystem) (payloadHash : String) : Bool :=
  system.replies.any fun reply => reply.payloadHash == payloadHash && reply.result.isOk

def job (system : WebhookSystem) (payloadHash : String) : Lease.Job where
  record := (system.recordOf payloadHash).map fun found => found.2.lease
  attempts := (system.handlersOf payloadHash).map WebhookHandler.attempt
  told := system.acknowledged payloadHash
  clock := system.clock

/-- The record that a handler claimed is the one of its body. -/
def Linked (system : WebhookSystem) : Prop :=
  ∀ handler ∈ system.handlers, ∃ record, system.recordOf handler.payloadHash = some (handler.recordId, record)

def running (system : WebhookSystem) (payloadHash : String) : Nat :=
  countWhere WebhookHandler.unfinished (system.handlersOf payloadHash)

def place (system : WebhookSystem) (payloadHash : String) (position : Nat) : Nat :=
  countBefore (·.payloadHash == payloadHash) system.handlers position

end WebhookSystem

/-- What a step is to the deliveries of the body. -/
def WebhookStep.events (settings : WebhookSettings) (payloadHash : String) (system : WebhookSystem) :
    WebhookStep → List Lease.Event
  | .operation _ => []
  | .wait duration => [.pass duration]
  | .deliver rawBody signature => match readWebhook settings rawBody signature with
      | .ok request =>
          if request.payloadHash = payloadHash ∧
              (claimWebhookEvent system.clock payloadHash request.eventName system.events).isOk = true then [.ask]
          else []
      | .error _ => []
  | .dispatch position => match system.handlers[position]? with
      | some handler =>
          if handler.payloadHash = payloadHash then
            [.finish (system.place payloadHash position) (dispatchWebhook settings.toSettings system.clock
              handler.eventName handler.payload system.state.db).1.isOk]
          else []
      | none => []
  | .conclude position => match system.handlers[position]? with
      | some handler =>
          if handler.payloadHash = payloadHash then [.settle (system.place payloadHash position)] else []
      | none => []

namespace WebhookSystem

variable {settings : WebhookSettings} {system : WebhookSystem} {payloadHash : String}

theorem job_reply (system : WebhookSystem) (payloadHash replied : String)
    (result : Except ServiceError WebhookResult) :
    (system.reply replied result).job payloadHash =
      { system.job payloadHash with
        told := (system.job payloadHash).told || (replied == payloadHash && result.isOk) } := by
  simp [job, reply, recordOf, handlersOf, acknowledged]

theorem attempt_unsettled (handler : WebhookHandler) : handler.attempt.unsettled = handler.unfinished := by
  simp only [Lease.Attempt.unsettled, WebhookHandler.attempt, WebhookHandler.unfinished]
  cases handler.progress <;> rfl

theorem unsettled_running (system : WebhookSystem) (payloadHash : String) :
    countWhere Lease.Attempt.unsettled (system.job payloadHash).attempts = system.running payloadHash := by
  have same : Lease.Attempt.unsettled ∘ WebhookHandler.attempt = WebhookHandler.unfinished :=
    funext attempt_unsettled
  rw [job, countWhere, List.countP_map, same]
  rfl

theorem keepsAway_iff (clock : Instant) (record : PaymentWebhookEvent) :
    record.lease.keepsAway webhookTerm clock = true ↔
      record.status = .processed ∨ record.processingIsFresh clock = true := by
  have unfolded : record.lease.keepsAway webhookTerm clock = (record.status.mark == .done ||
      (record.status.mark == .taken && decide (0 < record.attempts) &&
        decide (clock ≤ record.updatedAt + 5 * minute))) := rfl
  rw [unfolded, PaymentWebhookEvent.processingIsFresh]
  cases record.status <;> simp [WebhookProcessingStatus.mark]

theorem lease_claimed (clock : Instant) (record : PaymentWebhookEvent) :
    (record.claimed clock).lease = { mark := .taken, attempts := record.lease.attempts + 1, stamp := clock } := rfl

theorem lease_new (clock : Instant) (payloadHash eventName : String) :
    ((newWebhookEvent clock payloadHash eventName).claimed clock).lease =
      { mark := .taken, attempts := 1, stamp := clock } := rfl

theorem lease_concluded (clock : Instant) (outcome : Except ServiceError Bool) (record : PaymentWebhookEvent) :
    (record.concluded clock outcome).lease = record.lease.settle outcome.isOk := by
  cases outcome <;> rfl

@[simp] theorem claimed_payloadHash (clock : Instant) (record : PaymentWebhookEvent) :
    (record.claimed clock).payloadHash = record.payloadHash := rfl

@[simp] theorem concluded_payloadHash (clock : Instant) (outcome : Except ServiceError Bool)
    (record : PaymentWebhookEvent) : (record.concluded clock outcome).payloadHash = record.payloadHash := by
  cases outcome <;> rfl

@[simp] theorem newWebhookEvent_payloadHash (clock : Instant) (payloadHash eventName : String) :
    (newWebhookEvent clock payloadHash eventName).payloadHash = payloadHash := rfl

theorem claim_elsewhere {clock : Instant} {claimed eventName : String} {events next : List PaymentWebhookEvent}
    {claim : WebhookClaim} (accepted : claimWebhookEvent clock claimed eventName events = .ok (claim, next))
    (elsewhere : claimed ≠ payloadHash) :
    firstRow (·.payloadHash == payloadHash) next = firstRow (·.payloadHash == payloadHash) events := by
  unfold claimWebhookEvent at accepted
  split at accepted
  · rename_i recordId record found
    have facts := firstRow_some found
    simp only [beq_iff_eq] at facts
    have other : (record.payloadHash == payloadHash) = false := by simpa [facts.2] using elsewhere
    split at accepted
    · cases accepted
      rfl
    · split at accepted
      · cases accepted
        rfl
      · cases accepted
        exact firstRow_set_rejected facts.1 other other
  · simp only [accepted_bind, accepted_require, accepted_pure, Prod.mk.injEq] at accepted
    obtain ⟨_, _, _, rfl⟩ := accepted
    rw [firstRow_append]
    simp [elsewhere]

theorem handlersOf_append (system : WebhookSystem) (handler : WebhookHandler) (payloadHash : String) :
    (system.handlers ++ [handler]).filter (·.payloadHash == payloadHash) =
      system.handlersOf payloadHash ++ if handler.payloadHash = payloadHash then [handler] else [] := by
  rw [List.filter_append, handlersOf]
  by_cases own : handler.payloadHash = payloadHash <;> simp [own]

theorem job_claim_known {request : WebhookRequest} {recordId : Nat} {record : PaymentWebhookEvent}
    (found : system.recordOf request.payloadHash = some (recordId, record)) :
    (claimWebhookEvent system.clock request.payloadHash request.eventName system.events).isOk = true ∧
      (system.claim request).job request.payloadHash =
        Lease.step webhookTerm (system.job request.payloadHash) .ask := by
  have present : firstRow (fun event => event.payloadHash == request.payloadHash) system.events =
      some (recordId, record) := found
  have stored := (firstRow_some present).2
  have known : (system.job request.payloadHash).record = some record.lease := by simp [job, found]
  by_cases away : record.status = .processed ∨ record.processingIsFresh system.clock = true
  · have keeps := (keepsAway_iff system.clock record).mpr away
    have told : Lease.step webhookTerm (system.job request.payloadHash) .ask =
        { system.job request.payloadHash with told := true } := by
      have keepsJob : (system.job request.payloadHash).record.any
          (Lease.Record.keepsAway webhookTerm (system.job request.payloadHash).clock) = true := by
        rw [known]
        exact keeps
      rw [Lease.step, if_pos keepsJob]
    have duplicate : ∃ processed, claimWebhookEvent system.clock request.payloadHash request.eventName
        system.events = .ok (.duplicate processed, system.events) := by
      by_cases processed : record.status = .processed
      · exact ⟨true, by simp only [claimWebhookEvent, present, if_pos processed]⟩
      · have fresh := away.resolve_left processed
        exact ⟨false, by simp only [claimWebhookEvent, present, if_neg processed, if_pos fresh]⟩
    obtain ⟨processed, claimed⟩ := duplicate
    refine ⟨by rw [claimed]; rfl, ?_⟩
    rw [told, claim, claimed]
    simp only
    rw [job_reply]
    simp
  · have opens : ¬ record.lease.keepsAway webhookTerm system.clock = true :=
      fun keeps => away ((keepsAway_iff system.clock record).mp keeps)
    obtain ⟨unprocessed, stale⟩ := not_or.mp away
    have claimed : claimWebhookEvent system.clock request.payloadHash request.eventName system.events =
        .ok (.dispatch recordId, system.events.set recordId (record.claimed system.clock)) := by
      simp only [claimWebhookEvent, present, if_neg unprocessed, if_neg stale]
    refine ⟨by rw [claimed]; rfl, ?_⟩
    have begun : Lease.step webhookTerm (system.job request.payloadHash) .ask =
        (system.job request.payloadHash).begin := by
      have opensJob : ¬ (system.job request.payloadHash).record.any
          (Lease.Record.keepsAway webhookTerm (system.job request.payloadHash).clock) = true := by
        rw [known]
        exact opens
      rw [Lease.step, if_neg opensJob]
    have after := firstRow_set_first (record.claimed system.clock) present stored
    rw [begun, claim, claimed]
    simp only [job, recordOf, Lease.Job.begin, after, present, handlersOf, handlersOf_append, if_true]
    simp [lease_claimed, WebhookHandler.attempt, WebhookProgress.stage, acknowledged]

theorem job_claim_new {request : WebhookRequest} (absent : system.recordOf request.payloadHash = none) :
    (system.claim request).job request.payloadHash =
      if (claimWebhookEvent system.clock request.payloadHash request.eventName system.events).isOk = true then
        Lease.step webhookTerm (system.job request.payloadHash) .ask
      else system.job request.payloadHash := by
  have missing : firstRow (fun event => event.payloadHash == request.payloadHash) system.events = none := absent
  have unknown : (system.job request.payloadHash).record = none := by simp [job, absent]
  have begun : Lease.step webhookTerm (system.job request.payloadHash) .ask =
      (system.job request.payloadHash).begin := by
    simp [Lease.step, unknown]
  by_cases short : request.eventName.length ≤ 64
  · have claimed : claimWebhookEvent system.clock request.payloadHash request.eventName system.events =
        .ok (.dispatch system.events.length, system.events ++
          [(newWebhookEvent system.clock request.payloadHash request.eventName).claimed system.clock]) := by
      simp only [claimWebhookEvent, missing, require_of _ short, ok_bind]
      rfl
    have after : firstRow (fun event => event.payloadHash == request.payloadHash) (system.events ++
        [(newWebhookEvent system.clock request.payloadHash request.eventName).claimed system.clock]) =
          some (system.events.length,
            (newWebhookEvent system.clock request.payloadHash request.eventName).claimed system.clock) := by
      rw [firstRow_append, missing]
      simp
    rw [claimed, isOk_ok, if_pos rfl, begun, claim, claimed]
    simp only [job, recordOf, Lease.Job.begin, after, missing, handlersOf, handlersOf_append, if_true]
    simp [lease_new, WebhookHandler.attempt, WebhookProgress.stage, acknowledged]
  · have refused : claimWebhookEvent system.clock request.payloadHash request.eventName system.events =
        .error (.integrity "PaymentWebhookEvent") := by
      simp only [claimWebhookEvent, missing, require_of_not _ short]
      rfl
    rw [refused, isOk_error, if_neg Bool.false_ne_true, claim, refused]
    simp only
    rw [job_reply]
    simp

theorem job_claim_elsewhere {request : WebhookRequest} (elsewhere : request.payloadHash ≠ payloadHash) :
    (system.claim request).job payloadHash = system.job payloadHash := by
  have notOwn : (request.payloadHash == payloadHash) = false := by simpa using elsewhere
  unfold claim
  split
  · rw [job_reply]
    simp [notOwn]
  · rename_i processed events claimed
    rw [job_reply]
    simp [job, recordOf, handlersOf, acknowledged, notOwn, claim_elsewhere claimed elsewhere]
  · rename_i recordId events claimed
    simp [job, recordOf, handlersOf, acknowledged, elsewhere, claim_elsewhere claimed elsewhere]

theorem job_deliver (system : WebhookSystem) (rawBody : List (Fin 256)) (signature payloadHash : String) :
    (system.deliver settings rawBody signature).job payloadHash =
      runAll (Lease.step webhookTerm) (system.job payloadHash)
        (WebhookStep.events settings payloadHash system (.deliver rawBody signature)) := by
  cases read : readWebhook settings rawBody signature with
  | error error =>
      simp only [deliver, WebhookStep.events, read]
      rw [job_reply]
      simp
  | ok request =>
      simp only [deliver, WebhookStep.events, read]
      by_cases own : request.payloadHash = payloadHash
      · subst own
        cases found : system.recordOf request.payloadHash with
        | some known =>
            obtain ⟨isOk, jobEq⟩ := job_claim_known found
            rw [jobEq, if_pos ⟨rfl, isOk⟩, runAll_cons, runAll_nil]
        | none =>
            rw [job_claim_new found]
            by_cases isOk : (claimWebhookEvent system.clock request.payloadHash request.eventName
                system.events).isOk = true
            · rw [if_pos isOk, if_pos ⟨rfl, isOk⟩, runAll_cons, runAll_nil]
            · rw [if_neg isOk, if_neg (fun both => isOk both.2), runAll_nil]
      · rw [job_claim_elsewhere own, if_neg (fun both => own both.1), runAll_nil]

/-! A handler's own steps. -/

theorem attempts_set_own {position : Nat} {handler : WebhookHandler} (progress : WebhookProgress)
    (present : system.handlers[position]? = some handler) (own : handler.payloadHash = payloadHash) :
    ((system.handlers.set position { handler with progress := progress }).filter
        (·.payloadHash == payloadHash)).map WebhookHandler.attempt =
      (system.job payloadHash).attempts.set (system.place payloadHash position)
        { handler.attempt with stage := progress.stage } := by
  have accepts : (handler.payloadHash == payloadHash) = true := by simpa using own
  rw [filter_set_accepted { handler with progress := progress } present accepts accepts, List.map_set]
  rfl

theorem attempts_set_elsewhere {position : Nat} {handler : WebhookHandler} {progress : WebhookProgress}
    (present : system.handlers[position]? = some handler) (elsewhere : handler.payloadHash ≠ payloadHash) :
    (system.handlers.set position { handler with progress := progress }).filter (·.payloadHash == payloadHash) =
      system.handlersOf payloadHash := by
  have rejects : (handler.payloadHash == payloadHash) = false := by simpa using elsewhere
  exact filter_set_rejected present rejects rejects

theorem attempt_place {position : Nat} {handler : WebhookHandler}
    (present : system.handlers[position]? = some handler) (own : handler.payloadHash = payloadHash) :
    (system.job payloadHash).attempts[system.place payloadHash position]? = some handler.attempt := by
  have accepts : (handler.payloadHash == payloadHash) = true := by simpa using own
  have inFilter := filter_countBefore (fun other => other.payloadHash == payloadHash) present accepts
  simp only [job, handlersOf, List.getElem?_map, place, inFilter, Option.map_some]

theorem stage_dispatching {handler : WebhookHandler} (progress : handler.progress = .dispatching) :
    handler.attempt.stage = .running := by
  simp [WebhookHandler.attempt, progress, WebhookProgress.stage]

theorem stage_dispatched {handler : WebhookHandler} {outcome : Except ServiceError Bool}
    (progress : handler.progress = .dispatched outcome) : handler.attempt.stage = .ended outcome.isOk := by
  simp [WebhookHandler.attempt, progress, WebhookProgress.stage]

theorem stage_concluded {handler : WebhookHandler} {outcome : Except ServiceError Bool}
    (progress : handler.progress = .concluded outcome) : handler.attempt.stage = .settled outcome.isOk := by
  simp [WebhookHandler.attempt, progress, WebhookProgress.stage]

theorem job_dispatch (system : WebhookSystem) (position : Nat) (payloadHash : String) :
    (system.dispatch settings position).job payloadHash =
      runAll (Lease.step webhookTerm) (system.job payloadHash)
        (WebhookStep.events settings payloadHash system (.dispatch position)) := by
  cases present : system.handlers[position]? with
  | none => simp only [dispatch, WebhookStep.events, present, runAll_nil]
  | some handler =>
      simp only [dispatch, WebhookStep.events, present]
      by_cases own : handler.payloadHash = payloadHash
      · simp only [if_pos own, runAll_cons, runAll_nil, Lease.step, attempt_place present own]
        cases progress : handler.progress with
        | dispatching =>
            simp only [if_pos (stage_dispatching progress)]
            have moved := attempts_set_own (.dispatched (dispatchWebhook settings.toSettings system.clock
              handler.eventName handler.payload system.state.db).1) present own
            simp only [job, recordOf, handlersOf, acknowledged] at moved ⊢
            rw [moved]
            rfl
        | dispatched outcome => simp [stage_dispatched progress]
        | concluded outcome => simp [stage_concluded progress]
      · simp only [if_neg own, runAll_nil]
        cases progress : handler.progress with
        | dispatching =>
            simp only [job, recordOf, handlersOf, acknowledged]
            rw [attempts_set_elsewhere present own]
            rfl
        | dispatched outcome => rfl
        | concluded outcome => rfl

theorem Linked.stored (linked : system.Linked) {position : Nat} {handler : WebhookHandler}
    (present : system.handlers[position]? = some handler) :
    ∃ record, system.recordOf handler.payloadHash = some (handler.recordId, record) ∧
      system.events[handler.recordId]? = some record ∧ record.payloadHash = handler.payloadHash := by
  obtain ⟨record, found⟩ := linked handler (List.mem_of_getElem? present)
  have facts := firstRow_some found
  exact ⟨record, found, facts.1, by simpa using facts.2⟩

theorem recordOf_concluded (payloadHash : String) (linked : system.Linked) {position : Nat} {handler : WebhookHandler}
    (present : system.handlers[position]? = some handler) {record : PaymentWebhookEvent}
    (stored : system.events[handler.recordId]? = some record) (outcome : Except ServiceError Bool) :
    firstRow (·.payloadHash == payloadHash)
        (system.events.set handler.recordId (record.concluded system.clock outcome)) =
      if handler.payloadHash = payloadHash then some (handler.recordId, record.concluded system.clock outcome)
      else system.recordOf payloadHash := by
  obtain ⟨known, found, present', isOwn⟩ := linked.stored present
  rw [stored, Option.some.injEq] at present'
  subst present'
  by_cases own : handler.payloadHash = payloadHash
  · subst own
    rw [if_pos rfl]
    exact firstRow_set_first _ found (by simpa using isOwn)
  · rw [if_neg own]
    exact firstRow_set_rejected stored (by simpa [isOwn] using own) (by simpa [isOwn] using own)

theorem job_conclude (linked : system.Linked) (position : Nat) (payloadHash : String) :
    (system.conclude position).job payloadHash =
      runAll (Lease.step webhookTerm) (system.job payloadHash)
        (WebhookStep.events settings payloadHash system (.conclude position)) := by
  cases present : system.handlers[position]? with
  | none => simp only [conclude, WebhookStep.events, present, runAll_nil]
  | some handler =>
      simp only [conclude, WebhookStep.events, present]
      obtain ⟨record, found, stored, _⟩ := linked.stored present
      by_cases own : handler.payloadHash = payloadHash
      · simp only [if_pos own, runAll_cons, runAll_nil, Lease.step, attempt_place present own]
        cases progress : handler.progress with
        | dispatching => simp [stage_dispatching progress]
        | dispatched outcome =>
            have moved := attempts_set_own (.concluded outcome) present own
            have after := recordOf_concluded payloadHash linked present stored outcome
            rw [if_pos own] at after
            simp only [stored, stage_dispatched progress]
            rw [job_reply]
            subst own
            simp only [job, recordOf, handlersOf, acknowledged] at moved after found ⊢
            rw [moved, after, found]
            simp [lease_concluded, WebhookProgress.stage]
        | concluded outcome => simp [stage_concluded progress]
      · simp only [if_neg own, runAll_nil]
        cases progress : handler.progress with
        | dispatching => rfl
        | dispatched outcome =>
            have after := recordOf_concluded payloadHash linked present stored outcome
            rw [if_neg own] at after
            simp only [stored]
            rw [job_reply]
            simp only [job, recordOf, handlersOf, acknowledged] at after ⊢
            rw [attempts_set_elsewhere present own, after]
            simp [own, handlersOf]
        | concluded outcome => rfl

/-- Every step of the platform is a run of events of the body's job, of length one at most. -/
theorem job_step (linked : system.Linked) (step : WebhookStep) (payloadHash : String) :
    (system.step settings step).job payloadHash =
      runAll (Lease.step webhookTerm) (system.job payloadHash) (step.events settings payloadHash system) := by
  cases step with
  | operation op => rfl
  | wait duration => rfl
  | deliver rawBody signature => exact job_deliver system rawBody signature payloadHash
  | dispatch position => exact job_dispatch system position payloadHash
  | conclude position => exact job_conclude linked position payloadHash

theorem events_cases (settings : WebhookSettings) (system : WebhookSystem) (step : WebhookStep) (payloadHash : String) :
    step.events settings payloadHash system = [] ∨
      ∃ event, step.events settings payloadHash system = [event] ∧
        ∀ duration, event = .pass duration → step = .wait duration := by
  cases step with
  | operation op => exact .inl rfl
  | wait duration =>
      refine .inr ⟨.pass duration, rfl, fun other same => ?_⟩
      rw [Lease.Event.pass.injEq] at same
      rw [same]
  | deliver rawBody signature =>
      simp only [WebhookStep.events]
      split
      · split
        · exact .inr ⟨_, rfl, nofun⟩
        · exact .inl rfl
      · exact .inl rfl
  | dispatch position =>
      simp only [WebhookStep.events]
      split
      · split
        · exact .inr ⟨_, rfl, nofun⟩
        · exact .inl rfl
      · exact .inl rfl
  | conclude position =>
      simp only [WebhookStep.events]
      split
      · split
        · exact .inr ⟨_, rfl, nofun⟩
        · exact .inl rfl
      · exact .inl rfl

/-- What every event of a job preserves, every step of the platform preserves. -/
theorem events_step {invariant : Lease.Job → Prop} {guard : Lease.Job → Lease.Event → Prop}
    (preserved : ∀ job event, invariant job → guard job event → invariant (Lease.step webhookTerm job event))
    (linked : system.Linked) (holds : invariant (system.job payloadHash)) {step : WebhookStep}
    (guarded : ∀ event ∈ step.events settings payloadHash system, guard (system.job payloadHash) event) :
    invariant ((system.step settings step).job payloadHash) := by
  rw [job_step linked]
  rcases events_cases settings system step payloadHash with none | ⟨event, one, _⟩
  · rw [none]
    exact holds
  · rw [one, runAll_cons, runAll_nil]
    exact preserved _ _ holds (guarded event (by rw [one]; exact List.mem_singleton.mpr rfl))

theorem claimWebhookEvent_records {clock : Instant} {claimed eventName : String}
    {events next : List PaymentWebhookEvent} {claim : WebhookClaim}
    (accepted : claimWebhookEvent clock claimed eventName events = .ok (claim, next)) :
    (∀ (payloadHash : String) (recordId : Nat) (record : PaymentWebhookEvent),
      firstRow (·.payloadHash == payloadHash) events = some (recordId, record) →
        ∃ after, firstRow (·.payloadHash == payloadHash) next = some (recordId, after)) ∧
      ∀ recordId, claim = .dispatch recordId →
        ∃ record, firstRow (·.payloadHash == claimed) next = some (recordId, record) := by
  constructor
  · intro payloadHash recordId record found
    by_cases own : claimed = payloadHash
    · subst own
      simp only [claimWebhookEvent, found] at accepted
      split at accepted
      · cases accepted
        exact ⟨record, found⟩
      · split at accepted
        · cases accepted
          exact ⟨record, found⟩
        · cases accepted
          exact ⟨record.claimed clock, firstRow_set_first _ found (firstRow_some found).2⟩
    · exact ⟨record, by rw [claim_elsewhere accepted own, found]⟩
  · rintro recordId rfl
    unfold claimWebhookEvent at accepted
    split at accepted
    · rename_i known record found
      split at accepted
      · cases accepted
      · split at accepted
        · cases accepted
        · cases accepted
          exact ⟨record.claimed clock, firstRow_set_first _ found (firstRow_some found).2⟩
    · rename_i absent
      simp only [accepted_bind, accepted_require, accepted_pure, Prod.mk.injEq, WebhookClaim.dispatch.injEq] at accepted
      obtain ⟨_, _, rfl, rfl⟩ := accepted
      refine ⟨(newWebhookEvent clock claimed eventName).claimed clock, ?_⟩
      rw [firstRow_append, absent]
      simp

theorem Linked.claim (linked : system.Linked) (request : WebhookRequest) : (system.claim request).Linked := by
  unfold WebhookSystem.claim
  split
  · exact linked
  · rename_i processed events claimed
    intro handler member
    obtain ⟨record, found⟩ := linked handler member
    exact (claimWebhookEvent_records claimed).1 _ _ _ found
  · rename_i recordId events claimed
    obtain ⟨kept, own⟩ := claimWebhookEvent_records claimed
    intro handler member
    rw [List.mem_append, List.mem_singleton] at member
    rcases member with old | rfl
    · obtain ⟨record, found⟩ := linked handler old
      exact kept _ _ _ found
    · exact own recordId rfl

theorem Linked.set (linked : system.Linked) {position : Nat} {handler : WebhookHandler}
    (present : system.handlers[position]? = some handler) (progress : WebhookProgress) :
    ∀ other ∈ system.handlers.set position { handler with progress := progress },
      ∃ record, system.recordOf other.payloadHash = some (other.recordId, record) := by
  intro other member
  rcases List.mem_or_eq_of_mem_set member with old | rfl
  · exact linked other old
  · exact linked handler (List.mem_of_getElem? present)

theorem Linked.conclude (linked : system.Linked) (position : Nat) : (system.conclude position).Linked := by
  unfold WebhookSystem.conclude
  split
  · rename_i handler present
    split
    · rename_i outcome _
      obtain ⟨record, _, stored, _⟩ := linked.stored present
      simp only [stored]
      intro other member
      obtain ⟨known, found⟩ := linked.set present (.concluded outcome) other member
      have after := recordOf_concluded other.payloadHash linked present stored outcome
      by_cases own : handler.payloadHash = other.payloadHash
      · obtain ⟨first, foundFirst⟩ := linked handler (List.mem_of_getElem? present)
        rw [own, found, Option.some.injEq, Prod.mk.injEq] at foundFirst
        rw [if_pos own] at after
        exact ⟨record.concluded system.clock outcome, by rw [foundFirst.1]; exact after⟩
      · rw [if_neg own, found] at after
        exact ⟨_, after⟩
    · exact linked
  · exact linked

theorem Linked.step (linked : system.Linked) (step : WebhookStep) : (system.step settings step).Linked := by
  cases step with
  | operation op => exact linked
  | wait duration => exact linked
  | deliver rawBody signature =>
      simp only [WebhookSystem.step, WebhookSystem.deliver]
      split
      · exact linked
      · exact linked.claim _
  | dispatch position =>
      simp only [WebhookSystem.step, WebhookSystem.dispatch]
      split
      · rename_i handler present
        split
        · exact linked.set present _
        · exact linked
      · exact linked
  | conclude position => exact linked.conclude position

theorem Initial.linked (initial : system.Initial) : system.Linked := by
  intro handler member
  rw [initial.handlers] at member
  cases member

theorem Initial.job (initial : system.Initial) (payloadHash : String) :
    system.job payloadHash = { record := none, attempts := [], told := false, clock := system.clock } := by
  simp [WebhookSystem.job, recordOf, handlersOf, acknowledged, initial.events, initial.handlers, initial.replies, firstRow]

end WebhookSystem

end PsCore
