import PsCore.TypesCore
import PsCore.Library.EventLog
import PsCore.Library.Fallible
import PsCore.Library.TransitionRun

/-!
The sending of one notification. The delivery after a commit holds the lock of the row for its whole run; the
send, retry and cancel of the administrators act on what they have read before.
-/

namespace PsCore

open EventLog Fallible TransitionRun

inductive NotificationStatus
  | queued
  | sent
  | delivered
  | read
  | failed
  | cancelled
  deriving DecidableEq, Repr

structure Notification where
  status : NotificationStatus
  provider : String
  providerMessageId : String
  sendAttempts : Nat
  errorMessage : String
  sentAt : Option Instant
  deriving DecidableEq, Repr

structure NotificationDeliveryResult where
  provider : String
  providerMessageId : String
  deriving DecidableEq, Repr

abbrev ProviderReply := Except String NotificationDeliveryResult

instance ProviderReply.decidableEq : DecidableEq ProviderReply
  | .ok left, .ok right => decidable_of_iff (left = right) (by simp)
  | .error left, .error right => decidable_of_iff (left = right) (by simp)
  | .ok _, .error _ => isFalse (by simp)
  | .error _, .ok _ => isFalse (by simp)

inductive SendRequest
  | deliver
  | send
  | retry
  deriving DecidableEq, Repr

inductive NotificationAnswer
  | status (status : NotificationStatus)
  | notification (notification : Notification)
  | badRequest (code message : String)
  | raised (error : String)
  deriving DecidableEq, Repr

/-- The tests of `deliver_notification` and of the views, on the notification as it was read. -/
def SendRequest.check (notification : Notification) : SendRequest → Except NotificationAnswer Unit
  | .deliver => require (notification.status ∉ [.sent, .delivered, .read, .cancelled]) (.status notification.status)
  | .send => require (notification.status ∈ [.queued, .failed])
      (.badRequest "NOTIFICATION_NOT_SENDABLE" "Notification cannot be sent from its current status.")
  | .retry => require (notification.status = .failed)
      (.badRequest "NOTIFICATION_NOT_FAILED" "Only failed notifications can be retried.")

def cancelCheck (notification : Notification) : Except NotificationAnswer Unit :=
  require (notification.status = .queued)
    (.badRequest "NOTIFICATION_NOT_QUEUED" "Only queued notifications can be cancelled.")

/-- `cancel`, past its check: only the columns of `update_fields` are written over the row. -/
def cancelNotification (reason : String) (notification row : Notification) : NotificationAnswer × Notification :=
  let cancelled := { notification with status := .cancelled, errorMessage := reason }
  (.notification cancelled, { row with status := cancelled.status, errorMessage := cancelled.errorMessage })

/-- `send_notification` with the provider's reply; the row may have changed since the notification was read. -/
def sendNotification (providerName : String) (reply : ProviderReply) (now : Instant) (raiseOnFailure : Bool)
    (notification row : Notification) : Except String Notification × Notification :=
  let attempted := { notification with sendAttempts := notification.sendAttempts + 1 }
  match reply with
  | .error error =>
      let failed := { attempted with status := .failed, provider := providerName, errorMessage := error }
      let saved := { row with
        status := failed.status
        provider := failed.provider
        sendAttempts := failed.sendAttempts
        errorMessage := failed.errorMessage }
      (if raiseOnFailure then .error error else .ok failed, saved)
  | .ok result =>
      let sent := { attempted with
        status := .sent
        provider := result.provider
        providerMessageId := result.providerMessageId
        sentAt := some now
        errorMessage := "" }
      let saved := { row with
        status := sent.status
        provider := sent.provider
        providerMessageId := sent.providerMessageId
        sendAttempts := sent.sendAttempts
        errorMessage := sent.errorMessage
        sentAt := sent.sentAt }
      (.ok sent, saved)

/-- A request past its check, with the provider's reply. What a delivery has saved is rolled back when it raises. -/
def SendRequest.perform (providerName : String) (reply : ProviderReply) (now : Instant) (request : SendRequest)
    (notification row : Notification) : NotificationAnswer × Notification :=
  match request with
  | .deliver =>
      match sendNotification providerName reply now true notification row with
      | (.error error, _) => (.raised error, row)
      | (.ok sent, saved) => (.status sent.status, saved)
  | .send | .retry =>
      match sendNotification providerName reply now false notification row with
      | (.error error, saved) => (.raised error, saved)
      | (.ok sent, saved) => (.notification sent, saved)

def SendRequest.handle (providerName : String) (reply : ProviderReply) (now : Instant) (row : Notification)
    (request : SendRequest) : NotificationAnswer × Notification :=
  match request.check row with
  | .error answer => (answer, row)
  | .ok () => request.perform providerName reply now row row

/-- A request in flight, with the notification as it has read it. -/
inductive NotificationCall
  | checked (request : SendRequest) (notification : Notification)
  | calling (request : SendRequest) (notification : Notification)
  | replied (request : SendRequest) (notification : Notification) (reply : ProviderReply)
  | cancelling (reason : String) (notification : Notification)
  deriving DecidableEq

namespace NotificationCall

def holdsLock : NotificationCall → Bool
  | .checked request _ | .calling request _ | .replied request _ _ => request == .deliver
  | .cancelling _ _ => false

def isUnderWay : NotificationCall → Bool
  | .calling _ _ | .replied _ _ _ => true
  | .checked _ _ | .cancelling _ _ => false

def isAccepted : NotificationCall → Bool
  | .replied _ _ reply => reply.isOk
  | .checked _ _ | .calling _ _ | .cancelling _ _ => false

end NotificationCall

inductive NotificationLogEntry
  | called (stored : NotificationStatus)
  | accepted
  | stored (status : NotificationStatus)
  | cancelAnswered
  deriving DecidableEq, Repr

structure NotificationSystem where
  row : Notification
  calls : List NotificationCall
  log : List NotificationLogEntry

inductive NotificationStep
  | read (request : SendRequest)
  | readToCancel (reason : String)
  | callProvider (request : SendRequest) (notification : Notification)
  | reply (request : SendRequest) (notification : Notification) (reply : ProviderReply)
  | save (now : Instant) (request : SendRequest) (notification : Notification) (reply : ProviderReply)
  | saveCancelled (reason : String) (notification : Notification)

namespace NotificationSystem

def isLocked (state : NotificationSystem) : Bool :=
  state.calls.any NotificationCall.holdsLock

def isSending (state : NotificationSystem) : Bool :=
  state.calls.any NotificationCall.isUnderWay

def step (providerName : String) (state : NotificationSystem) : NotificationStep → NotificationSystem
  | .read request =>
      if request = .deliver ∧ state.isLocked then state
      else if (request.check state.row).isOk then { state with calls := .checked request state.row :: state.calls }
      else state
  | .readToCancel reason =>
      if (cancelCheck state.row).isOk then { state with calls := .cancelling reason state.row :: state.calls }
      else state
  | .callProvider request notification =>
      if .checked request notification ∈ state.calls then { state with
        calls := .calling request notification :: state.calls.erase (.checked request notification)
        log := state.log ++ [.called state.row.status] }
      else state
  | .reply request notification reply =>
      if .calling request notification ∈ state.calls then { state with
        calls := .replied request notification reply :: state.calls.erase (.calling request notification)
        log := if reply.isOk then state.log ++ [.accepted] else state.log }
      else state
  | .save now request notification reply =>
      -- The row of a delivery is locked by the delivery itself; the others wait for it.
      if .replied request notification reply ∈ state.calls ∧ (request = .deliver ∨ ¬ state.isLocked) then
        match request.perform providerName reply now notification state.row with
        | (.raised _, row) => { state with row, calls := state.calls.erase (.replied request notification reply) }
        | (_, row) => {
            row
            calls := state.calls.erase (.replied request notification reply)
            log := state.log ++ [.stored row.status] }
      else state
  | .saveCancelled reason notification =>
      if .cancelling reason notification ∈ state.calls ∧ ¬ state.isLocked then
        let row := (cancelNotification reason notification state.row).2
        { row
          calls := state.calls.erase (.cancelling reason notification)
          log := state.log ++ [.stored row.status] ++ [.cancelAnswered] }
      else state

end NotificationSystem

def NotificationLogEntry.isCall : NotificationLogEntry → Prop
  | .called _ => True
  | .accepted | .stored _ | .cancelAnswered => False

structure SentAtMostOnce (state : NotificationSystem) : Prop where
  sendable : ∀ stored, .called stored ∈ state.log → stored = .queued ∨ stored = .failed
  failedBetween : Separated NotificationLogEntry.isCall (· = .stored .failed) state.log
  notAfterCancel : NeverAfter (· = .cancelAnswered) NotificationLogEntry.isCall state.log
  acceptedKept : .accepted ∈ state.log → state.row.status ≠ .cancelled

def Notification.isSendable (notification : Notification) : Bool :=
  notification.status == .queued || notification.status == .failed

def Notification.isGone (notification : Notification) : Bool :=
  notification.status == .sent || notification.status == .delivered || notification.status == .read

/-- No delivery fails, a request calls the provider only where the row would still pass its check, and none cancels
what has gone; neither while another send is under way. -/
def NotificationStep.isUndisturbed (state : NotificationSystem) : NotificationStep → Bool
  | .read _ | .readToCancel _ | .reply _ _ _ => true
  | .callProvider request _ => (request.check state.row).isOk && !state.isSending
  | .save _ request _ outcome => request != .deliver || outcome.isOk
  | .saveCancelled _ _ => !state.row.isGone && !state.isSending

def NotificationSystem.Initial (state : NotificationSystem) : Prop :=
  state.calls = [] ∧ state.log = []

/-! The row and the log, while nothing disturbs. -/

structure Orderly (state : NotificationSystem) : Prop where
  single : state.calls.countP NotificationCall.isUnderWay ≤ 1
  openWhile : state.isSending = true → state.row.isSendable = true
  sent : SentAtMostOnce state
  failed : state.row.isSendable = true → state.isSending = false →
    Followed NotificationLogEntry.isCall (· = .stored .failed) state.log
  cancelled : .cancelAnswered ∈ state.log → state.row.status = .cancelled
  accepted : .accepted ∈ state.log → state.row.isGone = true ∨ ∃ call ∈ state.calls, call.isAccepted = true

section

variable {providerName : String} {state : NotificationSystem} {request : SendRequest}
  {notification : Notification} {reply : ProviderReply} {now : Instant} {reason : String}

theorem isSending_iff : state.isSending = true ↔ 0 < state.calls.countP NotificationCall.isUnderWay := by
  unfold NotificationSystem.isSending
  rw [List.any_eq_true, List.countP_pos_iff]

theorem isSending_false : state.isSending = false ↔ state.calls.countP NotificationCall.isUnderWay = 0 := by
  rw [← Bool.not_eq_true, isSending_iff, Nat.not_lt, Nat.le_zero]

theorem isUnderWay_of_isAccepted {call : NotificationCall} (accepted : call.isAccepted = true) :
    call.isUnderWay = true := by
  cases call <;> simp_all [NotificationCall.isAccepted, NotificationCall.isUnderWay]

theorem check_isSendable {row : Notification} (passes : (request.check row).isOk = true) : row.isSendable = true := by
  obtain ⟨done, passes⟩ := isOk_iff.mp passes
  unfold Notification.isSendable
  cases request with
  | deliver =>
      simp only [SendRequest.check, accepted_require] at passes
      cases isStatus : row.status <;> simp_all
  | send =>
      simp only [SendRequest.check, accepted_require] at passes
      simpa using passes
  | retry =>
      simp only [SendRequest.check, accepted_require] at passes
      simp [passes]

theorem isSendable_not_cancelled {row : Notification} (sendable : row.isSendable = true) :
    row.status ≠ .cancelled ∧ row.isGone = false := by
  unfold Notification.isSendable at sendable
  unfold Notification.isGone
  cases isStatus : row.status <;> simp_all

theorem Orderly.ends (orderly : Orderly state) {call : NotificationCall} (member : call ∈ state.calls)
    (underWay : call.isUnderWay = true) :
    (state.calls.erase call).countP NotificationCall.isUnderWay = 0 := by
  have single := orderly.single
  rw [(List.perm_cons_erase member).countP_eq, List.countP_cons_of_pos underWay] at single
  omega

theorem Orderly.only (orderly : Orderly state) {call other : NotificationCall} (member : call ∈ state.calls)
    (underWay : call.isUnderWay = true) (otherMember : other ∈ state.calls) (accepted : other.isAccepted = true) :
    other = call := by
  refine Decidable.byContradiction fun differs => ?_
  have noOther := List.countP_eq_zero.mp (orderly.ends member underWay) other
    ((List.mem_erase_of_ne differs).mpr otherMember)
  exact noOther (isUnderWay_of_isAccepted accepted)

theorem Orderly.sending (member : NotificationCall.calling request notification ∈ state.calls ∨
    .replied request notification reply ∈ state.calls) : state.isSending = true := by
  unfold NotificationSystem.isSending
  rw [List.any_eq_true]
  rcases member with member | member
  · exact ⟨_, member, rfl⟩
  · exact ⟨_, member, rfl⟩

theorem Orderly.joined (orderly : Orderly state) {call : NotificationCall} (idle : call.isUnderWay = false) :
    Orderly { state with calls := call :: state.calls } where
  single := by
    rw [List.countP_cons_of_neg (by simp [idle])]
    exact orderly.single
  openWhile := by
    simp only [NotificationSystem.isSending, List.any_cons, idle, Bool.false_or]
    exact orderly.openWhile
  sent := ⟨orderly.sent.sendable, orderly.sent.failedBetween, orderly.sent.notAfterCancel, orderly.sent.acceptedKept⟩
  failed := by
    simp only [NotificationSystem.isSending, List.any_cons, idle, Bool.false_or]
    exact orderly.failed
  cancelled := orderly.cancelled
  accepted := fun accepted => (orderly.accepted accepted).imp_right fun ⟨other, member, isAccepted⟩ =>
    ⟨other, List.mem_cons_of_mem _ member, isAccepted⟩

theorem Orderly.notAccepted (orderly : Orderly state) (sendable : state.row.isSendable = true)
    (quiet : state.isSending = false) : .accepted ∉ state.log := by
  intro accepted
  rcases orderly.accepted accepted with gone | ⟨call, member, isAccepted⟩
  · rw [(isSendable_not_cancelled sendable).2] at gone
    cases gone
  · have idle := List.countP_eq_zero.mp (isSending_false.mp quiet) call member
    exact idle (isUnderWay_of_isAccepted isAccepted)

theorem Orderly.callProvider (orderly : Orderly state) (sendable : state.row.isSendable = true)
    (quiet : state.isSending = false) : Orderly { state with
      calls := .calling request notification :: state.calls.erase (.checked request notification)
      log := state.log ++ [.called state.row.status] } where
  single := by
    have none_ : (state.calls.erase (.checked request notification)).countP NotificationCall.isUnderWay = 0 :=
      Nat.le_zero.mp (isSending_false.mp quiet ▸ List.erase_sublist.countP_le)
    exact Nat.le_of_eq (by rw [List.countP_cons_of_pos rfl, none_])
  openWhile := fun _ => sendable
  sent := {
    sendable := by
      intro stored member
      rcases List.mem_append.mp member with member | member
      · exact orderly.sent.sendable stored member
      · simp only [List.mem_singleton, NotificationLogEntry.called.injEq] at member
        rw [member]
        simpa [Notification.isSendable] using sendable
    failedBetween := separated_concat.mpr ⟨orderly.sent.failedBetween, fun _ => orderly.failed sendable quiet⟩
    notAfterCancel := by
      refine neverAfter_concat.mpr ⟨orderly.sent.notAfterCancel, ?_⟩
      rintro _ _ member rfl
      exact (isSendable_not_cancelled sendable).1 (orderly.cancelled member)
    acceptedKept := fun _ => (isSendable_not_cancelled sendable).1 }
  failed := fun _ quiet => by simp [NotificationSystem.isSending, NotificationCall.isUnderWay] at quiet
  cancelled := by
    intro member
    exact orderly.cancelled (by simpa using member)
  accepted := by
    intro member
    exact absurd (by simpa using member) (orderly.notAccepted sendable quiet)

theorem Orderly.replied (orderly : Orderly state) (member : .calling request notification ∈ state.calls) :
    Orderly { state with
      calls := .replied request notification reply :: state.calls.erase (.calling request notification)
      log := if reply.isOk then state.log ++ [.accepted] else state.log } := by
  have sending : .calling request notification ∈ state.calls ∨ .replied request notification reply ∈ state.calls :=
    .inl member
  have sendable := orderly.openWhile (Orderly.sending sending)
  have ended := orderly.ends member rfl
  have notAccepted : .accepted ∉ state.log := by
    intro accepted
    rcases orderly.accepted accepted with gone | ⟨call, otherMember, isAccepted⟩
    · rw [(isSendable_not_cancelled sendable).2] at gone
      cases gone
    · rw [orderly.only member rfl otherMember isAccepted] at isAccepted
      cases isAccepted
  refine ⟨?_, fun _ => sendable, ⟨?_, ?_, ?_, ?_⟩, ?_, ?_, ?_⟩
  · exact Nat.le_of_eq (by rw [List.countP_cons_of_pos rfl, ended])
  · intro stored member
    split at member
    · exact orderly.sent.sendable stored (by simpa using member)
    · exact orderly.sent.sendable stored member
  · split
    · exact separated_concat.mpr ⟨orderly.sent.failedBetween, False.elim⟩
    · exact orderly.sent.failedBetween
  · split
    · exact neverAfter_concat.mpr ⟨orderly.sent.notAfterCancel, False.elim⟩
    · exact orderly.sent.notAfterCancel
  · exact fun _ => (isSendable_not_cancelled sendable).1
  · intro _ quiet
    simp [NotificationSystem.isSending, NotificationCall.isUnderWay] at quiet
  · intro member
    split at member
    · exact orderly.cancelled (by simpa using member)
    · exact orderly.cancelled member
  · intro accepted
    split at accepted
    · exact .inr ⟨_, List.mem_cons_self, ‹_›⟩
    · exact absurd accepted notAccepted

theorem perform_saves (providerName : String) (now : Instant) (notification row : Notification)
    (kept : request = .deliver → reply.isOk = true) :
    ∃ answer saved, request.perform providerName reply now notification row = (answer, saved) ∧
      (∀ error, answer ≠ .raised error) ∧ saved.status = if reply.isOk then .sent else .failed := by
  cases reply with
  | ok result => cases request <;> exact ⟨_, _, rfl, nofun, rfl⟩
  | error error =>
      cases request with
      | deliver => cases kept rfl
      | send | retry => exact ⟨_, _, rfl, nofun, rfl⟩

theorem Orderly.save (orderly : Orderly state) (member : .replied request notification reply ∈ state.calls)
    {row : Notification} (saved : row.status = if reply.isOk then .sent else .failed) :
    Orderly {
      row
      calls := state.calls.erase (.replied request notification reply)
      log := state.log ++ [.stored row.status] } := by
  have ended := orderly.ends member rfl
  have sendable := orderly.openWhile (Orderly.sending (.inr member))
  have notCancelled : .cancelAnswered ∉ state.log := fun cancelled =>
    (isSendable_not_cancelled sendable).1 (orderly.cancelled cancelled)
  have accepted : .accepted ∈ state.log → row.isGone = true := by
    intro accepted
    rcases orderly.accepted accepted with gone | ⟨call, otherMember, isAccepted⟩
    · rw [(isSendable_not_cancelled sendable).2] at gone
      cases gone
    · rw [orderly.only member rfl otherMember isAccepted] at isAccepted
      have isOk : reply.isOk = true := isAccepted
      simp [Notification.isGone, saved, isOk]
  refine ⟨by simp [ended], ?_, ⟨?_, ?_, ?_, ?_⟩, ?_, ?_, ?_⟩
  · intro sending
    exact absurd ended (Nat.pos_iff_ne_zero.mp (isSending_iff.mp sending))
  · intro stored member
    exact orderly.sent.sendable stored (by simpa using member)
  · exact separated_concat.mpr ⟨orderly.sent.failedBetween, False.elim⟩
  · exact neverAfter_concat.mpr ⟨orderly.sent.notAfterCancel, False.elim⟩
  · intro _
    rw [saved]
    split <;> nofun
  · intro isSendable _
    have isError : reply.isOk = false := by
      cases isOk : reply.isOk with
      | false => rfl
      | true => simp [Notification.isSendable, saved, isOk] at isSendable
    refine followed_concat.mpr ⟨False.elim, .inl ?_⟩
    simp [saved, isError]
  · intro cancelled
    exact absurd (by simpa using cancelled) notCancelled
  · intro isAccepted
    exact .inl (accepted (by simpa using isAccepted))

theorem Orderly.saveCancelled (orderly : Orderly state) (present : state.row.isGone = false)
    (quiet : state.isSending = false) : Orderly {
      row := (cancelNotification reason notification state.row).2
      calls := state.calls.erase (.cancelling reason notification)
      log := state.log ++ [.stored (cancelNotification reason notification state.row).2.status] ++
        [.cancelAnswered] } := by
  have none_ : (state.calls.erase (.cancelling reason notification)).countP NotificationCall.isUnderWay = 0 :=
    Nat.le_zero.mp (isSending_false.mp quiet ▸ List.erase_sublist.countP_le)
  have notAccepted : .accepted ∉ state.log := by
    intro accepted
    rcases orderly.accepted accepted with gone | ⟨call, member, isAccepted⟩
    · rw [present] at gone
      cases gone
    · have idle := List.countP_eq_zero.mp (isSending_false.mp quiet) call member
      exact idle (isUnderWay_of_isAccepted isAccepted)
  refine ⟨by simp [none_], ?_, ⟨?_, ?_, ?_, ?_⟩, nofun, fun _ => rfl, ?_⟩
  · intro sending
    exact absurd none_ (Nat.pos_iff_ne_zero.mp (isSending_iff.mp sending))
  · intro stored member
    exact orderly.sent.sendable stored (by simpa using member)
  · simp only [separated_concat]
    exact ⟨⟨orderly.sent.failedBetween, False.elim⟩, False.elim⟩
  · simp only [neverAfter_concat]
    exact ⟨⟨orderly.sent.notAfterCancel, False.elim⟩, False.elim⟩
  · intro accepted
    exact absurd (by simpa using accepted) notAccepted
  · intro accepted
    exact absurd (by simpa using accepted) notAccepted

theorem Orderly.step (orderly : Orderly state) {input : NotificationStep}
    (undisturbed : input.isUndisturbed state = true) : Orderly (state.step providerName input) := by
  cases input with
  | read request =>
      simp only [NotificationSystem.step]
      split
      · exact orderly
      · split
        · exact orderly.joined rfl
        · exact orderly
  | readToCancel reason =>
      simp only [NotificationSystem.step]
      split
      · exact orderly.joined rfl
      · exact orderly
  | callProvider request notification =>
      simp only [NotificationStep.isUndisturbed, Bool.and_eq_true, Bool.not_eq_true'] at undisturbed
      simp only [NotificationSystem.step]
      split
      · exact orderly.callProvider (check_isSendable undisturbed.1) undisturbed.2
      · exact orderly
  | reply request notification reply =>
      simp only [NotificationSystem.step]
      split
      · exact orderly.replied ‹_›
      · exact orderly
  | save now request notification reply =>
      simp only [NotificationSystem.step]
      split
      · rename_i held
        have kept : request = .deliver → reply.isOk = true := by
          rintro rfl
          simpa [NotificationStep.isUndisturbed] using undisturbed
        obtain ⟨answer, row, performed, notRaised, saved⟩ :=
          perform_saves providerName now notification state.row kept
        rw [performed]
        cases answer with
        | raised error => exact absurd rfl (notRaised error)
        | status | notification | badRequest => exact orderly.save held.1 saved
      · exact orderly
  | saveCancelled reason notification =>
      simp only [NotificationStep.isUndisturbed, Bool.and_eq_true, Bool.not_eq_true'] at undisturbed
      simp only [NotificationSystem.step]
      split
      · exact orderly.saveCancelled undisturbed.1 undisturbed.2
      · exact orderly

/-- A request that nothing comes between is handled as the code is written. -/
theorem handle_alone (row : Notification) (log : List NotificationLogEntry) :
    let after := runAll (NotificationSystem.step providerName) ⟨row, [], log⟩
      [.read request, .callProvider request row, .reply request row reply, .save now request row reply]
    after.row = (request.handle providerName reply now row).2 ∧ after.calls = [] := by
  cases checked : request.check row with
  | error answer =>
      simp [SendRequest.handle, NotificationSystem.step, NotificationSystem.isLocked, checked]
  | ok done =>
      cases request <;> cases reply <;>
        simp [SendRequest.handle, SendRequest.perform, sendNotification, NotificationSystem.step,
          NotificationSystem.isLocked, NotificationCall.holdsLock, checked]

theorem orderly_initial (initial : state.Initial) : Orderly state := by
  obtain ⟨noCalls, noLog⟩ := initial
  refine ⟨by simp [noCalls], ?_, ⟨?_, ?_, ?_, ?_⟩, ?_, ?_, ?_⟩
  all_goals simp [noCalls, noLog, NotificationSystem.isSending]

end

/-- In a run that nothing disturbs a notification is sent at most once, and never after it is cancelled. -/
theorem sentAtMostOnce_run (providerName : String) {start : NotificationSystem} (initial : start.Initial)
    {steps : List NotificationStep} (undisturbed : Guarded (NotificationSystem.step providerName)
      (fun state input => input.isUndisturbed state = true) start steps) {earlier later : List NotificationStep}
    (split : steps = earlier ++ later) :
    SentAtMostOnce (runAll (NotificationSystem.step providerName) start earlier) :=
  ((undisturbed.upTo split).invariant (fun _ _ orderly => orderly.step) (orderly_initial initial)).sent

def queuedNotification : Notification where
  status := .queued
  provider := ""
  providerMessageId := ""
  sendAttempts := 0
  errorMessage := ""
  sentAt := none

/-- The provider fails once, an administrator sends the message again. -/
theorem sentAtMostOnce_run_retried :
    let refused : ProviderReply := .error "timeout"
    let failed : Notification := { queuedNotification with
      status := .failed, provider := "local", sendAttempts := 1, errorMessage := "timeout" }
    let delivered : ProviderReply := .ok ⟨"local", "local_1"⟩
    SentAtMostOnce (runAll (NotificationSystem.step "local") ⟨queuedNotification, [], []⟩
      [.read .send, .callProvider .send queuedNotification, .reply .send queuedNotification refused,
        .save 0 .send queuedNotification refused, .read .retry, .callProvider .retry failed,
        .reply .retry failed delivered, .save 1 .retry failed delivered]) :=
  sentAtMostOnce_run "local" ⟨rfl, rfl⟩ (by decide) (List.append_nil _).symm

/-- A cancel that was answered comes between the check and the call of a send; and a delivery that failed is
rolled back, so that the provider is called once more over a row that was never FAILED. -/
theorem sent_after_cancel_and_twice :
    ¬ SentAtMostOnce (runAll (NotificationSystem.step "local") ⟨queuedNotification, [], []⟩
      [.read .send, .readToCancel "", .saveCancelled "" queuedNotification,
        .callProvider .send queuedNotification]) ∧
    ¬ SentAtMostOnce (runAll (NotificationSystem.step "local") ⟨queuedNotification, [], []⟩
      [.read .deliver, .callProvider .deliver queuedNotification, .reply .deliver queuedNotification (.error "timeout"),
        .save 0 .deliver queuedNotification (.error "timeout"), .read .send,
        .callProvider .send queuedNotification]) := by
  refine ⟨fun sent => ?_, fun sent => ?_⟩
  · have log : (runAll (NotificationSystem.step "local") ⟨queuedNotification, [], []⟩
        [.read .send, .readToCancel "", .saveCancelled "" queuedNotification,
          .callProvider .send queuedNotification]).log = [.stored .cancelled, .cancelAnswered, .called .cancelled] := by
      decide
    have stored := sent.sendable .cancelled (by rw [log]; decide)
    rcases stored with stored | stored <;> cases stored
  · have log : (runAll (NotificationSystem.step "local") ⟨queuedNotification, [], []⟩
        [.read .deliver, .callProvider .deliver queuedNotification,
          .reply .deliver queuedNotification (.error "timeout"),
          .save 0 .deliver queuedNotification (.error "timeout"), .read .send,
          .callProvider .send queuedNotification]).log = [.called .queued, .called .queued] := by
      decide
    obtain ⟨event, member, -⟩ := sent.failedBetween [] (.called .queued) [] (.called .queued) [] log trivial trivial
    cases member

end PsCore
