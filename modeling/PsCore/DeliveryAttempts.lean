import PsCore.Library.Transaction
import PsCore.NotificationDelivery

/-!
One attempt of the delivery. A failure is saved on the row and then raised through the transaction
that has saved it.
-/

namespace PsCore

open Fallible Transaction Transaction.Program

/-- The configured provider, and how its `send` ends for this notification. -/
structure NotificationProvider where
  providerName : String
  reply : ProviderReply

abbrev NotificationProgram := Program (List Notification) ProviderReply String

section

-- what the database answers to the columns of a row, and the provider that the settings import
variable (columns : Notification → Except String Unit) (provider : Except String NotificationProvider) (now : Instant)

def saveNotification (notificationId : Nat) (row : Notification) : NotificationProgram Unit := do
  lift (columns row)
  change (·.set notificationId row)

def sendStoredNotification (notificationId : Nat) (row : Notification) (raiseOnFailure : Bool) :
    NotificationProgram Notification := do
  let provider ← lift provider
  happen provider.reply
  let (answer, saved) := sendNotification provider.providerName provider.reply now raiseOnFailure row row
  saveNotification columns notificationId saved
  lift answer

def deliverNotification (notificationId : Nat) : NotificationProgram NotificationStatus :=
  atomic do
    let rows ← read id
    let notification ← lift (orRaise rows[notificationId]? "Notification matching query does not exist.")
    if notification.status ∈ [.sent, .delivered, .read, .cancelled] then
      pure notification.status
    else do
      let sent ← sendStoredNotification columns provider now notificationId notification true
      pure sent.status

end

def providerOutcome (provider : Except String NotificationProvider) : ProviderReply :=
  provider.bind NotificationProvider.reply

/-- One more attempt is on the row, with its result or its error. -/
structure LeavesResult (outcome : ProviderReply) (before after : Notification) : Prop where
  sendAttempts : after.sendAttempts = before.sendAttempts + 1
  result : (∃ result, outcome = .ok result ∧ after.status = .sent ∧
      after.providerMessageId = result.providerMessageId) ∨
    ∃ error, outcome = .error error ∧ after.status = .failed ∧ after.errorMessage = error

def sentRow (now : Instant) (result : NotificationDeliveryResult) (row : Notification) : Notification :=
  { row with
    status := .sent
    provider := result.provider
    providerMessageId := result.providerMessageId
    sendAttempts := row.sendAttempts + 1
    errorMessage := ""
    sentAt := some now }

section

variable {columns : Notification → Except String Unit} {provider : Except String NotificationProvider} {now : Instant}
  {notificationId : Nat} {rows : List Notification} {row : Notification}

theorem open_of_sendable (sendable : row.status = .queued ∨ row.status = .failed) :
    row.status ∉ [.sent, .delivered, .read, .cancelled] := by
  rcases sendable with queued | failed
  · rw [queued]
    decide
  · rw [failed]
    decide

theorem providerOutcome_ok {result : NotificationDeliveryResult} : providerOutcome provider = .ok result ↔
    ∃ loaded, provider = .ok loaded ∧ loaded.reply = .ok result := by
  cases provider with
  | error error => simp [providerOutcome, Except.bind]
  | ok loaded => simp [providerOutcome, Except.bind]

theorem saveNotification_returns {saved : Notification} {done : Unit} {next : List Notification}
    {events : List ProviderReply} : (saveNotification columns notificationId saved).Returns rows done next events ↔
      columns saved = .ok () ∧ rows.set notificationId saved = next ∧ events = [] := by
  simp only [saveNotification, returns_lift_bind, returns_change]
  constructor
  · rintro ⟨_, stored, isNext, happened⟩
    exact ⟨stored, isNext, happened⟩
  · rintro ⟨stored, isNext, happened⟩
    exact ⟨(), stored, isNext, happened⟩

theorem sendStoredNotification_returns {sent : Notification} {next : List Notification} {events : List ProviderReply} :
    (sendStoredNotification columns provider now notificationId row true).Returns rows sent next events ↔
      ∃ result, providerOutcome provider = .ok result ∧ columns (sentRow now result row) = .ok () ∧
        sent = sentRow now result row ∧ next = rows.set notificationId (sentRow now result row) ∧
        events = [.ok result] := by
  simp only [sendStoredNotification, returns_lift_bind, returns_happen_bind, providerOutcome_ok]
  constructor
  · rintro ⟨loaded, imported, later, returned, rfl⟩
    cases replied : loaded.reply with
    | error error =>
        simp only [replied, sendNotification, if_true, returns_bind, returns_lift] at returned
        obtain ⟨_, _, _, _, _, ⟨raised, _⟩, _⟩ := returned
        cases raised
    | ok result =>
        simp only [replied, sendNotification, returns_bind, saveNotification_returns, returns_lift] at returned
        obtain ⟨_, _, _, _, ⟨stored, rfl, rfl⟩, ⟨isSent, rfl, rfl⟩, rfl⟩ := returned
        exact ⟨result, ⟨loaded, imported, replied⟩, stored, (Except.ok.inj isSent).symm, rfl, rfl⟩
  · rintro ⟨result, ⟨loaded, imported, replied⟩, stored, rfl, rfl, rfl⟩
    refine ⟨loaded, imported, [], ?_, by rw [replied]⟩
    simp only [replied, sendNotification, returns_bind, saveNotification_returns, returns_lift]
    exact ⟨(), _, [], [], ⟨stored, rfl, rfl⟩, ⟨rfl, rfl, rfl⟩, rfl⟩

theorem deliverNotification_returns (found : rows[notificationId]? = some row)
    (sendable : row.status = .queued ∨ row.status = .failed) {status : NotificationStatus} {next : List Notification}
    {events : List ProviderReply} :
    (deliverNotification columns provider now notificationId).Returns rows status next events ↔
      ∃ result, providerOutcome provider = .ok result ∧ columns (sentRow now result row) = .ok () ∧
        status = .sent ∧ next = rows.set notificationId (sentRow now result row) ∧ events = [.ok result] := by
  simp only [deliverNotification, returns_atomic, returns_read_bind, returns_lift_bind, accepted_orRaise, id_eq]
  constructor
  · rintro ⟨notification, present, returned⟩
    rw [found, Option.some.injEq] at present
    subst present
    rw [if_neg (open_of_sendable sendable), returns_bind_pure] at returned
    obtain ⟨sent, returned, rfl⟩ := returned
    obtain ⟨result, replied, stored, rfl, rfl, rfl⟩ := sendStoredNotification_returns.mp returned
    exact ⟨result, replied, stored, rfl, rfl, rfl⟩
  · rintro ⟨result, replied, stored, rfl, rfl, rfl⟩
    refine ⟨row, found, ?_⟩
    rw [if_neg (open_of_sendable sendable), returns_bind_pure]
    exact ⟨sentRow now result row, sendStoredNotification_returns.mpr ⟨result, replied, stored, rfl, rfl, rfl⟩, rfl⟩

theorem deliverNotification_rolledBack {error : String}
    (raised : ((deliverNotification columns provider now notificationId).run rows).answer = .error error) :
    ((deliverNotification columns provider now notificationId).run rows).db = rows :=
  atomic_error raised

/-- An attempt leaves its result exactly when the provider returns one that the row can hold. -/
theorem leavesResult_iff (found : rows[notificationId]? = some row)
    (sendable : row.status = .queued ∨ row.status = .failed) :
    (∃ after, ((deliverNotification columns provider now notificationId).run rows).db[notificationId]? = some after ∧
        LeavesResult (providerOutcome provider) row after) ↔
      ∃ result, providerOutcome provider = .ok result ∧ columns (sentRow now result row) = .ok () := by
  constructor
  · rintro ⟨after, present, leaves⟩
    cases answer : ((deliverNotification columns provider now notificationId).run rows).answer with
    | error error =>
        rw [deliverNotification_rolledBack answer, found, Option.some.injEq] at present
        have attempts := leaves.sendAttempts
        rw [present] at attempts
        omega
    | ok status =>
        obtain ⟨result, replied, stored, _⟩ :=
          (deliverNotification_returns found sendable).mp (returns_of_answer answer)
        exact ⟨result, replied, stored⟩
  · rintro ⟨result, replied, stored⟩
    have returned : (deliverNotification columns provider now notificationId).Returns rows .sent
        (rows.set notificationId (sentRow now result row)) [.ok result] :=
      (deliverNotification_returns found sendable).mpr ⟨result, replied, stored, rfl, rfl, rfl⟩
    have inBounds := (List.getElem?_eq_some_iff.mp found).1
    refine ⟨sentRow now result row, ?_, rfl, .inl ⟨result, replied, rfl, rfl⟩⟩
    rw [show (deliverNotification columns provider now notificationId).run rows = _ from returned]
    exact List.getElem?_set_self inBounds

/-- With a database that takes every text, the whole delivery is the one of the interleavings. -/
theorem deliverNotification_handle {loaded : NotificationProvider} (found : rows[notificationId]? = some row)
    (imported : provider = .ok loaded) (takes : ∀ saved, columns saved = .ok ()) :
    ((deliverNotification columns provider now notificationId).run rows).db =
      rows.set notificationId (SendRequest.handle loaded.providerName loaded.reply now row .deliver).2 := by
  have same : rows = rows.set notificationId row := by
    obtain ⟨inBounds, isRow⟩ := List.getElem?_eq_some_iff.mp found
    rw [← isRow, List.set_getElem_self]
  by_cases gone : row.status ∈ [.sent, .delivered, .read, .cancelled]
  · simp only [SendRequest.handle, SendRequest.check, require_of_not _ (Decidable.not_not.mpr gone)]
    rw [deliverNotification, run_atomic, run_bind, run_read, andThen_ok, run_bind, id_eq, found, run_lift, orRaise,
      andThen_ok, if_pos gone]
    exact same
  · have sendable : row.status = .queued ∨ row.status = .failed := by
      revert gone
      cases row.status <;> decide
    simp only [SendRequest.handle, SendRequest.check, require_of _ gone, SendRequest.perform, sendNotification]
    cases replied : loaded.reply with
    | ok result =>
        have returned : (deliverNotification columns provider now notificationId).Returns rows .sent
            (rows.set notificationId (sentRow now result row)) [.ok result] :=
          (deliverNotification_returns found sendable).mpr
            ⟨result, providerOutcome_ok.mpr ⟨loaded, imported, replied⟩, takes _, rfl, rfl, rfl⟩
        rw [show (deliverNotification columns provider now notificationId).run rows = _ from returned]
        rfl
    | error error =>
        cases answer : ((deliverNotification columns provider now notificationId).run rows).answer with
        | error raised =>
            rw [deliverNotification_rolledBack answer]
            exact same
        | ok status =>
            obtain ⟨result, accepted, _⟩ := (deliverNotification_returns found sendable).mp (returns_of_answer answer)
            obtain ⟨other, isOther, accepted⟩ := providerOutcome_ok.mp accepted
            rw [imported, Except.ok.injEq] at isOther
            rw [← isOther, replied] at accepted
            cases accepted

end

def notificationColumns (row : Notification) : Except String Unit :=
  if 64 < row.provider.length then .error "value too long for type character varying(64)"
  else if 128 < row.providerMessageId.length then .error "value too long for type character varying(128)"
  else .ok ()

def whatsappProvider (reply : ProviderReply) : NotificationProvider where
  providerName := "msg91-whatsapp"
  reply := reply

theorem leavesResult_iff_accepted : ∃ after, ((deliverNotification notificationColumns
      (.ok (whatsappProvider (.ok ⟨"msg91-whatsapp", "request-1"⟩))) 1700000000 0).run [queuedNotification]).db[0]? =
        some after ∧
    LeavesResult (.ok ⟨"msg91-whatsapp", "request-1"⟩) queuedNotification after :=
  (leavesResult_iff rfl (.inl rfl)).mpr ⟨⟨"msg91-whatsapp", "request-1"⟩, rfl, rfl⟩

/-- After a provider's failure the row is still QUEUED, with no attempt and no error. -/
theorem failed_attempt_leaves_nothing :
    ¬ ∀ (columns : Notification → Except String Unit) (provider : Except String NotificationProvider) (now : Instant)
      (notificationId : Nat) (rows : List Notification) (row : Notification), rows[notificationId]? = some row →
      row.status = .queued ∨ row.status = .failed →
      ∃ after, ((deliverNotification columns provider now notificationId).run rows).db[notificationId]? = some after ∧
        LeavesResult (providerOutcome provider) row after := by
  intro always
  obtain ⟨after, present, leaves⟩ := always notificationColumns
    (.ok (whatsappProvider (.error "provider unavailable"))) 1700000000 0 [queuedNotification] queuedNotification rfl
    (.inl rfl)
  have unchanged : after = queuedNotification := (Option.some.inj present).symm
  have attempts := leaves.sendAttempts
  rw [unchanged] at attempts
  exact absurd attempts (by decide)

end PsCore
