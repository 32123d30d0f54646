import PsCore.Fingerprints
import PsCore.JsonCore
import PsCore.Library.RowTable
import PsCore.Library.TransitionRun
import PsCore.NotificationDelivery

/-!
The delivery callbacks of the messaging service. A delivered and a read message rank above the rest and
stay; below them each report takes the place of the one before.
-/

namespace PsCore

open Fallible RowTable TransitionRun

/-- A notification with its column `payload`, of which only a dict can take the callback in. -/
structure NotificationRow where
  notification : Notification
  payload : Json

structure CallbackRequest where
  secret : String
  data : Json

inductive CallbackAnswer
  | forbidden
  | notFound
  | processed (notificationId : Nat) (status : NotificationStatus)
  | raised (error : String)
  deriving DecidableEq, Repr

namespace CallbackRequest

variable (request : CallbackRequest)

def payload : List (String × Json) :=
  match request.data with
  | .object entries => entries
  | _ => []

def field (key : String) : Option Json :=
  (request.payload.lookup key).filter Json.truthy

def correlationId : String :=
  (((request.field "CRQID").or (request.field "crqid")).map Json.str).getD ""

def providerIds : List String :=
  (["request_id", "message_uuid", "campaign_request_id"].filterMap request.field).map Json.str

/-- `str(payload.get("status", "")).lower()`; the words looked for hold ASCII letters only. -/
def providerStatus : String :=
  String.ofList (((request.payload.lookup "status").getD (.text "")).str.toList.map Char.toLower)

def mappedStatus : Option NotificationStatus :=
  [("submitted", .sent), ("sent", .sent), ("delivered", .delivered), ("read", .read),
    ("failed", NotificationStatus.failed)].lookup request.providerStatus

end CallbackRequest

def NotificationStatus.deliveryRank : NotificationStatus → Nat
  | .sent => 1
  | .delivered => 2
  | .read => 3
  | .queued | .failed | .cancelled => 0

def reconciledStatus (stored : NotificationStatus) : Option NotificationStatus → NotificationStatus
  | none => stored
  | some .failed => if stored ∉ [.delivered, .read] then .failed else stored
  | some mapped => if mapped.deliveryRank ≥ stored.deliveryRank then mapped else stored

def withEntry (entries : List (String × Json)) (key : String) (value : Json) : List (String × Json) :=
  if entries.any (·.1 == key) then entries.map fun entry => if entry.1 == key then (key, value) else entry
  else entries ++ [(key, value)]

section

-- the secret of the settings, and the key that the text of a UUID names
variable (expectedSecret : String) (keyOf : String → Except String Nat)

def checkSecret (supplied : String) : Except CallbackAnswer Unit := do
  require (expectedSecret ≠ "") .forbidden
  require (isAscii expectedSecret = true ∧ isAscii supplied = true)
    (.raised "comparing strings with non-ASCII characters is not supported")
  require (expectedSecret = supplied) .forbidden

def findById (rows : List NotificationRow) (correlationId : String) :
    Except String (Option (Nat × NotificationRow)) :=
  if correlationId = "" then .ok none
  else (keyOf correlationId).map fun key => rows[key]?.map fun row => (key, row)

/-- The newest comes first. -/
def findNotification (rows : List NotificationRow) (request : CallbackRequest) :
    Except String (Option (Nat × NotificationRow)) := do
  let byId ← findById keyOf rows request.correlationId
  match byId with
  | some found => pure (some found)
  | none => pure (latestRow (fun row => request.providerIds.contains row.notification.providerMessageId) rows)

def NotificationRow.reconciled (row : NotificationRow) (request : CallbackRequest) : Except String NotificationRow :=
  let notification := { row.notification with
    status := reconciledStatus row.notification.status request.mappedStatus
    providerMessageId := orText row.notification.providerMessageId (request.providerIds.headD "") }
  match row.payload with
  | .object entries => .ok {
      notification := { notification with
        errorMessage := if notification.status = .failed then "MSG91 reported delivery failure." else "" }
      payload := .object (withEntry entries "delivery_callback" (.object request.payload)) }
  | _ => .error "object is not a mapping"

def msg91DeliveryWebhook (rows : List NotificationRow) (request : CallbackRequest) :
    CallbackAnswer × List NotificationRow :=
  match checkSecret expectedSecret request.secret with
  | .error answer => (answer, rows)
  | .ok () =>
      match findNotification keyOf rows request with
      | .error error => (.raised error, rows)
      | .ok none => (.notFound, rows)
      | .ok (some (notificationId, row)) =>
          match row.reconciled request with
          | .error error => (.raised error, rows)
          | .ok saved => (.processed notificationId saved.notification.status, rows.set notificationId saved)

def receiveCallback (rows : List NotificationRow) (request : CallbackRequest) : List NotificationRow :=
  (msg91DeliveryWebhook expectedSecret keyOf rows request).2

end

def Reported (mapped : Option NotificationStatus) : Prop :=
  mapped = none ∨ mapped = some .sent ∨ mapped = some .delivered ∨ mapped = some .read ∨ mapped = some .failed

theorem mappedStatus_reported (request : CallbackRequest) : Reported request.mappedStatus := by
  unfold Reported
  simp only [CallbackRequest.mappedStatus, List.lookup]
  repeat' split
  all_goals simp

def NotificationStatus.isOpen (status : NotificationStatus) : Prop := status ≠ .delivered ∧ status ≠ .read

instance (status : NotificationStatus) : Decidable status.isOpen := inferInstanceAs (Decidable (_ ∧ _))

section

variable {stored : NotificationStatus} {mapped : Option NotificationStatus}
  {reports : List (Option NotificationStatus)}

def settledStatus (stored : NotificationStatus) (reports : List (Option NotificationStatus)) : NotificationStatus :=
  reports.foldl reconciledStatus stored

theorem settled_silent (silent : ∀ mapped ∈ reports, mapped = none) : settledStatus stored reports = stored := by
  induction reports with
  | nil => rfl
  | cons first rest ih =>
      rw [List.forall_mem_cons] at silent
      rw [settledStatus, List.foldl_cons, silent.1]
      exact ih silent.2

theorem reconciled_read (reported : Reported mapped) : reconciledStatus .read mapped = .read := by
  rcases reported with rfl | rfl | rfl | rfl | rfl <;> rfl

theorem reconciled_delivered (reported : Reported mapped) :
    reconciledStatus .delivered mapped = if mapped = some .read then .read else .delivered := by
  rcases reported with rfl | rfl | rfl | rfl | rfl <;> rfl

theorem reconciled_open (open_ : stored.isOpen) (reported : Reported mapped) :
    reconciledStatus stored mapped = mapped.getD stored := by
  obtain ⟨notDelivered, notRead⟩ := open_
  rcases reported with rfl | rfl | rfl | rfl | rfl <;> cases stored <;> first | rfl | contradiction

theorem settled_read (reported : ∀ mapped ∈ reports, Reported mapped) : settledStatus .read reports = .read := by
  unfold settledStatus
  induction reports with
  | nil => rfl
  | cons first rest ih =>
      rw [List.foldl_cons, reconciled_read (reported first List.mem_cons_self)]
      exact ih fun mapped member => reported mapped (List.mem_cons_of_mem first member)

theorem settled_delivered (reported : ∀ mapped ∈ reports, Reported mapped) :
    settledStatus .delivered reports = if some .read ∈ reports then .read else .delivered := by
  induction reports with
  | nil => rfl
  | cons first rest ih =>
      have later : ∀ mapped ∈ rest, Reported mapped := fun mapped member =>
        reported mapped (List.mem_cons_of_mem first member)
      rw [settledStatus, List.foldl_cons, reconciled_delivered (reported first List.mem_cons_self)]
      by_cases isRead : first = some .read
      · rw [if_pos isRead, if_pos (List.mem_cons.mpr (.inl isRead.symm))]
        exact settled_read later
      · rw [if_neg isRead]
        have sameMembers : some .read ∈ first :: rest ↔ some .read ∈ rest := by
          simp [List.mem_cons, Ne.symm isRead]
        rw [if_congr sameMembers rfl rfl]
        exact ih later

theorem settled_final (open_ : stored.isOpen) (reported : ∀ mapped ∈ reports, Reported mapped)
    (final : some .delivered ∈ reports ∨ some .read ∈ reports) :
    settledStatus stored reports = if some .read ∈ reports then .read else .delivered := by
  induction reports generalizing stored with
  | nil => simp at final
  | cons first rest ih =>
      have later : ∀ mapped ∈ rest, Reported mapped := fun mapped member =>
        reported mapped (List.mem_cons_of_mem first member)
      rw [settledStatus, List.foldl_cons, reconciled_open open_ (reported first List.mem_cons_self)]
      by_cases isRead : first = some .read
      · rw [if_pos (List.mem_cons.mpr (.inl isRead.symm)), isRead]
        exact settled_read later
      · have sameMembers : some .read ∈ first :: rest ↔ some .read ∈ rest := by
          simp [List.mem_cons, Ne.symm isRead]
        rw [if_congr sameMembers rfl rfl]
        by_cases isDelivered : first = some .delivered
        · rw [isDelivered]
          exact settled_delivered later
        · have inRest : some .delivered ∈ rest ∨ some .read ∈ rest := by
            simpa [Ne.symm isRead, Ne.symm isDelivered] using final
          refine ih ?_ later inRest
          cases first with
          | none => exact open_
          | some status =>
              exact ⟨fun same => isDelivered (congrArg some same), fun same => isRead (congrArg some same)⟩

theorem settled_of_read (reported : ∀ mapped ∈ reports, Reported mapped) (read : some .read ∈ reports) :
    settledStatus stored reports = .read := by
  by_cases open_ : stored.isOpen
  · rw [settled_final open_ reported (.inr read), if_pos read]
  · cases stored with
    | delivered => rw [settled_delivered reported, if_pos read]
    | read => exact settled_read reported
    | queued | sent | failed | cancelled => exact absurd (by decide) open_

theorem settled_of_delivered (reported : ∀ mapped ∈ reports, Reported mapped) (delivered : some .delivered ∈ reports) :
    settledStatus stored reports = .delivered ∨ settledStatus stored reports = .read := by
  by_cases read : some .read ∈ reports
  · exact .inr (settled_of_read reported read)
  · by_cases open_ : stored.isOpen
    · rw [settled_final open_ reported (.inl delivered), if_neg read]
      exact .inl rfl
    · cases stored with
      | delivered =>
          rw [settled_delivered reported, if_neg read]
          exact .inl rfl
      | read => exact .inr (settled_read reported)
      | queued | sent | failed | cancelled => exact absurd (by decide) open_

theorem settled_same {status : NotificationStatus} (open_ : stored.isOpen) (statusOpen : status.isOpen)
    (reported : ∀ mapped ∈ reports, Reported mapped) (same : ∀ mapped ∈ reports, mapped = none ∨ mapped = some status) :
    settledStatus stored reports = if some status ∈ reports then status else stored := by
  induction reports generalizing stored with
  | nil => rfl
  | cons first rest ih =>
      have later : ∀ mapped ∈ rest, Reported mapped := fun mapped member =>
        reported mapped (List.mem_cons_of_mem first member)
      have laterSame : ∀ mapped ∈ rest, mapped = none ∨ mapped = some status := fun mapped member =>
        same mapped (List.mem_cons_of_mem first member)
      rw [settledStatus, List.foldl_cons, reconciled_open open_ (reported first List.mem_cons_self)]
      rcases same first List.mem_cons_self with silent | brings
      · rw [silent]
        simpa [settledStatus] using ih open_ later laterSame
      · rw [brings, if_pos List.mem_cons_self]
        have settled := ih statusOpen later laterSame
        rw [ite_self] at settled
        exact settled

theorem settled_last {last : NotificationStatus} (open_ : stored.isOpen) (reported : ∀ mapped ∈ reports, Reported mapped)
    (noDelivered : some .delivered ∉ reports) (noRead : some .read ∉ reports) (lastReported : Reported (some last)) :
    settledStatus stored (reports ++ [some last]) = last := by
  have stillOpen : (settledStatus stored reports).isOpen := by
    clear lastReported
    unfold settledStatus
    induction reports generalizing stored with
    | nil => exact open_
    | cons first rest ih =>
        rw [List.mem_cons, not_or] at noDelivered noRead
        rw [List.foldl_cons, reconciled_open open_ (reported first List.mem_cons_self)]
        refine ih ?_ (fun mapped member => reported mapped (List.mem_cons_of_mem first member)) noDelivered.2 noRead.2
        cases first with
        | none => exact open_
        | some status =>
            exact ⟨fun same => noDelivered.1 (congrArg some same.symm), fun same => noRead.1 (congrArg some same.symm)⟩
  rw [settledStatus, List.foldl_append, List.foldl_cons, List.foldl_nil]
  exact reconciled_open stillOpen lastReported

/-- A delivery is among the reports, or not both a sent and a failed one. -/
def Decided (reports : List (Option NotificationStatus)) : Prop :=
  some .delivered ∈ reports ∨ some .read ∈ reports ∨ some .sent ∉ reports ∨ some .failed ∉ reports

theorem brings_one {status other : NotificationStatus} (reported : ∀ mapped ∈ reports, Reported mapped)
    (noDelivered : some .delivered ∉ reports) (noRead : some .read ∉ reports) (absent : some other ∉ reports)
    (pair : status = .sent ∧ other = .failed ∨ status = .failed ∧ other = .sent) :
    ∀ mapped ∈ reports, mapped = none ∨ mapped = some status := by
  intro mapped member
  rcases pair with ⟨rfl, rfl⟩ | ⟨rfl, rfl⟩
  · rcases reported mapped member with rfl | rfl | rfl | rfl | rfl <;> simp_all
  · rcases reported mapped member with rfl | rfl | rfl | rfl | rfl <;> simp_all

theorem settled_failed (open_ : stored.isOpen) (reported : ∀ mapped ∈ reports, Reported mapped)
    (decided : Decided reports) (failed : some .failed ∈ reports) (noDelivered : some .delivered ∉ reports)
    (noRead : some .read ∉ reports) : settledStatus stored reports = .failed := by
  have noSent : some .sent ∉ reports := by
    rcases decided with delivered | read | noSent | noFailed
    · exact (noDelivered delivered).elim
    · exact (noRead read).elim
    · exact noSent
    · exact (noFailed failed).elim
  rw [settled_same open_ (by decide) reported (brings_one reported noDelivered noRead noSent (.inr ⟨rfl, rfl⟩)),
    if_pos failed]

theorem settled_perm {other : List (Option NotificationStatus)} (same : reports.Perm other)
    (reported : ∀ mapped ∈ reports, Reported mapped) (decided : stored.isOpen → Decided reports) :
    settledStatus stored other = settledStatus stored reports := by
  have otherReported : ∀ mapped ∈ other, Reported mapped := fun mapped member =>
    reported mapped (same.mem_iff.mpr member)
  by_cases open_ : stored.isOpen
  · by_cases final : some .delivered ∈ reports ∨ some .read ∈ reports
    · have otherFinal : some .delivered ∈ other ∨ some .read ∈ other := by
        rwa [← same.mem_iff, ← same.mem_iff]
      rw [settled_final open_ reported final, settled_final open_ otherReported otherFinal,
        if_congr same.mem_iff.symm rfl rfl]
    · rw [not_or] at final
      have one : ∃ status : NotificationStatus, status.isOpen ∧ ∀ mapped ∈ reports, mapped = none ∨ mapped = some status := by
        rcases decided open_ with delivered | read | noSent | noFailed
        · exact (final.1 delivered).elim
        · exact (final.2 read).elim
        · exact ⟨.failed, by decide, brings_one reported final.1 final.2 noSent (.inr ⟨rfl, rfl⟩)⟩
        · exact ⟨.sent, by decide, brings_one reported final.1 final.2 noFailed (.inl ⟨rfl, rfl⟩)⟩
      obtain ⟨status, statusOpen, only⟩ := one
      rw [settled_same open_ statusOpen reported only,
        settled_same open_ statusOpen otherReported fun mapped member => only mapped (same.mem_iff.mpr member),
        if_congr same.mem_iff.symm rfl rfl]
  · cases stored with
    | delivered =>
        rw [settled_delivered reported, settled_delivered otherReported, if_congr same.mem_iff.symm rfl rfl]
    | read => rw [settled_read reported, settled_read otherReported]
    | queued | sent | failed | cancelled => exact absurd (by decide) open_

end

/-! The callbacks of one notification. -/

section

variable {expectedSecret : String} {keyOf : String → Except String Nat} {rows : List NotificationRow}
  {notificationId : Nat} {row saved : NotificationRow} {request other : CallbackRequest}
  {requests : List CallbackRequest}

structure IsFor (expectedSecret : String) (keyOf : String → Except String Nat) (rows : List NotificationRow)
    (notificationId : Nat) (request : CallbackRequest) : Prop where
  genuine : checkSecret expectedSecret request.secret = .ok ()
  found : ∃ row, findNotification keyOf rows request = .ok (some (notificationId, row))

theorem findNotification_cases (found : findNotification keyOf rows request = .ok (some (notificationId, row))) :
    findById keyOf rows request.correlationId = .ok (some (notificationId, row)) ∨
      findById keyOf rows request.correlationId = .ok none ∧
        latestRow (fun row => request.providerIds.contains row.notification.providerMessageId) rows =
          some (notificationId, row) := by
  simp only [findNotification, accepted_bind] at found
  obtain ⟨byId, isById, found⟩ := found
  cases byId with
  | some pair =>
      rw [accepted_pure] at found
      rw [isById, found]
      exact .inl rfl
  | none =>
      rw [accepted_pure] at found
      exact .inr ⟨isById, found⟩

theorem findById_row {correlationId : String}
    (found : findById keyOf rows correlationId = .ok (some (notificationId, row))) :
    rows[notificationId]? = some row ∧ correlationId ≠ "" ∧ keyOf correlationId = .ok notificationId := by
  unfold findById at found
  split at found
  · cases found
  · rename_i given
    cases isKey : keyOf correlationId with
    | error error =>
        rw [isKey] at found
        cases found
    | ok key =>
        rw [isKey] at found
        have pair := Except.ok.inj found
        simp only [Option.map_eq_some_iff, Prod.mk.injEq] at pair
        obtain ⟨stored, present, rfl, rfl⟩ := pair
        exact ⟨present, given, rfl⟩

theorem findNotification_row (found : findNotification keyOf rows request = .ok (some (notificationId, row))) :
    rows[notificationId]? = some row := by
  rcases findNotification_cases found with byId | ⟨_, byMessage⟩
  · exact (findById_row byId).1
  · exact (latestRow_some byMessage).1

theorem str_ne_empty {value : Json} (truthy : value.truthy = true) : value.str ≠ "" := by
  cases value with
  | null => cases truthy
  | boolean value => cases value <;> decide
  | number value =>
      intro blank
      have characters := congrArg String.toList (show toString value = "" from blank)
      exact integer_nonempty value characters
  | text value => exact of_decide_eq_true truthy
  | array items =>
      intro blank
      have characters := congrArg String.toList (show (Json.array items).repr = "" from blank)
      simp [Json.repr] at characters
  | object entries =>
      intro blank
      have characters := congrArg String.toList (show (Json.object entries).repr = "" from blank)
      simp [Json.repr] at characters

theorem providerIds_nonempty : "" ∉ request.providerIds := by
  intro member
  simp only [CallbackRequest.providerIds, List.mem_map, List.mem_filterMap] at member
  obtain ⟨value, ⟨key, _, found⟩, blank⟩ := member
  exact str_ne_empty (Option.filter_eq_some_iff.mp found).2 blank

theorem reconciled_messageId (reconciled : row.reconciled request = .ok saved)
    (given : row.notification.providerMessageId ≠ "") :
    saved.notification.providerMessageId = row.notification.providerMessageId := by
  unfold NotificationRow.reconciled at reconciled
  dsimp only at reconciled
  split at reconciled
  · cases reconciled
    exact if_neg given
  · cases reconciled

theorem findById_set {correlationId : String}
    (byId : findById keyOf rows correlationId = .ok (some (notificationId, row))) (saved : NotificationRow) :
    findById keyOf (rows.set notificationId saved) correlationId = .ok (some (notificationId, saved)) := by
  obtain ⟨found, given, isKey⟩ := findById_row byId
  have inBounds := (List.getElem?_eq_some_iff.mp found).1
  rw [findById, if_neg given, isKey]
  simp [Except.map, inBounds]

theorem findById_set_none {correlationId : String} (noId : findById keyOf rows correlationId = .ok none)
    (notificationId : Nat) (saved : NotificationRow) :
    findById keyOf (rows.set notificationId saved) correlationId = .ok none := by
  unfold findById at noId ⊢
  split
  · rfl
  · rename_i given
    rw [if_neg given] at noId
    cases isKey : keyOf correlationId with
    | error error =>
        rw [isKey] at noId
        cases noId
    | ok key =>
        rw [isKey] at noId
        have absent := Except.ok.inj noId
        rw [Option.map_eq_none_iff, List.getElem?_eq_none_iff] at absent
        simp [Except.map, absent]

theorem IsFor.after (isFor : IsFor expectedSecret keyOf rows notificationId other)
    (found : rows[notificationId]? = some row) (reconciled : row.reconciled request = .ok saved) :
    IsFor expectedSecret keyOf (rows.set notificationId saved) notificationId other := by
  refine ⟨isFor.genuine, saved, ?_⟩
  obtain ⟨stored, isFound⟩ := isFor.found
  have isRow := findNotification_row isFound
  rw [found, Option.some.injEq] at isRow
  subst isRow
  rcases findNotification_cases isFound with byId | ⟨noId, byMessage⟩
  · rw [findNotification, findById_set byId saved]
    rfl
  · have contained := (latestRow_some byMessage).2
    have given : row.notification.providerMessageId ≠ "" := by
      intro blank
      rw [blank, List.contains_iff_mem] at contained
      exact providerIds_nonempty contained
    rw [findNotification, findById_set_none noId, ok_bind]
    dsimp only
    rw [latestRow_set byMessage (by rw [reconciled_messageId reconciled given]; exact contained)]
    rfl

theorem receiveCallback_isFor (isFor : IsFor expectedSecret keyOf rows notificationId request)
    (found : rows[notificationId]? = some row) : receiveCallback expectedSecret keyOf rows request =
      match row.reconciled request with
      | .ok saved => rows.set notificationId saved
      | .error _ => rows := by
  obtain ⟨stored, isFound⟩ := isFor.found
  have isRow := findNotification_row isFound
  rw [found, Option.some.injEq] at isRow
  subst isRow
  simp only [receiveCallback, msg91DeliveryWebhook, isFor.genuine, isFound]
  cases row.reconciled request <;> rfl

theorem reconciled_object {entries : List (String × Json)} (isObject : row.payload = .object entries)
    (request : CallbackRequest) :
    ∃ saved, row.reconciled request = .ok saved ∧
      saved.notification.status = reconciledStatus row.notification.status request.mappedStatus ∧
      ∃ merged, saved.payload = .object merged := by
  unfold NotificationRow.reconciled
  dsimp only
  rw [isObject]
  exact ⟨_, rfl, rfl, _, rfl⟩

def statusAfter (expectedSecret : String) (keyOf : String → Except String Nat) (rows : List NotificationRow)
    (notificationId : Nat) (requests : List CallbackRequest) : Option NotificationStatus :=
  ((runAll (receiveCallback expectedSecret keyOf) rows requests)[notificationId]?).map (·.notification.status)

theorem statusAfter_object {entries : List (String × Json)} (found : rows[notificationId]? = some row)
    (isObject : row.payload = .object entries)
    (isFor : ∀ request ∈ requests, IsFor expectedSecret keyOf rows notificationId request) :
    statusAfter expectedSecret keyOf rows notificationId requests =
      some (settledStatus row.notification.status (requests.map CallbackRequest.mappedStatus)) := by
  unfold statusAfter
  induction requests generalizing rows row entries with
  | nil =>
      rw [runAll_nil, found]
      rfl
  | cons first rest ih =>
      obtain ⟨saved, reconciled, status, merged, isMerged⟩ := reconciled_object isObject first
      have received := receiveCallback_isFor (isFor first List.mem_cons_self) found
      simp only [reconciled] at received
      have inBounds := (List.getElem?_eq_some_iff.mp found).1
      rw [runAll_cons, received, ih (List.getElem?_set_self inBounds) isMerged fun request member =>
        (isFor request (List.mem_cons_of_mem first member)).after found reconciled, status]
      rfl

theorem statusAfter_other (found : rows[notificationId]? = some row)
    (notObject : ∀ entries, row.payload ≠ .object entries)
    (isFor : ∀ request ∈ requests, IsFor expectedSecret keyOf rows notificationId request) :
    statusAfter expectedSecret keyOf rows notificationId requests = some row.notification.status := by
  have idle : ∀ request ∈ requests, receiveCallback expectedSecret keyOf rows request = rows := by
    intro request member
    rw [receiveCallback_isFor (isFor request member) found]
    unfold NotificationRow.reconciled
    dsimp only
    cases isPayload : row.payload with
    | object entries => exact (notObject entries isPayload).elim
    | _ => rfl
  rw [statusAfter, runAll_idle idle, found]
  rfl

/-! Callbacks in any order. -/

structure CallbacksCommute (after : List CallbackRequest → Option NotificationStatus) (stored : NotificationStatus)
    (requests : List CallbackRequest) : Prop where
  order : ∀ reordered, requests.Perm reordered → after reordered = after requests
  delivered : ∀ earlier request later rest, requests.Perm (earlier ++ request :: later ++ rest) →
    request.mappedStatus = some .delivered →
      after (earlier ++ request :: later) = some .delivered ∨ after (earlier ++ request :: later) = some .read
  read : ∀ earlier request later rest, requests.Perm (earlier ++ request :: later ++ rest) →
    request.mappedStatus = some .read → after (earlier ++ request :: later) = some .read
  failed : stored ∈ [.queued, .sent, .failed] → (∃ request ∈ requests, request.mappedStatus = some .failed) →
    (∀ request ∈ requests, request.mappedStatus ≠ some .delivered ∧ request.mappedStatus ≠ some .read) →
      after requests = some .failed
  cancelled : stored = .cancelled → after requests = some .cancelled

/-- The stored status already says what the report would. -/
def NotificationStatus.covers (stored : NotificationStatus) : Option NotificationStatus → Bool
  | some .delivered => stored == .delivered || stored == .read
  | some .read => stored == .read
  | some .failed => stored != .queued && stored != .sent
  | _ => true

/-- A cancelled notification gets no report that the handler knows, and one that is not yet delivered a final
report or not both a sent and a failed one; into a payload that is not a dict nothing new is reported. -/
def ReportsSettle (row : NotificationRow) (requests : List CallbackRequest) : Prop :=
  match row.payload with
  | .object _ =>
      (row.notification.status = .cancelled → ∀ request ∈ requests, request.mappedStatus = none) ∧
      (row.notification.status ∈ [.queued, .sent, .failed] → Decided (requests.map CallbackRequest.mappedStatus))
  | _ => ∀ request ∈ requests, row.notification.status.covers request.mappedStatus = true

variable {after : List CallbackRequest → Option NotificationStatus} {stored : NotificationStatus}

theorem mappedStatuses_reported (requests : List CallbackRequest) :
    ∀ mapped ∈ requests.map CallbackRequest.mappedStatus, Reported mapped := by
  intro mapped member
  obtain ⟨request, _, rfl⟩ := List.mem_map.mp member
  exact mappedStatus_reported request

theorem moved_last (member : request ∈ requests) :
    ∃ others, requests.Perm (others ++ [request]) ∧ ∀ other ∈ others, other ∈ requests := by
  obtain ⟨earlier, later, rfl⟩ := List.append_of_mem member
  refine ⟨earlier ++ later, List.perm_middle.trans (List.perm_append_singleton ..).symm, fun other inOthers => ?_⟩
  rw [List.mem_append] at inOthers
  rw [List.mem_append, List.mem_cons]
  rcases inOthers with before | after
  · exact .inl before
  · exact .inr (.inr after)

theorem prefix_within {earlier later rest : List CallbackRequest}
    (same : requests.Perm (earlier ++ request :: later ++ rest)) :
    request ∈ requests ∧ ∀ other ∈ earlier ++ request :: later, other ∈ requests := by
  have within : ∀ other ∈ earlier ++ request :: later, other ∈ requests := fun other member =>
    same.mem_iff.mpr (List.mem_append_left rest member)
  exact ⟨within request (by simp), within⟩

theorem CallbacksCommute.last (commute : CallbacksCommute after stored requests)
    (settles : ∀ received, (∀ request ∈ received, request ∈ requests) →
      after received = some (settledStatus stored (received.map CallbackRequest.mappedStatus)))
    (open_ : stored.isOpen) (noDelivered : some .delivered ∉ requests.map CallbackRequest.mappedStatus)
    (noRead : some .read ∉ requests.map CallbackRequest.mappedStatus) (member : request ∈ requests)
    {status : NotificationStatus} (isStatus : request.mappedStatus = some status) : after requests = some status := by
  obtain ⟨others, same, inRequests⟩ := moved_last member
  have within : ∀ other ∈ others ++ [request], other ∈ requests := fun other inAll => same.mem_iff.mpr inAll
  have absent : ∀ mapped : Option NotificationStatus, mapped ∉ requests.map CallbackRequest.mappedStatus →
      mapped ∉ others.map CallbackRequest.mappedStatus := by
    intro mapped missing inOthers
    obtain ⟨other, isOther, isMapped⟩ := List.mem_map.mp inOthers
    exact missing (List.mem_map.mpr ⟨other, inRequests other isOther, isMapped⟩)
  have reported : Reported (some status) := isStatus ▸ mappedStatus_reported request
  rw [← commute.order _ same, settles _ within, List.map_append, List.map_cons, List.map_nil, isStatus,
    settled_last open_ (mappedStatuses_reported others) (absent _ noDelivered) (absent _ noRead) reported]

theorem commute_of_settles (settles : ∀ received, (∀ request ∈ received, request ∈ requests) →
      after received = some (settledStatus stored (received.map CallbackRequest.mappedStatus)))
    (quiet : stored = .cancelled → ∀ request ∈ requests, request.mappedStatus = none)
    (decided : stored ∈ [.queued, .sent, .failed] → Decided (requests.map CallbackRequest.mappedStatus)) :
    CallbacksCommute after stored requests := by
  have all := settles requests fun _ member => member
  have reported := mappedStatuses_reported requests
  refine ⟨fun reordered same => ?_, fun earlier request later rest same isDelivered => ?_,
    fun earlier request later rest same isRead => ?_, fun open_ someFailed noFinal => ?_, fun isCancelled => ?_⟩
  · rw [settles reordered fun request member => same.mem_iff.mpr member, all]
    refine congrArg some (settled_perm (same.map _) reported fun open_ => ?_)
    by_cases isCancelled : stored = .cancelled
    · refine .inr (.inr (.inl fun member => ?_))
      obtain ⟨request, isRequest, isSent⟩ := List.mem_map.mp member
      rw [quiet isCancelled request isRequest] at isSent
      cases isSent
    · refine decided ?_
      obtain ⟨notDelivered, notRead⟩ := open_
      cases stored <;> first | decide | contradiction
  · have within := (prefix_within same).2
    have member : some .delivered ∈ (earlier ++ request :: later).map CallbackRequest.mappedStatus :=
      List.mem_map.mpr ⟨request, by simp, isDelivered⟩
    rw [settles _ within]
    rcases settled_of_delivered (mappedStatuses_reported _) member with delivered | read
    · exact .inl (congrArg some delivered)
    · exact .inr (congrArg some read)
  · have within := (prefix_within same).2
    have member : some .read ∈ (earlier ++ request :: later).map CallbackRequest.mappedStatus :=
      List.mem_map.mpr ⟨request, by simp, isRead⟩
    rw [settles _ within, settled_of_read (mappedStatuses_reported _) member]
  · obtain ⟨failing, isFailing, fails⟩ := someFailed
    have storedOpen : stored.isOpen := by
      revert open_
      cases stored <;> decide
    rw [all, settled_failed storedOpen reported (decided open_) (List.mem_map.mpr ⟨failing, isFailing, fails⟩)]
    · intro member
      obtain ⟨request, isRequest, isDelivered⟩ := List.mem_map.mp member
      exact (noFinal request isRequest).1 isDelivered
    · intro member
      obtain ⟨request, isRequest, isRead⟩ := List.mem_map.mp member
      exact (noFinal request isRequest).2 isRead
  · rw [all, isCancelled, settled_silent fun mapped member => ?_]
    obtain ⟨request, isRequest, rfl⟩ := List.mem_map.mp member
    exact quiet isCancelled request isRequest

theorem CallbacksCommute.quiet (commute : CallbacksCommute after stored requests)
    (settles : ∀ received, (∀ request ∈ received, request ∈ requests) →
      after received = some (settledStatus stored (received.map CallbackRequest.mappedStatus)))
    (isCancelled : stored = .cancelled) : ∀ request ∈ requests, request.mappedStatus = none := by
  have all := settles requests fun _ member => member
  have reported := mappedStatuses_reported requests
  have stays := commute.cancelled isCancelled
  have open_ : stored.isOpen := by
    rw [isCancelled]
    decide
  have noRead : some .read ∉ requests.map CallbackRequest.mappedStatus := by
    intro read
    rw [all, settled_of_read reported read] at stays
    cases stays
  have noDelivered : some .delivered ∉ requests.map CallbackRequest.mappedStatus := by
    intro delivered
    rw [all] at stays
    rcases settled_of_delivered reported delivered with isDelivered | isRead
    · rw [isDelivered] at stays
      cases stays
    · rw [isRead] at stays
      cases stays
  intro request member
  cases isStatus : request.mappedStatus with
  | none => rfl
  | some status =>
      have believed := commute.last settles open_ noDelivered noRead member isStatus
      rw [stays, Option.some.injEq] at believed
      rcases mappedStatus_reported request with none | sent | delivered | read | failed
      · rw [isStatus] at none
        cases none
      · rw [isStatus, ← believed] at sent
        cases sent
      · rw [isStatus, ← believed] at delivered
        cases delivered
      · rw [isStatus, ← believed] at read
        cases read
      · rw [isStatus, ← believed] at failed
        cases failed

theorem CallbacksCommute.decided (commute : CallbacksCommute after stored requests)
    (settles : ∀ received, (∀ request ∈ received, request ∈ requests) →
      after received = some (settledStatus stored (received.map CallbackRequest.mappedStatus)))
    (open_ : stored.isOpen) : Decided (requests.map CallbackRequest.mappedStatus) := by
  by_cases final : some .delivered ∈ requests.map CallbackRequest.mappedStatus ∨
      some .read ∈ requests.map CallbackRequest.mappedStatus
  · rcases final with delivered | read
    · exact .inl delivered
    · exact .inr (.inl read)
  · rw [not_or] at final
    refine .inr (.inr (Decidable.or_iff_not_imp_left.mpr fun someSent someFailed => ?_))
    obtain ⟨sending, isSending, sent⟩ := List.mem_map.mp (Decidable.not_not.mp someSent)
    obtain ⟨failing, isFailing, failed⟩ := List.mem_map.mp someFailed
    have lastSent := commute.last settles open_ final.1 final.2 isSending sent
    have lastFailed := commute.last settles open_ final.1 final.2 isFailing failed
    rw [lastSent] at lastFailed
    cases lastFailed

theorem CallbacksCommute.covers (commute : CallbacksCommute after stored requests)
    (idle : ∀ received, (∀ request ∈ received, request ∈ requests) → after received = some stored) :
    ∀ request ∈ requests, stored.covers request.mappedStatus = true := by
  have all := idle requests fun _ member => member
  have delivered : ∀ request ∈ requests, request.mappedStatus = some .delivered →
      stored = .delivered ∨ stored = .read := by
    intro request member isDelivered
    obtain ⟨earlier, later, isAll⟩ := List.append_of_mem member
    have answered := commute.delivered earlier request later [] (by rw [List.append_nil, isAll]) isDelivered
    rw [← isAll, all, Option.some.injEq, Option.some.injEq] at answered
    exact answered
  have read : ∀ request ∈ requests, request.mappedStatus = some .read → stored = .read := by
    intro request member isRead
    obtain ⟨earlier, later, isAll⟩ := List.append_of_mem member
    have answered := commute.read earlier request later [] (by rw [List.append_nil, isAll]) isRead
    rw [← isAll, all, Option.some.injEq] at answered
    exact answered
  intro request member
  rcases mappedStatus_reported request with none | sent | isDelivered | isRead | isFailed
  · rw [none]
    rfl
  · rw [sent]
    rfl
  · rw [isDelivered]
    simpa [NotificationStatus.covers] using delivered request member isDelivered
  · rw [isRead, read request member isRead]
    rfl
  · rw [isFailed]
    by_cases open_ : stored = .queued ∨ stored = .sent
    · -- no final report can have come, so a failure would have to be believed
      have noFinal : ∀ other ∈ requests, other.mappedStatus ≠ some .delivered ∧ other.mappedStatus ≠ some .read := by
        intro other inRequests
        refine ⟨fun isDelivered => ?_, fun isRead => ?_⟩
        · have final := delivered other inRequests isDelivered
          rcases open_ with rfl | rfl <;> simp at final
        · have final := read other inRequests isRead
          rcases open_ with rfl | rfl <;> cases final
      have inOpen : stored ∈ [.queued, .sent, .failed] := by
        rcases open_ with rfl | rfl <;> decide
      have answered := commute.failed inOpen ⟨request, member, isFailed⟩ noFinal
      rw [all, Option.some.injEq] at answered
      rcases open_ with rfl | rfl <;> cases answered
    · rw [not_or] at open_
      simp [NotificationStatus.covers, open_.1, open_.2]

theorem commute_of_covers
    (idle : ∀ received, (∀ request ∈ received, request ∈ requests) → after received = some stored)
    (covered : ∀ request ∈ requests, stored.covers request.mappedStatus = true) :
    CallbacksCommute after stored requests := by
  have all := idle requests fun _ member => member
  refine ⟨fun reordered same => ?_, fun earlier request later rest same isDelivered => ?_,
    fun earlier request later rest same isRead => ?_, fun open_ someFailed _ => ?_, fun isCancelled => ?_⟩
  · rw [all, idle reordered fun request member => same.mem_iff.mpr member]
  · obtain ⟨member, within⟩ := prefix_within same
    have covers := covered request member
    rw [isDelivered] at covers
    rw [idle _ within, Option.some.injEq, Option.some.injEq]
    simpa [NotificationStatus.covers] using covers
  · obtain ⟨member, within⟩ := prefix_within same
    have covers := covered request member
    rw [isRead] at covers
    rw [idle _ within, Option.some.injEq]
    simpa [NotificationStatus.covers] using covers
  · obtain ⟨failing, isFailing, fails⟩ := someFailed
    have covers := covered failing isFailing
    rw [fails] at covers
    rw [all, Option.some.injEq]
    revert open_ covers
    cases stored <;> decide
  · rw [all, isCancelled]

/-- The callbacks of a notification commute exactly when its reports settle. -/
theorem callbacksCommute_iff (found : rows[notificationId]? = some row)
    (isFor : ∀ request ∈ requests, IsFor expectedSecret keyOf rows notificationId request) :
    CallbacksCommute (statusAfter expectedSecret keyOf rows notificationId) row.notification.status requests ↔
      ReportsSettle row requests := by
  unfold ReportsSettle
  cases isPayload : row.payload with
  | object entries =>
      have settles : ∀ received, (∀ request ∈ received, request ∈ requests) →
          statusAfter expectedSecret keyOf rows notificationId received =
            some (settledStatus row.notification.status (received.map CallbackRequest.mappedStatus)) :=
        fun received within => statusAfter_object found isPayload fun request member => isFor request (within request member)
      constructor
      · intro commute
        refine ⟨commute.quiet settles, fun open_ => commute.decided settles ?_⟩
        revert open_
        cases row.notification.status <;> decide
      · rintro ⟨quiet, decided⟩
        exact commute_of_settles settles quiet decided
  | _ =>
      have idle : ∀ received, (∀ request ∈ received, request ∈ requests) →
          statusAfter expectedSecret keyOf rows notificationId received = some row.notification.status := by
        intro received within
        refine statusAfter_other found (fun entries isObject => ?_) fun request member =>
          isFor request (within request member)
        rw [isPayload] at isObject
        cases isObject
      constructor
      · intro commute
        exact commute.covers idle
      · intro covered
        exact commute_of_covers idle covered

end

def messageReport (status : String) : CallbackRequest where
  secret := "webhook-secret"
  data := .object [("request_id", .text "request-1"), ("status", .text status)]

def sentMessage : NotificationRow where
  notification := { queuedNotification with
    status := .sent
    provider := "msg91-whatsapp"
    providerMessageId := "request-1"
    sendAttempts := 1 }
  payload := .object []

def decimalKey (text : String) : Except String Nat :=
  orRaise text.toNat? "The text is not a valid UUID."

theorem messageReport_isFor (status : String) :
    IsFor "webhook-secret" decimalKey [sentMessage] 0 (messageReport status) := by
  have genuine : checkSecret "webhook-secret" "webhook-secret" = .ok () := by decide
  exact ⟨genuine, sentMessage, rfl⟩

/-- A failure that is reported late does not undo the delivery. -/
theorem callbacksCommute_iff_delivered :
    CallbacksCommute (statusAfter "webhook-secret" decimalKey [sentMessage] 0) .sent
      [messageReport "delivered", messageReport "failed"] := by
  have found : [sentMessage][0]? = some sentMessage := rfl
  refine (callbacksCommute_iff found ?_).mpr ⟨nofun, fun _ => .inl (by decide)⟩
  intro request member
  simp only [List.mem_cons, List.not_mem_nil, or_false] at member
  rcases member with rfl | rfl
  · exact messageReport_isFor "delivered"
  · exact messageReport_isFor "failed"

/-- A failure and a late report that the message was sent: the one that comes last stays. -/
theorem failed_and_sent_do_not_commute :
    ¬ ∀ (expectedSecret : String) (keyOf : String → Except String Nat) (rows : List NotificationRow)
      (notificationId : Nat) (row : NotificationRow) (requests : List CallbackRequest),
      rows[notificationId]? = some row →
      (∀ request ∈ requests, IsFor expectedSecret keyOf rows notificationId request) →
      CallbacksCommute (statusAfter expectedSecret keyOf rows notificationId) row.notification.status requests := by
  intro always
  have commute := always "webhook-secret" decimalKey [sentMessage] 0 sentMessage
    [messageReport "sent", messageReport "failed"] rfl (by
      intro request member
      simp only [List.mem_cons, List.not_mem_nil, or_false] at member
      rcases member with rfl | rfl
      · exact messageReport_isFor "sent"
      · exact messageReport_isFor "failed")
  have same := commute.order [messageReport "failed", messageReport "sent"] (List.Perm.swap ..)
  exact absurd same (by decide)

end PsCore
