import PsCore.Assignments
import PsCore.EligibleTechnicians
import PsCore.TechnicianRecords

/-!
The technicians' office beside the bookings: the records, the working hours and the leaves are the
administrators', the assignments are made from them. Whoever is assigned was let on duty by an administrator
and has stayed on duty since.
-/

namespace PsCore

open Fallible RowTable TransitionRun Relation

structure WorkingHoursRecord extends TechnicianWorkingHours where
  technician : TechnicianId
  deriving DecidableEq, Repr

structure LeaveRecord extends TechnicianLeave where
  technician : TechnicianId
  reason : String
  approvedBy : Option UserId
  reviewNote : String
  deriving DecidableEq, Repr

structure FieldOffice where
  platform : System
  office : StaffOffice
  hours : List WorkingHoursRecord
  leaves : List LeaveRecord

inductive LeaveStatus
  | pending
  | approved
  | rejected
  deriving DecidableEq, Repr

def LeaveRecord.status (leave : LeaveRecord) : LeaveStatus :=
  if leave.isActive = false then .rejected else if leave.approvedBy.isSome then .approved else .pending

def otherHours (hours : List WorkingHoursRecord) : Option Nat → List WorkingHoursRecord
  | some self => hours.eraseIdx self
  | none => hours

def WorkingHoursRecord.fullCleanErrors (others : List WorkingHoursRecord) (record : WorkingHoursRecord) :
    List (String × String) :=
  (if 6 < record.dayOfWeek then
    [("day_of_week", "Value " ++ toString record.dayOfWeek ++ " is not a valid choice.")] else []) ++
  (if record.endTime ≤ record.startTime then [("end_time", "End time must be after start time.")] else []) ++
  (if others.any fun other => other.technician == record.technician && other.dayOfWeek == record.dayOfWeek &&
      other.startTime == record.startTime && other.endTime == record.endTime then
    [("__all__", "Technician working hours with this Technician, Day of week, Start time and End time already exists.")]
    else [])

def LeaveRecord.fullCleanErrors (leave : LeaveRecord) : List (String × String) :=
  charFieldErrors "reason" 160 false leave.reason ++
  (if leave.endAt ≤ leave.startAt then [("end_at", "End time must be after start time.")] else [])

def putRow {α : Type} (name : String) (rows : List α) (target : Option Nat) (row : α) : Except ServiceError (List α) :=
  match target with
  | some position => do
      let _ ← orRaise rows[position]? (.doesNotExist name)
      pure (rows.set position row)
  | none => .ok (rows ++ [row])

namespace FieldOffice

def saveHours (target : Option Nat) (record : WorkingHoursRecord) (field : FieldOffice) :
    Except ServiceError FieldOffice := do
  let errors := record.fullCleanErrors (otherHours field.hours target)
  require (errors = []) (.fieldValidation errors)
  let hours ← putRow "TechnicianWorkingHours" field.hours target record
  pure { field with hours := hours }

def saveLeave (target : Option Nat) (leave : LeaveRecord) (field : FieldOffice) : Except ServiceError FieldOffice := do
  require (leave.fullCleanErrors = []) (.fieldValidation leave.fullCleanErrors)
  let leaves ← putRow "TechnicianLeave" field.leaves target leave
  pure { field with leaves := leaves }

def saveLeaveModel (actor : UserId) (target : Option Nat) (leave : LeaveRecord) (field : FieldOffice) :
    Except ServiceError FieldOffice :=
  field.saveLeave target { leave with approvedBy := leave.approvedBy.orElse fun _ => some actor }

def approveLeave (actor : UserId) (leaveId : Nat) (note : String) (field : FieldOffice) :
    Except ServiceError FieldOffice := do
  let leave ← orRaise field.leaves[leaveId]? (.doesNotExist "TechnicianLeave")
  field.saveLeave (some leaveId) { leave with approvedBy := some actor, reviewNote := note, isActive := true }

def rejectLeave (leaveId : Nat) (note : String) (field : FieldOffice) : Except ServiceError FieldOffice := do
  let leave ← orRaise field.leaves[leaveId]? (.doesNotExist "TechnicianLeave")
  field.saveLeave (some leaveId) { leave with approvedBy := none, reviewNote := note, isActive := false }

def profile (field : FieldOffice) (technicianId : TechnicianId) (record : TechnicianRecord) : TechnicianProfile where
  user := record.user
  pincode := record.pincode
  serviceAreas := record.serviceAreas
  supportedServices := record.supportedServices
  backgroundVerificationStatus := record.backgroundVerificationStatus
  availabilityStatus := record.availabilityStatus
  isAvailable := record.isAvailable
  isActive := record.isActive
  workingHours := (field.hours.filter (·.technician == technicianId)).map (·.toTechnicianWorkingHours)
  leaves := (field.leaves.filter (·.technician == technicianId)).map (·.toTechnicianLeave)

def roster (field : FieldOffice) : List TechnicianProfile :=
  field.office.staff.mapIdx field.profile

/-- The operations read the technicians as the office has them. -/
def synced (field : FieldOffice) : FieldOffice :=
  let db := field.platform.db
  { field with platform := { field.platform with
      db := { db with directory := { db.directory with technicians := field.roster } } } }

end FieldOffice

/-- `isEmail` is the check of the framework's e-mail column. -/
structure FieldSettings extends Settings where
  isEmail : String → Bool

inductive FieldInput
  | operation (op : Op)
  | staff (input : StaffInput)
  | saveHours (target : Option Nat) (record : WorkingHoursRecord)
  | saveLeave (actor : UserId) (target : Option Nat) (leave : LeaveRecord)
  | approveLeave (actor : UserId) (leaveId : Nat) (note : String)
  | rejectLeave (leaveId : Nat) (note : String)

namespace FieldOffice

def stored (field : FieldOffice) (written : Except ServiceError FieldOffice) : FieldOffice :=
  match written with
  | .ok next => next
  | .error _ => field

def handle (settings : FieldSettings) (field : FieldOffice) : FieldInput → FieldOffice
  | .operation op => { field with platform := System.step settings.toSettings field.platform op }
  | .staff input => { field with office := field.office.step settings.isEmail input }
  | .saveHours target record => field.stored (field.saveHours target record)
  | .saveLeave actor target leave => field.stored (field.saveLeaveModel actor target leave)
  | .approveLeave actor leaveId note => field.stored (field.approveLeave actor leaveId note)
  | .rejectLeave leaveId note => field.stored (field.rejectLeave leaveId note)

def step (settings : FieldSettings) (field : FieldOffice) (input : FieldInput) : FieldOffice :=
  (field.handle settings input).synced

structure Initial (field : FieldOffice) : Prop where
  platform : field.platform.Initial
  office : field.office = .empty
  technicians : field.platform.db.directory.technicians = []
  hours : field.hours = []
  leaves : field.leaves = []

end FieldOffice

def TechnicianRecord.onDuty (record : TechnicianRecord) : Bool :=
  record.isActive && record.isAvailable && record.backgroundVerificationStatus == .verified &&
  record.availabilityStatus == .available

def FieldOffice.onDuty (field : FieldOffice) (technicianId : TechnicianId) : Bool :=
  field.office.staff[technicianId]?.any TechnicianRecord.onDuty

/-- The two ways in which an administrator lets a technician on duty. -/
def StaffInput.admits (staff : List TechnicianRecord) (technicianId : TechnicianId) : StaffInput → Prop
  | .save _ target record => target.getD staff.length = technicianId ∧ record.onDuty = true
  | .bulk _ queryset action => action = .approve ∧ technicianId ∈ queryset.selected

/-- An administrator let the technician on duty, and nothing took him off duty since. -/
def AdmittedSince (settings : FieldSettings) (start : FieldOffice) (inputs : List FieldInput)
    (technicianId : TechnicianId) : Prop :=
  ∃ earlier input later, inputs = earlier ++ .staff input :: later ∧
    input.admits (runAll (FieldOffice.step settings) start earlier).office.staff technicianId ∧
    ∀ first rest, later = first ++ rest →
      (runAll (FieldOffice.step settings) start (earlier ++ .staff input :: first)).onDuty technicianId = true

/-- Nothing that the office knew spoke against the assignment. A leave counts until it is rejected. -/
structure FieldOffice.Suits (field : FieldOffice) (technicianId : TechnicianId) (bookingId : BookingId)
    (record : TechnicianRecord) (booking : Booking) (slot : TimeSlot) : Prop where
  foundRecord : field.office.staff[technicianId]? = some record
  foundBooking : field.platform.db.bookings[bookingId]? = some booking
  foundSlot : field.platform.db.slots[booking.timeSlot]? = some slot
  service : record.supportedServices = [] ∨ booking.service ∈ record.supportedServices
  area : record.serviceAreas = [] ∨ slot.serviceArea ∈ record.serviceAreas
  place : ∃ address, field.platform.db.directory.addresses[booking.address]? = some address ∧
    (address.postalCode = "" ∨ record.pincode = "" ∨ record.pincode = address.postalCode)
  hours : (∀ hours ∈ field.hours, hours.technician = technicianId → hours.isActive = true →
      hours.dayOfWeek ≠ weekday slot.date) ∨
    ∃ hours ∈ field.hours, hours.technician = technicianId ∧ hours.isActive = true ∧
      hours.dayOfWeek = weekday slot.date ∧ hours.startTime ≤ slot.startTime ∧ slot.endTime ≤ hours.endTime
  leaves : ∀ leave ∈ field.leaves, leave.technician = technicianId → leave.status ≠ .rejected →
    ¬ (leave.startAt < slot.endAt ∧ slot.startAt < leave.endAt)
  free : ∀ (otherId : BookingId) (other : Booking), field.platform.db.bookings[otherId]? = some other →
    otherId ≠ bookingId → other.overlaps field.platform.db.slots record.user slot = false

/-- The assignment was made by an administrator's request, to a technician whom it suited then, and who had been
on duty since an administrator let him. -/
def Rostered (settings : FieldSettings) (start : FieldOffice) (inputs : List FieldInput) (row : TechnicianAssignment) :
    Prop :=
  ∃ earlier now assignedBy notes reason later record booking slot,
    inputs = earlier ++ .operation (.assignTechnician now row.booking row.technician assignedBy notes reason) :: later ∧
    (runAll (FieldOffice.step settings) start earlier).Suits row.technician row.booking record booking slot ∧
    AdmittedSince settings start earlier row.technician

section

variable {settings : Settings} {state : System} {db next : Db}

theorem Quiet.assignments (quiet : Quiet db next) : next.assignments = db.assignments := by
  cases quiet with
  | auxiliary same added slots => exact same.assignments
  | created booking slot fresh foundSlot dated bookings noted payments staff => exact staff.assignments
  | workOrderCreated middle booking slot lead service fresh foundSlot dated bookings created noted payments staff =>
      exact staff.assignments

theorem quiet_assignments (chain : ReflTransGen Quiet db next) : next.assignments = db.assignments := by
  induction chain with
  | refl => rfl
  | tail _ quiet ih => exact quiet.assignments.trans ih

theorem commit_assignments {α : Type} {transaction : Except ServiceError (α × Db)}
    (kept : ∀ result next, transaction = .ok (result, next) → next.assignments = db.assignments) :
    (commit db transaction).2.assignments = db.assignments := by
  cases transaction with
  | error error => rfl
  | ok committed => exact kept committed.1 committed.2 rfl

theorem apply_assignments (now : Instant) (changedBy : Option UserId) (change : PaymentChange) :
    (change.apply now changedBy db).assignments = db.assignments := by
  cases change with
  | unchanged paymentId => rfl
  | confirm locked payments => exact (confirmBookingAfterPayment_staff now locked changedBy _).assignments
  | fail locked payments => exact (markPaymentFailed_staff locked _).assignments

theorem verifyRazorpayPayment_assignments (now : Instant) (orderId paymentId signature : String)
    (user : Option UserId) (db : Db) :
    (verifyRazorpayPayment settings now orderId paymentId signature user db).2.assignments = db.assignments := by
  unfold verifyRazorpayPayment
  split
  · rfl
  · exact apply_assignments now user _

theorem settleRefund_assignments {settlement : RefundSettlement} {initiated completed : Bool}
    (accepted : settleRefund settlement initiated completed db = .ok next) : next.assignments = db.assignments := by
  simp only [settleRefund, applyRefundState, accepted_bind, accepted_pure] at accepted
  obtain ⟨applied, written, rfl⟩ := accepted
  have aside : applied.assignments = db.assignments := by
    split at written
    · simp only [accepted_bind, accepted_pure] at written
      obtain ⟨payments, _, rfl⟩ := written
      rfl
    · simp only [accepted_pure] at written
      subst written
      rfl
  cases initiated <;> cases completed <;> exact aside

theorem dispatchWebhook_assignments (now : Instant) (eventName : String) (payload : Json) (db : Db) :
    (dispatchWebhook settings now eventName payload db).2.assignments = db.assignments := by
  unfold dispatchWebhook
  split
  · split
    · rfl
    · exact verifyRazorpayPayment_assignments now _ _ _ _ db
  · split
    · split
      · rfl
      · exact apply_assignments now none _
    · split
      · refine commit_assignments fun result next accepted => ?_
        simp only [processRefundWebhook, accepted_bind, accepted_pure, Prod.mk.injEq] at accepted
        obtain ⟨_, ⟨_, _, _, settled, rfl⟩, _, rfl⟩ := accepted
        exact settleRefund_assignments settled
      · rfl

theorem convert_assignments (now : Instant) (lead : Nat) (performedBy : Option UserId) (booking : Option Nat)
    (notes : String) (state : System) :
    (commit state.db (state.convert now lead performedBy booking notes)).2.assignments = state.db.assignments := by
  refine commit_assignments fun result next accepted => ?_
  simp only [System.convert, accepted_bind, accepted_orRaise] at accepted
  obtain ⟨loaded, _, converted⟩ := accepted
  cases booking with
  | none => exact quiet_assignments (convertFromLead_quiet converted)
  | some position =>
      simp only [accepted_bind, accepted_orRaise] at converted
      obtain ⟨object, _, converted⟩ := converted
      rcases convertLeadToWorkOrder_cases converted with ⟨_, _, rfl⟩ | ⟨_, _, leads, _, ordered, _, rfl⟩
      · rfl
      · obtain ⟨_, row, _, rfl⟩ := workOrderBooking_given ordered
        rfl

theorem loads_assignments {op : Op} (loads : op.onlyLoads = true) :
    (System.step settings state op).db.assignments = state.db.assignments := by
  rw [step_onlyLoads settings state loads]

theorem leads_assignments {op : Op} (writes : op.writesLeads = true) :
    (System.step settings state op).db.assignments = state.db.assignments := by
  obtain ⟨leads, written⟩ := step_writesLeads settings state writes
  rw [written]

theorem slots_assignments {op : Op} (writes : op.writesSlots = true) :
    (System.step settings state op).db.assignments = state.db.assignments := by
  obtain ⟨slots, written⟩ := step_writesSlots settings state writes
  rw [written]

theorem job_assignments {op : Op} (rewrites : op.rewritesJob = true) (still : op.movesStaff = false) :
    (System.step settings state op).db.assignments = state.db.assignments := by
  rcases step_rewritesJob settings state rewrites with unchanged | ⟨_, _, _, _, same, written⟩
  · rw [unchanged]
  · exact written.assignments.trans (same still)

theorem createBooking_assignments {now : Instant} {customer : UserId} {request : BookingRequest} {bookingId : BookingId}
    (accepted : createBooking now customer request db = .ok (bookingId, next)) : next.assignments = db.assignments := by
  obtain ⟨_, _, _, _, _, _, _, _, _, staff⟩ := createBooking_quiet accepted
  exact staff.assignments

theorem recordBalanceCollection_assignments {now : Instant} {bookingId : BookingId} {amount : Money} {method : String}
    {changedBy : Option UserId} {notes : String} {paymentId : PaymentId}
    (accepted : recordBalanceCollection now bookingId amount method changedBy notes db = .ok (paymentId, next)) :
    next.assignments = db.assignments := by
  simp only [recordBalanceCollection, accepted_bind, accepted_pure, Prod.mk.injEq] at accepted
  obtain ⟨_, _, _, rfl⟩ := accepted
  rfl

theorem createAdvancePaymentOrder_assignments {bookingId : BookingId} {user : UserId} {key : String}
    {providerOrder : Except ServiceError String} {answer : PaymentId × OrderResponse}
    (accepted : createAdvancePaymentOrder settings bookingId user key providerOrder db = .ok (answer, next)) :
    next.assignments = db.assignments := by
  rcases createAdvancePaymentOrder_cases accepted with ⟨_, _, _, _, _, rfl⟩ | ⟨_, _, _, _, _, _, _, rfl⟩ <;> rfl

theorem createRefund_assignments {now : Instant} {sourceId refundId : PaymentId} {amount : Money} {key : String}
    {providerRefund : Except ServiceError ProviderRefund}
    (accepted : createRefund now sourceId amount key providerRefund db = .ok (refundId, next)) :
    next.assignments = db.assignments := by
  rcases createRefund_cases accepted with rfl | ⟨settlement, completed, _, settled⟩
  · rfl
  · exact settleRefund_assignments settled

theorem reconcileRefund_assignments {now : Instant} {refundId answerId : PaymentId}
    {providerStatus : Except ServiceError Json}
    (accepted : reconcileRefund now refundId providerStatus db = .ok (answerId, next)) :
    next.assignments = db.assignments := by
  simp only [reconcileRefund, accepted_bind, accepted_pure, Prod.mk.injEq] at accepted
  obtain ⟨_, _, _, settled, _, rfl⟩ := accepted
  exact settleRefund_assignments settled

theorem recordManualLeadPayment_assignments {now : Instant} {loaded : LoadedLead} {amount : Money}
    {method reference note : String} {paymentId : PaymentId}
    (paid : recordManualLeadPayment now loaded amount method reference note db = .ok (paymentId, next)) :
    next.assignments = db.assignments := by
  obtain ⟨entry, entered, _⟩ := recordManualLeadPayment_effect paid
  simp only [recordManualLeadPayment, entered, ok_bind, accepted_pure, Prod.mk.injEq] at paid
  obtain ⟨_, rfl⟩ := paid
  rfl

theorem step_assignments (settings : Settings) (state : System) (op : Op) (still : op.movesStaff = false) :
    (System.step settings state op).db.assignments = state.db.assignments := by
  cases op with
  | createBooking now customer request =>
      exact commit_assignments fun _ _ accepted => createBooking_assignments accepted
  | checkout now customer requests =>
      exact commit_assignments fun _ _ accepted => quiet_assignments (createBookings_quiet accepted)
  | rescheduleBooking | cancelBooking | startBooking | markTechnicianEnRoute | completeBooking | closeBooking =>
      exact job_assignments rfl rfl
  | recordBalanceCollection now bookingId amount method changedBy notes =>
      exact commit_assignments fun _ _ accepted => recordBalanceCollection_assignments accepted
  | assignTechnician | removeTechnicianAssignment => cases still
  | createAdvancePaymentOrder bookingId user key providerOrder =>
      exact commit_assignments fun _ _ accepted => createAdvancePaymentOrder_assignments accepted
  | verifyRazorpayPayment now orderId paymentId signature user =>
      exact verifyRazorpayPayment_assignments now orderId paymentId signature user state.db
  | dispatchWebhook now eventName payload => exact dispatchWebhook_assignments now eventName payload state.db
  | createRefund now sourceId amount key providerRefund =>
      exact commit_assignments fun _ _ accepted => createRefund_assignments accepted
  | reconcileRefund now refundId providerStatus =>
      exact commit_assignments fun _ _ accepted => reconcileRefund_assignments accepted
  | convertLeadToWorkOrder now lead performedBy booking notes =>
      exact convert_assignments now lead performedBy booking notes state
  | recordManualLeadPayment now lead amount method reference note =>
      refine commit_assignments fun _ next accepted => ?_
      simp only [accepted_bind, accepted_orRaise] at accepted
      obtain ⟨loaded, _, paid⟩ := accepted
      exact recordManualLeadPayment_assignments paid
  | recordLeadContact | upsertLead | addLead | editLead => exact leads_assignments rfl
  | ensureDailySlots | createSlot | saveSlot => exact slots_assignments rfl
  | loadLead | loadBooking | loadSlot | validateSlotEdit => exact loads_assignments rfl
  | editDirectory directory => rfl

end

/-! Where a row comes from. -/

def TechnicianAssignment.SameJob (old row : TechnicianAssignment) : Prop :=
  old.booking = row.booking ∧ old.technician = row.technician

def Db.assignable (db : Db) (technicianId : TechnicianId) (bookingId : BookingId) : Prop :=
  ∃ booking technician slot address, db.bookings[bookingId]? = some booking ∧
    db.directory.technicians[technicianId]? = some technician ∧ db.slots[booking.timeSlot]? = some slot ∧
    db.directory.addresses[booking.address]? = some address ∧
    getTechnicianEligibilityErrors db technician bookingId booking slot address = []

section

variable {settings : Settings} {state : System} {op : Op} {db next : Db} {assignmentId : AssignmentId}
  {row before after : TechnicianAssignment} {rows : List TechnicianAssignment} {bookingId : BookingId}
  {technician : TechnicianId}

theorem set_sameJob (found : rows[assignmentId]? = some before) {key : AssignmentId}
    (present : (rows.set assignmentId after)[key]? = some row) (same : before.SameJob after) :
    ∃ old, rows[key]? = some old ∧ old.SameJob row := by
  rcases set_cases present with ⟨rfl, rfl⟩ | elsewhere
  · exact ⟨before, found, same⟩
  · exact ⟨row, elsewhere, rfl, rfl⟩

theorem reassign_origin {now : Instant} {assignments after : AssignmentTable} {assignedBy : Option UserId}
    {notes reason : String} {answer : AssignmentId}
    (accepted : reassign now assignments bookingId technician assignedBy notes reason = .ok (answer, after))
    (found : after.rows[assignmentId]? = some row) :
    (∃ old, assignments.rows[assignmentId]? = some old ∧ old.SameJob row) ∨
      (row.booking = bookingId ∧ row.technician = technician) := by
  unfold reassign at accepted
  cases active : activeAssignment assignments bookingId with
  | none =>
      simp only [active] at accepted
      rw [insertAssignment_accepted accepted] at found
      rcases append_cases found with earlier | ⟨_, rfl⟩
      · exact .inl ⟨row, earlier, rfl, rfl⟩
      · exact .inr ⟨rfl, rfl⟩
  | some previous =>
      obtain ⟨previousId, previous⟩ := previous
      simp only [active] at accepted
      obtain ⟨foundPrevious, _⟩ := activeAssignment_some active
      by_cases same : previous.technician = technician
      · rw [if_pos same] at accepted
        split at accepted
        · simp only [accepted_bind, accepted_pure, Prod.mk.injEq] at accepted
          obtain ⟨kept, stored, _, rfl⟩ := accepted
          rw [storeAssignment_accepted stored] at found
          exact .inl (set_sameJob foundPrevious found ⟨rfl, rfl⟩)
        · simp only [Except.ok.injEq, Prod.mk.injEq] at accepted
          obtain ⟨_, rfl⟩ := accepted
          exact .inl ⟨row, found, rfl, rfl⟩
      · rw [if_neg same] at accepted
        simp only [accepted_bind] at accepted
        obtain ⟨ended, stored, inserted⟩ := accepted
        rw [insertAssignment_accepted inserted] at found
        rcases append_cases found with earlier | ⟨_, rfl⟩
        · rw [storeAssignment_accepted stored] at earlier
          exact .inl (set_sameJob foundPrevious earlier ⟨rfl, rfl⟩)
        · exact .inr ⟨rfl, rfl⟩

theorem step_origin (settings : Settings) (state : System) (op : Op)
    (found : (System.step settings state op).db.assignments.rows[assignmentId]? = some row) :
    (∃ old, state.db.assignments.rows[assignmentId]? = some old ∧ old.SameJob row) ∨
      ∃ now assignedBy notes reason, op = .assignTechnician now row.booking row.technician assignedBy notes reason ∧
        state.db.assignable row.technician row.booking := by
  by_cases still : op.movesStaff = false
  · rw [step_assignments settings state op still] at found
    exact .inl ⟨row, found, rfl, rfl⟩
  · cases op with
    | assignTechnician now bookingId technicianId assignedBy notes reason =>
        cases outcome : assignTechnician now bookingId technicianId assignedBy notes reason state.db with
        | error error =>
            simp only [System.step, System.commit, outcome, commit] at found
            exact .inl ⟨row, found, rfl, rfl⟩
        | ok committed =>
            obtain ⟨answer, next⟩ := committed
            have accepted := outcome
            simp only [System.step, System.commit, outcome, commit] at found
            simp only [assignTechnician, lockBooking, accepted_bind, accepted_pure, accepted_orRaise, accepted_require,
              Prod.mk.injEq] at accepted
            obtain ⟨booking, foundBooking, _, _, technician, foundTechnician, slot, foundSlot, address, foundAddress, _,
              eligible, ⟨_, assignments⟩, reassigned, _, written⟩ := accepted
            rw [← written] at found
            rcases reassign_origin reassigned found with old | ⟨isBooking, isTechnician⟩
            · exact .inl old
            · subst isBooking isTechnician
              exact .inr ⟨now, assignedBy, notes, reason, rfl, booking, technician, slot, address, foundBooking,
                foundTechnician, foundSlot, foundAddress, eligible⟩
    | removeTechnicianAssignment now bookingId changedBy notes =>
        left
        cases outcome : removeTechnicianAssignment now bookingId changedBy notes state.db with
        | error error =>
            simp only [System.step, System.commit, outcome, commit] at found
            exact ⟨row, found, rfl, rfl⟩
        | ok committed =>
            obtain ⟨_, next⟩ := committed
            simp only [System.step, System.commit, outcome, commit] at found
            obtain ⟨booking, endedId, ended, assignments, active, stored, written⟩ :=
              removeTechnicianAssignment_job outcome
            rw [written.assignments, storeAssignment_accepted stored] at found
            exact set_sameJob (activeAssignment_some active).1 found ⟨rfl, rfl⟩
    | _ => exact absurd rfl still

end

section

variable {field : FieldOffice} {technicianId : TechnicianId} {bookingId : BookingId} {record : TechnicianRecord}
  {booking : Booking} {slot : TimeSlot} {address : Address}

theorem LeaveRecord.status_rejected {leave : LeaveRecord} : leave.status = .rejected ↔ leave.isActive = false := by
  unfold LeaveRecord.status
  by_cases inactive : leave.isActive = false
  · simp [inactive]
  · rw [if_neg inactive]
    split <;> simp [inactive]

theorem profile_works (works : (field.profile technicianId record).worksDuring slot = true) :
    (∀ hours ∈ field.hours, hours.technician = technicianId → hours.isActive = true →
      hours.dayOfWeek ≠ weekday slot.date) ∨
    ∃ hours ∈ field.hours, hours.technician = technicianId ∧ hours.isActive = true ∧
      hours.dayOfWeek = weekday slot.date ∧ hours.startTime ≤ slot.startTime ∧ slot.endTime ≤ hours.endTime := by
  simp only [TechnicianProfile.worksDuring, FieldOffice.profile, Bool.or_eq_true, List.isEmpty_iff,
    List.filter_eq_nil_iff, List.any_eq_true, List.mem_filter, List.mem_map, Bool.and_eq_true, beq_iff_eq,
    decide_eq_true_eq] at works
  rcases works with none | ⟨_, ⟨⟨hours, ⟨member, own⟩, rfl⟩, onDay, active⟩, starts, ends⟩
  · refine .inl fun hours member own active onDay => ?_
    exact none hours.toTechnicianWorkingHours ⟨hours, ⟨member, own⟩, rfl⟩ ⟨onDay, active⟩
  · exact .inr ⟨hours, member, own, active, onDay, starts, ends⟩

theorem profile_present (present : (field.profile technicianId record).onLeaveDuring slot = false) :
    ∀ leave ∈ field.leaves, leave.technician = technicianId → leave.status ≠ .rejected →
      ¬ (leave.startAt < slot.endAt ∧ slot.startAt < leave.endAt) := by
  simp only [TechnicianProfile.onLeaveDuring, FieldOffice.profile, List.any_eq_false, List.mem_map, List.mem_filter,
    Bool.and_eq_true, beq_iff_eq, decide_eq_true_eq, gt_iff_lt] at present
  intro leave member own standing overlaps
  have active : leave.isActive = true := by
    simpa [LeaveRecord.status_rejected] using standing
  exact present leave.toTechnicianLeave ⟨leave, ⟨member, own⟩, rfl⟩ ⟨⟨active, overlaps.1⟩, overlaps.2⟩

theorem free_of_none {db : Db} {technician : TechnicianProfile}
    (free : hasOverlappingBooking db technician bookingId slot = false) (otherId : BookingId) (other : Booking)
    (found : db.bookings[otherId]? = some other) (differs : otherId ≠ bookingId) :
    other.overlaps db.slots technician.user slot = false := by
  simp only [hasOverlappingBooking, List.any_eq_false, Bool.not_eq_true] at free
  exact free other (List.mem_eraseIdx_iff_getElem?.mpr ⟨otherId, differs, found⟩)

theorem suits_of_assignable (synced : field.platform.db.directory.technicians = field.roster)
    (assignable : field.platform.db.assignable technicianId bookingId) :
    field.onDuty technicianId = true ∧ ∃ record booking slot, field.Suits technicianId bookingId record booking slot := by
  obtain ⟨booking, technician, slot, address, foundBooking, foundTechnician, foundSlot, foundAddress, eligible⟩ :=
    assignable
  rw [synced, FieldOffice.roster, List.getElem?_mapIdx, Option.map_eq_some_iff] at foundTechnician
  obtain ⟨record, foundRecord, rfl⟩ := foundTechnician
  have duty := isOnDuty_of_eligible eligible
  have unoccupied := free_of_none (eligible_free eligible)
  simp only [getTechnicianEligibilityErrors, List.append_eq_nil_iff, ite_eq_left_iff, ite_eq_right_iff,
    List.cons_ne_nil, imp_false, Decidable.not_not, Bool.not_eq_true] at eligible
  obtain ⟨⟨⟨⟨⟨⟨_, supported⟩, covered⟩, place⟩, works⟩, present⟩, _⟩ := eligible
  refine ⟨?_, record, booking, slot, foundRecord, foundBooking, foundSlot, supported, covered, ⟨address, foundAddress, ?_⟩,
    profile_works (by simpa using works), profile_present present, unoccupied⟩
  · rw [FieldOffice.onDuty, foundRecord]
    exact duty
  · by_cases noCode : address.postalCode = ""
    · exact .inl noCode
    · by_cases noPincode : record.pincode = ""
      · exact .inr (.inl noPincode)
      · refine .inr (.inr (Classical.byContradiction fun differ => place ⟨noCode, noPincode, differ⟩))

end

/-! The run. -/

section

variable {settings : FieldSettings} {start field : FieldOffice} {technicianId : TechnicianId} {record : TechnicianRecord}
  {office : StaffOffice}

theorem settled_onDuty (duty : record.settled.onDuty = true) : record.onDuty = true := by
  unfold TechnicianRecord.settled at duty
  split at duty
  · simp [TechnicianRecord.onDuty] at duty
  · exact duty

theorem updated_onDuty {action : BulkAction} (duty : (record.updated action.update).onDuty = true) :
    action = .approve := by
  cases action with
  | approve => rfl
  | reject => simp [TechnicianRecord.onDuty, TechnicianRecord.updated, BulkAction.update] at duty
  | suspend => simp [TechnicianRecord.onDuty, TechnicianRecord.updated, BulkAction.update] at duty
  | reactivate => simp [TechnicianRecord.onDuty, TechnicianRecord.updated, BulkAction.update] at duty

theorem step_admits (isEmail : String → Bool) (input : StaffInput)
    (before : office.staff[technicianId]?.any TechnicianRecord.onDuty = false)
    (after : (office.step isEmail input).staff[technicianId]?.any TechnicianRecord.onDuty = true) :
    input.admits office.staff technicianId := by
  obtain ⟨record, found, duty⟩ := (Option.any_eq_true _ _).mp after
  have notYet : office.staff[technicianId]? ≠ some record := by
    intro same
    rw [same, Option.any_some, duty] at before
    cases before
  cases input with
  | save actor target saved =>
      simp only [StaffOffice.step] at found
      split at found
      · rename_i accepted
        cases saveModel_saved accepted with
        | added clean =>
            rcases append_cases found with earlier | ⟨isLast, rfl⟩
            · exact absurd earlier notYet
            · exact ⟨isLast.symm, settled_onDuty duty⟩
        | changed foundRow clean =>
            rcases set_cases found with ⟨isTarget, rfl⟩ | elsewhere
            · exact ⟨isTarget.symm, settled_onDuty duty⟩
            · exact absurd elsewhere notYet
      · exact absurd found notYet
  | bulk actor queryset action =>
      obtain ⟨old, foundOld, rfl⟩ := updateAll_found found
      by_cases held : queryset.holds office.staff technicianId = true
      · rw [if_pos held] at duty
        simp only [Changelist.holds, Bool.and_eq_true, List.contains_iff_mem] at held
        exact ⟨updated_onDuty duty, held.1⟩
      · rw [if_neg held] at notYet
        exact absurd foundOld notYet

structure FieldOffice.SameDesk (field next : FieldOffice) : Prop where
  office : next.office = field.office
  platform : next.platform = field.platform

theorem stored_sameDesk {written : Except ServiceError FieldOffice}
    (same : ∀ next, written = .ok next → field.SameDesk next) : field.SameDesk (field.stored written) := by
  cases written with
  | error error => exact ⟨rfl, rfl⟩
  | ok next => exact same next rfl

theorem saveLeave_sameDesk {target : Option Nat} {leave : LeaveRecord} {next : FieldOffice}
    (accepted : field.saveLeave target leave = .ok next) : field.SameDesk next := by
  simp only [FieldOffice.saveLeave, accepted_bind, accepted_pure] at accepted
  obtain ⟨_, _, _, _, rfl⟩ := accepted
  exact ⟨rfl, rfl⟩

theorem handle_cases (settings : FieldSettings) (field : FieldOffice) (input : FieldInput) :
    (∃ op, input = .operation op) ∨ (∃ staff, input = .staff staff) ∨ field.SameDesk (field.handle settings input) := by
  cases input with
  | operation op => exact .inl ⟨op, rfl⟩
  | staff input => exact .inr (.inl ⟨input, rfl⟩)
  | saveHours target record =>
      refine .inr (.inr (stored_sameDesk fun next accepted => ?_))
      simp only [FieldOffice.saveHours, accepted_bind, accepted_pure] at accepted
      obtain ⟨_, _, _, _, rfl⟩ := accepted
      exact ⟨rfl, rfl⟩
  | saveLeave actor target leave =>
      exact .inr (.inr (stored_sameDesk fun next accepted => saveLeave_sameDesk accepted))
  | approveLeave actor leaveId note =>
      refine .inr (.inr (stored_sameDesk fun next accepted => ?_))
      simp only [FieldOffice.approveLeave, accepted_bind] at accepted
      obtain ⟨_, _, saved⟩ := accepted
      exact saveLeave_sameDesk saved
  | rejectLeave leaveId note =>
      refine .inr (.inr (stored_sameDesk fun next accepted => ?_))
      simp only [FieldOffice.rejectLeave, accepted_bind] at accepted
      obtain ⟨_, _, saved⟩ := accepted
      exact saveLeave_sameDesk saved

theorem admittedSince_of_onDuty (initial : start.Initial) {inputs : List FieldInput}
    (duty : (runAll (FieldOffice.step settings) start inputs).onDuty technicianId = true) :
    AdmittedSince settings start inputs technicianId := by
  rcases runAll_since (fun field : FieldOffice => field.onDuty technicianId = true) duty with
    throughout | ⟨earlier, input, later, split, notYet, since⟩
  · have atStart : start.onDuty technicianId = true := throughout [] inputs rfl
    rw [FieldOffice.onDuty, initial.office] at atStart
    simp [StaffOffice.empty] at atStart
  · have after : ((runAll (FieldOffice.step settings) start earlier).step settings input).onDuty technicianId = true := by
      simpa using since [] later rfl
    rw [Bool.not_eq_true] at notYet
    rcases handle_cases settings (runAll (FieldOffice.step settings) start earlier) input with
      ⟨op, rfl⟩ | ⟨staff, rfl⟩ | same
    · have kept : ((runAll (FieldOffice.step settings) start earlier).step settings (.operation op)).onDuty technicianId =
          (runAll (FieldOffice.step settings) start earlier).onDuty technicianId := rfl
      rw [kept, notYet] at after
      cases after
    · exact ⟨earlier, staff, later, split, step_admits settings.isEmail staff notYet after, since⟩
    · have kept : ((runAll (FieldOffice.step settings) start earlier).step settings input).office =
          (runAll (FieldOffice.step settings) start earlier).office := same.office
      rw [FieldOffice.onDuty, kept] at after
      rw [FieldOffice.onDuty, after] at notYet
      cases notYet

theorem run_synced (initial : start.Initial) (inputs : List FieldInput) :
    (runAll (FieldOffice.step settings) start inputs).platform.db.directory.technicians =
      (runAll (FieldOffice.step settings) start inputs).roster := by
  rcases List.eq_nil_or_concat inputs with rfl | ⟨earlier, last, rfl⟩
  · rw [runAll_nil, initial.technicians, FieldOffice.roster, initial.office]
    rfl
  · rw [List.concat_eq_append, runAll_append]
    rfl

end

theorem rostered_run (settings : FieldSettings) {start : FieldOffice} (initial : start.Initial)
    (inputs : List FieldInput) : ∀ row ∈ (runAll (FieldOffice.step settings) start inputs).platform.db.assignments.rows,
      Rostered settings start inputs row := by
  intro row member
  obtain ⟨assignmentId, found⟩ := List.mem_iff_getElem?.mp member
  have absent : ¬ ∃ old, start.platform.db.assignments.rows[assignmentId]? = some old ∧ old.SameJob row := by
    rintro ⟨old, present, _⟩
    rw [initial.platform.assignments] at present
    simp at present
  obtain ⟨earlier, input, later, split, notYet, old, foundOld, same⟩ := runAll_becomes
    (fun field : FieldOffice => ∃ old, field.platform.db.assignments.rows[assignmentId]? = some old ∧ old.SameJob row)
    absent ⟨row, found, rfl, rfl⟩
  rcases handle_cases settings (runAll (FieldOffice.step settings) start earlier) input with
    ⟨op, rfl⟩ | ⟨staff, rfl⟩ | unmoved
  · rcases step_origin settings.toSettings (runAll (FieldOffice.step settings) start earlier).platform op foundOld with
      ⟨older, foundOlder, sameOlder⟩ | ⟨now, assignedBy, notes, reason, rfl, assignable⟩
    · exact absurd ⟨older, foundOlder, sameOlder.1.trans same.1, sameOlder.2.trans same.2⟩ notYet
    · rw [same.1, same.2] at split assignable
      obtain ⟨duty, record, booking, slot, suits⟩ := suits_of_assignable (run_synced initial earlier) assignable
      exact ⟨earlier, now, assignedBy, notes, reason, later, record, booking, slot, split, suits,
        admittedSince_of_onDuty initial duty⟩
  · exact absurd ⟨old, foundOld, same⟩ notYet
  · have kept : ((runAll (FieldOffice.step settings) start earlier).step settings input).platform.db.assignments =
        (runAll (FieldOffice.step settings) start earlier).platform.db.assignments := by
      simp only [FieldOffice.step, FieldOffice.synced, unmoved.platform]
    rw [kept] at foundOld
    exact absurd ⟨old, foundOld, same⟩ notYet

def sampleFieldSettings : FieldSettings where
  toSettings := sampleSettings
  isEmail := fun text => text.toList.contains '@'

def emptyOffice : FieldOffice where
  platform := { sampleSystem with db := { sampleSystem.db with
    directory := { sampleDirectory with technicians := [] } } }
  office := .empty
  hours := []
  leaves := []

theorem emptyOffice_initial : emptyOffice.Initial := by
  refine ⟨?_, rfl, rfl, rfl, rfl⟩
  constructor <;> rfl

def joiningTechnician : TechnicianRecord where
  user := 2
  employeeCode := "TECH-001"
  displayName := "Ravi"
  phone := "+919000000003"
  alternatePhone := ""
  email := "ravi@example.com"
  technicianType := .employee
  employmentStatus := .active
  city := "Bengaluru"
  pincode := ""
  serviceAreas := []
  supportedServices := []
  experienceYears := ⟨35, 1⟩
  idProofType := ""
  idProofNumber := ""
  backgroundVerificationStatus := .pending
  availabilityStatus := .available
  averageRating := ⟨0, 0⟩
  completedJobCount := 0
  cancellationCount := 0
  isAvailable := true
  isActive := true

def joinedHistory : List FieldInput := [
  .staff (.save 0 none joiningTechnician),
  .staff (.bulk 0 ⟨[0], fun _ => true, by decide⟩ .approve)] ++
  paidHistory.map .operation ++ [.operation (.assignTechnician sampleNow 0 0 none "" "")]

theorem rostered_run_joinedHistory :
    (runAll (FieldOffice.step sampleFieldSettings) emptyOffice joinedHistory).platform.db.assignments.rows ≠ [] ∧
    ∀ row ∈ (runAll (FieldOffice.step sampleFieldSettings) emptyOffice joinedHistory).platform.db.assignments.rows,
      Rostered sampleFieldSettings emptyOffice joinedHistory row :=
  ⟨by decide, rostered_run sampleFieldSettings emptyOffice_initial joinedHistory⟩

end PsCore
