import PsCore.AuthCore
import PsCore.StaffedJobs

/-!
A technician works on his own jobs. The view looks his booking up among those assigned to him, without a lock;
the service locks the row later and does not look at who asks.
-/

namespace PsCore

open Fallible TransitionRun

inductive JobOperation
  | enRoute
  | start
  | complete
  deriving DecidableEq, Repr

structure JobRequest where
  technician : UserId
  role : Auth.UserRole
  bookingId : BookingId
  operation : JobOperation
  notes : String
  deriving DecidableEq, Repr

/-- `TechnicianJobViewSet.get_object`, over the technician's own queryset. -/
def JobRequest.getObject (request : JobRequest) (db : Db) : Except ServiceError Booking := do
  let booking ← orRaise db.bookings[request.bookingId]? (.doesNotExist "Booking")
  require (booking.assignedTechnician = some request.technician) (.doesNotExist "Booking")
  pure booking

def JobRequest.operate (settings : Settings) (now : Instant) (request : JobRequest) (db : Db) :
    Except ServiceError (Unit × Db) :=
  match request.operation with
  | .enRoute => markTechnicianEnRoute request.bookingId (some request.technician) request.notes db
  | .start => startBooking request.bookingId (some request.technician) request.notes db
  | .complete => completeBooking settings now request.bookingId (some request.technician) request.notes db

/-- The requests are those that have found their booking and not yet called the service. -/
structure JobSystem where
  db : Db
  requests : List JobRequest

inductive FieldStep
  | assign (now : Instant) (bookingId : BookingId) (technicianId : TechnicianId) (assignedBy : Option UserId)
      (notes reason : String)
  | removeAssignment (now : Instant) (bookingId : BookingId) (changedBy : Option UserId) (notes : String)
  | getObject (request : JobRequest)
  | operate (now : Instant) (request : JobRequest)

namespace JobSystem

def step (settings : Settings) (state : JobSystem) : FieldStep → JobSystem
  | .assign now bookingId technicianId assignedBy notes reason => { state with
      db := (commit state.db (assignTechnician now bookingId technicianId assignedBy notes reason state.db)).2 }
  | .removeAssignment now bookingId changedBy notes => { state with
      db := (commit state.db (removeTechnicianAssignment now bookingId changedBy notes state.db)).2 }
  | .getObject request =>
      if request.role = .technician ∧ (request.getObject state.db).isOk = true then
        { state with requests := request :: state.requests }
      else state
  | .operate now request =>
      if request ∈ state.requests then {
        db := (commit state.db (request.operate settings now state.db)).2
        requests := state.requests.erase request }
      else state

end JobSystem

/-- A job is given to somebody else while a request of its technician waits for its lock. -/
def FieldStep.overtakes (state : JobSystem) : FieldStep → Bool
  | .assign _ bookingId technicianId _ _ _ =>
      match state.db.bookings[bookingId]?, state.db.directory.technicians[technicianId]? with
      | some booking, some technician => assignableStatuses.contains booking.bookingStatus &&
          state.requests.any fun request =>
            request.bookingId == bookingId && request.technician != technician.user
      | _, _ => false
  | _ => false

/-- What a request of a technician changes is his own job when the change is committed. -/
def OwnJobs (settings : Settings) (start : JobSystem) (steps : List FieldStep) : Prop :=
  ∀ earlier now request later, steps = earlier ++ .operate now request :: later → ∀ bookingId : BookingId,
    (runAll (JobSystem.step settings) start (earlier ++ [.operate now request])).db.bookings[bookingId]? ≠
      (runAll (JobSystem.step settings) start earlier).db.bookings[bookingId]? →
    ∃ booking, (runAll (JobSystem.step settings) start (earlier ++ [.operate now request])).db.bookings[bookingId]? =
      some booking ∧ booking.assignedTechnician = some request.technician

/-! Who is assigned while requests wait. -/

def JobRequest.Waits (db : Db) (request : JobRequest) : Prop :=
  ∃ booking, db.bookings[request.bookingId]? = some booking ∧
    ∀ technician, booking.assignedTechnician = some technician → technician = request.technician

def AssignedStaffed (booking : Booking) : Prop :=
  booking.bookingStatus = .technicianAssigned → booking.assignedTechnician ≠ none

structure Attended (state : JobSystem) : Prop where
  waits : ∀ request ∈ state.requests, request.Waits state.db
  staffed : EveryBooking AssignedStaffed state.db

section

variable {settings : Settings} {db next : Db} {now : Instant} {bookingId : BookingId} {notes : String}

theorem assignedStaffed_made : RoutinelyMade AssignedStaffed where
  fresh := fun booking fresh assigned => by
    rw [fresh.bookingStatus] at assigned
    cases assigned
  workOrder := fun _ _ _ _ assigned => by cases assigned

theorem AssignedStaffed.rewritten {effect : Effect} {before after : Booking}
    (rewrites : effect.Rewrites bookingId before after) (staffed : AssignedStaffed before) : AssignedStaffed after := by
  have technician := rewrites.place.2.2
  intro assigned
  rw [technician]
  refine staffed ?_
  cases rewrites with
  | confirmation now changedBy locked payments => cases assigned
  | failure locked payments =>
      unfold Booking.markedFailed at assigned
      split at assigned
      · cases assigned
      · exact assigned
  | refund settlement =>
      unfold Booking.afterRefund at assigned
      split at assigned
      · cases assigned
      · split at assigned
        · cases assigned
        · split at assigned
          · cases isCancelled : settlement.booking.cancelledAt <;> simp [isCancelled] at assigned
          · exact assigned
  | workOrder => cases assigned
  | manualPayment amount entry => exact assigned
  | balance _ _ amount payments => exact assigned

theorem withoutTechnician_assigned (status : BookingStatus) : status.withoutTechnician ≠ .technicianAssigned := by
  cases status <;> simp [BookingStatus.withoutTechnician]

theorem AssignedStaffed.jobStep {before after : Booking} (step : JobStep before after) : AssignedStaffed after := by
  intro assigned
  cases step <;> cases assigned

/-- On the platform a booking that is TECHNICIAN_ASSIGNED has a technician. -/
theorem assignedStaffed_platform {start : System} (initial : start.Initial) (history : List Op) :
    EveryBooking AssignedStaffed (runAll (System.step settings) start history).db := by
  refine leaves_invariant (EveryBooking AssignedStaffed)
    (fun state op next holds _ leaves => ?_) (guarded_true settings start history) ?_
  · refine leaves.everyBooking assignedStaffed_made (fun bookingId before after written found staffed => ?_) holds
    cases written with
    | jobStep step => exact .jobStep step
    | moved now slotId changedBy notes slot isOp from_ foundSlot => exact staffed
    | assigned technician slot from_ foundSlot free => exact fun _ => Option.some_ne_none _
    | removed now changedBy notes isOp => exact fun assigned => (withoutTechnician_assigned _ assigned).elim
    | effective effect isEffect rewrites => exact staffed.rewritten rewrites
  · intro booking member
    rw [initial.bookings] at member
    cases member

theorem operate_accepted {request : JobRequest} (accepted : request.operate settings now db = .ok ((), next)) :
    ∃ before after, JobStep before after ∧ db.bookings[request.bookingId]? = some before ∧
      next.bookings = db.bookings.set request.bookingId after ∧
      (before.bookingStatus = .technicianAssigned ∨ before.assignedTechnician ≠ none) := by
  unfold JobRequest.operate at accepted
  cases operation : request.operation with
  | enRoute =>
      rw [operation] at accepted
      obtain ⟨booking, from_, written⟩ := markTechnicianEnRoute_job accepted
      exact ⟨booking, _, .enRoute from_, written.found, written.bookings, .inl from_⟩
  | start =>
      rw [operation] at accepted
      obtain ⟨booking, from_, staffed, written⟩ := startBooking_job accepted
      exact ⟨booking, _, .start from_ staffed, written.found, written.bookings, .inr staffed⟩
  | complete =>
      rw [operation] at accepted
      obtain ⟨booking, from_, staffed, _, written⟩ := completeBooking_job accepted
      exact ⟨booking, _, .complete now from_ staffed, written.found, written.bookings, .inr staffed⟩

theorem getObject_accepted {request : JobRequest} {booking : Booking}
    (accepted : request.getObject db = .ok booking) :
    db.bookings[request.bookingId]? = some booking ∧ booking.assignedTechnician = some request.technician := by
  simp only [JobRequest.getObject, accepted_bind, accepted_orRaise, accepted_require, accepted_pure] at accepted
  obtain ⟨_, found, _, own, rfl⟩ := accepted
  exact ⟨found, own⟩

theorem JobRequest.Waits.set {request : JobRequest} {before after : Booking} (waits : request.Waits db)
    (found : db.bookings[bookingId]? = some before) (bookings : next.bookings = db.bookings.set bookingId after)
    (own : request.bookingId = bookingId → ∀ technician, after.assignedTechnician = some technician →
      before.assignedTechnician = some technician ∨ technician = request.technician) : request.Waits next := by
  obtain ⟨booking, foundOwn, technicianOwn⟩ := waits
  unfold JobRequest.Waits
  rw [bookings]
  by_cases same : request.bookingId = bookingId
  · rw [same, found, Option.some.injEq] at foundOwn
    subst foundOwn
    refine ⟨after, ?_, fun technician assigned => ?_⟩
    · rw [same, List.getElem?_set_self (List.getElem?_eq_some_iff.mp found).1]
    · rcases own same technician assigned with already | isRequester
      · exact technicianOwn technician already
      · exact isRequester
  · refine ⟨booking, ?_, technicianOwn⟩
    rw [List.getElem?_set_ne (Ne.symm same)]
    exact foundOwn

theorem Attended.step {state : JobSystem} (attended : Attended state) (step : FieldStep)
    (inTime : step.overtakes state = false) : Attended (JobSystem.step settings state step) := by
  cases step with
  | getObject request =>
      simp only [JobSystem.step]
      split
      · rename_i accepted
        obtain ⟨booking, isRead⟩ := isOk_iff.mp accepted.2
        obtain ⟨found, own⟩ := getObject_accepted isRead
        refine ⟨fun other member => ?_, attended.staffed⟩
        rcases List.mem_cons.mp member with rfl | waiting
        · exact ⟨booking, found, fun technician assigned => Option.some.inj (assigned.symm.trans own)⟩
        · exact attended.waits other waiting
      · exact attended
  | operate now request =>
      simp only [JobSystem.step]
      split
      · cases outcome : request.operate settings now state.db with
        | error error =>
            exact ⟨fun other member => attended.waits other (List.mem_of_mem_erase member), attended.staffed⟩
        | ok result =>
            obtain ⟨before, after, jobStep, found, bookings, _⟩ := operate_accepted outcome
            constructor
            · intro other member
              refine (attended.waits other (List.mem_of_mem_erase member)).set found bookings ?_
              intro _ technician assigned
              exact .inl (jobStep.assignedTechnician ▸ assigned)
            · exact attended.staffed.rewrite found bookings fun _ => .jobStep jobStep
      · exact attended
  | assign now bookingId technicianId assignedBy notes reason =>
      simp only [JobSystem.step]
      cases outcome : assignTechnician now bookingId technicianId assignedBy notes reason state.db with
      | error error => exact attended
      | ok result =>
          obtain ⟨booking, technician, slot, address, assignments, from_, foundTechnician, _, _, _, written⟩ :=
            assignTechnician_job outcome
          constructor
          · intro request member
            refine (attended.waits request member).set written.found written.bookings fun same other assigned => .inr ?_
            simp only [FieldStep.overtakes, written.found, foundTechnician, from_, Bool.true_and, List.any_eq_false,
              Bool.and_eq_true, beq_iff_eq, bne_iff_ne, ne_eq, not_and,
              Decidable.not_not] at inTime
            rw [inTime request member same]
            exact (Option.some.inj assigned).symm
          · exact attended.staffed.rewrite written.found written.bookings fun _ _ => Option.some_ne_none _
  | removeAssignment now bookingId changedBy notes =>
      simp only [JobSystem.step]
      cases outcome : removeTechnicianAssignment now bookingId changedBy notes state.db with
      | error error => exact attended
      | ok result =>
          obtain ⟨booking, assignmentId, assignment, assignments, _, _, written⟩ :=
            removeTechnicianAssignment_job outcome
          constructor
          · intro request member
            exact (attended.waits request member).set written.found written.bookings fun _ _ assigned => by
              cases assigned
          · exact attended.staffed.rewrite written.found written.bookings fun _ assigned =>
              (withoutTechnician_assigned _ assigned).elim

theorem Attended.operate {state : JobSystem} {request : JobRequest} (attended : Attended state)
    (changed : (JobSystem.step settings state (.operate now request)).db.bookings[bookingId]? ≠
      state.db.bookings[bookingId]?) :
    ∃ booking, (JobSystem.step settings state (.operate now request)).db.bookings[bookingId]? = some booking ∧
      booking.assignedTechnician = some request.technician := by
  simp only [JobSystem.step] at changed ⊢
  split at changed
  · rename_i waiting
    rw [if_pos waiting]
    cases outcome : request.operate settings now state.db with
    | error error =>
        rw [outcome] at changed
        exact absurd rfl changed
    | ok result =>
        obtain ⟨before, after, jobStep, found, bookings, ready⟩ := operate_accepted outcome
        simp only [outcome, commit] at changed ⊢
        rw [bookings] at changed ⊢
        by_cases same : request.bookingId = bookingId
        · subst same
          refine ⟨after, List.getElem?_set_self (List.getElem?_eq_some_iff.mp found).1, ?_⟩
          have staffed : before.assignedTechnician ≠ none := by
            rcases ready with assigned | staffed
            · exact attended.staffed before (List.mem_of_getElem? found) assigned
            · exact staffed
          obtain ⟨technician, assigned⟩ := Option.ne_none_iff_exists'.mp staffed
          obtain ⟨booking, foundAgain, own⟩ := attended.waits request waiting
          rw [found, Option.some.injEq] at foundAgain
          subst foundAgain
          rw [jobStep.assignedTechnician, assigned, own technician assigned]
        · rw [List.getElem?_set_ne same] at changed
          exact absurd rfl changed
  · exact absurd rfl changed

end

/-- Every technician changes only his own jobs, in every run in which no job is given to somebody else while a request
of its technician waits. -/
theorem ownJobs_run {settings : Settings} {start : System} (initial : start.Initial) (history : List Op)
    (steps : List FieldStep)
    (inTime : Guarded (JobSystem.step settings) (fun state step => step.overtakes state = false)
      ⟨(runAll (System.step settings) start history).db, []⟩ steps) :
    OwnJobs settings ⟨(runAll (System.step settings) start history).db, []⟩ steps := by
  have attendedAtStart : Attended ⟨(runAll (System.step settings) start history).db, []⟩ :=
    { waits := fun request member => by cases member
      staffed := assignedStaffed_platform initial history }
  intro earlier now request later split bookingId changed
  have attended : Attended (runAll (JobSystem.step settings) _ earlier) :=
    (inTime.upTo split).invariant (fun state step attended inTime => attended.step step inTime) attendedAtStart
  rw [runAll_append] at changed ⊢
  exact attended.operate changed

def staffedHistory : List Op := paidHistory ++ [
  .assignTechnician sampleNow 0 0 none "" "",
  .editDirectory { sampleDirectory with
    technicians := sampleDirectory.technicians ++
      sampleDirectory.technicians.map (fun technician => { technician with user := 1 }) }]

def staffedStart : JobSystem := ⟨(runAll (System.step sampleSettings) sampleSystem staffedHistory).db, []⟩

def sampleJobRequest (operation : JobOperation) : JobRequest where
  technician := 2
  role := .technician
  bookingId := 0
  operation := operation
  notes := ""

def undisturbedJob : List FieldStep := [
  .getObject (sampleJobRequest .enRoute),
  .assign sampleNow 0 0 none "Ring twice." "",
  .operate sampleNow (sampleJobRequest .enRoute),
  .getObject (sampleJobRequest .start),
  .operate sampleNow (sampleJobRequest .start)]

theorem ownJobs_run_undisturbed : OwnJobs sampleSettings staffedStart undisturbedJob :=
  ownJobs_run sampleSystem_initial staffedHistory undisturbedJob (by decide +kernel)

def overtakenJob : List FieldStep := [
  .getObject (sampleJobRequest .enRoute),
  .assign sampleNow 0 1 none "" "",
  .operate sampleNow (sampleJobRequest .enRoute)]

theorem anothers_job_changed : ¬ OwnJobs sampleSettings staffedStart overtakenJob := by
  intro own
  have after : ((runAll (JobSystem.step sampleSettings) staffedStart overtakenJob).db.bookings[0]?).map
      (·.assignedTechnician) = some (some 1) := by decide +kernel
  obtain ⟨booking, found, isOwn⟩ := own (overtakenJob.take 2) sampleNow (sampleJobRequest .enRoute) [] rfl 0
    (by decide +kernel)
  rw [show overtakenJob.take 2 ++ [.operate sampleNow (sampleJobRequest .enRoute)] = overtakenJob from rfl] at found
  rw [found, Option.map_some, isOwn, Option.some.injEq, Option.some.injEq] at after
  exact absurd after (by decide)

end PsCore
