import PsCore.FieldChecks
import PsCore.TechniciansCore
import PsCore.Library.ApartRows
import PsCore.Library.AuditTrail
import PsCore.Library.TransitionRun

/-!
The administration of the technicians. The form takes one record through the checks of the model; the bulk
actions update the rows of a changelist past them. Both leave entries in the audit log.
-/

namespace PsCore

open Fallible RowTable ApartRows TransitionRun

inductive TechnicianType
  | employee
  | contract
  | partner
  deriving DecidableEq, Repr

inductive TechnicianEmploymentStatus
  | active
  | inactive
  | left
  deriving DecidableEq, Repr

structure TechnicianRecord where
  user : UserId
  employeeCode : String
  displayName : String
  phone : String
  alternatePhone : String
  email : String
  technicianType : TechnicianType
  employmentStatus : TechnicianEmploymentStatus
  city : String
  pincode : String
  serviceAreas : List ServiceAreaId
  supportedServices : List ServiceId
  experienceYears : GivenDecimal
  idProofType : String
  idProofNumber : String
  backgroundVerificationStatus : TechnicianVerificationStatus
  availabilityStatus : TechnicianAvailabilityStatus
  averageRating : GivenDecimal
  completedJobCount : Int
  cancellationCount : Int
  isAvailable : Bool
  isActive : Bool
  deriving DecidableEq, Repr

namespace TechnicianRecord

section

-- the check of the framework's e-mail column
variable (isEmail : String → Bool)

/-- `clean_fields`, in the order of the columns. -/
def fieldErrors (record : TechnicianRecord) : List (String × String) :=
  charFieldErrors "employee_code" 40 false record.employeeCode ++
  charFieldErrors "display_name" 150 false record.displayName ++
  charFieldErrors "phone" 16 false record.phone ++
  charFieldErrors "alternate_phone" 16 true record.alternatePhone ++
  emailFieldErrors isEmail "email" record.email ++
  charFieldErrors "city" 100 true record.city ++
  charFieldErrors "pincode" 20 true record.pincode ++
  decimalFieldErrors "experience_years" 4 1 record.experienceYears ++
  charFieldErrors "id_proof_type" 80 true record.idProofType ++
  charFieldErrors "id_proof_number" 120 true record.idProofNumber ++
  decimalFieldErrors "average_rating" 3 2 record.averageRating ++
  positiveIntegerErrors "completed_job_count" record.completedJobCount ++
  positiveIntegerErrors "cancellation_count" record.cancellationCount

def cleanErrors (record : TechnicianRecord) : List (String × String) :=
  (if record.experienceYears.isNegative then [("experience_years", "Experience cannot be negative.")] else []) ++
  (if record.averageRating.isNegative = false ∧ record.averageRating.isAtMost 5 = true then []
    else [("average_rating", "Average rating must be between 0 and 5.")]) ++
  (if record.availabilityStatus = .suspended ∧ record.isActive then
    [("availability_status", "Suspended technicians must be inactive.")] else []) ++
  (if record.backgroundVerificationStatus = .suspended ∧ record.isActive then
    [("background_verification_status", "Suspended technicians must be inactive.")] else [])

def uniqueErrors (others : List TechnicianRecord) (record : TechnicianRecord) : List (String × String) :=
  (if others.any (·.user == record.user) then
    [("user", "Technician profile with this User already exists.")] else []) ++
  (if others.any (·.employeeCode == record.employeeCode) then
    [("employee_code", "Technician profile with this Employee code already exists.")] else [])

/-- The uniqueness of a field is not looked at once the field has an error. -/
def fullCleanErrors (others : List TechnicianRecord) (record : TechnicianRecord) : List (String × String) :=
  let earlier := record.fieldErrors isEmail ++ record.cleanErrors
  earlier ++ (record.uniqueErrors others).filter fun error => earlier.all (·.1 != error.1)

def fullClean (others : List TechnicianRecord) (record : TechnicianRecord) : Except ServiceError Unit :=
  require (record.fullCleanErrors isEmail others = []) (.fieldValidation (record.fullCleanErrors isEmail others))

end

def settled (record : TechnicianRecord) : TechnicianRecord :=
  if record.availabilityStatus = .onLeave ∨ record.availabilityStatus = .suspended then
    { record with isAvailable := false }
  else record

end TechnicianRecord

def otherRecords (staff : List TechnicianRecord) : Option TechnicianId → List TechnicianRecord
  | some self => staff.eraseIdx self
  | none => staff

def saveTechnician (isEmail : String → Bool) (staff : List TechnicianRecord) (target : Option TechnicianId)
    (record : TechnicianRecord) : Except ServiceError (List TechnicianRecord) := do
  record.settled.fullClean isEmail (otherRecords staff target)
  match target with
  | some technicianId => pure (staff.set technicianId record.settled)
  | none => pure (staff ++ [record.settled])

inductive TechnicianAuditAction
  | technicianCreated
  | technicianUpdated
  | technicianVerificationChanged
  | technicianAvailabilityChanged
  deriving DecidableEq, Repr

inductive TechnicianAuditMetadata
  | saved (employeeCode : String) (verificationStatus : TechnicianVerificationStatus)
      (availabilityStatus : TechnicianAvailabilityStatus)
      (fromVerificationStatus : Option TechnicianVerificationStatus)
      (fromAvailabilityStatus : Option TechnicianAvailabilityStatus)
  | bulk (bulkAction : String)
  deriving DecidableEq, Repr

structure TechnicianAudit where
  action : TechnicianAuditAction
  actor : UserId
  technician : TechnicianId
  metadata : TechnicianAuditMetadata
  deriving DecidableEq, Repr

structure StaffOffice where
  staff : List TechnicianRecord
  trail : List TechnicianAudit

/-- The entry of `save_model`. A change of the availability is told only where the verification stays. -/
def savedAudit (actor : UserId) (technicianId : TechnicianId) (previous : Option TechnicianRecord)
    (record : TechnicianRecord) : TechnicianAudit :=
  let fromVerification := (previous.map TechnicianRecord.backgroundVerificationStatus).filter
    (· != record.backgroundVerificationStatus)
  let fromAvailability := (previous.map TechnicianRecord.availabilityStatus).filter (· != record.availabilityStatus)
  let metadata := TechnicianAuditMetadata.saved record.employeeCode record.backgroundVerificationStatus
    record.availabilityStatus
  match fromVerification, fromAvailability with
  | some verification, _ => ⟨.technicianVerificationChanged, actor, technicianId, metadata (some verification) none⟩
  | none, some availability => ⟨.technicianAvailabilityChanged, actor, technicianId, metadata none (some availability)⟩
  | none, none =>
      ⟨if previous.isSome then .technicianUpdated else .technicianCreated, actor, technicianId, metadata none none⟩

/-- `TechnicianProfileAdmin.save_model`; without a target it adds. -/
def saveModel (isEmail : String → Bool) (actor : UserId) (target : Option TechnicianId) (record : TechnicianRecord)
    (office : StaffOffice) : Except ServiceError StaffOffice := do
  let previous ← match target with
    | some technicianId => (orRaise office.staff[technicianId]? (.doesNotExist "TechnicianProfile")).map some
    | none => pure none
  record.fullClean isEmail (otherRecords office.staff target)
  let staff ← saveTechnician isEmail office.staff target record
  let technicianId := target.getD office.staff.length
  pure { staff := staff, trail := office.trail ++ [savedAudit actor technicianId previous record] }

structure StatusUpdate where
  verification : Option TechnicianVerificationStatus
  availability : Option TechnicianAvailabilityStatus
  active : Option Bool
  available : Option Bool
  label : String

inductive BulkAction
  | approve
  | reject
  | suspend
  | reactivate
  deriving DecidableEq, Repr

def BulkAction.update : BulkAction → StatusUpdate
  | .approve => ⟨some .verified, some .available, some true, some true, "approved"⟩
  | .reject => ⟨some .rejected, none, some false, some false, "rejected"⟩
  | .suspend => ⟨some .suspended, some .suspended, some false, some false, "suspended"⟩
  | .reactivate => ⟨some .underReview, some .offline, some true, some false, "reactivated"⟩

def TechnicianRecord.updated (update : StatusUpdate) (record : TechnicianRecord) : TechnicianRecord :=
  { record with
    backgroundVerificationStatus := update.verification.getD record.backgroundVerificationStatus
    availabilityStatus := update.availability.getD record.availabilityStatus
    isActive := update.active.getD record.isActive
    isAvailable := update.available.getD record.isAvailable }

/-- The chosen rows, under the filters of the list that they were chosen from. -/
structure Changelist where
  selected : List TechnicianId
  filters : TechnicianRecord → Bool
  distinct : selected.Nodup

def Changelist.holds (queryset : Changelist) (staff : List TechnicianRecord) (technicianId : TechnicianId) : Bool :=
  queryset.selected.contains technicianId && staff[technicianId]?.any queryset.filters

def bulkAudit (actor : UserId) (update : StatusUpdate) (technicianId : TechnicianId) : TechnicianAudit where
  action := if update.verification.isSome then .technicianVerificationChanged else .technicianAvailabilityChanged
  actor := actor
  technician := technicianId
  metadata := .bulk update.label

def updateAll (queryset : Changelist) (update : StatusUpdate) (staff : List TechnicianRecord) : List TechnicianRecord :=
  staff.mapIdx fun technicianId record =>
    if queryset.holds staff technicianId then record.updated update else record

/-- `_set_status`. The rows to audit are asked for after the update, under the filters again. -/
def setStatus (actor : UserId) (queryset : Changelist) (update : StatusUpdate) (office : StaffOffice) : StaffOffice :=
  let staff := updateAll queryset update office.staff
  { staff := staff
    trail := office.trail ++ (queryset.selected.filter (queryset.holds staff)).map (bulkAudit actor update) }

inductive StaffInput
  | save (actor : UserId) (target : Option TechnicianId) (record : TechnicianRecord)
  | bulk (actor : UserId) (queryset : Changelist) (action : BulkAction)

namespace StaffOffice

def empty : StaffOffice := ⟨[], []⟩

def step (isEmail : String → Bool) (office : StaffOffice) : StaffInput → StaffOffice
  | .save actor target record =>
      match saveModel isEmail actor target record office with
      | .ok next => next
      | .error _ => office
  | .bulk actor queryset action => setStatus actor queryset action.update office

end StaffOffice

/-! Every record of every run is one that the model would let in. -/

structure TechnicianRecord.Valid (isEmail : String → Bool) (record : TechnicianRecord) : Prop where
  fields : record.fieldErrors isEmail = []
  experience : record.experienceYears.isNegative = false
  rating : record.averageRating.isNegative = false ∧ record.averageRating.isAtMost 5 = true
  suspended : record.availabilityStatus = .suspended ∨ record.backgroundVerificationStatus = .suspended →
    record.isActive = false
  away : record.availabilityStatus = .onLeave ∨ record.availabilityStatus = .suspended → record.isAvailable = false

def TechnicianRecord.Apart (first second : TechnicianRecord) : Prop :=
  first.user ≠ second.user ∧ first.employeeCode ≠ second.employeeCode

structure StaffSound (isEmail : String → Bool) (staff : List TechnicianRecord) : Prop where
  valid : ∀ record ∈ staff, record.Valid isEmail
  apart : AllApart TechnicianRecord.Apart staff

section

variable {isEmail : String → Bool} {office next : StaffOffice} {actor : UserId} {target : Option TechnicianId}
  {record : TechnicianRecord} {staff others : List TechnicianRecord} {technicianId : TechnicianId} {action : BulkAction}
  {queryset : Changelist}

theorem TechnicianRecord.Apart.symm (first second : TechnicianRecord) (apart : first.Apart second) :
    second.Apart first :=
  ⟨apart.1.symm, apart.2.symm⟩

theorem cleanErrors_iff : record.cleanErrors = [] ↔ record.experienceYears.isNegative = false ∧
    (record.averageRating.isNegative = false ∧ record.averageRating.isAtMost 5 = true) ∧
    (record.availabilityStatus = .suspended ∨ record.backgroundVerificationStatus = .suspended →
      record.isActive = false) := by
  simp only [TechnicianRecord.cleanErrors, List.append_eq_nil_iff, ite_eq_right_iff, ite_eq_left_iff,
    List.cons_ne_nil, imp_false, Decidable.not_not, Bool.eq_false_iff]
  constructor
  · rintro ⟨⟨⟨experience, rating⟩, byAvailability⟩, byVerification⟩
    refine ⟨experience, rating, fun suspended active => ?_⟩
    rcases suspended with away | refused
    · exact byAvailability ⟨away, active⟩
    · exact byVerification ⟨refused, active⟩
  · rintro ⟨experience, rating, suspended⟩
    exact ⟨⟨⟨experience, rating⟩, fun both => suspended (.inl both.1) both.2⟩,
      fun both => suspended (.inr both.1) both.2⟩

theorem uniqueErrors_nil (clean : record.uniqueErrors others = []) : ∀ other ∈ others, record.Apart other := by
  simp only [TechnicianRecord.uniqueErrors, List.append_eq_nil_iff, ite_eq_right_iff, List.cons_ne_nil, imp_false,
    List.any_eq_true, beq_iff_eq, not_exists, not_and] at clean
  intro other member
  exact ⟨fun same => clean.1 other member same.symm, fun same => clean.2 other member same.symm⟩

theorem fullClean_parts (clean : record.fullCleanErrors isEmail others = []) :
    record.fieldErrors isEmail = [] ∧ record.cleanErrors = [] ∧ record.uniqueErrors others = [] := by
  simp only [TechnicianRecord.fullCleanErrors, List.append_eq_nil_iff] at clean
  obtain ⟨⟨fields, cleaned⟩, unique⟩ := clean
  refine ⟨fields, cleaned, ?_⟩
  simpa [fields, cleaned, List.filter_eq_nil_iff, List.eq_nil_iff_forall_not_mem] using unique

theorem settled_away : record.settled.availabilityStatus = .onLeave ∨ record.settled.availabilityStatus = .suspended →
    record.settled.isAvailable = false := by
  intro away
  unfold TechnicianRecord.settled at away ⊢
  split
  · rfl
  · rename_i present
    rw [if_neg present] at away
    exact absurd away present

theorem settled_valid (clean : record.settled.fullCleanErrors isEmail others = []) : record.settled.Valid isEmail := by
  obtain ⟨fields, cleaned, _⟩ := fullClean_parts clean
  obtain ⟨experience, rating, suspended⟩ := cleanErrors_iff.mp cleaned
  exact ⟨fields, experience, rating, suspended, settled_away⟩

inductive Saved (isEmail : String → Bool) (actor : UserId) (record : TechnicianRecord) (office : StaffOffice) :
    Option TechnicianId → StaffOffice → Prop
  | added (clean : record.settled.fullCleanErrors isEmail office.staff = []) :
      Saved isEmail actor record office none {
        staff := office.staff ++ [record.settled]
        trail := office.trail ++ [savedAudit actor office.staff.length none record] }
  | changed {technicianId : TechnicianId} {before : TechnicianRecord}
      (found : office.staff[technicianId]? = some before)
      (clean : record.settled.fullCleanErrors isEmail (office.staff.eraseIdx technicianId) = []) :
      Saved isEmail actor record office (some technicianId) {
        staff := office.staff.set technicianId record.settled
        trail := office.trail ++ [savedAudit actor technicianId (some before) record] }

theorem saveModel_saved (accepted : saveModel isEmail actor target record office = .ok next) :
    Saved isEmail actor record office target next := by
  cases target with
  | none =>
      simp only [saveModel, saveTechnician, TechnicianRecord.fullClean, accepted_bind, accepted_pure, accepted_require,
        Option.getD_none] at accepted
      obtain ⟨previous, isNone, _, _, staff, ⟨_, clean, written⟩, rfl⟩ := accepted
      subst isNone written
      exact .added clean
  | some technicianId =>
      simp only [saveModel, saveTechnician, TechnicianRecord.fullClean, accepted_bind, accepted_pure, accepted_require,
        Option.getD_some] at accepted
      obtain ⟨previous, looked, _, _, staff, ⟨_, clean, written⟩, rfl⟩ := accepted
      subst written
      cases found : office.staff[technicianId]? with
      | none =>
          rw [found] at looked
          cases looked
      | some before =>
          rw [found] at looked
          cases looked
          exact .changed found clean

theorem Saved.sound (saved : Saved isEmail actor record office target next) (sound : StaffSound isEmail office.staff) :
    StaffSound isEmail next.staff := by
  cases saved with
  | added clean =>
      refine ⟨List.forall_mem_append.mpr ⟨sound.valid, List.forall_mem_singleton.mpr (settled_valid clean)⟩, ?_⟩
      exact sound.apart.append TechnicianRecord.Apart.symm (uniqueErrors_nil (fullClean_parts clean).2.2)
  | changed found clean =>
      refine ⟨fun other member => ?_, ?_⟩
      · rcases List.mem_or_eq_of_mem_set member with old | rfl
        · exact sound.valid other old
        · exact settled_valid clean
      · exact sound.apart.set TechnicianRecord.Apart.symm (uniqueErrors_nil (fullClean_parts clean).2.2)

theorem updated_valid (valid : record.Valid isEmail) (action : BulkAction) :
    (record.updated action.update).Valid isEmail := by
  have same : (record.updated action.update).fieldErrors isEmail = record.fieldErrors isEmail := by
    cases action <;> rfl
  refine ⟨same.trans valid.fields, valid.experience, valid.rating, fun suspended => ?_, fun away => ?_⟩
  · cases action with
    | approve => rcases suspended with impossible | impossible <;> cases impossible
    | reject => rfl
    | suspend => rfl
    | reactivate => rcases suspended with impossible | impossible <;> cases impossible
  · cases action with
    | approve => rcases away with impossible | impossible <;> cases impossible
    | reject => rfl
    | suspend => rfl
    | reactivate => rfl

theorem updateAll_getElem? (queryset : Changelist) (update : StatusUpdate) (staff : List TechnicianRecord)
    (technicianId : TechnicianId) : (updateAll queryset update staff)[technicianId]? =
      staff[technicianId]?.map fun record =>
        if queryset.holds staff technicianId then record.updated update else record := by
  simp only [updateAll, List.getElem?_mapIdx]

theorem updateAll_found {update : StatusUpdate} {after : TechnicianRecord}
    (found : (updateAll queryset update staff)[technicianId]? = some after) :
    ∃ before, staff[technicianId]? = some before ∧
      after = if queryset.holds staff technicianId then before.updated update else before := by
  rw [updateAll_getElem?, Option.map_eq_some_iff] at found
  obtain ⟨before, present, rfl⟩ := found
  exact ⟨before, present, rfl⟩

theorem setStatus_sound (sound : StaffSound isEmail office.staff) (action : BulkAction) :
    StaffSound isEmail (setStatus actor queryset action.update office).staff where
  valid := fun after member => by
    obtain ⟨technicianId, found⟩ := List.mem_iff_getElem?.mp member
    obtain ⟨before, present, rfl⟩ := updateAll_found found
    have valid := sound.valid before (List.mem_of_getElem? present)
    split
    · exact updated_valid valid action
    · exact valid
  apart := by
    refine sound.apart.updated fun technicianId after found => ?_
    obtain ⟨before, present, rfl⟩ := updateAll_found found
    refine ⟨before, present, fun other apart => ?_, fun other apart => ?_⟩ <;> split <;> exact apart

theorem StaffSound.step (sound : StaffSound isEmail office.staff) (input : StaffInput) :
    StaffSound isEmail (office.step isEmail input).staff := by
  cases input with
  | save actor target record =>
      simp only [StaffOffice.step]
      split
      · rename_i accepted
        exact (saveModel_saved accepted).sound sound
      · exact sound
  | bulk actor queryset action => exact setStatus_sound sound action

end

/-- The bulk actions go past the checks, and leave no record that the checks would refuse. -/
theorem staffSound_run (isEmail : String → Bool) (inputs : List StaffInput) :
    StaffSound isEmail (runAll (StaffOffice.step isEmail) .empty inputs).staff := by
  have preserved : ∀ (office : StaffOffice) (input : StaffInput), StaffSound isEmail office.staff → True →
      StaffSound isEmail (office.step isEmail input).staff := fun _ input sound _ => sound.step input
  have initially : StaffSound isEmail StaffOffice.empty.staff := ⟨by simp [StaffOffice.empty], .nil⟩
  exact (Guarded.always (fun _ _ => trivial) StaffOffice.empty inputs).invariant preserved initially

/-! The audit log tells of the two statuses. -/

def TechnicianRecord.statuses (record : TechnicianRecord) :
    TechnicianVerificationStatus × TechnicianAvailabilityStatus :=
  (record.backgroundVerificationStatus, record.availabilityStatus)

def StatusUpdate.statuses (update : StatusUpdate)
    (known : TechnicianVerificationStatus × TechnicianAvailabilityStatus) :
    TechnicianVerificationStatus × TechnicianAvailabilityStatus :=
  (update.verification.getD known.1, update.availability.getD known.2)

def bulkActionNamed (label : String) : Option BulkAction :=
  [BulkAction.approve, .reject, .suspend, .reactivate].find? (·.update.label == label)

def TechnicianAudit.reads (known : Option (TechnicianVerificationStatus × TechnicianAvailabilityStatus))
    (entry : TechnicianAudit) : Option (TechnicianVerificationStatus × TechnicianAvailabilityStatus) :=
  match entry.metadata with
  | .saved _ verification availability _ _ => some (verification, availability)
  | .bulk label => (bulkActionNamed label).bind fun action => known.map action.update.statuses

def technicianTrail : AuditTrail TechnicianRecord TechnicianAudit
    (Option (TechnicianVerificationStatus × TechnicianAvailabilityStatus))
    (TechnicianVerificationStatus × TechnicianAvailabilityStatus) where
  subject := TechnicianAudit.technician
  unread := none
  reads := TechnicianAudit.reads
  concludes := id
  fact := TechnicianRecord.statuses

def StaffOffice.Told (office : StaffOffice) : Prop :=
  technicianTrail.Tells office.staff office.trail

/-- The rows that a bulk action changes still pass the filters of the list afterwards. -/
def StaffInput.recorded (office : StaffOffice) : StaffInput → Prop
  | .save .. => True
  | .bulk _ queryset action => ∀ (technicianId : TechnicianId) (record : TechnicianRecord),
      office.staff[technicianId]? = some record → queryset.holds office.staff technicianId = true →
      queryset.filters (record.updated action.update) = true ∨ (record.updated action.update).statuses = record.statuses

section

variable {isEmail : String → Bool} {office next : StaffOffice} {actor : UserId} {target : Option TechnicianId}
  {previous : Option TechnicianRecord} {record : TechnicianRecord} {staff : List TechnicianRecord}
  {technicianId : TechnicianId} {queryset : Changelist}

theorem bulkActionNamed_label (action : BulkAction) : bulkActionNamed action.update.label = some action := by
  cases action <;> decide

theorem savedAudit_subject (actor : UserId) (technicianId : TechnicianId) (previous : Option TechnicianRecord)
    (record : TechnicianRecord) :
    technicianTrail.subject (savedAudit actor technicianId previous record) = technicianId := by
  change (savedAudit actor technicianId previous record).technician = technicianId
  unfold savedAudit
  dsimp only
  split <;> rfl

theorem savedAudit_metadata (actor : UserId) (technicianId : TechnicianId) (previous : Option TechnicianRecord)
    (record : TechnicianRecord) : ∃ fromVerification fromAvailability,
      (savedAudit actor technicianId previous record).metadata = .saved record.employeeCode
        record.backgroundVerificationStatus record.availabilityStatus fromVerification fromAvailability := by
  unfold savedAudit
  dsimp only
  split <;> exact ⟨_, _, rfl⟩

theorem savedAudit_reads (actor : UserId) (technicianId : TechnicianId) (previous : Option TechnicianRecord)
    (record : TechnicianRecord) (known : Option (TechnicianVerificationStatus × TechnicianAvailabilityStatus)) :
    technicianTrail.concludes (technicianTrail.reads known (savedAudit actor technicianId previous record)) =
      some (technicianTrail.fact record.settled) := by
  have settled : record.settled.statuses = record.statuses := by
    unfold TechnicianRecord.settled
    split <;> rfl
  obtain ⟨fromVerification, fromAvailability, metadata⟩ := savedAudit_metadata actor technicianId previous record
  change TechnicianAudit.reads known _ = some record.settled.statuses
  rw [settled, TechnicianAudit.reads, metadata]
  rfl

theorem bulkAudit_reads (actor : UserId) (technicianId : TechnicianId) (action : BulkAction)
    (known : TechnicianVerificationStatus × TechnicianAvailabilityStatus) :
    technicianTrail.reads (some known) (bulkAudit actor action.update technicianId) =
      some (action.update.statuses known) := by
  change (bulkAudit actor action.update technicianId).reads (some known) = _
  simp only [TechnicianAudit.reads, bulkAudit, bulkActionNamed_label, Option.bind_some, Option.map_some]

theorem Saved.told (saved : Saved isEmail actor record office target next) (told : office.Told) : next.Told := by
  cases saved with
  | added clean => exact AuditTrail.Tells.created told (savedAudit_subject ..) (savedAudit_reads ..)
  | changed found clean => exact AuditTrail.Tells.set told found (savedAudit_subject ..) (savedAudit_reads ..)

theorem readOn_bulk (action : BulkAction)
    (known : TechnicianVerificationStatus × TechnicianAvailabilityStatus) :
    technicianTrail.readOn (some known)
      ((queryset.selected.filter (queryset.holds staff)).map (bulkAudit actor action.update)) technicianId =
        some (if queryset.holds staff technicianId then action.update.statuses known else known) := by
  split
  · rename_i held
    have chosen : technicianId ∈ queryset.selected := by
      simp only [Changelist.holds, Bool.and_eq_true, List.contains_iff_mem] at held
      exact held.1
    have member : bulkAudit actor action.update technicianId ∈
        (queryset.selected.filter (queryset.holds staff)).map (bulkAudit actor action.update) :=
      List.mem_map_of_mem (List.mem_filter.mpr ⟨chosen, held⟩)
    have distinct : (((queryset.selected.filter (queryset.holds staff)).map (bulkAudit actor action.update)).map
        technicianTrail.subject).Nodup := by
      rw [List.map_map]
      have subjects : technicianTrail.subject ∘ bulkAudit actor action.update = id := rfl
      rw [subjects, List.map_id]
      exact queryset.distinct.filter _
    exact (AuditTrail.readOn_distinct distinct member).trans (bulkAudit_reads actor technicianId action known)
  · rename_i free
    refine AuditTrail.readOn_others fun entry member own => ?_
    obtain ⟨other, listed, rfl⟩ := List.mem_map.mp member
    have same : other = technicianId := own
    rw [same] at listed
    exact free (List.mem_filter.mp listed).2

theorem setStatus_told (told : office.Told) (actor : UserId) (queryset : Changelist) (action : BulkAction) :
    (setStatus actor queryset action.update office).Told ↔ StaffInput.recorded office (.bulk actor queryset action) := by
  have sameLength : (updateAll queryset action.update office.staff).length = office.staff.length := by
    simp [updateAll]
  have about : ∀ entry ∈ (queryset.selected.filter
      (queryset.holds (updateAll queryset action.update office.staff))).map (bulkAudit actor action.update),
      technicianTrail.subject entry < office.staff.length := by
    intro entry member
    obtain ⟨other, listed, rfl⟩ := List.mem_map.mp member
    have held := (List.mem_filter.mp listed).2
    simp only [Changelist.holds, Bool.and_eq_true, Option.any_eq_true] at held
    obtain ⟨_, row, found, _⟩ := held
    exact sameLength ▸ (List.getElem?_eq_some_iff.mp found).1
  refine (AuditTrail.Tells.rewritten_iff told sameLength about).trans ?_
  -- a row that was not updated is not audited either, so that only the updated ones count
  constructor
  · intro recorded key before found held
    have foundAfter : (updateAll queryset action.update office.staff)[key]? = some (before.updated action.update) := by
      rw [updateAll_getElem?, found, Option.map_some, if_pos held]
    have reads := recorded key before _ found foundAfter
    have known : technicianTrail.told office.trail key = some before.statuses := told.facts key before found
    rw [known, readOn_bulk] at reads
    replace reads := Option.some.inj reads
    by_cases audited : queryset.holds (updateAll queryset action.update office.staff) key = true
    · simp only [Changelist.holds, foundAfter, Option.any_some, Bool.and_eq_true] at audited
      exact .inl audited.2
    · rw [if_neg audited] at reads
      exact .inr reads.symm
  · intro recorded key before after found foundAfter
    obtain ⟨same, foundSame, isAfter⟩ := updateAll_found foundAfter
    rw [found, Option.some.injEq] at foundSame
    subst foundSame
    have known : technicianTrail.told office.trail key = some before.statuses := told.facts key before found
    rw [known, readOn_bulk]
    refine congrArg some ?_
    by_cases held : queryset.holds office.staff key = true
    · rw [if_pos held] at isAfter
      subst isAfter
      split
      · rfl
      · rename_i unaudited
        rcases recorded key before found held with passes | unchanged
        · simp only [Changelist.holds, Bool.and_eq_true] at held
          simp only [Changelist.holds, foundAfter, Option.any_some, held.1, passes] at unaudited
          exact absurd rfl unaudited
        · exact unchanged.symm
    · rw [if_neg held] at isAfter
      subst isAfter
      have unaudited : queryset.holds (updateAll queryset action.update office.staff) key = false := by
        simpa [Changelist.holds, foundAfter, found] using held
      rw [unaudited]
      rfl

theorem StaffOffice.Told.step (told : office.Told) (input : StaffInput) :
    (office.step isEmail input).Told ↔ input.recorded office := by
  cases input with
  | save actor target record =>
      refine iff_of_true ?_ trivial
      simp only [StaffOffice.step]
      split
      · rename_i accepted
        exact (saveModel_saved accepted).told told
      · exact told
  | bulk actor queryset action => exact setStatus_told told actor queryset action

end

/-- The statuses of every technician can be read off his part of the audit log all along a run, exactly when no
bulk action takes a row out of the list that it was chosen from by a change of its statuses. -/
theorem staffTrail_run (isEmail : String → Bool) (inputs : List StaffInput) :
    Guarded (StaffOffice.step isEmail) StaffInput.recorded .empty inputs ↔
      ∀ before after, inputs = before ++ after → (runAll (StaffOffice.step isEmail) .empty before).Told := by
  have preserved : ∀ (office : StaffOffice) (input : StaffInput), office.Told → input.recorded office →
      (office.step isEmail input).Told := fun _ input told recorded => (told.step input).mpr recorded
  have broken : ∀ (office : StaffOffice) (input : StaffInput), office.Told → ¬ input.recorded office →
      ¬ (office.step isEmail input).Told := fun _ input told unrecorded next => unrecorded ((told.step input).mp next)
  exact Guarded.iff_throughout (fun _ told => told) preserved broken .empty

end PsCore
