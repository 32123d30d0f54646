import PsCore.AuthCore
import PsCore.Library.TransitionRun

/-!
Staff accounts. A super administrator cannot take his own access away; whether anybody else keeps his is not looked
at, and an update is saved after its requester and its target were read.
-/

namespace PsCore.Auth

open Fallible RowTable TransitionRun

abbrev GroupId := Nat

def UserRole.text : UserRole → String
  | .customer => "CUSTOMER"
  | .technician => "TECHNICIAN"
  | .admin => "ADMIN"
  | .superAdmin => "SUPER_ADMIN"

structure StaffUser where
  phoneNumber : String
  email : Option String
  firstName : String
  lastName : String
  role : UserRole
  isVerified : Bool
  isActive : Bool
  isStaff : Bool
  groups : List GroupId
  deriving DecidableEq, Repr

def StaffUser.isSuperAdmin (user : StaffUser) : Bool :=
  user.role == .superAdmin && user.isActive && user.isStaff

structure StaffCreate where
  phoneNumber : String
  email : Option String
  firstName : String
  lastName : String
  role : UserRole
  groupIds : List GroupId
  deriving DecidableEq, Repr

structure StaffAttrs where
  email : Option (Option String)
  firstName : Option String
  lastName : Option String
  role : Option UserRole
  isVerified : Option Bool
  isActive : Option Bool
  isStaff : Option Bool
  groupIds : Option (List GroupId)
  deriving DecidableEq, Repr

/-- `AdminStaffUpdateSerializer.validate`, on the target as it was read. -/
def StaffAttrs.validate (requester targetId : UserId) (target : StaffUser) (attrs : StaffAttrs) :
    Except AuthError Unit := do
  if requester = targetId then
    require (attrs.role.getD target.role = .superAdmin)
      (.fieldValidation "role" "You cannot remove your own super administrator role.")
    require (attrs.isActive.getD target.isActive = true)
      (.fieldValidation "is_active" "You cannot deactivate your own account.")
    require (attrs.isStaff.getD target.isStaff = true)
      (.fieldValidation "is_staff" "You cannot remove your own staff access.")
  require (¬(attrs.role.getD target.role = .admin ∧ attrs.groupIds = some []))
    (.fieldValidation "group_ids" "Select at least one employee access profile.")

def StaffAttrs.save (attrs : StaffAttrs) (row : StaffUser) : StaffUser := { row with
  email := attrs.email.getD row.email
  firstName := attrs.firstName.getD row.firstName
  lastName := attrs.lastName.getD row.lastName
  role := attrs.role.getD row.role
  isVerified := attrs.isVerified.getD row.isVerified
  isActive := attrs.isActive.getD row.isActive
  isStaff := attrs.isStaff.getD row.isStaff }

structure StaffUpdate where
  requester : UserId
  target : UserId
  attrs : StaffAttrs
  deriving DecidableEq, Repr

structure StaffSystem where
  users : List StaffUser
  groups : List GroupId
  updates : List StaffUpdate

inductive StaffStep
  | create (requester : UserId) (attrs : StaffCreate)
  | validate (update : StaffUpdate)
  | save (update : StaffUpdate)

namespace StaffSystem

/-- Authentication and `IsSuperAdminRole`, for requesters that are staff. -/
def authorize (state : StaffSystem) (requester : UserId) : Except AuthError Unit := do
  let user ← orRaise state.users[requester]? (.authenticationFailed "User not found")
  require (user.isActive = true) (.authenticationFailed "User is inactive")
  require (user.role = .superAdmin ∧ user.isStaff = true)
    (.permissionDenied "You do not have permission to perform this action.")

def create (state : StaffSystem) (requester : UserId) (attrs : StaffCreate) : Except AuthError StaffUser := do
  state.authorize requester
  require (attrs.role = .admin ∨ attrs.role = .superAdmin)
    (.fieldValidation "role" ("\"" ++ attrs.role.text ++ "\" is not a valid choice."))
  attrs.groupIds.forM fun groupId => require (groupId ∈ state.groups)
    (.fieldValidation "group_ids" ("Invalid pk \"" ++ toString groupId ++ "\" - object does not exist."))
  require (¬(attrs.role = .admin ∧ attrs.groupIds = []))
    (.fieldValidation "group_ids" "Select at least one employee access profile.")
  require (∀ user ∈ state.users, user.phoneNumber ≠ attrs.phoneNumber) (.integrity "User")
  pure {
    phoneNumber := attrs.phoneNumber
    email := attrs.email
    firstName := attrs.firstName
    lastName := attrs.lastName
    role := attrs.role
    isVerified := true
    isActive := true
    isStaff := true
    groups := attrs.groupIds }

def validate (state : StaffSystem) (update : StaffUpdate) : Except AuthError Unit := do
  state.authorize update.requester
  let target ← orRaise state.users[update.target]? (.doesNotExist "User")
  require (target.isStaff = true) (.doesNotExist "User")
  update.attrs.validate update.requester update.target target

/-- The columns are written first; group names that do not exist are refused after that. -/
def saved (state : StaffSystem) (update : StaffUpdate) (row : StaffUser) : StaffUser :=
  let written := update.attrs.save row
  match update.attrs.groupIds with
  | some groupIds =>
      if ∀ groupId ∈ groupIds, groupId ∈ state.groups then { written with groups := groupIds } else written
  | none => written

def step (state : StaffSystem) : StaffStep → StaffSystem
  | .create requester attrs => match state.create requester attrs with
      | .ok user => { state with users := state.users ++ [user] }
      | .error _ => state
  | .validate update => match state.validate update with
      | .ok () => { state with updates := update :: state.updates }
      | .error _ => state
  | .save update =>
      if update ∈ state.updates then {
        users := state.users.modify update.target (state.saved update)
        groups := state.groups
        updates := state.updates.erase update }
      else state

end StaffSystem

def StaffAttrs.removes (attrs : StaffAttrs) : Bool :=
  attrs.role.any (· != .superAdmin) || attrs.isActive == some false || attrs.isStaff == some false

/-- Access is taken away by somebody who has lost his own since his request was validated. -/
def StaffStep.outdated (state : StaffSystem) : StaffStep → Bool
  | .save update => update ∈ state.updates && update.attrs.removes &&
      !(state.users[update.requester]?).any StaffUser.isSuperAdmin
  | _ => false

def HasSuperAdmin (state : StaffSystem) : Prop :=
  ∃ (userId : UserId) (user : StaffUser), state.users[userId]? = some user ∧ user.isSuperAdmin = true

/-- Nobody's pending update takes his own access away. -/
structure Administered (state : StaffSystem) : Prop where
  present : HasSuperAdmin state
  others : ∀ update ∈ state.updates, update.attrs.removes = true → update.requester ≠ update.target

section

variable {state : StaffSystem} {update : StaffUpdate}

theorem validate_own {requester : UserId} {target : StaffUser} {attrs : StaffAttrs}
    (accepted : attrs.validate requester requester target = .ok ()) : attrs.removes = false := by
  simp only [StaffAttrs.validate, ↓reduceIte, accepted_bind, accepted_require] at accepted
  obtain ⟨_, role, _, isActive, _, isStaff, _⟩ := accepted
  simp only [StaffAttrs.removes, Bool.or_eq_false_iff]
  refine ⟨⟨?_, ?_⟩, ?_⟩
  · cases given : attrs.role with
    | none => rfl
    | some value =>
        rw [given, Option.getD_some] at role
        simp [role]
  · cases given : attrs.isActive with
    | none => rfl
    | some value =>
        rw [given, Option.getD_some] at isActive
        simp [isActive]
  · cases given : attrs.isStaff with
    | none => rfl
    | some value =>
        rw [given, Option.getD_some] at isStaff
        simp [isStaff]

theorem validate_others (accepted : state.validate update = .ok ()) (removes : update.attrs.removes = true) :
    update.requester ≠ update.target := by
  intro own
  simp only [StaffSystem.validate, accepted_bind, accepted_orRaise, accepted_require] at accepted
  obtain ⟨_, _, target, _, _, _, validated⟩ := accepted
  rw [← own] at validated
  rw [validate_own validated] at removes
  cases removes

theorem saved_isSuperAdmin {row : StaffUser} (keeps : update.attrs.removes = false)
    (isSuperAdmin : row.isSuperAdmin = true) : (state.saved update row).isSuperAdmin = true := by
  simp only [StaffAttrs.removes, Bool.or_eq_false_iff] at keeps
  obtain ⟨⟨role, isActive⟩, isStaff⟩ := keeps
  simp only [StaffUser.isSuperAdmin, Bool.and_eq_true, beq_iff_eq] at isSuperAdmin
  have written : (update.attrs.save row).isSuperAdmin = true := by
    simp only [StaffUser.isSuperAdmin, StaffAttrs.save, Bool.and_eq_true, beq_iff_eq]
    refine ⟨⟨?_, ?_⟩, ?_⟩
    · cases given : update.attrs.role with
      | none => exact isSuperAdmin.1.1
      | some value => simpa [given] using role
    · cases given : update.attrs.isActive with
      | none => exact isSuperAdmin.1.2
      | some value => simpa [given] using isActive
    · cases given : update.attrs.isStaff with
      | none => exact isSuperAdmin.2
      | some value => simpa [given] using isStaff
  unfold StaffSystem.saved
  cases update.attrs.groupIds with
  | none => exact written
  | some groupIds =>
      simp only
      split
      · exact written
      · exact written

theorem Administered.step (administered : Administered state) (step : StaffStep)
    (current : step.outdated state = false) : Administered (state.step step) := by
  obtain ⟨userId, user, found, isSuperAdmin⟩ := administered.present
  cases step with
  | create requester attrs =>
      simp only [StaffSystem.step]
      split
      · refine ⟨⟨userId, user, ?_, isSuperAdmin⟩, administered.others⟩
        rw [List.getElem?_append_left (List.getElem?_eq_some_iff.mp found).1]
        exact found
      · exact administered
  | validate update =>
      simp only [StaffSystem.step]
      split
      · rename_i accepted
        refine ⟨administered.present, fun other member removes => ?_⟩
        rcases List.mem_cons.mp member with rfl | waiting
        · exact validate_others accepted removes
        · exact administered.others other waiting removes
      · exact administered
  | save update =>
      simp only [StaffSystem.step]
      split
      · rename_i waiting
        refine ⟨?_, fun other member => administered.others other (List.mem_of_mem_erase member)⟩
        cases removes : update.attrs.removes with
        | false =>
            refine ⟨userId, if update.target = userId then state.saved update user else user, ?_, ?_⟩
            · rw [List.getElem?_modify, found]
              rfl
            · split
              · exact saved_isSuperAdmin removes isSuperAdmin
              · exact isSuperAdmin
        | true =>
            -- the requester still has his access, and keeps it
            simp only [StaffStep.outdated, decide_eq_true waiting, removes, Bool.true_and, Bool.not_eq_false',
              Option.any_eq_true] at current
            obtain ⟨requester, foundRequester, keepsAccess⟩ := current
            refine ⟨update.requester, requester, ?_, keepsAccess⟩
            rw [List.getElem?_modify, foundRequester, Option.map_eq_map, Option.map_some,
              if_neg (administered.others update waiting removes).symm]
      · exact administered

end

/-- There is a super administrator all along every run in which nobody's access is taken away by a requester who has
lost his own. -/
theorem superAdmin_run {start : StaffSystem} {steps : List StaffStep} (initially : HasSuperAdmin start)
    (idle : start.updates = [])
    (current : Guarded StaffSystem.step (fun state step => step.outdated state = false) start steps) :
    ∀ before after, steps = before ++ after → HasSuperAdmin (runAll StaffSystem.step start before) := by
  intro before after split
  have administeredAtStart : Administered start := by
    refine ⟨initially, fun update member => ?_⟩
    rw [idle] at member
    cases member
  have administered : Administered (runAll StaffSystem.step start before) :=
    (current.upTo split).invariant (fun _ step administered current => administered.step step current)
      administeredAtStart
  exact administered.present

def sampleSuperAdmin (phoneNumber : String) : StaffUser where
  phoneNumber := phoneNumber
  email := none
  firstName := ""
  lastName := ""
  role := .superAdmin
  isVerified := true
  isActive := true
  isStaff := true
  groups := []

def twoSuperAdmins : StaffSystem where
  users := [sampleSuperAdmin "+919630000001", sampleSuperAdmin "+919630000002"]
  groups := [0]
  updates := []

def deactivation (requester target : UserId) : StaffUpdate where
  requester := requester
  target := target
  attrs := {
    email := none
    firstName := none
    lastName := none
    role := none
    isVerified := none
    isActive := some false
    isStaff := none
    groupIds := none }

def oneAfterTheOther : List StaffStep := [
  .validate (deactivation 0 1),
  .save (deactivation 0 1),
  .validate (deactivation 1 0),
  .save (deactivation 1 0)]

theorem superAdmin_run_oneAfterTheOther :
    HasSuperAdmin (runAll StaffSystem.step twoSuperAdmins oneAfterTheOther) :=
  superAdmin_run ⟨0, _, rfl, rfl⟩ rfl (by decide) oneAfterTheOther [] rfl

def eachOther : List StaffStep := [
  .validate (deactivation 0 1),
  .validate (deactivation 1 0),
  .save (deactivation 0 1),
  .save (deactivation 1 0)]

theorem no_superAdmin_left : HasSuperAdmin twoSuperAdmins ∧
    ¬ HasSuperAdmin (runAll StaffSystem.step twoSuperAdmins eachOther) := by
  refine ⟨⟨0, _, rfl, rfl⟩, ?_⟩
  rintro ⟨userId, user, found, isSuperAdmin⟩
  have none : (runAll StaffSystem.step twoSuperAdmins eachOther).users.all (fun user => !user.isSuperAdmin) = true := by
    decide
  have isNone := List.all_eq_true.mp none user (List.mem_of_getElem? found)
  rw [isSuperAdmin] at isNone
  cases isNone

end PsCore.Auth
