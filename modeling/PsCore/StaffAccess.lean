import PsCore.SuperAdmins
import PsCore.Library.UpperCase

/-!
What the administration lets an employee do. Belonging to no group means unrestricted access,
and an update looks for groups only where it names some: a change of role alone can leave an
administrator without any.
-/

namespace PsCore.Auth

open Fallible RowTable TransitionRun

inductive StaffOperation
  | create (requester : UserId) (attrs : StaffCreate)
  | update (update : StaffUpdate)
  deriving DecidableEq, Repr

def StaffOperation.steps : StaffOperation → List StaffStep
  | .create requester attrs => [.create requester attrs]
  | .update named => [.validate named, .save named]

def StaffSystem.operate (state : StaffSystem) (operation : StaffOperation) : StaffSystem :=
  runAll StaffSystem.step state operation.steps

/-- No groups are named, or one that does not exist is among them. -/
def StaffAttrs.storesNoGroups (state : StaffSystem) (attrs : StaffAttrs) : Bool :=
  attrs.groupIds.all fun groupIds => groupIds.any fun groupId => !state.groups.contains groupId

/-- Somebody on the staff who belongs to no group is made an administrator, and gets no group with it. -/
def StaffOperation.unrestricts (state : StaffSystem) : StaffOperation → Bool
  | .create _ _ => false
  | .update named =>
      (state.users[named.requester]?).any StaffUser.isSuperAdmin && named.requester != named.target &&
      (state.users[named.target]?).any (fun row => row.isStaff && row.groups.isEmpty) &&
      named.attrs.role == some .admin && named.attrs.storesNoGroups state

structure Grouped (state : StaffSystem) : Prop where
  idle : state.updates = []
  grouped : ∀ user ∈ state.users, user.role = .admin → user.groups ≠ []

section

variable {state : StaffSystem} {update : StaffUpdate}

theorem authorize_ok {requester : UserId} :
    state.authorize requester = .ok () ↔ (state.users[requester]?).any StaffUser.isSuperAdmin = true := by
  simp only [StaffSystem.authorize, accepted_bind, accepted_orRaise, accepted_require, Option.any_eq_true,
    StaffUser.isSuperAdmin, Bool.and_eq_true, beq_iff_eq]
  constructor
  · rintro ⟨user, found, _, isActive, role, isStaff⟩
    exact ⟨user, found, ⟨role, isActive⟩, isStaff⟩
  · rintro ⟨user, found, ⟨role, isActive⟩, isStaff⟩
    exact ⟨user, found, (), isActive, role, isStaff⟩

theorem validate_ok : state.validate update = .ok () ↔
    (state.users[update.requester]?).any StaffUser.isSuperAdmin = true ∧
      ∃ row, state.users[update.target]? = some row ∧ row.isStaff = true ∧
        update.attrs.validate update.requester update.target row = .ok () := by
  simp only [StaffSystem.validate, accepted_bind, accepted_orRaise, accepted_require]
  constructor
  · rintro ⟨_, authorized, row, found, _, isStaff, valid⟩
    exact ⟨authorize_ok.mp authorized, row, found, isStaff, valid⟩
  · rintro ⟨authorized, row, found, isStaff, valid⟩
    exact ⟨(), authorize_ok.mpr authorized, row, found, (), isStaff, valid⟩

theorem validate_named {requester targetId : UserId} {row : StaffUser} {attrs : StaffAttrs}
    (valid : attrs.validate requester targetId row = .ok ()) :
    ¬(attrs.role.getD row.role = .admin ∧ attrs.groupIds = some []) := by
  unfold StaffAttrs.validate at valid
  split at valid
  · simp only [accepted_bind, accepted_require] at valid
    exact valid.choose_spec.2.choose_spec.2.choose_spec.2
  · simpa only [accepted_require] using valid

theorem operate_update (update : StaffUpdate) (idle : state.updates = []) :
    (state.validate update ≠ .ok () ∧ state.operate (.update update) = state) ∨
      (state.validate update = .ok () ∧ state.operate (.update update) =
        { state with users := state.users.modify update.target (state.saved update) }) := by
  simp only [StaffSystem.operate, StaffOperation.steps, runAll_cons, runAll_nil]
  cases validated : state.validate update with
  | error reason =>
      left
      constructor
      · rintro ⟨⟩
      · simp [StaffSystem.step, validated, idle]
  | ok done =>
      right
      constructor
      · rfl
      · have waits : state.step (.validate update) = { state with updates := update :: state.updates } := by
          simp [StaffSystem.step, validated]
        have member : update ∈ update :: state.updates := List.mem_cons_self
        rw [waits, StaffSystem.step, if_pos member, List.erase_cons_head]
        rfl

theorem create_grouped {requester : UserId} {attrs : StaffCreate} {user : StaffUser}
    (created : state.create requester attrs = .ok user) (isAdmin : user.role = .admin) : user.groups ≠ [] := by
  simp only [StaffSystem.create, accepted_bind, accepted_require, accepted_pure] at created
  obtain ⟨_, _, _, _, _, _, _, named, _, _, rfl⟩ := created
  intro none
  exact named ⟨isAdmin, none⟩

theorem saved_role (row : StaffUser) : (state.saved update row).role = update.attrs.role.getD row.role := by
  unfold StaffSystem.saved
  split
  · split
    · rfl
    · rfl
  · rfl

theorem saved_groups (state : StaffSystem) (update : StaffUpdate) (row : StaffUser) :
    (∃ groupIds, update.attrs.groupIds = some groupIds ∧ (∀ groupId ∈ groupIds, groupId ∈ state.groups) ∧
      (state.saved update row).groups = groupIds) ∨
    (update.attrs.storesNoGroups state = true ∧ (state.saved update row).groups = row.groups) := by
  unfold StaffSystem.saved StaffAttrs.storesNoGroups
  cases named : update.attrs.groupIds with
  | none => exact .inr ⟨rfl, rfl⟩
  | some groupIds =>
      simp only
      split
      · rename_i exist
        exact .inl ⟨groupIds, rfl, exist, rfl⟩
      · rename_i missing
        refine .inr ⟨?_, rfl⟩
        simpa using missing

theorem modified_mem {users : List StaffUser} {target : UserId} {write : StaffUser → StaffUser} {user : StaffUser}
    (member : user ∈ users.modify target write) :
    user ∈ users ∨ ∃ row, users[target]? = some row ∧ user = write row := by
  obtain ⟨place, found⟩ := List.mem_iff_getElem?.mp member
  rw [List.getElem?_modify, Option.map_eq_map, Option.map_eq_some_iff] at found
  obtain ⟨row, before, isUser⟩ := found
  split at isUser
  · rename_i isTarget
    exact .inr ⟨row, isTarget ▸ before, isUser.symm⟩
  · exact .inl (isUser ▸ List.mem_of_getElem? before)

theorem Grouped.operate (grouped : Grouped state) {operation : StaffOperation}
    (restricts : operation.unrestricts state = false) : Grouped (state.operate operation) := by
  cases operation with
  | create requester attrs =>
      simp only [StaffSystem.operate, StaffOperation.steps, runAll_cons, runAll_nil, StaffSystem.step]
      split
      · rename_i user created
        refine ⟨grouped.idle, fun other member isAdmin => ?_⟩
        rcases List.mem_append.mp member with earlier | new
        · exact grouped.grouped other earlier isAdmin
        · rw [List.mem_singleton.mp new] at isAdmin ⊢
          exact create_grouped created isAdmin
      · exact grouped
  | update named =>
      rcases operate_update named grouped.idle with ⟨_, same⟩ | ⟨accepted, isNext⟩
      · rw [same]
        exact grouped
      rw [isNext]
      refine ⟨grouped.idle, fun user member isAdmin => ?_⟩
      rcases modified_mem member with earlier | ⟨row, found, rfl⟩
      · exact grouped.grouped user earlier isAdmin
      obtain ⟨authorized, target, isTarget, isStaff, valid⟩ := validate_ok.mp accepted
      obtain rfl : target = row := Option.some.inj (isTarget.symm.trans found)
      have looked := validate_named valid
      rw [saved_role] at isAdmin
      rcases saved_groups state named target with ⟨groupIds, given, _, stored⟩ | ⟨ungiven, kept⟩
      · rw [stored]
        rintro rfl
        exact looked ⟨isAdmin, given⟩
      · rw [kept]
        intro none
        cases role : named.attrs.role with
        | none =>
            rw [role, Option.getD_none] at isAdmin
            exact grouped.grouped target (List.mem_of_getElem? found) isAdmin none
        | some newRole =>
            rw [role, Option.getD_some] at isAdmin
            subst isAdmin
            -- his own role an administrator cannot take away
            have other : named.requester ≠ named.target := by
              intro own
              rw [own] at valid
              have keeps := validate_own valid
              simp [StaffAttrs.removes, role] at keeps
            simp [StaffOperation.unrestricts, authorized, other, found, isStaff, none, role, ungiven] at restricts

end

end PsCore.Auth
