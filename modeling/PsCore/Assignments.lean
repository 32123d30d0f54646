import PsCore.Records

/-!
The assignment behind a technician. Who serves a booking is written twice: on the booking as
a user, and as a row that names his profile and stays open until he is taken off.
-/

namespace PsCore

open Fallible RowTable Relation TransitionRun

def TechnicianAssignment.isActiveOf (bookingId : BookingId) (assignment : TechnicianAssignment) : Bool :=
  assignment.booking == bookingId && assignment.unassignedAt.isNone

theorem TechnicianAssignment.isActiveOf_booking {bookingId : BookingId} {assignment : TechnicianAssignment}
    (active : assignment.isActiveOf bookingId = true) : assignment.booking = bookingId := by
  simp only [isActiveOf, Bool.and_eq_true, beq_iff_eq] at active
  exact active.1

theorem TechnicianAssignment.isActiveOf_ended (bookingId : BookingId) {assignment : TechnicianAssignment}
    {now : Instant} (ended : assignment.unassignedAt = some now) : assignment.isActiveOf bookingId = false := by
  simp [isActiveOf, ended]

theorem activeAssignment_some {assignments : AssignmentTable} {bookingId : BookingId} {assignmentId : AssignmentId}
    {assignment : TechnicianAssignment}
    (active : activeAssignment assignments bookingId = some (assignmentId, assignment)) :
    assignments.rows[assignmentId]? = some assignment ∧ assignment.isActiveOf bookingId = true :=
  bestRow_some active

theorem activeAssignment_none {assignments : AssignmentTable} {bookingId : BookingId}
    (none : activeAssignment assignments bookingId = none) :
    ∀ assignment ∈ assignments.rows, assignment.isActiveOf bookingId = false :=
  bestRow_none.mp none

theorem active_unique (assignments : AssignmentTable) {bookingId : BookingId} {first second : AssignmentId}
    {left right : TechnicianAssignment} (atFirst : assignments.rows[first]? = some left)
    (atSecond : assignments.rows[second]? = some right) (activeLeft : left.isActiveOf bookingId = true)
    (activeRight : right.isActiveOf bookingId = true) : first = second := by
  refine Classical.byContradiction fun differ => ?_
  have symmetric : ∀ one other : TechnicianAssignment, one.clashes other = true → other.clashes one = true := by
    intro one other clash
    simp only [TechnicianAssignment.clashes, Bool.and_eq_true, beq_iff_eq] at clash ⊢
    exact ⟨⟨clash.1.1.symm, clash.2⟩, clash.1.2⟩
  refine assignments.apart symmetric atFirst atSecond differ ?_
  simp only [TechnicianAssignment.isActiveOf, Bool.and_eq_true, beq_iff_eq] at activeLeft activeRight
  simp [TechnicianAssignment.clashes, activeLeft.1, activeLeft.2, activeRight.1, activeRight.2]

structure OthersKept (bookingId : BookingId) (rows next : List TechnicianAssignment) : Prop where
  others : ∀ (assignment : TechnicianAssignment) (other : BookingId), other ≠ bookingId →
    assignment.isActiveOf other = true → (assignment ∈ next ↔ assignment ∈ rows)
  known : ∀ assignment ∈ next, assignment.booking = bookingId ∨ ∃ row ∈ rows, row.booking = assignment.booking

section

variable {bookingId : BookingId} {rows middle next : List TechnicianAssignment}

theorem OthersKept.refl (bookingId : BookingId) (rows : List TechnicianAssignment) : OthersKept bookingId rows rows where
  others := fun _ _ _ _ => Iff.rfl
  known := fun assignment member => .inr ⟨assignment, member, rfl⟩

theorem OthersKept.trans (first : OthersKept bookingId rows middle) (later : OthersKept bookingId middle next) :
    OthersKept bookingId rows next where
  others := fun assignment other differ active =>
    (later.others assignment other differ active).trans (first.others assignment other differ active)
  known := fun assignment member => by
    rcases later.known assignment member with own | ⟨row, inMiddle, sameLater⟩
    · exact .inl own
    · rcases first.known row inMiddle with own | ⟨earlier, inRows, sameFirst⟩
      · exact .inl (sameLater.symm.trans own)
      · exact .inr ⟨earlier, inRows, sameFirst.trans sameLater⟩

theorem OthersKept.append {assignment : TechnicianAssignment} (own : assignment.booking = bookingId) :
    OthersKept bookingId rows (rows ++ [assignment]) where
  others := fun row other differ active => by
    have isOther := TechnicianAssignment.isActiveOf_booking active
    rw [List.mem_append, List.mem_singleton]
    constructor
    · rintro (old | new)
      · exact old
      · rw [new, own] at isOther
        exact (differ isOther.symm).elim
    · exact .inl
  known := fun row member => by
    rw [List.mem_append, List.mem_singleton] at member
    rcases member with old | new
    · exact .inr ⟨row, old, rfl⟩
    · exact .inl (new ▸ own)

theorem OthersKept.set {assignmentId : AssignmentId} {before after : TechnicianAssignment}
    (found : rows[assignmentId]? = some before) (ownBefore : before.booking = bookingId)
    (ownAfter : after.booking = bookingId) : OthersKept bookingId rows (rows.set assignmentId after) where
  others := fun row other differ active => by
    have isOther := TechnicianAssignment.isActiveOf_booking active
    constructor
    · intro member
      rcases List.mem_or_eq_of_mem_set member with old | new
      · exact old
      · rw [new, ownAfter] at isOther
        exact (differ isOther.symm).elim
    · intro member
      obtain ⟨position, atPosition⟩ := List.mem_iff_getElem?.mp member
      have elsewhere : assignmentId ≠ position := by
        intro same
        rw [← same, found, Option.some.injEq] at atPosition
        rw [← atPosition, ownBefore] at isOther
        exact differ isOther.symm
      refine List.mem_iff_getElem?.mpr ⟨position, ?_⟩
      rw [List.getElem?_set_ne elsewhere]
      exact atPosition
  known := fun row member => by
    rcases List.mem_or_eq_of_mem_set member with old | new
    · exact .inr ⟨row, old, rfl⟩
    · exact .inl (new ▸ ownAfter)

end

theorem rows_ended {assignments : AssignmentTable} {bookingId : BookingId} {assignmentId : AssignmentId}
    {assignment ended : TechnicianAssignment} {next : List TechnicianAssignment} {now : Instant}
    (active : activeAssignment assignments bookingId = some (assignmentId, assignment))
    (written : next = assignments.rows.set assignmentId ended)
    (booking : ended.booking = assignment.booking) (unassignedAt : ended.unassignedAt = some now) :
    OthersKept bookingId assignments.rows next ∧ ∀ row ∈ next, row.isActiveOf bookingId = false := by
  subst written
  obtain ⟨found, isActive⟩ := activeAssignment_some active
  have own := TechnicianAssignment.isActiveOf_booking isActive
  refine ⟨.set found own (booking.trans own), fun row member => ?_⟩
  obtain ⟨position, atPosition⟩ := List.mem_iff_getElem?.mp member
  rcases set_cases atPosition with ⟨_, isEnded⟩ | elsewhere
  · rw [isEnded]
    exact TechnicianAssignment.isActiveOf_ended bookingId unassignedAt
  · refine Bool.eq_false_iff.mpr fun rowActive => ?_
    have same : assignmentId = position := active_unique assignments found elsewhere isActive rowActive
    rw [← same, List.getElem?_set_self (List.getElem?_eq_some_iff.mp found).1, Option.some.injEq] at atPosition
    rw [← atPosition, TechnicianAssignment.isActiveOf_ended bookingId unassignedAt] at rowActive
    cases rowActive

structure Reassigned (bookingId : BookingId) (technician : TechnicianId) (rows next : List TechnicianAssignment) :
    Prop where
  kept : OthersKept bookingId rows next
  own : ∀ assignment ∈ next, assignment.isActiveOf bookingId = true → assignment.technician = technician
  present : ∃ assignment ∈ next, assignment.isActiveOf bookingId = true

theorem insertAssignment_accepted {assignments after : AssignmentTable} {assignment : TechnicianAssignment}
    {assignmentId : AssignmentId} (accepted : insertAssignment assignments assignment = .ok (assignmentId, after)) :
    after.rows = assignments.rows ++ [assignment] := by
  simp only [insertAssignment, accepted_bind, accepted_pure, accepted_require, accepted_orRaise,
    Prod.mk.injEq] at accepted
  obtain ⟨_, _, _, inserted, _, rfl⟩ := accepted
  exact (UniqueTable.insert?_some inserted).1

theorem Reassigned.appended {bookingId : BookingId} {technician : TechnicianId} {rows middle : List TechnicianAssignment}
    {assignment : TechnicianAssignment} (kept : OthersKept bookingId rows middle)
    (idle : ∀ row ∈ middle, row.isActiveOf bookingId = false) (active : assignment.isActiveOf bookingId = true)
    (served : assignment.technician = technician) : Reassigned bookingId technician rows (middle ++ [assignment]) where
  kept := kept.trans (.append (TechnicianAssignment.isActiveOf_booking active))
  own := fun row member rowActive => by
    rw [List.mem_append, List.mem_singleton] at member
    rcases member with old | new
    · rw [idle row old] at rowActive
      cases rowActive
    · rw [new, served]
  present := ⟨assignment, by simp, active⟩

theorem Reassigned.renoted {assignments : AssignmentTable} {bookingId : BookingId} {assignmentId : AssignmentId}
    {assignment renoted : TechnicianAssignment} {next : List TechnicianAssignment}
    (active : activeAssignment assignments bookingId = some (assignmentId, assignment))
    (written : next = assignments.rows.set assignmentId renoted)
    (stays : renoted.isActiveOf bookingId = true) (served : renoted.technician = assignment.technician) :
    Reassigned bookingId assignment.technician assignments.rows next := by
  subst written
  obtain ⟨found, isActive⟩ := activeAssignment_some active
  have below := (List.getElem?_eq_some_iff.mp found).1
  refine ⟨.set found (TechnicianAssignment.isActiveOf_booking isActive)
    (TechnicianAssignment.isActiveOf_booking stays), fun row member rowActive => ?_, ⟨renoted, ?_, stays⟩⟩
  · obtain ⟨position, atPosition⟩ := List.mem_iff_getElem?.mp member
    rcases set_cases atPosition with ⟨_, isRenoted⟩ | elsewhere
    · rw [isRenoted, served]
    · have same : assignmentId = position := active_unique assignments found elsewhere isActive rowActive
      rw [← same, found, Option.some.injEq] at elsewhere
      rw [← elsewhere]
  · exact List.mem_iff_getElem?.mpr ⟨assignmentId, List.getElem?_set_self below⟩

theorem reassign_reassigned {now : Instant} {assignments next : AssignmentTable} {bookingId : BookingId}
    {technician : TechnicianId} {assignedBy : Option UserId} {notes reason : String} {assignmentId : AssignmentId}
    (accepted : reassign now assignments bookingId technician assignedBy notes reason = .ok (assignmentId, next)) :
    Reassigned bookingId technician assignments.rows next.rows := by
  unfold reassign at accepted
  cases active : activeAssignment assignments bookingId with
  | none =>
      simp only [active] at accepted
      rw [insertAssignment_accepted accepted]
      refine .appended (.refl bookingId _) (activeAssignment_none active) ?_ rfl
      simp [TechnicianAssignment.isActiveOf]
  | some previous =>
      obtain ⟨previousId, previous⟩ := previous
      simp only [active] at accepted
      obtain ⟨found, isActive⟩ := activeAssignment_some active
      by_cases same : previous.technician = technician
      · subst same
        rw [if_pos rfl] at accepted
        split at accepted
        · simp only [accepted_bind, accepted_pure, Prod.mk.injEq] at accepted
          obtain ⟨kept, stored, _, rfl⟩ := accepted
          exact .renoted active (storeAssignment_accepted stored) isActive rfl
        · simp only [Except.ok.injEq, Prod.mk.injEq] at accepted
          obtain ⟨_, rfl⟩ := accepted
          have unwritten : assignments.rows = assignments.rows.set previousId previous := by
            obtain ⟨below, isRow⟩ := List.getElem?_eq_some_iff.mp found
            rw [← isRow, List.set_getElem_self]
          exact .renoted active unwritten isActive rfl
      · rw [if_neg same] at accepted
        simp only [accepted_bind] at accepted
        obtain ⟨ended, stored, inserted⟩ := accepted
        obtain ⟨kept, idle⟩ := rows_ended active (storeAssignment_accepted stored) rfl rfl
        rw [insertAssignment_accepted inserted]
        refine .appended kept idle ?_ rfl
        simp [TechnicianAssignment.isActiveOf]

/-! The two records agree. -/

/-- The technician on the booking is the one that its active row names, or there is neither. -/
structure Agreed (names : TechnicianId → UserId → Prop) (bookings : List Booking)
    (assignments : List TechnicianAssignment) : Prop where
  served : ∀ (bookingId : BookingId) (booking : Booking), bookings[bookingId]? = some booking →
    ∀ assignment ∈ assignments, assignment.isActiveOf bookingId = true →
      ∃ user, booking.assignedTechnician = some user ∧ names assignment.technician user
  idle : ∀ (bookingId : BookingId) (booking : Booking), bookings[bookingId]? = some booking →
    (∀ assignment ∈ assignments, assignment.isActiveOf bookingId = false) → booking.assignedTechnician = none
  known : ∀ assignment ∈ assignments, assignment.booking < bookings.length

section

variable {names : TechnicianId → UserId → Prop} {bookings : List Booking} {assignments next : List TechnicianAssignment}

theorem Agreed.empty : Agreed names [] [] where
  served := fun bookingId booking found => by simp at found
  idle := fun bookingId booking found => by simp at found
  known := fun assignment member => by simp at member

theorem Agreed.weaken {weaker : TechnicianId → UserId → Prop} (agreed : Agreed names bookings assignments)
    (implied : ∀ technician user, names technician user → weaker technician user) :
    Agreed weaker bookings assignments where
  served := fun bookingId booking found assignment member active => by
    obtain ⟨user, assigned, named⟩ := agreed.served bookingId booking found assignment member active
    exact ⟨user, assigned, implied assignment.technician user named⟩
  idle := agreed.idle
  known := agreed.known

theorem Agreed.append {booking : Booking} (agreed : Agreed names bookings assignments)
    (unassigned : booking.assignedTechnician = none) : Agreed names (bookings ++ [booking]) assignments where
  served := fun bookingId other found assignment member active => by
    rcases append_cases found with earlier | ⟨isNew, _⟩
    · exact agreed.served bookingId other earlier assignment member active
    · have below := agreed.known assignment member
      rw [TechnicianAssignment.isActiveOf_booking active, isNew] at below
      exact absurd below (Nat.lt_irrefl _)
  idle := fun bookingId other found none => by
    rcases append_cases found with earlier | ⟨_, isNew⟩
    · exact agreed.idle bookingId other earlier none
    · rw [isNew, unassigned]
  known := fun assignment member => by
    rw [List.length_append]
    exact Nat.lt_add_right _ (agreed.known assignment member)

theorem Agreed.rewritten {bookingId : BookingId} {before after : Booking} (agreed : Agreed names bookings assignments)
    (found : bookings[bookingId]? = some before) (kept : OthersKept bookingId assignments next)
    (served : ∀ assignment ∈ next, assignment.isActiveOf bookingId = true →
      ∃ user, after.assignedTechnician = some user ∧ names assignment.technician user)
    (idle : (∀ assignment ∈ next, assignment.isActiveOf bookingId = false) → after.assignedTechnician = none) :
    Agreed names (bookings.set bookingId after) next where
  served := fun key other present assignment member active => by
    rw [List.getElem?_set] at present
    split at present
    · rename_i isKey
      subst isKey
      split at present
      · cases present
        exact served assignment member active
      · cases present
    · rename_i differ
      exact agreed.served key other present assignment
        ((kept.others assignment key (Ne.symm differ) active).mp member) active
  idle := fun key other present none => by
    rw [List.getElem?_set] at present
    split at present
    · rename_i isKey
      subst isKey
      split at present
      · cases present
        exact idle none
      · cases present
    · rename_i differ
      refine agreed.idle key other present fun assignment member => Bool.eq_false_iff.mpr fun active => ?_
      rw [none assignment ((kept.others assignment key (Ne.symm differ) active).mpr member)] at active
      cases active
  known := fun assignment member => by
    rw [List.length_set]
    rcases kept.known assignment member with own | ⟨row, inRows, same⟩
    · rw [own]
      exact (List.getElem?_eq_some_iff.mp found).1
    · rw [← same]
      exact agreed.known row inRows

theorem Agreed.same {bookingId : BookingId} {before after : Booking} (agreed : Agreed names bookings assignments)
    (found : bookings[bookingId]? = some before) (same : after.assignedTechnician = before.assignedTechnician) :
    Agreed names (bookings.set bookingId after) assignments := by
  refine agreed.rewritten found (.refl bookingId assignments) ?_ ?_
  · rw [same]
    exact agreed.served bookingId before found
  · rw [same]
    exact agreed.idle bookingId before found

end

section

variable {settings : Settings} {state : System} {op : Op} {db next : Db} {names : TechnicianId → UserId → Prop}

theorem Agreed.quiet (agreed : Agreed names db.bookings db.assignments.rows) (quiet : Quiet db next) :
    Agreed names next.bookings next.assignments.rows := by
  cases quiet with
  | auxiliary same added slots =>
      rw [same.bookings, same.assignments]
      exact agreed
  | created booking slot fresh foundSlot dated bookings noted payments staff =>
      rw [bookings, staff.assignments]
      exact agreed.append fresh.assignedTechnician
  | workOrderCreated middle booking slot lead service fresh foundSlot dated bookings created noted payments staff =>
      have unassigned : (booking.repriced lead service).asWorkOrder.assignedTechnician = none := by
        unfold Booking.repriced
        split <;> exact fresh.assignedTechnician
      rw [bookings, staff.assignments]
      exact agreed.append unassigned

theorem Agreed.leaves (agreed : Agreed names state.db.bookings state.db.assignments.rows)
    (covers : ∀ technicianId technician, state.db.directory.technicians[technicianId]? = some technician →
      names technicianId technician.user)
    (leaves : Leaves settings state op next) : Agreed names next.bookings next.assignments.rows := by
  cases leaves with
  | quiet chain =>
      induction chain with
      | refl => exact agreed
      | tail _ quiet ih => exact ih.quiet quiet
  | directory directory isOp written =>
      rw [written]
      exact agreed
  | ordered bookingId booking user key orderId isOp planned bookings statusHistory payments staff =>
      rw [bookings, staff.assignments]
      exact agreed
  | jobStep bookingId before after step found bookings noted payments staff =>
      rw [bookings, staff.assignments]
      exact agreed.same found step.assignedTechnician
  | moved now bookingId slotId changedBy notes booking slot isOp found from_ foundSlot bookings noted payments staff =>
      rw [bookings, staff.assignments]
      exact agreed.same found rfl
  | assigned now bookingId technicianId assignedBy notes reason assignmentId booking technician slot found from_
      foundTechnician foundSlot free reassigned bookings noted payments slots directory =>
      have handed := reassign_reassigned reassigned
      rw [bookings]
      refine agreed.rewritten found handed.kept (fun assignment member active => ?_) fun none => ?_
      · rw [handed.own assignment member active]
        exact ⟨technician.user, rfl, covers technicianId technician foundTechnician⟩
      · obtain ⟨assignment, member, active⟩ := handed.present
        rw [none assignment member] at active
        cases active
  | removed now bookingId changedBy notes booking assignmentId assignment isOp found active assignments bookings noted
      payments slots directory =>
      obtain ⟨kept, ended⟩ := rows_ended active assignments rfl rfl
      rw [bookings]
      refine agreed.rewritten found kept (fun row member rowActive => ?_) fun _ => rfl
      rw [ended row member] at rowActive
      cases rowActive
  | effective effect isEffect effective notes assignments slots directory =>
      rw [assignments]
      rcases effective.rewrites with same | ⟨bookingId, before, after, rewrites, found, bookings⟩
      · rw [same]
        exact agreed
      · rw [bookings]
        exact agreed.same found rewrites.place.2.2

end

def Op.keepsUsers (state : System) : Op → Prop
  | .editDirectory directory =>
      state.db.directory.technicians.map TechnicianProfile.user <+: directory.technicians.map TechnicianProfile.user
  | _ => True

instance (state : System) (op : Op) : Decidable (op.keepsUsers state) := by
  unfold Op.keepsUsers
  split <;> infer_instance

/-- At most one active row, and the booking's technician is its technician, or null without one. -/
structure AssignmentsAgree (db : Db) : Prop where
  unique : ∀ (bookingId : BookingId) (first second : AssignmentId) (left right : TechnicianAssignment),
    db.assignments.rows[first]? = some left → db.assignments.rows[second]? = some right →
    left.isActiveOf bookingId = true → right.isActiveOf bookingId = true → first = second
  technician : ∀ (bookingId : BookingId) (booking : Booking), db.bookings[bookingId]? = some booking →
    ∀ assignment ∈ db.assignments.rows, assignment.isActiveOf bookingId = true →
      ∃ technician, db.directory.technicians[assignment.technician]? = some technician ∧
        booking.assignedTechnician = some technician.user
  unassigned : ∀ (bookingId : BookingId) (booking : Booking), db.bookings[bookingId]? = some booking →
    (booking.assignedTechnician = none ↔
      ∀ assignment ∈ db.assignments.rows, assignment.isActiveOf bookingId = false)

def Db.isProfileOf (db : Db) (technicianId : TechnicianId) (user : UserId) : Prop :=
  ∃ technician, db.directory.technicians[technicianId]? = some technician ∧ technician.user = user

def AssignmentsNamed (db : Db) : Prop :=
  Agreed db.isProfileOf db.bookings db.assignments.rows

theorem AssignmentsNamed.agree {db : Db} (named : AssignmentsNamed db) : AssignmentsAgree db where
  unique := fun bookingId first second left right atFirst atSecond activeLeft activeRight =>
    active_unique db.assignments atFirst atSecond activeLeft activeRight
  technician := fun bookingId booking found assignment member active => by
    obtain ⟨user, assigned, technician, foundTechnician, isUser⟩ :=
      named.served bookingId booking found assignment member active
    exact ⟨technician, foundTechnician, by rw [assigned, isUser]⟩
  unassigned := fun bookingId booking found => by
    refine ⟨fun unassigned assignment member => Bool.eq_false_iff.mpr fun active => ?_,
      named.idle bookingId booking found⟩
    obtain ⟨user, assigned, _⟩ := named.served bookingId booking found assignment member active
    rw [unassigned] at assigned
    cases assigned

theorem AssignmentsNamed.leaves {settings : Settings} {state : System} {op : Op} {next : Db}
    (named : AssignmentsNamed state.db) (keeps : op.keepsUsers state) (leaves : Leaves settings state op next) :
    AssignmentsNamed next := by
  have agreed : Agreed state.db.isProfileOf next.bookings next.assignments.rows :=
    Agreed.leaves named (fun _ technician found => ⟨technician, found, rfl⟩) leaves
  refine agreed.weaken fun technicianId user profile => ?_
  obtain ⟨technician, found, isUser⟩ := profile
  rcases leaves.directory_cases with same | ⟨directory, rfl, written⟩
  · exact ⟨technician, by rw [same.technicians, found], isUser⟩
  · obtain ⟨added, extended⟩ := keeps
    have below : technicianId < (state.db.directory.technicians.map TechnicianProfile.user).length := by
      rw [List.length_map]
      exact (List.getElem?_eq_some_iff.mp found).1
    have userAt : (directory.technicians.map TechnicianProfile.user)[technicianId]? = some user := by
      rw [← extended, List.getElem?_append_left below, List.getElem?_map, found, Option.map_some, isUser]
    rw [List.getElem?_map, Option.map_eq_some_iff] at userAt
    rw [← written] at userAt
    exact userAt

theorem assignmentsAgree_run {settings : Settings} {start : System} {ops : List Op} (initial : start.Initial)
    (guarded : Guarded (System.step settings) (fun state op => op.keepsUsers state) start ops) :
    AssignmentsAgree (runAll (System.step settings) start ops).db := by
  have initially : AssignmentsNamed start.db := by
    unfold AssignmentsNamed
    rw [initial.bookings, initial.assignments]
    exact .empty
  have named := leaves_invariant AssignmentsNamed (fun _ _ _ holds keeps leaves => holds.leaves keeps leaves)
    guarded initially
  exact named.agree

def staffedDirectory : Directory := { sampleDirectory with
  technicians := sampleDirectory.technicians.map ({ · with pincode := "560099" }) ++
    sampleDirectory.technicians.map ({ · with user := 1 }) }

def handedOver : List Op := paidHistory ++ [
  .assignTechnician sampleNow 0 0 none "" "",
  .editDirectory staffedDirectory,
  .assignTechnician sampleNow 0 1 none "" "Nearest technician",
  .assignTechnician sampleNow 0 1 none "Calls before the visit" "",
  .removeTechnicianAssignment sampleNow 0 none ""]

theorem assignmentsAgree_run_handedOver :
    AssignmentsAgree (runAll (System.step sampleSettings) sampleSystem handedOver).db :=
  assignmentsAgree_run sampleSystem_initial (by decide)

end PsCore
