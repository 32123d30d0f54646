import Mathlib.Logic.ExistsUnique
import PsCore.Library.EventLog
import PsCore.Library.RowTable
import PsCore.Library.TransitionRun
import PsCore.TypesCore

/-!
The default address of a customer. A request saves its own address as the default one and clears the
others in a second statement; statements of several requests come in any order.
-/

namespace PsCore

open EventLog RowTable TransitionRun

/-- An address; `details` are the columns that the serializer writes and nothing here reads. -/
structure AddressRow (Details : Type) where
  customer : UserId
  details : Details
  isDefault : Bool
  isActive : Bool
  deriving DecidableEq

/-- A request between two of its statements. -/
inductive AddressCall (Details : Type)
  | loaded (key : Nat) (address : AddressRow Details)
  | saved (key : Nat) (customer : UserId)
  deriving DecidableEq

inductive AddressEvent
  | saved (key : Nat) (customer : UserId)
  | cleared (key : Nat) (customer : UserId)
  deriving DecidableEq

structure AddressSystem (Details : Type) where
  rows : List (AddressRow Details)
  calls : List (AddressCall Details)
  log : List AddressEvent

inductive AddressStep (Details : Type)
  | create (customer : UserId) (details : Details)
  | load (customer : UserId) (key : Nat) (edit : Details → Details)
  | save (key : Nat) (address : AddressRow Details)
  | enforceSingleDefault (key : Nat) (customer : UserId)
  | fail (call : AddressCall Details)

/-- `filter(customer=customer, is_default=True).exclude(pk=key).update(is_default=False)`. -/
def clearOthers {Details : Type} (rows : List (AddressRow Details)) (key : Nat) (customer : UserId) :
    List (AddressRow Details) :=
  rows.mapIdx fun position row =>
    if row.customer = customer ∧ row.isDefault = true ∧ position ≠ key then { row with isDefault := false } else row

namespace AddressSystem

variable {Details : Type} [DecidableEq Details]

def step (state : AddressSystem Details) : AddressStep Details → AddressSystem Details
  | .create customer details =>
      let key := state.rows.length
      { rows := state.rows ++ [{ customer := customer, details := details, isDefault := true, isActive := true }]
        calls := .saved key customer :: state.calls
        log := state.log ++ [.saved key customer] }
  | .load customer key edit => match state.rows[key]? with
      | some row =>
          if row.customer = customer ∧ row.isActive = true then
            { state with calls := .loaded key { row with details := edit row.details, isDefault := true } :: state.calls }
          else state
      | none => state
  | .save key address =>
      if .loaded key address ∈ state.calls then {
        rows := state.rows.set key address
        calls := .saved key address.customer :: state.calls.erase (.loaded key address)
        log := state.log ++ [.saved key address.customer] }
      else state
  | .enforceSingleDefault key customer =>
      if .saved key customer ∈ state.calls then {
        rows := clearOthers state.rows key customer
        calls := state.calls.erase (.saved key customer)
        log := state.log ++ [.cleared key customer] }
      else state
  | .fail call => { state with calls := state.calls.erase call }

def Initial (state : AddressSystem Details) : Prop := state.calls = [] ∧ state.log = []

end AddressSystem

def AddressEvent.saves (customer : UserId) (key : Nat) (event : AddressEvent) : Prop :=
  event = .saved key customer

def AddressEvent.clears (customer : UserId) (key : Nat) (event : AddressEvent) : Prop :=
  ∃ other, event = .cleared other customer ∧ other ≠ key

/-- The address has been saved as the default one, and no request for another has cleared it since. -/
def SaveStands (log : List AddressEvent) (customer : UserId) (key : Nat) : Prop :=
  Standing (AddressEvent.saves customer key) (AddressEvent.clears customer key) log

def IsDefault {Details : Type} (rows : List (AddressRow Details)) (customer : UserId) (key : Nat) : Prop :=
  ∃ row, rows[key]? = some row ∧ row.customer = customer ∧ row.isDefault = true

def Succeeded (log : List AddressEvent) (customer : UserId) : Prop :=
  ∃ key, .cleared key customer ∈ log

section

variable {Details : Type} {start state next : AddressSystem Details} {customer owner : UserId} {key other : Nat}

def Owns (rows : List (AddressRow Details)) (customer : UserId) (key : Nat) : Prop :=
  ∃ row, rows[key]? = some row ∧ row.customer = customer

/-- The flag of a row tells whether its save stands, or it was the default from the start. -/
structure DefaultsFollow (start state : AddressSystem Details) : Prop where
  defaults : ∀ key row, state.rows[key]? = some row → (row.isDefault = true ↔
    SaveStands state.log row.customer key ∨ IsDefault start.rows row.customer key ∧
      ∀ event ∈ state.log, ¬ event.clears row.customer key)
  saved : ∀ key customer, .saved key customer ∈ state.log → Owns state.rows customer key
  cleared : ∀ key customer, .cleared key customer ∈ state.log → .saved key customer ∈ state.log
  loaded : ∀ key address, .loaded key address ∈ state.calls →
    address.isDefault = true ∧ Owns state.rows address.customer key
  pending : ∀ key customer, .saved key customer ∈ state.calls → .saved key customer ∈ state.log

theorem DefaultsFollow.initial (initial : start.Initial) : DefaultsFollow start start := by
  obtain ⟨noCalls, noLog⟩ := initial
  refine ⟨fun key row found => ?_, ?_, ?_, ?_, ?_⟩
  · rw [noLog]
    constructor
    · intro isDefault
      exact .inr ⟨⟨row, found, rfl, isDefault⟩, nofun⟩
    · rintro (stands | ⟨⟨other, foundOther, _, isDefault⟩, _⟩)
      · obtain ⟨event, member, _⟩ := stands.marked
        cases member
      · rw [found, Option.some.injEq] at foundOther
        rw [foundOther]
        exact isDefault
  · rw [noLog]
    exact nofun
  · rw [noLog]
    exact nofun
  · rw [noCalls]
    exact nofun
  · rw [noCalls]
    exact nofun

theorem saveStands_saved {log : List AddressEvent} :
    SaveStands (log ++ [.saved other owner]) customer key ↔
      (other = key ∧ owner = customer) ∨ SaveStands log customer key := by
  simp [SaveStands, AddressEvent.saves, AddressEvent.clears]

theorem saveStands_cleared {log : List AddressEvent} :
    SaveStands (log ++ [.cleared other owner]) customer key ↔
      SaveStands log customer key ∧ ¬ (owner = customer ∧ other ≠ key) := by
  simp [SaveStands, AddressEvent.saves, AddressEvent.clears]

theorem unsaved_append {log : List AddressEvent} :
    (∀ event ∈ log ++ [.saved other owner], ¬ event.clears customer key) ↔
      ∀ event ∈ log, ¬ event.clears customer key := by
  simp [AddressEvent.clears, or_imp, forall_and]

theorem cleared_append {log : List AddressEvent} :
    (∀ event ∈ log ++ [.cleared other owner], ¬ event.clears customer key) ↔
      (∀ event ∈ log, ¬ event.clears customer key) ∧ ¬ (owner = customer ∧ other ≠ key) := by
  simp [AddressEvent.clears, or_imp, forall_and]

def OwnersKept (rows next : List (AddressRow Details)) : Prop :=
  ∀ customer key, Owns rows customer key → Owns next customer key

theorem OwnersKept.append (rows : List (AddressRow Details)) (added : AddressRow Details) :
    OwnersKept rows (rows ++ [added]) := by
  rintro customer key ⟨row, found, isOwner⟩
  exact ⟨row, by rw [List.getElem?_append_left (List.getElem?_eq_some_iff.mp found).1, found], isOwner⟩

theorem OwnersKept.set {rows : List (AddressRow Details)} {address : AddressRow Details}
    (owns : Owns rows address.customer other) : OwnersKept rows (rows.set other address) := by
  rintro customer key ⟨row, found, isOwner⟩
  have inBounds := (List.getElem?_eq_some_iff.mp found).1
  by_cases same : other = key
  · subst same
    obtain ⟨stored, present, isStored⟩ := owns
    rw [found, Option.some.injEq] at present
    subst present
    exact ⟨address, List.getElem?_set_self inBounds, isStored.symm.trans isOwner⟩
  · exact ⟨row, by rw [List.getElem?_set_ne same, found], isOwner⟩

theorem clearOthers_found {rows : List (AddressRow Details)} {row : AddressRow Details}
    (found : (clearOthers rows other owner)[key]? = some row) :
    ∃ before, rows[key]? = some before ∧ row.customer = before.customer ∧
      (row.isDefault = true ↔ before.isDefault = true ∧ ¬ (before.customer = owner ∧ key ≠ other)) := by
  simp only [clearOthers, List.getElem?_mapIdx, Option.map_eq_some_iff] at found
  obtain ⟨before, present, rfl⟩ := found
  refine ⟨before, present, ?_, ?_⟩
  · split <;> rfl
  · split
    · rename_i cleared
      simp [cleared.1, cleared.2.2]
    · rename_i kept
      constructor
      · intro isDefault
        exact ⟨isDefault, fun others => kept ⟨others.1, isDefault, others.2⟩⟩
      · rintro ⟨isDefault, _⟩
        exact isDefault

theorem OwnersKept.clear (rows : List (AddressRow Details)) : OwnersKept rows (clearOthers rows other owner) := by
  rintro customer key ⟨row, found, isOwner⟩
  have inBounds : key < (clearOthers rows other owner).length := by
    rw [clearOthers, List.length_mapIdx]
    exact (List.getElem?_eq_some_iff.mp found).1
  have present := List.getElem?_eq_getElem inBounds
  obtain ⟨before, foundBefore, same, _⟩ := clearOthers_found present
  rw [found, Option.some.injEq] at foundBefore
  subst foundBefore
  exact ⟨_, present, same.trans isOwner⟩

theorem DefaultsFollow.saves (follow : DefaultsFollow start state) {rows : List (AddressRow Details)}
    (kept : OwnersKept state.rows rows) (owns : Owns rows owner other) :
    (∀ key customer, .saved key customer ∈ state.log ++ [.saved other owner] → Owns rows customer key) ∧
      ∀ key customer, .cleared key customer ∈ state.log ++ [.saved other owner] →
        .saved key customer ∈ state.log ++ [.saved other owner] := by
  refine ⟨fun key customer member => ?_, fun key customer member => ?_⟩
  · rcases List.mem_append.mp member with old | new
    · exact kept customer key (follow.saved key customer old)
    · rw [List.mem_singleton] at new
      cases new
      exact owns
  · rcases List.mem_append.mp member with old | new
    · exact List.mem_append_left _ (follow.cleared key customer old)
    · rw [List.mem_singleton] at new
      cases new

theorem DefaultsFollow.defaults_saved (follow : DefaultsFollow start state) {row : AddressRow Details}
    (found : state.rows[key]? = some row) (differs : other ≠ key) :
    row.isDefault = true ↔ SaveStands (state.log ++ [.saved other owner]) row.customer key ∨
      IsDefault start.rows row.customer key ∧
        ∀ event ∈ state.log ++ [.saved other owner], ¬ event.clears row.customer key := by
  rw [saveStands_saved, unsaved_append, follow.defaults key row found]
  simp [differs]

theorem DefaultsFollow.called (follow : DefaultsFollow start state) {calls : List (AddressCall Details)}
    (loaded : ∀ key address, .loaded key address ∈ calls →
      address.isDefault = true ∧ Owns state.rows address.customer key)
    (pending : ∀ key customer, .saved key customer ∈ calls → .saved key customer ∈ state.log) :
    DefaultsFollow start { state with calls := calls } :=
  ⟨follow.defaults, follow.saved, follow.cleared, loaded, pending⟩

theorem DefaultsFollow.isDefault_iff (follow : DefaultsFollow start state) (succeeded : Succeeded state.log customer)
    (key : Nat) : IsDefault state.rows customer key ↔ SaveStands state.log customer key := by
  constructor
  · rintro ⟨row, found, rfl, isDefault⟩
    rcases (follow.defaults key row found).mp isDefault with stands | ⟨_, untouched⟩
    · exact stands
    · -- the request that succeeded was for this address
      obtain ⟨other, cleared⟩ := succeeded
      have isKey : other = key := Decidable.byContradiction fun differs =>
        untouched _ cleared ⟨other, rfl, differs⟩
      rw [isKey] at cleared
      exact standing_of_unstopped (follow.cleared key row.customer cleared) rfl untouched
  · intro stands
    obtain ⟨event, member, rfl⟩ := stands.marked
    obtain ⟨row, found, rfl⟩ := follow.saved key customer member
    exact ⟨row, found, rfl, (follow.defaults key row found).mpr (.inl stands)⟩

section

variable [DecidableEq Details]

theorem DefaultsFollow.create (follow : DefaultsFollow start state) (customer : UserId) (details : Details) :
    DefaultsFollow start (state.step (.create customer details)) := by
  have kept := OwnersKept.append state.rows
    { customer := customer, details := details, isDefault := true, isActive := true }
  have isNew : (state.rows ++ [{ customer := customer, details := details, isDefault := true, isActive := true }])[
      state.rows.length]? = some { customer := customer, details := details, isDefault := true, isActive := true } := by
    simp
  obtain ⟨saved, cleared⟩ := follow.saves kept ⟨_, isNew, rfl⟩
  refine ⟨fun key row found => ?_, saved, cleared, fun key address member => ?_, fun key customer member => ?_⟩
  · rcases append_cases found with earlier | ⟨isKey, isRow⟩
    · have below := (List.getElem?_eq_some_iff.mp earlier).1
      exact follow.defaults_saved earlier (by omega)
    · rw [isRow, isKey]
      exact ⟨fun _ => .inl (saveStands_saved.mpr (.inl ⟨rfl, rfl⟩)), fun _ => rfl⟩
  · have old : AddressCall.loaded key address ∈ state.calls := by
      simpa [AddressSystem.step] using member
    exact ⟨(follow.loaded key address old).1, kept _ _ (follow.loaded key address old).2⟩
  · simp only [AddressSystem.step, List.mem_cons] at member ⊢
    rcases member with new | old
    · cases new
      exact List.mem_append_right _ (List.mem_singleton_self _)
    · exact List.mem_append_left _ (follow.pending key customer old)

theorem DefaultsFollow.load (follow : DefaultsFollow start state) (customer : UserId) (key : Nat)
    (edit : Details → Details) : DefaultsFollow start (state.step (.load customer key edit)) := by
  simp only [AddressSystem.step]
  split
  · rename_i row found
    split
    · refine follow.called (fun other address member => ?_) fun other owner member => ?_
      · rcases List.mem_cons.mp member with new | old
        · cases new
          exact ⟨rfl, row, found, rfl⟩
        · exact follow.loaded other address old
      · rcases List.mem_cons.mp member with new | old
        · cases new
        · exact follow.pending other owner old
    · exact follow
  · exact follow

theorem DefaultsFollow.save (follow : DefaultsFollow start state) (target : Nat) (address : AddressRow Details) :
    DefaultsFollow start (state.step (.save target address)) := by
  simp only [AddressSystem.step]
  split
  · rename_i called
    obtain ⟨isDefault, owns⟩ := follow.loaded target address called
    have kept := OwnersKept.set owns
    have inBounds : target < state.rows.length := by
      obtain ⟨row, found, _⟩ := owns
      exact (List.getElem?_eq_some_iff.mp found).1
    obtain ⟨saved, cleared⟩ := follow.saves kept ⟨address, List.getElem?_set_self inBounds, rfl⟩
    refine ⟨fun key row found => ?_, saved, cleared, fun key other member => ?_, fun key customer member => ?_⟩
    · by_cases same : target = key
      · subst same
        have isRow : row = address := by
          rw [List.getElem?_set_self inBounds, Option.some.injEq] at found
          exact found.symm
        rw [isRow]
        exact ⟨fun _ => .inl (saveStands_saved.mpr (.inl ⟨rfl, rfl⟩)), fun _ => isDefault⟩
      · rw [List.getElem?_set_ne same] at found
        exact follow.defaults_saved found same
    · have old : AddressCall.loaded key other ∈ state.calls := by
        rcases List.mem_cons.mp member with new | old
        · cases new
        · exact List.mem_of_mem_erase old
      exact ⟨(follow.loaded key other old).1, kept _ _ (follow.loaded key other old).2⟩
    · rcases List.mem_cons.mp member with new | old
      · cases new
        exact List.mem_append_right _ (List.mem_singleton_self _)
      · exact List.mem_append_left _ (follow.pending key customer (List.mem_of_mem_erase old))
  · exact follow

theorem DefaultsFollow.enforce (follow : DefaultsFollow start state) (target : Nat) (owner : UserId) :
    DefaultsFollow start (state.step (.enforceSingleDefault target owner)) := by
  simp only [AddressSystem.step]
  split
  · rename_i called
    have kept : OwnersKept state.rows (clearOthers state.rows target owner) := .clear state.rows
    refine ⟨fun key row found => ?_, fun key customer member => ?_, fun key customer member => ?_,
      fun key address member => ?_, fun key customer member => ?_⟩
    · obtain ⟨before, foundBefore, sameCustomer, isDefault⟩ := clearOthers_found found
      rw [isDefault, follow.defaults key before foundBefore, sameCustomer, saveStands_cleared, cleared_append]
      have spared : ¬ (owner = before.customer ∧ target ≠ key) ↔ ¬ (before.customer = owner ∧ key ≠ target) := by
        rw [eq_comm, ne_comm]
      rw [spared]
      constructor
      · rintro ⟨stands | ⟨default, untouched⟩, spared⟩
        · exact .inl ⟨stands, spared⟩
        · exact .inr ⟨default, untouched, spared⟩
      · rintro (⟨stands, spared⟩ | ⟨default, untouched, spared⟩)
        · exact ⟨.inl stands, spared⟩
        · exact ⟨.inr ⟨default, untouched⟩, spared⟩
    · rcases List.mem_append.mp member with old | new
      · exact kept customer key (follow.saved key customer old)
      · rw [List.mem_singleton] at new
        cases new
    · rcases List.mem_append.mp member with old | new
      · exact List.mem_append_left _ (follow.cleared key customer old)
      · rw [List.mem_singleton] at new
        cases new
        exact List.mem_append_left _ (follow.pending target owner called)
    · have old := follow.loaded key address (List.mem_of_mem_erase member)
      exact ⟨old.1, kept _ _ old.2⟩
    · exact List.mem_append_left _ (follow.pending key customer (List.mem_of_mem_erase member))
  · exact follow

theorem DefaultsFollow.fail (follow : DefaultsFollow start state) (call : AddressCall Details) :
    DefaultsFollow start (state.step (.fail call)) :=
  follow.called (fun key address member => follow.loaded key address (List.mem_of_mem_erase member))
    fun key customer member => follow.pending key customer (List.mem_of_mem_erase member)

theorem DefaultsFollow.step (follow : DefaultsFollow start state) (step : AddressStep Details) :
    DefaultsFollow start (state.step step) := by
  cases step with
  | create customer details => exact follow.create customer details
  | load customer key edit => exact follow.load customer key edit
  | save key address => exact follow.save key address
  | enforceSingleDefault key customer => exact follow.enforce key customer
  | fail call => exact follow.fail call

theorem defaultsFollow_run (initial : start.Initial) (steps : List (AddressStep Details)) :
    DefaultsFollow start (runAll AddressSystem.step start steps) := by
  have guarded : Guarded AddressSystem.step (fun _ _ => True) start steps := .always (fun _ _ => trivial) start steps
  exact guarded.invariant (fun _ step follow _ => follow.step step) (.initial initial)

/-- Once a request has succeeded, there is one default address exactly when the save of one address
stands, and of no other. -/
theorem oneDefault_iff (initial : start.Initial) (steps : List (AddressStep Details))
    (succeeded : Succeeded (runAll AddressSystem.step start steps).log customer) :
    (∃! key, IsDefault (runAll AddressSystem.step start steps).rows customer key) ↔
      ∃! key, SaveStands (runAll AddressSystem.step start steps).log customer key :=
  existsUnique_congr fun key => (defaultsFollow_run initial steps).isDefault_iff succeeded key

/-- A second address comes after the first one's request is done. -/
theorem oneDefault_iff_moved : ∃! key, IsDefault (runAll AddressSystem.step ⟨[], [], []⟩
    [.create 1 "home", .enforceSingleDefault 0 1, .create 1 "office", .enforceSingleDefault 1 1]).rows 1 key := by
  refine (oneDefault_iff ⟨rfl, rfl⟩
    [.create 1 "home", .enforceSingleDefault 0 1, .create 1 "office", .enforceSingleDefault 1 1]
    ⟨0, by decide⟩).mpr ⟨1, ?_, fun key stands => ?_⟩
  · exact ⟨[.saved 0 1, .cleared 0 1], .saved 1 1, [.cleared 1 1], rfl, rfl, by simp [AddressEvent.clears]⟩
  · have stood : SaveStands ([.saved 0 1, .cleared 0 1, .saved 1 1] ++ [.cleared 1 1]) 1 key := stands
    have spared := (saveStands_cleared.mp stood).2
    exact (Decidable.byContradiction fun differs => spared ⟨rfl, differs⟩ : 1 = key).symm

/-- Two new addresses are saved before either request clears the other one. -/
theorem concurrent_defaults_clear_each_other : ¬ ∀ (start : AddressSystem String) (steps : List (AddressStep String))
    (customer : UserId), start.Initial → (runAll AddressSystem.step start steps).calls = [] →
      Succeeded (runAll AddressSystem.step start steps).log customer →
        ∃! key, IsDefault (runAll AddressSystem.step start steps).rows customer key := by
  intro always
  obtain ⟨key, ⟨row, found, _, isDefault⟩, _⟩ := always ⟨[], [], []⟩
    [.create 1 "home", .create 1 "office", .enforceSingleDefault 0 1, .enforceSingleDefault 1 1] 1
    ⟨rfl, rfl⟩ (by decide) ⟨0, by decide⟩
  have none : ∀ row ∈ (runAll AddressSystem.step ⟨[], [], []⟩ [.create 1 "home", .create 1 "office",
      .enforceSingleDefault 0 1, .enforceSingleDefault 1 1]).rows, row.isDefault = false := by decide
  rw [none row (List.mem_of_getElem? found)] at isDefault
  cases isDefault

end

/-! Requests that take turns. -/

def AddressCall.isPendingOf (customer : UserId) : AddressCall Details → Bool
  | .saved _ owner => owner == customer
  | .loaded _ _ => false

def pendingOf (calls : List (AddressCall Details)) (customer : UserId) : List (AddressCall Details) :=
  calls.filter (AddressCall.isPendingOf customer)

/-- No request of a customer saves while another stands between its save and its clearing, and none fails there. -/
def AddressStep.takesTurns (state : AddressSystem Details) : AddressStep Details → Prop
  | .create customer _ => pendingOf state.calls customer = []
  | .save _ address => pendingOf state.calls address.customer = []
  | .fail (.saved _ _) => False
  | .load _ _ _ | .enforceSingleDefault _ _ | .fail (.loaded _ _) => True

inductive TurnsTaken (customer : UserId) (state : AddressSystem Details) : Prop
  | idle (none : pendingOf state.calls customer = [])
      (one : Succeeded state.log customer → ∃! key, SaveStands state.log customer key)
  | between (key : Nat) (only : pendingOf state.calls customer = [.saved key customer])
      (stands : SaveStands state.log customer key)

theorem TurnsTaken.saved (turns : TurnsTaken customer state) {rows : List (AddressRow Details)}
    {calls : List (AddressCall Details)} (free : pendingOf state.calls owner = [])
    (same : pendingOf calls customer = pendingOf state.calls customer) :
    TurnsTaken customer (AddressSystem.mk rows (.saved other owner :: calls)
      (state.log ++ [.saved other owner])) := by
  by_cases own : owner = customer
  · subst own
    refine .between other ?_ (saveStands_saved.mpr (.inl ⟨rfl, rfl⟩))
    rw [pendingOf, List.filter_cons_of_pos (by simp [AddressCall.isPendingOf])]
    exact congrArg _ (same.trans free)
  · have stands (key : Nat) : SaveStands (state.log ++ [.saved other owner]) customer key ↔
        SaveStands state.log customer key := by
      rw [saveStands_saved]
      simp [own]
    have pending : pendingOf (.saved other owner :: calls) customer = pendingOf state.calls customer := by
      rw [pendingOf, List.filter_cons_of_neg (by simp [AddressCall.isPendingOf, own])]
      exact same
    cases turns with
    | idle none one =>
        refine .idle (pending.trans none) fun succeeded => ?_
        obtain ⟨key, member⟩ := succeeded
        have earlier : Succeeded state.log customer := by
          refine ⟨key, ?_⟩
          simpa using member
        exact (existsUnique_congr stands).mpr (one earlier)
    | between key only stood => exact .between key (pending.trans only) ((stands key).mpr stood)

theorem TurnsTaken.called (turns : TurnsTaken customer state) {calls : List (AddressCall Details)}
    (same : pendingOf calls customer = pendingOf state.calls customer) :
    TurnsTaken customer { state with calls := calls } := by
  cases turns with
  | idle none one => exact .idle (same.trans none) one
  | between key only stood => exact .between key (same.trans only) stood

section

variable [DecidableEq Details]

theorem pendingOf_erase_loaded (calls : List (AddressCall Details)) (key : Nat) (address : AddressRow Details) :
    pendingOf (calls.erase (.loaded key address)) customer = pendingOf calls customer := by
  rw [pendingOf, ← List.erase_filter, List.erase_of_not_mem, pendingOf]
  intro member
  cases (List.mem_filter.mp member).2

theorem TurnsTaken.cleared (turns : TurnsTaken customer state) {rows : List (AddressRow Details)}
    (called : .saved other owner ∈ state.calls) :
    TurnsTaken customer (AddressSystem.mk rows (state.calls.erase (.saved other owner))
      (state.log ++ [.cleared other owner])) := by
  have pending : pendingOf (state.calls.erase (.saved other owner)) customer =
      (pendingOf state.calls customer).erase (.saved other owner) := by
    rw [pendingOf, ← List.erase_filter, pendingOf]
  by_cases own : owner = customer
  · subst own
    have inPending : AddressCall.saved other owner ∈ pendingOf state.calls owner :=
      List.mem_filter.mpr ⟨called, by simp [AddressCall.isPendingOf]⟩
    cases turns with
    | idle none one =>
        rw [none] at inPending
        cases inPending
    | between key only stood =>
        rw [only, List.mem_singleton] at inPending
        cases inPending
        refine .idle (by rw [pending, only, List.erase_cons_head]) fun _ => ⟨other, ?_, fun key stands => ?_⟩
        · exact saveStands_cleared.mpr ⟨stood, fun others => others.2 rfl⟩
        · have spared := (saveStands_cleared.mp stands).2
          exact (Decidable.byContradiction fun differs => spared ⟨rfl, differs⟩ : other = key).symm
  · have stands (key : Nat) : SaveStands (state.log ++ [.cleared other owner]) customer key ↔
        SaveStands state.log customer key := by
      rw [saveStands_cleared]
      simp [own]
    have same : pendingOf (state.calls.erase (.saved other owner)) customer = pendingOf state.calls customer := by
      rw [pending, List.erase_of_not_mem]
      intro member
      have isOwn := (List.mem_filter.mp member).2
      simp [AddressCall.isPendingOf, own] at isOwn
    cases turns with
    | idle none one =>
        refine .idle (same.trans none) fun succeeded => ?_
        obtain ⟨key, member⟩ := succeeded
        have earlier : Succeeded state.log customer := by
          refine ⟨key, ?_⟩
          simpa [Ne.symm own] using member
        exact (existsUnique_congr stands).mpr (one earlier)
    | between key only stood => exact .between key (same.trans only) ((stands key).mpr stood)

theorem TurnsTaken.step (turns : TurnsTaken customer state) {step : AddressStep Details}
    (takes : step.takesTurns state) : TurnsTaken customer (state.step step) := by
  cases step with
  | create owner details => exact turns.saved takes rfl
  | load owner key edit =>
      simp only [AddressSystem.step]
      split
      · split
        · refine turns.called ?_
          rw [pendingOf, List.filter_cons_of_neg (by simp [AddressCall.isPendingOf]), pendingOf]
        · exact turns
      · exact turns
  | save key address =>
      simp only [AddressSystem.step]
      split
      · exact turns.saved takes (pendingOf_erase_loaded state.calls key address)
      · exact turns
  | enforceSingleDefault key owner =>
      simp only [AddressSystem.step]
      split
      · rename_i called
        exact turns.cleared called
      · exact turns
  | fail call =>
      cases call with
      | saved key owner => exact takes.elim
      | loaded key address => exact turns.called (pendingOf_erase_loaded state.calls key address)

/-- When the requests take turns, one address is the default once they have finished. -/
theorem oneDefault_of_turns (initial : start.Initial) {steps : List (AddressStep Details)}
    (guarded : Guarded AddressSystem.step AddressStep.takesTurns start steps)
    (finished : (runAll AddressSystem.step start steps).calls = [])
    (succeeded : Succeeded (runAll AddressSystem.step start steps).log customer) :
    ∃! key, IsDefault (runAll AddressSystem.step start steps).rows customer key := by
  have initially : TurnsTaken customer start := by
    refine .idle (by rw [initial.1]; rfl) fun ⟨key, member⟩ => ?_
    rw [initial.2] at member
    cases member
  have follow := defaultsFollow_run initial steps
  have turns : TurnsTaken customer (runAll AddressSystem.step start steps) :=
    guarded.invariant (fun _ _ turns takes => turns.step takes) initially
  cases turns with
  | idle none one => exact (existsUnique_congr (follow.isDefault_iff succeeded)).mpr (one succeeded)
  | between key only stood =>
      rw [finished] at only
      cases only

end

end

end PsCore
