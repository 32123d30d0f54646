import PsCore.SystemCore
import PsCore.SerialTexts
import PsCore.Library.SerialCounter
import Mathlib.Data.List.InsertIdx
import PsCore.Library.TransitionRun

/-!
The numbers of the bookings. Every statement of `create_booking` comes between statements of other transactions;
the row of a month's counter is locked from the number to the end of the transaction that has taken it.
-/

namespace PsCore

open Fallible RowTable SerialCounter TransitionRun

/-! `create_booking` in its three parts: the checks, the number, the rows. -/

structure BookingDraft where
  customer : UserId
  request : BookingRequest
  address : Address
  slot : TimeSlot
  user : User
  amounts : BookingAmounts

def prepareBooking (now : Instant) (customer : UserId) (request : BookingRequest) (db : Db) :
    Except ServiceError BookingDraft := do
  let service ← getActiveService db.directory request.serviceId
  let address ← getCustomerAddress db.directory customer request.addressId
  let slot ← lockAndValidateSlot now db request.slotId address request.serviceId
  let user ← orRaise db.directory.users[customer]? (.doesNotExist "User")
  let amounts ← bookingAmounts service.toServiceFields request.quantity
  pure { customer, request, address, slot, user, amounts }

def BookingDraft.booking (draft : BookingDraft) (number : String) : Booking :=
  newBooking number draft.customer draft.request.serviceId draft.request.addressId draft.address
    draft.request.slotId draft.slot draft.request.quantity draft.amounts

def insertBooking (now : Instant) (draft : BookingDraft) (number : String) (db : Db) :
    Except ServiceError (BookingId × Db) := do
  require (db.bookings.all (·.bookingNumber != number) = true) (.integrity "Booking")
  let bookingId := db.bookings.length
  pure (bookingId, { db with
    bookings := db.bookings ++ [draft.booking number]
    statusHistory := db.statusHistory ++ [{
      booking := bookingId
      fromStatus := none
      toStatus := .pendingPayment
      changedBy := some draft.customer
      notes := "Booking created."
    }]
    leads := (linkBookingToLead now db.leads draft.user draft.slot bookingId (draft.booking number)).2 })

theorem createBooking_parts (now : Instant) (customer : UserId) (request : BookingRequest) (db : Db) :
    createBooking now customer request db =
      (prepareBooking now customer request db >>= fun draft =>
        generateBookingNumber now db.bookings db.sequences >>= fun (number, sequences) =>
          insertBooking now draft number { db with sequences }) := by
  simp only [createBooking, prepareBooking, insertBooking, bind_assoc, pure_bind]
  rfl

/-! The transactions. -/

/-- A booking with the date and the serial that its number was made from. -/
structure NumberedBooking where
  numberedOn : Date
  serial : Nat
  booking : Booking

inductive CreateStage
  | idle
  | prepared (draft : BookingDraft)
  /-- The row of the counter is saved; `earlier` is what a rollback of this creation goes back to. -/
  | numbered (draft : BookingDraft) (numberedOn : Date) (serial : Nat) (number : String)
      (earlier : List BookingNumberSequence)

/-- One connection, with the uncommitted rows of its transaction. -/
structure BookingSession where
  bookings : List NumberedBooking
  sequences : List BookingNumberSequence
  stage : CreateStage

def BookingSession.fresh : BookingSession where
  bookings := []
  sequences := []
  stage := .idle

structure BookingNumbers where
  bookings : List NumberedBooking
  sequences : List BookingNumberSequence
  sessions : List BookingSession

/-- The other tables of the database are as they may be when the statement runs. -/
inductive CreationStep
  | prepare (session : Nat) (now : Instant) (customer : UserId) (request : BookingRequest) (rest : Db)
  | number (session : Nat) (now : Instant)
  | insert (session : Nat) (now : Instant) (rest : Db)
  /-- What else may be raised before the creation has returned. -/
  | fail (session : Nat)
  | commit (session : Nat)
  | rollback (session : Nat)

def monthlyCounter : Table BookingNumberSequence String where
  key := BookingNumberSequence.period
  value := BookingNumberSequence.currentSerial

namespace BookingNumbers

def visibleBookings (state : BookingNumbers) (session : BookingSession) : List Booking :=
  (state.bookings ++ session.bookings).map (·.booking)

def view (state : BookingNumbers) (session : BookingSession) (rest : Db) : Db :=
  { rest with
    bookings := state.visibleBookings session
    sequences := monthlyCounter.overlaid session.sequences state.sequences }

def isLocked (state : BookingNumbers) (session : Nat) (period : String) : Bool :=
  (state.sessions.eraseIdx session).any fun other => (monthlyCounter.rowOf period other.sequences).isSome

end BookingNumbers

namespace BookingSession

/-- The creation is rolled back to where it began; the transaction goes on. -/
def failed (session : BookingSession) : BookingSession :=
  match session.stage with
  | .idle => session
  | .prepared _ => { session with stage := .idle }
  | .numbered _ _ _ _ earlier => { session with sequences := earlier, stage := .idle }

def number (now : Instant) (state : BookingNumbers) (draft : BookingDraft) (session : BookingSession) :
    BookingSession :=
  match generateBookingNumber now (state.visibleBookings session)
      (monthlyCounter.overlaid session.sequences state.sequences) with
  | .error _ => session.failed
  | .ok (number, sequences) => match monthlyCounter.rowOf (yearMonth (localDate now)) sequences with
      | none => session.failed
      | some row => { session with
          sequences := monthlyCounter.saved row session.sequences
          stage := .numbered draft (localDate now) row.currentSerial number session.sequences }

end BookingSession

namespace BookingNumbers

def step (state : BookingNumbers) : CreationStep → BookingNumbers
  | .prepare position now customer request rest => match state.sessions[position]? with
      | some session => match session.stage, prepareBooking now customer request (state.view session rest) with
          | .idle, .ok draft =>
              { state with sessions := state.sessions.set position { session with stage := .prepared draft } }
          | _, _ => state
      | none => state
  | .number position now => match state.sessions[position]? with
      | some session => match session.stage with
          | .prepared draft =>
              if state.isLocked position (yearMonth (localDate now)) then state
              else { state with sessions := state.sessions.set position (session.number now state draft) }
          | _ => state
      | none => state
  | .insert position now rest => match state.sessions[position]? with
      | some session => match session.stage with
          | .numbered draft numberedOn serial number _ =>
              match insertBooking now draft number (state.view session rest) with
              | .error _ => { state with sessions := state.sessions.set position session.failed }
              | .ok _ =>
                  let made := { numberedOn, serial, booking := draft.booking number }
                  let next := { session with bookings := session.bookings ++ [made], stage := .idle }
                  { state with sessions := state.sessions.set position next }
          | _ => state
      | none => state
  | .fail position => match state.sessions[position]? with
      | some session => { state with sessions := state.sessions.set position session.failed }
      | none => state
  | .commit position => match state.sessions[position]? with
      | some session => match session.stage with
          | .idle => {
              bookings := state.bookings ++ session.bookings
              sequences := monthlyCounter.overlaid session.sequences state.sequences
              sessions := state.sessions.set position .fresh }
          | _ => state
      | none => state
  | .rollback position => match state.sessions[position]? with
      | some _ => { state with sessions := state.sessions.set position .fresh }
      | none => state

def Initial (state : BookingNumbers) : Prop :=
  state.bookings = [] ∧ state.sequences = [] ∧ ∀ session ∈ state.sessions, session = .fresh

end BookingNumbers

/-- The date on which a number is generated lies in the century. -/
def CreationStep.isIn (century : Nat) : CreationStep → Bool
  | .number _ now => (civil (localDate now)).1 / 100 == century
  | _ => true

def NumberedBooking.isIn (month : Nat × Nat) (numbered : NumberedBooking) : Bool :=
  monthOf numbered.numberedOn == month

structure NumberedGaplessly (century : Nat) (state : BookingNumbers) : Prop where
  distinct : (state.bookings.map (·.booking.bookingNumber)).Nodup
  formed : ∀ numbered ∈ state.bookings, ∃ period serial : String, period.length = 4 ∧ serial.length = 4 ∧
    period.toList.all Char.isDigit = true ∧ serial.toList.all Char.isDigit = true ∧
    period = yearMonth numbered.numberedOn ∧ numbered.booking.bookingNumber = "PS" ++ period ++ serial
  gapless : ∀ date, (civil date).1 / 100 = century →
    let month := state.bookings.filter (·.isIn (monthOf date))
    month.map (·.booking.bookingNumber) =
      (List.range' 1 month.length).map (fun serial => "PS" ++ yearMonth date ++ padded 4 serial) ∧
    month.length ≤ 9999
  unspent : ∀ session ∈ state.sessions, session.stage matches .idle | .prepared _ →
    ∀ date, (civil date).1 / 100 = century →
    ((monthlyCounter.rowOf (yearMonth date) (monthlyCounter.overlaid session.sequences state.sequences)).map
      (·.currentSerial)).getD 0 =
      ((state.bookings ++ session.bookings).filter (·.isIn (monthOf date))).length

def NumberedBooking.entry (numbered : NumberedBooking) : String × Nat :=
  (yearMonth numbered.numberedOn, numbered.serial)

structure NumberedBooking.Formed (century : Nat) (numbered : NumberedBooking) : Prop where
  dated : (civil numbered.numberedOn).1 / 100 = century
  bounded : numbered.serial ≤ 9999
  number : numbered.booking.bookingNumber = "PS" ++ yearMonth numbered.numberedOn ++ padded 4 numbered.serial

section

variable {now : Instant} {period : String} {own : List (String × Nat)} {rows sequences : List BookingNumberSequence}
  {bookings : List Booking} {number : String}

theorem firstRow_rowOf :
    (firstRow (·.period == period) rows).map (·.2) = monthlyCounter.rowOf period rows := by
  induction rows with
  | nil => rfl
  | cons row rest ih =>
      simp only [firstRow, Table.rowOf, List.find?_cons, monthlyCounter, beq_iff_eq]
      by_cases isPeriod : row.period = period
      · simp [isPeriod]
      · simp only [isPeriod, if_false, decide_false, Option.map_map]
        exact ih

theorem rowOf_set {key : Nat} {row later : BookingNumberSequence}
    (found : firstRow (·.period == period) rows = some (key, row)) (same : later.period = period) :
    monthlyCounter.rowOf period (rows.set key later) = some later := by
  induction rows generalizing key with
  | nil => cases found
  | cons head rest ih =>
      simp only [firstRow, beq_iff_eq] at found
      split at found
      · cases found
        simp [Table.rowOf, monthlyCounter, same]
      · rename_i differs
        cases inRest : firstRow (·.period == period) rest with
        | none => simp [inRest] at found
        | some entry =>
            rw [inRest] at found
            cases found
            rw [List.set_cons_succ, Table.rowOf, List.find?_cons]
            simp only [monthlyCounter, differs, decide_false]
            exact ih inRest

theorem latestSerial_zero (absent : ∀ booking ∈ bookings, ¬ ("PS" ++ period).toList <+: booking.bookingNumber.toList) :
    latestSerial bookings period = 0 := by
  have none_ : (bookings.map (·.bookingNumber.toList)).filter ("PS" ++ period).toList.isPrefixOf = [] := by
    rw [List.filter_eq_nil_iff]
    intro number member isPrefix
    obtain ⟨booking, isBooking, rfl⟩ := List.mem_map.mp member
    exact absent booking isBooking (List.isPrefixOf_iff_prefix.mp isPrefix)
  simp only [latestSerial, none_, List.foldl_nil]

theorem generateBookingNumber_next (counted : monthlyCounter.Counts [] own rows)
    (absent : serials (yearMonth (localDate now)) own = [] →
      ∀ booking ∈ bookings, ¬ ("PS" ++ yearMonth (localDate now)).toList <+: booking.bookingNumber.toList)
    (generated : generateBookingNumber now bookings rows = .ok (number, sequences)) :
    (serials (yearMonth (localDate now)) own).length < 9999 ∧
      number = "PS" ++ yearMonth (localDate now) ++
        padded 4 ((serials (yearMonth (localDate now)) own).length + 1) ∧
      monthlyCounter.rowOf (yearMonth (localDate now)) sequences =
        some ⟨yearMonth (localDate now), (serials (yearMonth (localDate now)) own).length + 1⟩ := by
  generalize isPeriod : yearMonth (localDate now) = period at absent ⊢
  have count := counted period
  rw [← firstRow_rowOf] at count
  simp only [generateBookingNumber, isPeriod] at generated
  cases found : firstRow (·.period == period) rows with
  | none =>
      have noRow : monthlyCounter.rowOf period rows = none := by
        rw [← firstRow_rowOf, found]
        rfl
      have empty := counted.rowOf_none noRow
      simp only [found, latestSerial_zero (absent empty), accepted_bind, accepted_require, accepted_pure,
        Prod.mk.injEq] at generated
      obtain ⟨_, _, isNumber, isRows⟩ := generated
      rw [empty]
      refine ⟨by decide, isNumber.symm, ?_⟩
      rw [← isRows, List.set_append_right _ _ (Nat.le_refl _), Nat.sub_self, List.set_cons_zero]
      rw [Table.rowOf] at noRow ⊢
      rw [List.find?_append, noRow]
      simp [monthlyCounter]
  | some entry =>
      obtain ⟨key, row⟩ := entry
      have isRow : row.period = period := beq_iff_eq.mp (firstRow_some found).2
      rw [found] at count
      by_cases empty : serials period own = []
      · simp [empty] at count
      · simp only [found, accepted_bind, accepted_require, accepted_pure, Prod.mk.injEq] at generated
        obtain ⟨_, bounded, isNumber, isRows⟩ := generated
        simp only [Option.map_some, empty, if_false, serials_nil, List.length_nil, Nat.zero_add,
          Option.some.injEq] at count
        have serial : row.currentSerial = (serials period own).length := count
        rw [serial] at bounded isNumber isRows
        refine ⟨bounded, isNumber.symm, ?_⟩
        rw [← isRows, isRow]
        exact rowOf_set found rfl

end

namespace BookingSession

def inHand (session : BookingSession) : Option NumberedBooking :=
  match session.stage with
  | .numbered draft numberedOn serial number _ => some { numberedOn, serial, booking := draft.booking number }
  | .idle | .prepared _ => none

def held (session : BookingSession) : List NumberedBooking :=
  session.bookings ++ session.inHand.toList

def savepoint (session : BookingSession) : Option (Nat × List BookingNumberSequence) :=
  match session.stage with
  | .numbered _ _ _ _ earlier => some (session.bookings.length, earlier)
  | .idle | .prepared _ => none

def transaction (session : BookingSession) : Transaction BookingNumberSequence String where
  taken := session.held.map (·.entry)
  rows := session.sequences
  savepoint := session.savepoint

end BookingSession

def BookingNumbers.office (state : BookingNumbers) : Office BookingNumberSequence String where
  issued := state.bookings.map (·.entry)
  rows := state.sequences
  transactions := state.sessions.map (·.transaction)

structure WellNumbered (century : Nat) (state : BookingNumbers) : Prop where
  kept : state.office.Kept monthlyCounter
  formed : ∀ numbered ∈ state.bookings, numbered.Formed century
  held : ∀ session ∈ state.sessions, ∀ numbered ∈ session.held, numbered.Formed century

section

variable {century position : Nat} {state : BookingNumbers} {session later : BookingSession} {now : Instant}
  {draft : BookingDraft}

theorem transaction_found (found : state.sessions[position]? = some session) :
    state.office.transactions[position]? = some session.transaction := by
  simp [BookingNumbers.office, found]

theorem held_idle (noneInHand : session.inHand = none) : session.held = session.bookings := by
  rw [BookingSession.held, noneInHand, Option.toList_none, List.append_nil]

theorem WellNumbered.goesOn (well : WellNumbered century state)
    (kept : Office.Kept monthlyCounter
      { state.office with transactions := state.office.transactions.set position later.transaction })
    (formed : ∀ numbered ∈ later.held, numbered.Formed century) :
    WellNumbered century { state with sessions := state.sessions.set position later } := by
  refine ⟨?_, well.formed, fun other member => ?_⟩
  · rw [BookingNumbers.office, List.map_set]
    exact kept
  · rcases List.mem_or_eq_of_mem_set member with member | rfl
    · exact well.held other member
    · exact formed

theorem WellNumbered.restages (well : WellNumbered century state) (found : state.sessions[position]? = some session)
    (held : later.held = session.held) (sequences : later.sequences = session.sequences)
    (savepoint : later.savepoint = none) :
    WellNumbered century { state with sessions := state.sessions.set position later } := by
  refine well.goesOn (well.kept.releases (transaction_found found) ?_ sequences savepoint) ?_
  · exact congrArg (List.map (·.entry)) held
  · rw [held]
    exact well.held session (List.mem_of_getElem? found)

theorem WellNumbered.fails (well : WellNumbered century state) (found : state.sessions[position]? = some session) :
    WellNumbered century { state with sessions := state.sessions.set position session.failed } := by
  unfold BookingSession.failed
  split
  · rename_i isStage
    refine well.restages found rfl rfl ?_
    rw [BookingSession.savepoint, isStage]
  · rename_i isStage
    refine well.restages found ?_ rfl rfl
    simp [BookingSession.held, BookingSession.inHand, isStage]
  · rename_i draft numberedOn serial number earlier isStage
    have held : session.held.take session.bookings.length = session.bookings := List.take_left
    have present : session.transaction.savepoint = some (session.bookings.length, earlier) := by
      simp only [BookingSession.transaction, BookingSession.savepoint, isStage]
    refine well.goesOn (well.kept.goesBack (transaction_found found) present ?_ rfl rfl) fun numbered member => ?_
    · simp [BookingSession.transaction, BookingSession.held, BookingSession.inHand]
    · refine well.held session (List.mem_of_getElem? found) numbered (List.mem_append_left _ ?_)
      simpa [BookingSession.held, BookingSession.inHand] using member

theorem WellNumbered.discards (well : WellNumbered century state) (found : state.sessions[position]? = some session) :
    WellNumbered century { state with sessions := state.sessions.set position .fresh } := by
  refine well.goesOn (well.kept.discards (transaction_found found)) fun numbered member => ?_
  cases member

theorem absent_visible (well : WellNumbered century state) (member : session ∈ state.sessions)
    (noneInHand : session.inHand = none) {date : Date}
    (empty : serials (yearMonth date) (state.office.issued ++ session.transaction.taken) = []) :
    ∀ booking ∈ state.visibleBookings session,
      ¬ ("PS" ++ yearMonth date).toList <+: booking.bookingNumber.toList := by
  intro booking visible isPrefix
  obtain ⟨numbered, isNumbered, rfl⟩ := List.mem_map.mp visible
  have held := held_idle noneInHand
  have formed : numbered.Formed century := by
    rcases List.mem_append.mp isNumbered with committed | own
    · exact well.formed numbered committed
    · exact well.held session member numbered (held ▸ own)
  have isEntry : numbered.entry ∈ state.office.issued ++ session.transaction.taken := by
    rw [BookingNumbers.office, BookingSession.transaction, held, ← List.map_append]
    exact List.mem_map_of_mem isNumbered
  rw [formed.number, String.toList_append, String.toList_append, String.toList_append, List.append_assoc,
    List.prefix_append_right_inj] at isPrefix
  have sizes : (yearMonth date).toList.length = (yearMonth numbered.numberedOn).toList.length := by
    rw [yearMonth_length, yearMonth_length]
  have same := List.IsPrefix.eq_of_length (List.prefix_of_prefix_length_le isPrefix (List.prefix_append _ _)
    (Nat.le_of_eq sizes)) sizes
  exact serials_eq_nil.mp empty numbered.entry isEntry (String.toList_injective same).symm

theorem WellNumbered.numbers (well : WellNumbered century state) (found : state.sessions[position]? = some session)
    (isStage : session.stage = .prepared draft)
    (free : state.isLocked position (yearMonth (localDate now)) = false)
    (dated : (civil (localDate now)).1 / 100 = century) :
    WellNumbered century { state with sessions := state.sessions.set position (session.number now state draft) } := by
  have member := List.mem_of_getElem? found
  have noneInHand : session.inHand = none := by simp [BookingSession.inHand, isStage]
  have held := held_idle noneInHand
  have counted := well.kept.rows session.transaction (List.mem_of_getElem? (transaction_found found))
  unfold BookingSession.number
  split
  · exact well.fails found
  · rename_i number sequences generated
    obtain ⟨bounded, isNumber, isRow⟩ := generateBookingNumber_next (counted.overlaid well.kept.counters)
      (fun empty => absent_visible well member noneInHand empty) generated
    rw [isRow]
    have unlocked : ∀ other ∈ state.office.transactions.eraseIdx position,
        monthlyCounter.rowOf (yearMonth (localDate now)) other.rows = none := by
      intro other isOther
      rw [BookingNumbers.office, List.eraseIdx_map] at isOther
      obtain ⟨holder, isHolder, rfl⟩ := List.mem_map.mp isOther
      have unlocked := List.any_eq_false.mp free holder isHolder
      rwa [Bool.not_eq_true, Option.isSome_eq_false_iff, Option.isNone_iff_eq_none] at unlocked
    refine well.goesOn (well.kept.takes (transaction_found found) unlocked rfl rfl ?_ rfl ?_) fun numbered isHeld => ?_
    · simp only [BookingSession.transaction, BookingSession.held, noneInHand, Option.toList_none, List.append_nil]
      rw [List.map_append]
      rfl
    · simp only [BookingSession.transaction, held, List.length_map]
      rfl
    · rcases List.mem_append.mp isHeld with own | inHand
      · exact well.held session member numbered (held ▸ own)
      · cases List.mem_singleton.mp inHand
        exact ⟨dated, bounded, isNumber⟩

theorem WellNumbered.commits (well : WellNumbered century state) (found : state.sessions[position]? = some session)
    (noneInHand : session.inHand = none) : WellNumbered century {
      bookings := state.bookings ++ session.bookings
      sequences := monthlyCounter.overlaid session.sequences state.sequences
      sessions := state.sessions.set position .fresh } := by
  have held := held_idle noneInHand
  refine ⟨?_, fun numbered member => ?_, (well.discards found).held⟩
  · have committed := well.kept.commits (transaction_found found)
    rw [BookingNumbers.office, List.map_append, List.map_set, ← held]
    exact committed
  · rcases List.mem_append.mp member with committed | own
    · exact well.formed numbered committed
    · exact well.held session (List.mem_of_getElem? found) numbered (held ▸ own)

theorem WellNumbered.step (well : WellNumbered century state) {input : CreationStep}
    (dated : input.isIn century = true) : WellNumbered century (state.step input) := by
  cases input with
  | prepare position now customer request rest =>
      simp only [BookingNumbers.step]
      split
      · rename_i session found
        split
        · rename_i draft isStage prepared
          refine well.restages found ?_ rfl rfl
          simp [BookingSession.held, BookingSession.inHand, isStage]
        · exact well
      · exact well
  | number position now =>
      simp only [BookingNumbers.step]
      split
      · rename_i session found
        split
        · rename_i draft isStage
          split
          · exact well
          · rename_i free
            exact well.numbers found isStage (Bool.eq_false_iff.mpr free) (beq_iff_eq.mp dated)
        · exact well
      · exact well
  | insert position now rest =>
      simp only [BookingNumbers.step]
      split
      · rename_i session found
        split
        · rename_i draft numberedOn serial number earlier isStage
          split
          · exact well.fails found
          · refine well.restages found ?_ rfl rfl
            simp [BookingSession.held, BookingSession.inHand, isStage]
        · exact well
      · exact well
  | fail position =>
      simp only [BookingNumbers.step]
      split
      · exact well.fails ‹_›
      · exact well
  | commit position =>
      simp only [BookingNumbers.step]
      split
      · rename_i session found
        split
        · rename_i isStage
          exact well.commits found (by simp [BookingSession.inHand, isStage])
        · exact well
      · exact well
  | rollback position =>
      simp only [BookingNumbers.step]
      split
      · exact well.discards ‹_›
      · exact well

theorem wellNumbered_initial (initial : state.Initial) : WellNumbered century state := by
  obtain ⟨noBookings, noSequences, fresh⟩ := initial
  have transactions : state.office.transactions = List.replicate state.sessions.length .fresh := by
    refine List.eq_replicate_iff.mpr ⟨by simp [BookingNumbers.office], fun transaction member => ?_⟩
    obtain ⟨session, isSession, rfl⟩ := List.mem_map.mp member
    rw [fresh session isSession]
    rfl
  refine ⟨?_, fun numbered member => ?_, fun session member numbered isHeld => ?_⟩
  · have empty := Office.kept_empty monthlyCounter state.sessions.length
    rw [← transactions] at empty
    rw [BookingNumbers.office, noBookings, noSequences]
    exact empty
  · rw [noBookings] at member
    cases member
  · rw [fresh session member] at isHeld
    cases isHeld

theorem NumberedBooking.Formed.isIn_iff {numbered : NumberedBooking} (formed : numbered.Formed century) {date : Date}
    (dated : (civil date).1 / 100 = century) :
    numbered.isIn (monthOf date) = decide (numbered.entry.1 = yearMonth date) := by
  rw [Bool.eq_iff_iff, decide_eq_true_eq, NumberedBooking.isIn, beq_iff_eq, NumberedBooking.entry,
    yearMonth_eq_iff (formed.dated.trans dated.symm)]

theorem serials_month {rows : List NumberedBooking} (formed : ∀ numbered ∈ rows, numbered.Formed century) {date : Date}
    (dated : (civil date).1 / 100 = century) :
    serials (yearMonth date) (rows.map (·.entry)) = (rows.filter (·.isIn (monthOf date))).map (·.serial) := by
  rw [serials, List.filter_map, List.map_map,
    List.filter_congr fun numbered member => (formed numbered member).isIn_iff dated]
  rfl

theorem formed_injective {left right : NumberedBooking} (formedLeft : left.Formed century)
    (formedRight : right.Formed century) (same : left.booking.bookingNumber = right.booking.bookingNumber) :
    left.entry = right.entry := by
  rw [formedLeft.number, formedRight.number, String.append_assoc, String.append_assoc] at same
  have characters : (yearMonth left.numberedOn ++ padded 4 left.serial).toList =
      (yearMonth right.numberedOn ++ padded 4 right.serial).toList :=
    congrArg String.toList ((String.append_right_inj "PS").mp same)
  rw [String.toList_append, String.toList_append] at characters
  obtain ⟨periods, serials⟩ := List.append_inj characters (by rw [yearMonth_length, yearMonth_length])
  rw [NumberedBooking.entry, NumberedBooking.entry, String.toList_injective periods,
    padded_injective (String.toList_injective serials)]

theorem WellNumbered.numberedGaplessly (well : WellNumbered century state) : NumberedGaplessly century state where
  distinct := by
    have entries := well.kept.gapless.nodup
    rw [List.Nodup, Office.book, BookingNumbers.office, List.pairwise_map] at entries
    rw [List.Nodup, List.pairwise_map]
    refine entries.imp_of_mem fun {left right} isLeft isRight differ same => differ ?_
    exact formed_injective (well.formed left isLeft) (well.formed right isRight) same
  formed := by
    intro numbered member
    have formed := well.formed numbered member
    have short : numbered.serial < 10000 := Nat.lt_succ_of_le formed.bounded
    exact ⟨yearMonth numbered.numberedOn, padded 4 numbered.serial, yearMonth_length _, padded_four_length short,
      yearMonth_isDigit _, padded_isDigit _ _, rfl, formed.number⟩
  gapless := by
    intro date dated
    have serialsEq := serials_month well.formed dated
    have contiguous := well.kept.gapless.issued (yearMonth date)
    rw [Office.book, BookingNumbers.office, serialsEq, List.length_map] at contiguous
    constructor
    · rw [← contiguous, List.map_map]
      refine List.map_congr_left fun numbered member => ?_
      obtain ⟨isRow, isMonth⟩ := List.mem_filter.mp member
      have formed := well.formed numbered isRow
      rw [formed.isIn_iff dated, decide_eq_true_eq] at isMonth
      rw [formed.number, Function.comp_apply, ← isMonth, NumberedBooking.entry]
    · cases size : (state.bookings.filter (·.isIn (monthOf date))).length with
      | zero => exact Nat.zero_le _
      | succ rest =>
          have last : rest + 1 ∈ (state.bookings.filter (·.isIn (monthOf date))).map (·.serial) := by
            rw [contiguous, size, List.mem_range'_1]
            omega
          obtain ⟨numbered, member, isLast⟩ := List.mem_map.mp last
          rw [← isLast]
          exact (well.formed numbered (List.mem_of_mem_filter member)).bounded
  unspent := by
    intro session member stage date dated
    have held : session.held = session.bookings := by
      cases isStage : session.stage with
      | idle | prepared => simp [BookingSession.held, BookingSession.inHand, isStage]
      | numbered => simp [isStage] at stage
    have formed : ∀ numbered ∈ state.bookings ++ session.bookings, numbered.Formed century := by
      intro numbered isRow
      rcases List.mem_append.mp isRow with committed | own
      · exact well.formed numbered committed
      · exact well.held session member numbered (held ▸ own)
    have counted := well.kept.rows session.transaction (List.mem_map_of_mem member)
    have counts : (monthlyCounter.rowOf (yearMonth date) (monthlyCounter.overlaid session.sequences
      state.sequences)).map (·.currentSerial) = _ := counted.overlaid well.kept.counters (yearMonth date)
    rw [BookingNumbers.office, BookingSession.transaction, held, ← List.map_append, serials_month formed dated,
      serials_nil, List.length_nil, Nat.zero_add, List.length_map] at counts
    rw [counts]
    split
    · rename_i empty
      rw [List.map_eq_nil_iff.mp empty]
      rfl
    · rfl

end

/-- Booking numbers are unique and gapless, however the transactions come between one another. -/
theorem numberedGaplessly_run {start : BookingNumbers} (initial : start.Initial) {century : Nat}
    {steps : List CreationStep} (dated : ∀ input ∈ steps, input.isIn century = true) :
    NumberedGaplessly century (runAll BookingNumbers.step start steps) := by
  have guarded : Guarded BookingNumbers.step (fun _ input => input.isIn century = true) start steps :=
    .of_forall dated
  exact (guarded.invariant (fun _ _ well => well.step) (wellNumbered_initial initial)).numberedGaplessly

/-- One customer's creation is rolled back while another's waits for the counter. -/
theorem numberedGaplessly_run_rolledBack :
    let request (customer : UserId) : BookingRequest :=
      { serviceId := 0, addressId := customer, slotId := 0, quantity := 1 }
    NumberedGaplessly 20 (runAll BookingNumbers.step ⟨[], [], [.fresh, .fresh]⟩
      [.prepare 0 sampleNow 0 (request 0) sampleSystem.db, .prepare 1 sampleNow 1 (request 1) sampleSystem.db,
        .number 0 sampleNow, .number 1 sampleNow, .rollback 0, .number 1 sampleNow,
        .insert 1 sampleNow sampleSystem.db, .commit 1]) :=
  numberedGaplessly_run ⟨rfl, rfl, by simp⟩ (by decide)

end PsCore
