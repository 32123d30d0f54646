import PsCore.Effects
import PsCore.SaveableLeads

/-!
Requests that turn one lead into a work order. The view loads the lead before the transaction starts, and whether it
is a work order already is asked of the loaded object.
-/

namespace PsCore

open Fallible RowTable TransitionRun

inductive ConvertStep
  | loadLead
  | loadBooking (bookingId : BookingId)
  | convert (now : Instant) (lead : Nat) (performedBy : Option UserId) (booking : Option Nat) (notes : String)

def ConvertStep.op (leadId : LeadId) : ConvertStep → Op
  | .loadLead => .loadLead leadId
  | .loadBooking bookingId => .loadBooking bookingId
  | .convert now lead performedBy booking notes => .convertLeadToWorkOrder now lead performedBy booking notes

def ConvertStep.run (settings : Settings) (leadId : LeadId) (state : System) (step : ConvertStep) : System :=
  System.step settings state (step.op leadId)

/-- The lead was converted after the request had loaded it. -/
def ConvertStep.outdated (leadId : LeadId) (state : System) : ConvertStep → Bool
  | .convert _ lead _ _ _ => (state.loadedLeads[lead]?).any fun loaded =>
      !loaded.lead.isConverted && (state.db.leads[leadId]?).any Lead.isConverted
  | _ => false

/-- The lead becomes one work order, and whoever converts it again is answered with that one. -/
structure ConvertedOnce (settings : Settings) (leadId : LeadId) (start : System) (steps : List ConvertStep) : Prop where
  created : (runAll (ConvertStep.run settings leadId) start steps).db.bookings.length ≤ start.db.bookings.length + 1
  repeated : ∀ earlier now lead performedBy booking notes middle nowAgain again performedAgain bookingAgain notesAgain
      later answer next loaded, steps = earlier ++ .convert now lead performedBy booking notes :: (middle ++
        .convert nowAgain again performedAgain bookingAgain notesAgain :: later) →
    (runAll (ConvertStep.run settings leadId) start earlier).convert now lead performedBy booking notes =
      .ok (answer, next) →
    (runAll (ConvertStep.run settings leadId) start
      (earlier ++ .convert now lead performedBy booking notes :: middle)).loadedLeads[again]? = some loaded →
    (∀ position, bookingAgain = some position → ((runAll (ConvertStep.run settings leadId) start
      (earlier ++ .convert now lead performedBy booking notes :: middle)).loadedBookings[position]?).isSome = true) →
    ∃ answerAgain nextAgain, (runAll (ConvertStep.run settings leadId) start
        (earlier ++ .convert now lead performedBy booking notes :: middle)).convert nowAgain again performedAgain
          bookingAgain notesAgain = .ok (answerAgain, nextAgain) ∧
      answerAgain.convertedBooking = answer.convertedBooking

def StoredAs (leadId : LeadId) (bookingId : Option BookingId) (db : Db) : Prop :=
  ∃ lead, db.leads[leadId]? = some lead ∧ lead.isConverted = true ∧ lead.convertedBooking = bookingId

/-- Whoever has loaded a work order has loaded the stored one, and before there is one nothing was created. -/
structure OneWorkOrder (leadId : LeadId) (count : Nat) (state : System) : Prop where
  loaded : ∀ loaded ∈ state.loadedLeads, loaded.leadId = leadId ∧
    (loaded.lead.isConverted = true → StoredAs leadId loaded.lead.convertedBooking state.db)
  created : state.db.bookings.length ≤ count ∨
    state.db.bookings.length = count + 1 ∧ ∃ bookingId, StoredAs leadId bookingId state.db

section

variable {settings : Settings} {leadId : LeadId} {state : System} {now : Instant} {performedBy : Option UserId}
  {notes : String} {count : Nat}

theorem StoredAs.unique {first second : Option BookingId} {db : Db} (storedFirst : StoredAs leadId first db)
    (storedSecond : StoredAs leadId second db) : first = second := by
  obtain ⟨lead, found, _, isFirst⟩ := storedFirst
  obtain ⟨other, foundOther, _, isSecond⟩ := storedSecond
  rw [found, Option.some.injEq] at foundOther
  rw [← isFirst, ← isSecond, foundOther]

theorem saveConvertedLead_stores {loaded : LoadedLead} {object : LoadedBooking} {leads next : List Lead} {lead : Lead}
    (accepted : saveConvertedLead now loaded object notes leads = .ok (lead, next)) :
    lead.isConverted = true ∧ ∃ row, next[loaded.leadId]? = some row ∧ row.isConverted = true ∧
      row.convertedBooking = lead.convertedBooking := by
  obtain ⟨row, internalNotes, found, rfl, stored⟩ := saveConvertedLead_saves accepted
  obtain ⟨_, rfl⟩ := saveLead_accepted stored
  exact ⟨rfl, _, List.getElem?_set_self (List.getElem?_eq_some_iff.mp found).1, rfl, rfl⟩

theorem workOrderBooking_length {loaded : LoadedLead} {booking : Option LoadedBooking} {object : LoadedBooking}
    {db next : Db} (accepted : workOrderBooking now loaded booking db = .ok (object, next)) :
    next.bookings.length ≤ db.bookings.length + 1 := by
  cases booking with
  | some object =>
      obtain ⟨_, row, _, rfl⟩ := workOrderBooking_given accepted
      simp
  | none =>
      obtain ⟨made, service, created, _, _, rfl⟩ := workOrderBooking_new accepted
      obtain ⟨middle, fresh, _, _, untouched, _, _, _, _, bookings, _⟩ := createBookingFromLead_accepted created
      simp [bookings, untouched]

theorem convertLeadToWorkOrder_stores {loaded : LoadedLead} {booking : Option LoadedBooking} {db next : Db}
    {lead : Lead} (unconverted : loaded.lead.isConverted = false)
    (accepted : convertLeadToWorkOrder now loaded performedBy booking notes db = .ok (lead, next)) :
    StoredAs loaded.leadId lead.convertedBooking next ∧ next.bookings.length ≤ db.bookings.length + 1 := by
  rcases convertLeadToWorkOrder_cases accepted with ⟨converted, _, _⟩ |
    ⟨object, booked, leads, _, ordered, stored, rfl⟩
  · rw [unconverted] at converted
    cases converted
  · obtain ⟨_, row, found, isConverted, same⟩ := saveConvertedLead_stores stored
    have length : booked.bookings.length ≤ db.bookings.length + 1 := workOrderBooking_length ordered
    exact ⟨⟨row, found, isConverted, same⟩, length⟩

theorem convert_accepted {position : Nat} {booking : Option Nat} {lead : Lead} {next : Db}
    (accepted : state.convert now position performedBy booking notes = .ok (lead, next)) :
    ∃ loaded object, state.loadedLeads[position]? = some loaded ∧
      convertLeadToWorkOrder now loaded performedBy object notes state.db = .ok (lead, next) := by
  simp only [System.convert, accepted_bind, accepted_orRaise] at accepted
  obtain ⟨loaded, found, converted⟩ := accepted
  cases booking with
  | none => exact ⟨loaded, none, found, converted⟩
  | some position =>
      simp only [accepted_bind, accepted_orRaise] at converted
      obtain ⟨object, _, converted⟩ := converted
      exact ⟨loaded, some object, found, converted⟩

theorem convert_converted {position : Nat} {booking : Option Nat} {loaded : LoadedLead}
    (found : state.loadedLeads[position]? = some loaded) (isConverted : loaded.lead.isConverted = true)
    (present : ∀ position, booking = some position → (state.loadedBookings[position]?).isSome = true) :
    state.convert now position performedBy booking notes = .ok (loaded.lead, state.db) := by
  cases booking with
  | none => simp [System.convert, found, orRaise, bind, Except.bind, convertLeadToWorkOrder, isConverted]
  | some other =>
      obtain ⟨object, foundObject⟩ := Option.isSome_iff_exists.mp (present other rfl)
      simp [System.convert, found, foundObject, orRaise, bind, Except.bind, convertLeadToWorkOrder, isConverted]

theorem OneWorkOrder.convert {position : Nat} {booking : Option Nat} {lead : Lead} {next : Db}
    (one : OneWorkOrder leadId count state)
    (current : ConvertStep.outdated leadId state (.convert now position performedBy booking notes) = false)
    (accepted : state.convert now position performedBy booking notes = .ok (lead, next)) :
    OneWorkOrder leadId count { state with db := next } ∧ StoredAs leadId lead.convertedBooking next := by
  obtain ⟨loaded, object, found, converted⟩ := convert_accepted accepted
  obtain ⟨ofLead, known⟩ := one.loaded loaded (List.mem_of_getElem? found)
  rcases convertLeadToWorkOrder_cases converted with ⟨isConverted, rfl, rfl⟩ | ⟨_, _, _, isConverted, _⟩
  · exact ⟨one, known isConverted⟩
  · -- the loaded object does not know of a work order, so there is none yet
      obtain ⟨stored, length⟩ := convertLeadToWorkOrder_stores isConverted converted
      rw [ofLead] at stored
      simp only [ConvertStep.outdated, found, isConverted, Option.any_some, Bool.not_false, Bool.true_and] at current
      have fresh : ∀ bookingId, ¬ StoredAs leadId bookingId state.db := by
        rintro bookingId ⟨row, foundRow, isStored, _⟩
        rw [foundRow, Option.any_some, isStored] at current
        cases current
      refine ⟨⟨fun other member => ?_, ?_⟩, stored⟩
      · obtain ⟨ofLead, known⟩ := one.loaded other member
        exact ⟨ofLead, fun isConverted => (fresh _ (known isConverted)).elim⟩
      · rcases one.created with small | ⟨_, bookingId, already⟩
        · rcases Nat.lt_or_ge count next.bookings.length with more | less
          · exact .inr ⟨Nat.le_antisymm (Nat.le_trans length (Nat.succ_le_succ small)) more, _, stored⟩
          · exact .inl less
        · exact (fresh bookingId already).elim

theorem OneWorkOrder.step (one : OneWorkOrder leadId count state) (step : ConvertStep)
    (current : step.outdated leadId state = false) : OneWorkOrder leadId count (step.run settings leadId state) := by
  cases step with
  | loadLead =>
      simp only [ConvertStep.run, ConvertStep.op, System.step]
      split
      · rename_i loaded accepted
        simp only [PsCore.loadLead, accepted_bind, accepted_orRaise, accepted_pure] at accepted
        obtain ⟨row, found, rfl⟩ := accepted
        refine ⟨fun other member => ?_, one.created⟩
        rcases List.mem_append.mp member with old | new
        · exact one.loaded other old
        · rw [List.mem_singleton.mp new]
          exact ⟨rfl, fun isConverted => ⟨row, found, isConverted, rfl⟩⟩
      · exact one
  | loadBooking bookingId =>
      simp only [ConvertStep.run, ConvertStep.op, System.step]
      split
      · exact ⟨one.loaded, one.created⟩
      · exact one
  | convert now position performedBy booking notes =>
      simp only [ConvertStep.run, ConvertStep.op, System.step, System.commit]
      cases outcome : state.convert now position performedBy booking notes with
      | error error => exact one
      | ok result => exact (one.convert current outcome).1

theorem StoredAs.kept {bookingId : Option BookingId} (stored : StoredAs leadId bookingId state.db) (step : ConvertStep)
    (current : step.outdated leadId state = false) :
    StoredAs leadId bookingId (step.run settings leadId state).db := by
  cases step with
  | loadLead =>
      simp only [ConvertStep.run, ConvertStep.op, System.step]
      split <;> exact stored
  | loadBooking bookingId =>
      simp only [ConvertStep.run, ConvertStep.op, System.step]
      split <;> exact stored
  | convert now position performedBy booking notes =>
      simp only [ConvertStep.run, ConvertStep.op, System.step, System.commit]
      cases outcome : state.convert now position performedBy booking notes with
      | error error => exact stored
      | ok result =>
          obtain ⟨loaded, object, found, converted⟩ := convert_accepted outcome
          obtain ⟨row, foundRow, isStored, _⟩ := id stored
          have isConverted : loaded.lead.isConverted = true := by
            simpa [ConvertStep.outdated, found, foundRow, isStored] using current
          simp only [convertLeadToWorkOrder, isConverted, ↓reduceIte, Except.ok.injEq] at converted
          obtain ⟨_, same⟩ := Prod.mk.inj converted
          exact same ▸ stored

end

/-- A lead becomes one work order in every run in which no request converts it that has loaded it before it was
converted. -/
theorem convertedOnce_run {settings : Settings} {leadId : LeadId} {start : System} {steps : List ConvertStep}
    (idle : start.loadedLeads = [])
    (current : Guarded (ConvertStep.run settings leadId) (fun state step => step.outdated leadId state = false) start
      steps) : ConvertedOnce settings leadId start steps := by
  have oneAtStart : OneWorkOrder leadId start.db.bookings.length start := by
    refine ⟨fun loaded member => ?_, .inl (Nat.le_refl _)⟩
    rw [idle] at member
    cases member
  have one (earlier later : List ConvertStep) (split : steps = earlier ++ later) :
      OneWorkOrder leadId start.db.bookings.length (runAll (ConvertStep.run settings leadId) start earlier) :=
    (current.upTo split).invariant (fun _ step one current => one.step step current) oneAtStart
  constructor
  · rcases (one steps [] (List.append_nil _).symm).created with small | ⟨exactly, _⟩
    · exact Nat.le_trans small (Nat.le_succ _)
    · exact Nat.le_of_eq exactly
  · intro earlier now lead performedBy booking notes middle nowAgain again performedAgain bookingAgain notesAgain later
      answer next loaded split accepted found present
    have first := one earlier _ split
    have guarded := Guarded.append.mp (split ▸ current)
    have rest := Guarded.append.mp guarded.2.2
    obtain ⟨oneAfter, storedAfter⟩ := first.convert guarded.2.1 accepted
    have afterConvert : ConvertStep.run settings leadId (runAll (ConvertStep.run settings leadId) start earlier)
        (.convert now lead performedBy booking notes) =
          { runAll (ConvertStep.run settings leadId) start earlier with db := next } := by
      simp only [ConvertStep.run, ConvertStep.op, System.step, System.commit, accepted, commit]
    rw [runAll_append, runAll_cons, afterConvert] at found present ⊢
    rw [afterConvert] at rest
    have preserved (state : System) (step : ConvertStep)
        (holds : OneWorkOrder leadId start.db.bookings.length state ∧ StoredAs leadId answer.convertedBooking state.db)
        (current : step.outdated leadId state = false) :
        OneWorkOrder leadId start.db.bookings.length (step.run settings leadId state) ∧
          StoredAs leadId answer.convertedBooking (step.run settings leadId state).db :=
      ⟨holds.1.step step current, holds.2.kept step current⟩
    obtain ⟨oneThen, storedThen⟩ := rest.1.invariant preserved ⟨oneAfter, storedAfter⟩
    obtain ⟨row, foundRow, isStored, _⟩ := id storedThen
    have isConverted : loaded.lead.isConverted = true := by
      have outdated := rest.2.1
      simpa [ConvertStep.outdated, found, foundRow, isStored] using outdated
    refine ⟨loaded.lead, _, convert_converted found isConverted present, ?_⟩
    exact ((oneThen.loaded loaded (List.mem_of_getElem? found)).2 isConverted).unique storedThen

def sampleConvert (lead : Nat) : ConvertStep := .convert sampleNow lead none none ""

def newLead : System := runAll (System.step sampleSettings) sampleSystem [.addLead sampleLead]

def secondRequestLater : List ConvertStep := [.loadLead, sampleConvert 0, .loadLead, sampleConvert 1]

theorem convertedOnce_run_later : ConvertedOnce sampleSettings 0 newLead secondRequestLater :=
  convertedOnce_run rfl (by decide +kernel)

def bothRequestsAtOnce : List ConvertStep := [.loadLead, .loadLead, sampleConvert 0, sampleConvert 1]

theorem two_work_orders : ¬ ConvertedOnce sampleSettings 0 newLead bothRequestsAtOnce := by
  intro once
  have created : (runAll (ConvertStep.run sampleSettings 0) newLead bothRequestsAtOnce).db.bookings.length = 2 := by
    decide +kernel
  have bound := once.created
  rw [created] at bound
  exact absurd bound (by decide)

end PsCore
