/-!
Programs over a database that answer or raise. A transaction that raises leaves the database
as it found it; what happened outside the database stays on the list of events.
-/

namespace Transaction

structure Outcome (Db Event ε α : Type) where
  answer : Except ε α
  db : Db
  events : List Event

variable {Db Event ε α β : Type}

def Outcome.andThen (outcome : Outcome Db Event ε α) (rest : α → Db → Outcome Db Event ε β) :
    Outcome Db Event ε β :=
  match outcome.answer with
  | .ok value =>
      let last := rest value outcome.db
      { last with events := outcome.events ++ last.events }
  | .error error => { answer := .error error, db := outcome.db, events := outcome.events }

theorem andThen_ok (value : α) (db : Db) (events : List Event) (rest : α → Db → Outcome Db Event ε β) :
    Outcome.andThen { answer := .ok value, db := db, events := events } rest =
      { rest value db with events := events ++ (rest value db).events } := rfl

theorem andThen_error (error : ε) (db : Db) (events : List Event) (rest : α → Db → Outcome Db Event ε β) :
    Outcome.andThen { answer := .error error, db := db, events := events } rest =
      { answer := .error error, db := db, events := events } := rfl

def Outcome.orRestore (db : Db) (outcome : Outcome Db Event ε α) : Outcome Db Event ε α :=
  { outcome with db := match outcome.answer with
      | .ok _ => outcome.db
      | .error _ => db }

def Program (Db Event ε α : Type) : Type :=
  Db → Outcome Db Event ε α

namespace Program

def run (program : Program Db Event ε α) (db : Db) : Outcome Db Event ε α := program db

instance : Monad (Program Db Event ε) where
  pure value := fun db => { answer := .ok value, db := db, events := [] }
  bind program rest := fun db => (program.run db).andThen rest

def lift (result : Except ε α) : Program Db Event ε α :=
  fun db => { answer := result, db := db, events := [] }

def require (condition : Prop) [Decidable condition] (error : ε) : Program Db Event ε Unit :=
  lift (if condition then .ok () else .error error)

def read (query : Db → α) : Program Db Event ε α :=
  fun db => { answer := .ok (query db), db := db, events := [] }

def change (write : Db → Db) : Program Db Event ε Unit :=
  fun db => { answer := .ok (), db := write db, events := [] }

def happen (event : Event) : Program Db Event ε Unit :=
  fun db => { answer := .ok (), db := db, events := [event] }

def atomic (program : Program Db Event ε α) : Program Db Event ε α :=
  fun db => (program.run db).orRestore db

section

variable (db : Db)

theorem run_bind (program : Program Db Event ε α) (rest : α → Program Db Event ε β) :
    (program >>= rest).run db = (program.run db).andThen fun value => (rest value).run := rfl

theorem run_pure (value : α) :
    (pure value : Program Db Event ε α).run db = { answer := .ok value, db := db, events := [] } := rfl

theorem run_lift (result : Except ε α) :
    (lift result : Program Db Event ε α).run db = { answer := result, db := db, events := [] } := rfl

theorem run_read (query : Db → α) :
    (read query : Program Db Event ε α).run db = { answer := .ok (query db), db := db, events := [] } := rfl

theorem run_change (write : Db → Db) :
    (change write : Program Db Event ε Unit).run db = { answer := .ok (), db := write db, events := [] } := rfl

theorem run_happen (event : Event) :
    (happen event : Program Db Event ε Unit).run db = { answer := .ok (), db := db, events := [event] } := rfl

theorem run_atomic (program : Program Db Event ε α) :
    (atomic program).run db = (program.run db).orRestore db := rfl

theorem run_require {condition : Prop} [Decidable condition] (error : ε) (holds : condition) :
    (require condition error : Program Db Event ε Unit).run db = { answer := .ok (), db := db, events := [] } := by
  rw [require, run_lift, if_pos holds]

theorem run_require_not {condition : Prop} [Decidable condition] (error : ε) (fails : ¬ condition) :
    (require condition error : Program Db Event ε Unit).run db = { answer := .error error, db := db, events := [] } := by
  rw [require, run_lift, if_neg fails]

end

/-- The program returns the value, leaves the database `next`, and the events happened. -/
def Returns (program : Program Db Event ε α) (db : Db) (value : α) (next : Db) (events : List Event) : Prop :=
  program.run db = { answer := .ok value, db := next, events := events }

theorem returns_of_answer {program : Program Db Event ε α} {db : Db} {value : α}
    (answer : (program.run db).answer = .ok value) :
    program.Returns db value (program.run db).db (program.run db).events := by
  unfold Returns
  rw [← answer]

theorem Returns.answer {program : Program Db Event ε α} {db next : Db} {value : α} {events : List Event}
    (returned : program.Returns db value next events) : (program.run db).answer = .ok value := by
  rw [returned]

section

variable {db next : Db} {events : List Event}

theorem returns_pure {value result : α} :
    (pure value : Program Db Event ε α).Returns db result next events ↔ value = result ∧ db = next ∧ events = [] := by
  simp [Returns, run, pure, eq_comm]

theorem returns_bind {program : Program Db Event ε α} {rest : α → Program Db Event ε β} {result : β} :
    (program >>= rest).Returns db result next events ↔
      ∃ value middle first second, program.Returns db value middle first ∧
        (rest value).Returns middle result next second ∧ events = first ++ second := by
  change (program.run db).andThen rest = _ ↔ _
  constructor
  · intro returned
    cases answer : (program.run db).answer with
    | error error =>
        simp [Outcome.andThen, answer] at returned
    | ok value =>
        simp only [Outcome.andThen, answer, Outcome.mk.injEq] at returned
        obtain ⟨answered, isNext, happened⟩ := returned
        refine ⟨value, _, _, _, returns_of_answer answer, ?_, happened.symm⟩
        change rest value (program.run db).db = _
        rw [← answered, ← isNext]
  · rintro ⟨value, middle, first, second, ran, finished, rfl⟩
    change rest value middle = _ at finished
    rw [ran]
    simp only [Outcome.andThen, finished]

theorem returns_lift {result : Except ε α} {value : α} :
    (lift result : Program Db Event ε α).Returns db value next events ↔
      result = .ok value ∧ db = next ∧ events = [] := by
  simp [Returns, run, lift, eq_comm]

theorem returns_require {condition : Prop} [Decidable condition] {error : ε} {done : Unit} :
    (require condition error : Program Db Event ε Unit).Returns db done next events ↔
      condition ∧ db = next ∧ events = [] := by
  by_cases holds : condition <;> simp [require, returns_lift, holds]

theorem returns_read {query : Db → α} {value : α} :
    (read query : Program Db Event ε α).Returns db value next events ↔
      query db = value ∧ db = next ∧ events = [] := by
  simp [Returns, run, read, eq_comm]

theorem returns_change {write : Db → Db} {done : Unit} :
    (change write : Program Db Event ε Unit).Returns db done next events ↔ write db = next ∧ events = [] := by
  simp [Returns, run, change, eq_comm]

theorem returns_happen {event : Event} {done : Unit} :
    (happen event : Program Db Event ε Unit).Returns db done next events ↔ db = next ∧ events = [event] := by
  simp [Returns, run, happen, eq_comm]

theorem returns_atomic {program : Program Db Event ε α} {value : α} :
    (atomic program).Returns db value next events ↔ program.Returns db value next events := by
  change (program.run db).orRestore db = _ ↔ program.run db = _
  cases program.run db with
  | mk answer last happened => cases answer <;> simp [Outcome.orRestore]

section

variable {rest : β → Program Db Event ε α} {value : α}

theorem returns_lift_bind {result : Except ε β} : (lift result >>= rest).Returns db value next events ↔
    ∃ lifted, result = .ok lifted ∧ (rest lifted).Returns db value next events := by
  simp only [returns_bind, returns_lift]
  constructor
  · rintro ⟨lifted, _, _, _, ⟨accepted, rfl, rfl⟩, finished, rfl⟩
    exact ⟨lifted, accepted, finished⟩
  · rintro ⟨lifted, accepted, finished⟩
    exact ⟨lifted, db, [], events, ⟨accepted, rfl, rfl⟩, finished, rfl⟩

theorem returns_read_bind {query : Db → β} : (read query >>= rest).Returns db value next events ↔
    (rest (query db)).Returns db value next events := by
  simp only [returns_bind, returns_read]
  constructor
  · rintro ⟨_, _, _, _, ⟨rfl, rfl, rfl⟩, finished, rfl⟩
    exact finished
  · intro finished
    exact ⟨query db, db, [], events, ⟨rfl, rfl, rfl⟩, finished, rfl⟩

theorem returns_require_bind {rest : Unit → Program Db Event ε α} {condition : Prop} [Decidable condition] {error : ε} :
    (require condition error >>= rest).Returns db value next events ↔
      condition ∧ (rest ()).Returns db value next events := by
  simp only [returns_bind, returns_require]
  constructor
  · rintro ⟨_, _, _, _, ⟨holds, rfl, rfl⟩, finished, rfl⟩
    exact ⟨holds, finished⟩
  · rintro ⟨holds, finished⟩
    exact ⟨(), db, [], events, ⟨holds, rfl, rfl⟩, finished, rfl⟩

theorem returns_change_bind {rest : Unit → Program Db Event ε α} {write : Db → Db} :
    (change write >>= rest).Returns db value next events ↔ (rest ()).Returns (write db) value next events := by
  simp only [returns_bind, returns_change]
  constructor
  · rintro ⟨_, _, _, _, ⟨rfl, rfl⟩, finished, rfl⟩
    exact finished
  · intro finished
    exact ⟨(), write db, [], events, ⟨rfl, rfl⟩, finished, rfl⟩

theorem returns_happen_bind {rest : Unit → Program Db Event ε α} {event : Event} :
    (happen event >>= rest).Returns db value next events ↔
      ∃ later, (rest ()).Returns db value next later ∧ events = event :: later := by
  simp only [returns_bind, returns_happen]
  constructor
  · rintro ⟨_, _, _, later, ⟨rfl, rfl⟩, finished, rfl⟩
    exact ⟨later, finished, rfl⟩
  · rintro ⟨later, finished, rfl⟩
    exact ⟨(), db, [event], later, ⟨rfl, rfl⟩, finished, rfl⟩

theorem returns_bind_pure {program : Program Db Event ε β} {answer : β → α} :
    (program >>= fun result => pure (answer result)).Returns db value next events ↔
      ∃ result, program.Returns db result next events ∧ answer result = value := by
  simp only [returns_bind, returns_pure]
  constructor
  · rintro ⟨result, _, _, _, ran, ⟨rfl, rfl, rfl⟩, rfl⟩
    rw [List.append_nil]
    exact ⟨result, ran, rfl⟩
  · rintro ⟨result, ran, rfl⟩
    exact ⟨result, next, events, [], ran, ⟨rfl, rfl, rfl⟩, (List.append_nil events).symm⟩

end

end

theorem atomic_error {program : Program Db Event ε α} {db : Db} {error : ε}
    (answer : ((atomic program).run db).answer = .error error) : ((atomic program).run db).db = db := by
  change ((program.run db).orRestore db).answer = _ at answer
  change ((program.run db).orRestore db).db = db
  cases ran : program.run db with
  | mk answered last happened =>
      rw [ran] at answer
      cases answered with
      | ok value => cases answer
      | error _ => rfl

/-! What holds of every value that a program returns. -/

def Answers (property : α → Prop) (program : Program Db Event ε α) : Prop :=
  ∀ db value, (program.run db).answer = .ok value → property value

section

variable {property : β → Prop}

theorem Answers.pure {value : β} (holds : property value) :
    Answers property (Pure.pure value : Program Db Event ε β) := by
  rintro db result ⟨⟩
  exact holds

theorem Answers.bind (program : Program Db Event ε α) {rest : α → Program Db Event ε β}
    (answers : ∀ value, Answers property (rest value)) : Answers property (program >>= rest) := by
  intro db result answer
  obtain ⟨value, middle, first, second, _, finished, _⟩ := returns_bind.mp (returns_of_answer answer)
  exact answers value middle result finished.answer

theorem Answers.atomic {program : Program Db Event ε β} (answers : Answers property program) :
    Answers property (atomic program) := by
  intro db result answer
  exact answers db result (returns_atomic.mp (returns_of_answer answer)).answer

end

structure Composes (relation : Db → List Event → Db → Prop) : Prop where
  idle : ∀ db, relation db [] db
  trans : ∀ db middle last first second, relation db first middle → relation middle second last →
    relation db (first ++ second) last

def Respects (relation : Db → List Event → Db → Prop) (program : Program Db Event ε α) : Prop :=
  ∀ db, relation db (program.run db).events (program.run db).db

section

variable {relation : Db → List Event → Db → Prop}

theorem Composes.lift (composes : Composes relation) (result : Except ε α) :
    Respects relation (lift result : Program Db Event ε α) :=
  fun db => composes.idle db

theorem Composes.pure (composes : Composes relation) (value : α) :
    Respects relation (Pure.pure value : Program Db Event ε α) :=
  fun db => composes.idle db

theorem Composes.read (composes : Composes relation) (query : Db → α) :
    Respects relation (read query : Program Db Event ε α) :=
  fun db => composes.idle db

theorem Composes.bind (composes : Composes relation) {program : Program Db Event ε α}
    {rest : α → Program Db Event ε β} (first : Respects relation program)
    (second : ∀ value, Respects relation (rest value)) : Respects relation (program >>= rest) := by
  intro db
  change relation db ((program.run db).andThen rest).events ((program.run db).andThen rest).db
  unfold Outcome.andThen
  cases (program.run db).answer with
  | error error => exact first db
  | ok value => exact composes.trans _ _ _ _ _ (first db) (second value _)

theorem Respects.change {write : Db → Db} (respects : ∀ db, relation db [] (write db)) :
    Respects relation (change write : Program Db Event ε Unit) :=
  respects

theorem Respects.happen {event : Event} (respects : ∀ db, relation db [event] db) :
    Respects relation (happen event : Program Db Event ε Unit) :=
  respects

theorem Respects.atomic {program : Program Db Event ε α} (respects : Respects relation program)
    (restores : ∀ db events next, relation db events next → relation db events db) :
    Respects relation (atomic program) := by
  intro db
  change relation db (program.run db).events (match (program.run db).answer with
    | .ok _ => (program.run db).db
    | .error _ => db)
  cases (program.run db).answer with
  | ok value => exact respects db
  | error error => exact restores _ _ _ (respects db)

end

end Program

end Transaction
