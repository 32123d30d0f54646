/-!
Programs that either return a value or are rejected. A transaction that raises
is rolled back, so a rejected program has no new state to speak of, and the
lemmas read off what an accepted one must have checked.
-/

namespace Fallible

variable {ε α β : Type}

def require (condition : Prop) [Decidable condition] (error : ε) : Except ε Unit :=
  if condition then .ok () else .error error

def orRaise (value : Option α) (error : ε) : Except ε α :=
  match value with
  | some present => .ok present
  | none => .error error

@[simp] theorem accepted_bind {program : Except ε α} {next : α → Except ε β} {result : β} :
    program >>= next = .ok result ↔ ∃ value, program = .ok value ∧ next value = .ok result := by
  cases program with
  | error => simp [bind, Except.bind]
  | ok value => simp [bind, Except.bind]

@[simp] theorem accepted_pure {value result : α} :
    (pure value : Except ε α) = .ok result ↔ value = result := by
  simp [pure, Except.pure]

@[simp] theorem accepted_require {condition : Prop} [Decidable condition] {error : ε} {done : Unit} :
    require condition error = .ok done ↔ condition := by
  by_cases holds : condition <;> simp [require, holds]

@[simp] theorem accepted_orRaise {value : Option α} {error : ε} {result : α} :
    orRaise value error = .ok result ↔ value = some result := by
  cases value <;> simp [orRaise]

@[simp] theorem accepted_mapError {δ : Type} {program : Except ε α} {rename : ε → δ} {result : α} :
    program.mapError rename = .ok result ↔ program = .ok result := by
  cases program with
  | error reason => exact ⟨nofun, nofun⟩
  | ok value =>
      constructor
      · rintro ⟨⟩
        rfl
      · rintro ⟨⟩
        rfl

@[simp] theorem isOk_ok (value : α) : (Except.ok value : Except ε α).isOk = true := rfl

@[simp] theorem isOk_error (error : ε) : (Except.error error : Except ε α).isOk = false := rfl

@[simp] theorem isOk_map (f : α → β) (program : Except ε α) : (program.map f).isOk = program.isOk := by
  cases program <;> rfl

theorem isOk_bind_pure (program : Except ε α) (result : α → β) :
    (program >>= fun value => pure (result value)).isOk = program.isOk := by
  cases program <;> rfl

theorem isOk_iff {program : Except ε α} : program.isOk = true ↔ ∃ value, program = .ok value := by
  cases program <;> simp

theorem mapM_isOk (program : α → Except ε β) (items : List α) :
    (items.mapM program).isOk = items.all fun item => (program item).isOk := by
  induction items with
  | nil => rfl
  | cons item rest ih =>
      rw [List.mapM_cons, List.all_cons, ← ih]
      cases program item with
      | error reason => rfl
      | ok value => cases rest.mapM program <;> rfl

theorem accepted_mapM_map {γ : Type} {program : α → Except ε β} {before : α → γ} {after : β → γ} {items : List α}
    {results : List β} (each : ∀ item ∈ items, ∀ result, program item = .ok result → before item = after result)
    (accepted : items.mapM program = .ok results) : items.map before = results.map after := by
  induction items generalizing results with
  | nil =>
      rw [List.mapM_nil, accepted_pure] at accepted
      rw [← accepted]
      rfl
  | cons item rest ih =>
      simp only [List.mapM_cons, accepted_bind, accepted_pure] at accepted
      obtain ⟨first, isFirst, others, remaining, rfl⟩ := accepted
      rw [List.map_cons, List.map_cons, each item List.mem_cons_self first isFirst,
        ih (fun later member => each later (List.mem_cons_of_mem item member)) remaining]

theorem rejected_bind {program : Except ε α} {next : α → Except ε β} {error : ε} :
    program >>= next = .error error ↔
      program = .error error ∨ ∃ value, program = .ok value ∧ next value = .error error := by
  cases program with
  | error reason => simp [bind, Except.bind]
  | ok value => simp [bind, Except.bind]

theorem rejected_pure {value : α} {error : ε} : ¬ (pure value : Except ε α) = .error error := nofun

theorem rejected_require {condition : Prop} [Decidable condition] {raised error : ε} :
    require condition raised = .error error ↔ ¬ condition ∧ raised = error := by
  by_cases holds : condition <;> simp [require, holds]

theorem rejected_orRaise {value : Option α} {raised error : ε} :
    orRaise value raised = .error error ↔ value = none ∧ raised = error := by
  cases value <;> simp [orRaise]

def NeverRaises (error : ε) (program : Except ε α) : Prop := program ≠ .error error

namespace NeverRaises

variable {error raised : ε}

theorem ok (value : α) : NeverRaises error (Except.ok value) := nofun

theorem pure (value : α) : NeverRaises error (Pure.pure value : Except ε α) := rejected_pure

theorem require {condition : Prop} [Decidable condition] (differs : raised ≠ error) :
    NeverRaises error (require condition raised) :=
  fun rejected => differs (rejected_require.mp rejected).2

theorem orRaise {value : Option α} (differs : raised ≠ error) : NeverRaises error (orRaise value raised) :=
  fun rejected => differs (rejected_orRaise.mp rejected).2

theorem bind {program : Except ε α} {next : α → Except ε β} (first : NeverRaises error program)
    (second : ∀ value, NeverRaises error (next value)) : NeverRaises error (program >>= next) := by
  intro rejected
  rcases rejected_bind.mp rejected with atOnce | ⟨value, _, later⟩
  · exact first atOnce
  · exact second value later

end NeverRaises

theorem ok_bind (value : α) (next : α → Except ε β) : (Except.ok value >>= next) = next value := rfl

theorem require_of {condition : Prop} [Decidable condition] (error : ε) (holds : condition) :
    require condition error = .ok () := if_pos holds

theorem require_of_not {condition : Prop} [Decidable condition] (error : ε) (fails : ¬ condition) :
    require condition error = .error error := if_neg fails

/-! Two programs in lockstep: the one does what the other does, up to a change of the result. -/

theorem bind_lockstep {γ : Type} {program : Except ε α} {next : α → Except ε β} {other : α → Except ε γ}
    {change : β → γ} (same : ∀ value, program = .ok value → other value = (next value).map change) :
    (program >>= other) = (program >>= next).map change := by
  cases program with
  | error => rfl
  | ok value => exact same value rfl

theorem map_mapError {γ : Type} (change : α → β) (rename : ε → γ) (program : Except ε α) :
    (program.map change).mapError rename = (program.mapError rename).map change := by
  cases program <;> rfl

theorem map_lockstep {γ δ : Type} {program : Except ε α} {moved : α → δ} {next : α → Except ε β}
    {other : δ → Except ε γ} {change : β → γ}
    (same : ∀ value, program = .ok value → other (moved value) = (next value).map change) :
    (program.map moved >>= other) = (program >>= next).map change := by
  cases program with
  | error => rfl
  | ok value => exact same value rfl

end Fallible
