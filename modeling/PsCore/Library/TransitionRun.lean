/-!
Runs of a machine whose step is total: a rejected input leaves the state where
it is. A run is a list of inputs; a guarded run is one whose every input meets a
condition on the state before it.
-/

namespace TransitionRun

variable {State Input : Type} (step : State → Input → State)

def runAll (start : State) (inputs : List Input) : State :=
  inputs.foldl step start

@[simp] theorem runAll_nil (start : State) : runAll step start [] = start := rfl

@[simp] theorem runAll_cons (start : State) (input : Input) (rest : List Input) :
    runAll step start (input :: rest) = runAll step (step start input) rest := rfl

@[simp] theorem runAll_append (start : State) (first later : List Input) :
    runAll step start (first ++ later) = runAll step (runAll step start first) later := by
  simp [runAll]

/-- Every input meets the guard in the state that it is given to. -/
def Guarded (guard : State → Input → Prop) : State → List Input → Prop
  | _, [] => True
  | state, input :: rest => guard state input ∧ Guarded guard (step state input) rest

instance Guarded.decidable (guard : State → Input → Prop) [∀ state input, Decidable (guard state input)] :
    ∀ state inputs, Decidable (Guarded step guard state inputs)
  | _, [] => isTrue trivial
  | state, input :: rest =>
      have := Guarded.decidable guard (step state input) rest
      inferInstanceAs (Decidable (guard state input ∧ Guarded step guard (step state input) rest))

variable {step}

theorem Guarded.append {guard : State → Input → Prop} {start : State} {first later : List Input} :
    Guarded step guard start (first ++ later) ↔
      Guarded step guard start first ∧ Guarded step guard (runAll step start first) later := by
  induction first generalizing start with
  | nil => simp [Guarded]
  | cons input rest ih => simp [Guarded, ih, and_assoc]

theorem Guarded.upTo {guard : State → Input → Prop} {start : State} {inputs earlier later : List Input}
    (guarded : Guarded step guard start inputs) (split : inputs = earlier ++ later) :
    Guarded step guard start earlier := by
  rw [split] at guarded
  exact (Guarded.append.mp guarded).1

theorem Guarded.iff_at {guard : State → Input → Prop} {start : State} {inputs : List Input} :
    Guarded step guard start inputs ↔
      ∀ earlier input later, inputs = earlier ++ input :: later → guard (runAll step start earlier) input := by
  constructor
  · rintro guarded earlier input later rfl
    exact (Guarded.append.mp guarded).2.1
  · intro meets
    induction inputs generalizing start with
    | nil => trivial
    | cons input rest ih =>
        refine ⟨meets [] input rest rfl, ih fun earlier other later split => ?_⟩
        exact meets (input :: earlier) other later (by rw [split]; rfl)

theorem Guarded.always {guard : State → Input → Prop} (holds : ∀ state input, guard state input) :
    ∀ start inputs, Guarded step guard start inputs
  | _, [] => trivial
  | start, input :: rest => ⟨holds start input, Guarded.always holds (step start input) rest⟩

theorem Guarded.of_forall {allowed : Input → Prop} {start : State} {inputs : List Input}
    (allowedAll : ∀ input ∈ inputs, allowed input) : Guarded step (fun _ input => allowed input) start inputs := by
  induction inputs generalizing start with
  | nil => trivial
  | cons input rest ih =>
      exact ⟨allowedAll input (by simp), ih fun other member => allowedAll other (by simp [member])⟩

/-- The run rule: what one guarded step preserves, a whole guarded run preserves. -/
theorem Guarded.invariant {guard : State → Input → Prop} {invariant : State → Prop}
    (preserved : ∀ state input, invariant state → guard state input → invariant (step state input))
    {start : State} {inputs : List Input} (guarded : Guarded step guard start inputs)
    (initial : invariant start) : invariant (runAll step start inputs) := by
  induction inputs generalizing start with
  | nil => exact initial
  | cons input rest ih =>
      exact ih guarded.2 (preserved start input initial guarded.1)

/-- Where a guarded step keeps the invariant and an unguarded one breaks the property, the
property holds all along a run exactly when the run is guarded. -/
theorem Guarded.iff_throughout {guard : State → Input → Prop} {invariant property : State → Prop}
    (holds : ∀ state, invariant state → property state)
    (preserved : ∀ state input, invariant state → guard state input → invariant (step state input))
    (broken : ∀ state input, invariant state → ¬ guard state input → ¬ property (step state input))
    {start : State} {inputs : List Input} (initial : invariant start) :
    Guarded step guard start inputs ↔
      ∀ before after, inputs = before ++ after → property (runAll step start before) := by
  induction inputs generalizing start with
  | nil =>
      refine ⟨fun _ before after split => ?_, fun _ => trivial⟩
      rw [(List.nil_eq_append_iff.mp split).1]
      exact holds start initial
  | cons input rest ih =>
      constructor
      · rintro ⟨meets, guarded⟩ before after split
        cases before with
        | nil => exact holds start initial
        | cons first earlier =>
            simp only [List.cons_append, List.cons.injEq] at split
            obtain ⟨rfl, split⟩ := split
            exact (ih (preserved start input initial meets)).mp guarded earlier after split
      · intro throughout
        have meets : guard start input :=
          Classical.byContradiction fun fails => broken start input initial fails (throughout [input] rest rfl)
        refine ⟨meets, (ih (preserved start input initial meets)).mpr fun before after split => ?_⟩
        exact throughout (input :: before) after (by rw [split]; rfl)

/-- What holds after a run and not before it, some step of the run has brought about. -/
theorem runAll_becomes (property : State → Prop) {start : State} {inputs : List Input} (absent : ¬ property start)
    (present : property (runAll step start inputs)) :
    ∃ earlier input later, inputs = earlier ++ input :: later ∧ ¬ property (runAll step start earlier) ∧
      property (step (runAll step start earlier) input) := by
  induction inputs generalizing start with
  | nil => exact absurd present absent
  | cons input rest ih =>
      by_cases already : property (step start input)
      · exact ⟨[], input, rest, rfl, absent, already⟩
      · obtain ⟨earlier, other, later, rfl, notYet, then_⟩ := ih already present
        exact ⟨input :: earlier, other, later, rfl, notYet, then_⟩

/-- What holds after a run has held all along, or since some step of the run. -/
theorem runAll_since (property : State → Prop) {start : State} {inputs : List Input}
    (present : property (runAll step start inputs)) :
    (∀ first rest, inputs = first ++ rest → property (runAll step start first)) ∨
      ∃ earlier input later, inputs = earlier ++ input :: later ∧ ¬ property (runAll step start earlier) ∧
        ∀ first rest, later = first ++ rest → property (runAll step start (earlier ++ input :: first)) := by
  induction inputs generalizing start with
  | nil =>
      refine .inl fun first rest split => ?_
      rw [(List.nil_eq_append_iff.mp split).1]
      exact present
  | cons input rest ih =>
      rcases ih present with throughout | ⟨earlier, other, later, rfl, notYet, since⟩
      · by_cases already : property start
        · refine .inl fun first more split => ?_
          cases first with
          | nil => exact already
          | cons head tail =>
              simp only [List.cons_append, List.cons.injEq] at split
              obtain ⟨rfl, split⟩ := split
              exact throughout tail more split
        · exact .inr ⟨[], input, rest, rfl, already, throughout⟩
      · exact .inr ⟨input :: earlier, other, later, rfl, notYet, since⟩

theorem runAll_idle {start : State} {inputs : List Input}
    (idle : ∀ input ∈ inputs, step start input = start) : runAll step start inputs = start := by
  induction inputs with
  | nil => rfl
  | cons input rest ih =>
      rw [runAll_cons, idle input (by simp)]
      exact ih fun other member => idle other (by simp [member])

end TransitionRun
