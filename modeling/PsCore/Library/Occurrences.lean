import PsCore.Library.TransitionRun

/-!
How often the steps of a run bring something about, and what a counter shows that every step moves on by
as much.
-/

namespace Occurrences

open TransitionRun

variable {State Input : Type} {step : State → Input → State}

def occurrences (step : State → Input → State) (happens : State → State → Bool) (start : State) :
    List Input → Nat
  | [] => 0
  | input :: rest => (happens start (step start input)).toNat + occurrences step happens (step start input) rest

def rises (flag : State → Bool) (before after : State) : Bool :=
  !flag before && flag after

/-- What goes up and never down goes up once. -/
theorem occurrences_rises {invariant : State → Prop} {flag : State → Bool}
    (preserved : ∀ state input, invariant state → invariant (step state input))
    (stays : ∀ state input, invariant state → flag state = true → flag (step state input) = true)
    {start : State} {inputs : List Input} (initial : invariant start) (down : flag start = false) :
    occurrences step (rises flag) start inputs = (flag (runAll step start inputs)).toNat := by
  have settled : ∀ {state : State} (rest : List Input), invariant state → flag state = true →
      occurrences step (rises flag) state rest = 0 ∧ flag (runAll step state rest) = true := by
    intro state rest holds up
    induction rest generalizing state with
    | nil => exact ⟨rfl, up⟩
    | cons input rest ih =>
        obtain ⟨none, still⟩ := ih (preserved state input holds) (stays state input holds up)
        exact ⟨by simp [occurrences, rises, up, none], still⟩
  induction inputs generalizing start with
  | nil => simp [occurrences, down]
  | cons input rest ih =>
      have holds := preserved start input initial
      cases after : flag (step start input) with
      | false => simp [occurrences, rises, after, ih holds after]
      | true =>
          obtain ⟨none, up⟩ := settled rest holds after
          simp [occurrences, rises, down, after, none, up]

/-- A counter that every step moves on where something happens shows how often it has happened. -/
theorem counted_run {invariant : State → Prop} (count : State → Nat) (happens : State → State → Bool)
    (preserved : ∀ state input, invariant state → invariant (step state input))
    (counts : ∀ state input, invariant state →
      count (step state input) = count state + (happens state (step state input)).toNat)
    {start : State} (initial : invariant start) (inputs : List Input) :
    count (runAll step start inputs) = count start + occurrences step happens start inputs := by
  induction inputs generalizing start with
  | nil => simp [occurrences]
  | cons input rest ih =>
      rw [runAll_cons, ih (preserved start input initial), counts start input initial, occurrences]
      omega

end Occurrences
