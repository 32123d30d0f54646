/-!
Sweeps over a list of keys. Each key is worked on by itself, and what was worked on stays done
when a later one fails; the sweep stops at the first failure.
-/

namespace Sweep

variable {Key State Error : Type} (work : Key → State → Except Error State)

/-- How many keys were worked on, or the first failure, and what is left behind. -/
def sweep : List Key → State → Except Error Nat × State
  | [], state => (.ok 0, state)
  | key :: rest, state =>
      match work key state with
      | .error error => (.error error, state)
      | .ok next => ((sweep rest next).1.map (· + 1), (sweep rest next).2)

inductive Works : List Key → State → State → Prop
  | none (state : State) : Works [] state state
  | more {key : Key} {rest : List Key} {state next last : State} (accepted : work key state = .ok next)
      (later : Works rest next last) : Works (key :: rest) state last

structure Stopped (keys done : List Key) (state : State) (outcome : Except Error Nat × State) : Prop where
  works : Works work done state outcome.2
  stops : (keys = done ∧ outcome.1 = .ok done.length) ∨ ∃ key later error, keys = done ++ key :: later ∧
    work key outcome.2 = .error error ∧ outcome.1 = .error error

theorem sweep_stopped (keys : List Key) (state : State) :
    ∃ done, Stopped work keys done state (sweep work keys state) := by
  induction keys generalizing state with
  | nil => exact ⟨[], .none state, .inl ⟨rfl, rfl⟩⟩
  | cons key rest ih =>
      unfold sweep
      cases worked : work key state with
      | error error => exact ⟨[], .none state, .inr ⟨key, rest, error, rfl, worked, rfl⟩⟩
      | ok next =>
          obtain ⟨done, works, stops⟩ := ih next
          refine ⟨key :: done, .more worked works, ?_⟩
          rcases stops with ⟨rfl, outcome⟩ | ⟨failed, later, error, rfl, fails, outcome⟩
          · exact .inl ⟨rfl, by simp [outcome, Except.map]⟩
          · exact .inr ⟨failed, later, error, rfl, fails, by simp [outcome, Except.map]⟩

variable {work}

/-- What every piece of work keeps, the sweep keeps. -/
theorem Works.keeps (invariant : State → Prop) {done : List Key} {state last : State}
    (preserved : ∀ key ∈ done, ∀ state next, invariant state → work key state = .ok next → invariant next)
    (works : Works work done state last) (holds : invariant state) : invariant last := by
  induction works with
  | none state => exact holds
  | more accepted later ih =>
      rw [List.forall_mem_cons] at preserved
      exact ih preserved.2 (preserved.1 _ _ holds accepted)

/-- What one key's work leaves under every key, by what was there: the key's own place is
rewritten once, any other place is left alone. -/
theorem Works.places {Row : Type} (place : State → Key → Option Row) (rewritten : Row → Row → Prop)
    (invariant : State → Prop) {done : List Key} {state last : State} (distinct : done.Nodup)
    (preserved : ∀ key state next, invariant state → work key state = .ok next → invariant next)
    (own : ∀ key state next, invariant state → work key state = .ok next →
      ∃ before after, place state key = some before ∧ place next key = some after ∧ rewritten before after)
    (others : ∀ key state next other, invariant state → work key state = .ok next → other ≠ key →
      place next other = place state other)
    (works : Works work done state last) (holds : invariant state) :
    (∀ key ∈ done, ∃ before after, place state key = some before ∧ place last key = some after ∧
      rewritten before after) ∧ ∀ key, key ∉ done → place last key = place state key := by
  induction works with
  | none state => exact ⟨List.forall_mem_nil _, fun _ _ => rfl⟩
  | @more key rest state next last accepted later ih =>
      rw [List.nodup_cons] at distinct
      obtain ⟨worked, untouched⟩ := ih distinct.2 (preserved key state next holds accepted)
      refine ⟨List.forall_mem_cons.mpr ⟨?_, fun other member => ?_⟩, fun other fresh => ?_⟩
      · rw [untouched key distinct.1]
        exact own key state next holds accepted
      · have differs : other ≠ key := fun same => distinct.1 (same ▸ member)
        rw [← others key state next other holds accepted differs]
        exact worked other member
      · rw [List.mem_cons, not_or] at fresh
        rw [untouched other fresh.2]
        exact others key state next other holds accepted fresh.1

theorem filter_beyond [DecidableEq Key] {keys : List Key} (distinct : keys.Nodup) (count : Nat) :
    (keys.filter fun key => decide (key ∉ keys.take count)) = keys.drop count := by
  have parts := List.take_append_drop count keys
  rw [← parts, List.nodup_append] at distinct
  have front : (keys.take count).filter (fun key => decide (key ∉ keys.take count)) = [] :=
    List.filter_eq_nil_iff.mpr fun key member => by simpa using member
  have back : (keys.drop count).filter (fun key => decide (key ∉ keys.take count)) = keys.drop count := by
    refine List.filter_eq_self.mpr fun key member => ?_
    have fresh : key ∉ keys.take count := fun inFront => distinct.2.2 key inFront key member rfl
    simpa using fresh
  calc
    _ = (keys.take count ++ keys.drop count).filter (fun key => decide (key ∉ keys.take count)) := by rw [parts]
    _ = keys.drop count := by rw [List.filter_append, front, back, List.nil_append]

end Sweep
