import Mathlib.Logic.Function.Basic
import PsCore.Library.TransitionRun

/-!
Queries answered out of a cache whose entries expire, about a world that changes meanwhile. Only answers are kept,
no errors; a query that the cache does not answer is asked, which may change the world.
-/

namespace CachedQueries

open TransitionRun

structure Entry (Value : Type) where
  value : Value
  expiresAt : Nat

/-- `ask` is the answer to a query in a world, at a time, and what becomes of the world. -/
structure Source (World Event Query Key Value Error : Type) where
  change : World → Event → World
  keyOf : Query → Key
  lifetime : Query → Nat
  ask : World → Nat → Query → Except Error Value × World

structure Cached (World Key Value : Type) where
  world : World
  now : Nat
  entries : Key → Option (Entry Value)

inductive Input (Event Query Key : Type)
  | change (event : Event)
  | pass (time : Nat)
  | evict (key : Key)
  | look (query : Query)

variable {World Event Query Key Value Error : Type}

namespace Cached

def read (state : Cached World Key Value) (key : Key) : Option Value :=
  match state.entries key with
  | some entry => if state.now < entry.expiresAt then some entry.value else none
  | none => none

def Live (state : Cached World Key Value) (key : Key) (entry : Entry Value) : Prop :=
  state.entries key = some entry ∧ state.now < entry.expiresAt

theorem read_eq_some {state : Cached World Key Value} {key : Key} {value : Value} :
    state.read key = some value ↔ ∃ entry, state.Live key entry ∧ entry.value = value := by
  unfold read
  constructor
  · intro found
    split at found
    · rename_i entry stored
      split at found
      · rename_i live
        exact ⟨entry, ⟨stored, live⟩, Option.some.inj found⟩
      · cases found
    · cases found
  · rintro ⟨entry, ⟨stored, live⟩, rfl⟩
    rw [stored]
    exact if_pos live

theorem Live.read {state : Cached World Key Value} {key : Key} {entry : Entry Value} (live : state.Live key entry) :
    state.read key = some entry.value :=
  read_eq_some.mpr ⟨entry, live, rfl⟩

variable [DecidableEq Key]

def write (state : Cached World Key Value) (key : Key) (lifetime : Nat) (value : Value) : Cached World Key Value :=
  { state with entries := Function.update state.entries key (some ⟨value, state.now + lifetime⟩) }

def forget (state : Cached World Key Value) (key : Key) : Cached World Key Value :=
  { state with entries := Function.update state.entries key none }

end Cached

open Cached

namespace Source

variable [DecidableEq Key] (source : Source World Event Query Key Value Error)

def lookUp (state : Cached World Key Value) (query : Query) : Except Error Value × Cached World Key Value :=
  match state.read (source.keyOf query) with
  | some value => (.ok value, state)
  | none => match source.ask state.world state.now query with
    | (.ok value, world) =>
        (.ok value, { state with world := world }.write (source.keyOf query) (source.lifetime query) value)
    | (.error error, world) => (.error error, { state with world := world })

def step (state : Cached World Key Value) : Input Event Query Key → Cached World Key Value
  | .change event => { state with world := source.change state.world event }
  | .pass time => { state with now := state.now + time }
  | .evict key => state.forget key
  | .look query => (source.lookUp state query).2

def Answers (state : Cached World Key Value) (query : Query) (value : Value) : Prop :=
  state.read (source.keyOf query) = none ∧ (source.ask state.world state.now query).1 = .ok value

end Source

def elapsed : List (Input Event Query Key) → Nat
  | [] => 0
  | .pass time :: rest => time + elapsed rest
  | .change _ :: rest | .evict _ :: rest | .look _ :: rest => elapsed rest

theorem elapsed_append (first later : List (Input Event Query Key)) :
    elapsed (first ++ later) = elapsed first + elapsed later := by
  induction first with
  | nil => exact (Nat.zero_add _).symm
  | cons input rest ih =>
      cases input with
      | pass time =>
          simp only [List.cons_append, elapsed, ih]
          omega
      | _ => simpa only [List.cons_append, elapsed] using ih

section

variable [DecidableEq Key] {source : Source World Event Query Key Value Error} {state start : Cached World Key Value}

theorem lookUp_found {query : Query} {value : Value} (found : state.read (source.keyOf query) = some value) :
    source.lookUp state query = (.ok value, state) := by
  unfold Source.lookUp
  rw [found]

theorem lookUp_missed {query : Query} (missed : state.read (source.keyOf query) = none) :
    (source.lookUp state query).1 = (source.ask state.world state.now query).1 ∧
      (source.lookUp state query).2.world = (source.ask state.world state.now query).2 := by
  unfold Source.lookUp
  rw [missed]
  rcases source.ask state.world state.now query with ⟨answer, world⟩
  cases answer with
  | error error => exact ⟨rfl, rfl⟩
  | ok value => exact ⟨rfl, rfl⟩

theorem lookUp_entries (source : Source World Event Query Key Value Error) (state : Cached World Key Value)
    (query : Query) :
    (source.lookUp state query).2.now = state.now ∧
      ((source.lookUp state query).2.entries = state.entries ∨
        ∃ value, source.Answers state query value ∧ (source.lookUp state query).2.entries =
          Function.update state.entries (source.keyOf query)
            (some ⟨value, state.now + source.lifetime query⟩)) := by
  cases found : state.read (source.keyOf query) with
  | some value =>
      rw [lookUp_found found]
      exact ⟨rfl, .inl rfl⟩
  | none =>
      unfold Source.lookUp
      rw [found]
      cases asked : source.ask state.world state.now query with
      | mk answer world =>
          cases answer with
          | error error => exact ⟨rfl, .inl rfl⟩
          | ok value => exact ⟨rfl, .inr ⟨value, ⟨found, by rw [asked]⟩, rfl⟩⟩

theorem step_now (source : Source World Event Query Key Value Error) (state : Cached World Key Value)
    (input : Input Event Query Key) :
    (source.step state input).now = state.now + elapsed [input] := by
  cases input with
  | look query => exact (lookUp_entries source state query).1
  | _ => rfl

theorem runAll_now (source : Source World Event Query Key Value Error) (start : Cached World Key Value)
    (inputs : List (Input Event Query Key)) :
    (runAll source.step start inputs).now = start.now + elapsed inputs := by
  induction inputs generalizing start with
  | nil => rfl
  | cons input rest ih =>
      have split : elapsed (input :: rest) = elapsed [input] + elapsed rest := elapsed_append [input] rest
      rw [runAll_cons, ih, step_now, split, Nat.add_assoc]

theorem step_live {input : Input Event Query Key} {key : Key} {entry : Entry Value} (before : ¬ state.Live key entry)
    (after : (source.step state input).Live key entry) :
    ∃ query, input = .look query ∧ source.keyOf query = key ∧ source.Answers state query entry.value ∧
      entry.expiresAt = state.now + source.lifetime query := by
  cases input with
  | change event => exact absurd after before
  | pass time =>
      have earlier : state.now ≤ state.now + time := Nat.le_add_right ..
      exact absurd ⟨after.1, Nat.lt_of_le_of_lt earlier after.2⟩ before
  | evict other =>
      obtain ⟨stored, live⟩ := after
      have stored : Function.update state.entries other none key = some entry := stored
      by_cases same : key = other
      · rw [same, Function.update_self] at stored
        cases stored
      · rw [Function.update_of_ne same] at stored
        exact absurd ⟨stored, live⟩ before
  | look query =>
      obtain ⟨now, kept⟩ := lookUp_entries source state query
      obtain ⟨stored, live⟩ := after
      have stored : (source.lookUp state query).2.entries key = some entry := stored
      rcases kept with unchanged | ⟨value, answers, updated⟩
      · have live : (source.lookUp state query).2.now < entry.expiresAt := live
        rw [unchanged] at stored
        rw [now] at live
        exact absurd ⟨stored, live⟩ before
      · rw [updated] at stored
        by_cases same : key = source.keyOf query
        · rw [same, Function.update_self] at stored
          cases stored
          exact ⟨query, rfl, same.symm, answers, rfl⟩
        · have live : (source.lookUp state query).2.now < entry.expiresAt := live
          rw [Function.update_of_ne same] at stored
          rw [now] at live
          exact absurd ⟨stored, live⟩ before

theorem live_step {input : Input Event Query Key} {key : Key} {entry : Entry Value} (live : state.Live key entry)
    (kept : input ≠ .evict key) (early : (source.step state input).now < entry.expiresAt) :
    (source.step state input).Live key entry := by
  refine ⟨?_, early⟩
  cases input with
  | change event => exact live.1
  | pass time => exact live.1
  | evict other =>
      have apart : key ≠ other := by
        rintro rfl
        exact kept rfl
      exact (Function.update_of_ne apart _ _).trans live.1
  | look query =>
      have kept := (lookUp_entries source state query).2
      show (source.lookUp state query).2.entries key = some entry
      rcases kept with unchanged | ⟨value, answers, updated⟩
      · rw [unchanged, live.1]
      · have apart : key ≠ source.keyOf query := by
          rintro rfl
          rw [Source.Answers, live.read] at answers
          cases answers.1
        rw [updated, Function.update_of_ne apart, live.1]

theorem live_runAll {key : Key} {entry : Entry Value} {inputs : List (Input Event Query Key)}
    (live : start.Live key entry) (kept : .evict key ∉ inputs) (early : start.now + elapsed inputs < entry.expiresAt) :
    (runAll source.step start inputs).Live key entry := by
  induction inputs generalizing start with
  | nil => exact live
  | cons input rest ih =>
      obtain ⟨apart, later⟩ := not_or.mp (mt List.mem_cons.mpr kept)
      have split : elapsed (input :: rest) = elapsed [input] + elapsed rest := elapsed_append [input] rest
      have now := step_now source start input
      refine ih (live_step live (Ne.symm apart) ?_) later ?_
      · omega
      · omega

end

/-- At some step of the run a query with the key was asked and answered with the value, which nothing has evicted
since then. -/
structure AskedIn [DecidableEq Key] (source : Source World Event Query Key Value Error)
    (start : Cached World Key Value) (inputs : List (Input Event Query Key)) (key : Key) (value : Value)
    (earlier : List (Input Event Query Key)) (asked : Query) (later : List (Input Event Query Key)) : Prop where
  split : inputs = earlier ++ .look asked :: later
  sameKey : source.keyOf asked = key
  answers : source.Answers (runAll source.step start earlier) asked value
  kept : .evict key ∉ later

section

variable [DecidableEq Key] {source : Source World Event Query Key Value Error} {start : Cached World Key Value}
  {inputs : List (Input Event Query Key)} {key : Key} {value : Value}

theorem read_of_askedIn {earlier later : List (Input Event Query Key)} {asked : Query}
    (given : AskedIn source start inputs key value earlier asked later)
    (early : elapsed later < source.lifetime asked) : (runAll source.step start inputs).read key = some value := by
  obtain ⟨rfl, rfl, answers, kept⟩ := given
  rw [runAll_append, runAll_cons]
  generalize runAll source.step start earlier = state at answers
  have live : (source.step state (.look asked)).Live (source.keyOf asked)
      ⟨value, state.now + source.lifetime asked⟩ := by
    have stored : source.lookUp state asked =
        (.ok value, { state with world := (source.ask state.world state.now asked).2 }.write (source.keyOf asked)
          (source.lifetime asked) value) := by
      unfold Source.lookUp
      rw [answers.1]
      cases given : source.ask state.world state.now asked with
      | mk answer world =>
          have isValue : answer = .ok value := by rw [← answers.2, given]
          subst isValue
          rfl
    have after : source.step state (.look asked) = (source.lookUp state asked).2 := rfl
    rw [after, stored]
    refine ⟨Function.update_self .., ?_⟩
    have positive : 0 < source.lifetime asked := Nat.zero_lt_of_lt early
    show state.now < state.now + source.lifetime asked
    omega
  refine (live_runAll live kept ?_).read
  rw [step_now]
  show state.now + 0 + elapsed later < state.now + source.lifetime asked
  omega

/-- What is read was the answer to a query of the run that has not expired. -/
theorem askedIn_of_read (empty : ∀ key, start.entries key = none)
    (found : (runAll source.step start inputs).read key = some value) : ∃ earlier asked later,
    AskedIn source start inputs key value earlier asked later ∧ elapsed later < source.lifetime asked := by
  obtain ⟨entry, live, rfl⟩ := read_eq_some.mp found
  rcases runAll_since (fun state : Cached World Key Value => state.Live key entry) live with
    throughout | ⟨earlier, input, later, rfl, absent, since⟩
  · have stored := (throughout [] inputs rfl).1
    rw [runAll_nil, empty] at stored
    cases stored
  · have born := since [] later rfl
    rw [runAll_append] at born
    obtain ⟨query, rfl, isKey, answers, expires⟩ := step_live absent born
    refine ⟨earlier, query, later, ⟨rfl, isKey, answers, fun evicted => ?_⟩, ?_⟩
    · obtain ⟨first, rest, rfl⟩ := List.append_of_mem evicted
      have live := (since (first ++ [.evict key]) rest (by simp)).1
      rw [← List.cons_append, ← List.append_assoc, runAll_append] at live
      have gone : Function.update (runAll source.step start (earlier ++ .look query :: first)).entries key none key =
        some entry := live
      rw [Function.update_self] at gone
      cases gone
    · have now := runAll_now source (runAll source.step start earlier) (.look query :: later)
      have early := live.2
      rw [runAll_append, now, expires] at early
      have same : elapsed (.look query :: later) = elapsed later := rfl
      omega

end

end CachedQueries
