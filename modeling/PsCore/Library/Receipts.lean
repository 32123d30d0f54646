import Mathlib.Logic.Function.Basic

/-!
Requests that carry a key. What the first success under a key came to is kept with a print of
the request, and every later request with the key is answered from it.
-/

namespace Receipts

variable {Key Print Result : Type} [DecidableEq Key]

abbrev Book (Key Print Result : Type) := Key → Option (Print × Result)

/-- What one request does; its answer, if it has one, is a result. -/
inductive Step (book : Book Key Print Result) (key : Key) (print : Print) :
    Option Result → Book Key Print Result → Prop
  | made (result : Result) (unused : book key = none) :
      Step book key print (some result) (Function.update book key (some (print, result)))
  | remembered (result : Result) (known : book key = some (print, result)) : Step book key print (some result) book
  | refused : Step book key print none book

namespace Step

variable {book next : Book Key Print Result} {key other : Key} {print : Print} {answer : Option Result}
  {receipt : Print × Result} {result : Result}

theorem kept (step : Step book key print answer next) (known : book other = some receipt) :
    next other = some receipt := by
  cases step with
  | made result unused =>
      have differs : other ≠ key := by
        intro same
        rw [same, unused] at known
        cases known
      rw [Function.update_of_ne differs, known]
  | remembered result same => exact known
  | refused => exact known

theorem answered (step : Step book key print (some result) next) : next key = some (print, result) := by
  cases step with
  | made result unused => exact Function.update_self ..
  | remembered result known => exact known

theorem known (step : Step book key print answer next) (known : book key = some receipt) :
    next = book ∧ ∀ result, answer = some result → receipt = (print, result) := by
  cases step with
  | made result unused =>
      rw [unused] at known
      cases known
  | remembered result same =>
      refine ⟨rfl, fun other isAnswer => ?_⟩
      rw [Option.some.injEq] at isAnswer
      rw [known, Option.some.injEq] at same
      rw [same, isAnswer]
  | refused => exact ⟨rfl, nofun⟩

theorem unused (step : Step book key print answer next) (fresh : book other = none)
    (unanswered : other = key → answer = none) : next other = none := by
  cases step with
  | made result unused =>
      have differs : other ≠ key := fun same => Option.some_ne_none _ (unanswered same)
      rw [Function.update_of_ne differs, fresh]
  | remembered result known => exact fresh
  | refused => exact fresh

end Step

end Receipts
