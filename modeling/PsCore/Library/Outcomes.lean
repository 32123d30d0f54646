import PsCore.Library.Fallible

/-!
What a program may end in: every value that it returns meets a condition, and every error that
it raises is one of those allowed. A handler turns some errors into others.
-/

namespace Outcomes

variable {ε δ α β : Type}

/-- `program` returns values of `post` and raises errors of `allowed` only. -/
def Ends (allowed : ε → Prop) (post : α → Prop) : Except ε α → Prop
  | .ok value => post value
  | .error error => allowed error

def Always (_ : α) : Prop := True

variable {allowed : ε → Prop} {post : α → Prop}

namespace Ends

theorem ok {value : α} (holds : post value) : Ends allowed post (.ok value) := holds

theorem pure {value : α} (holds : post value) : Ends allowed post (Pure.pure value : Except ε α) := holds

theorem error {error : ε} (isAllowed : allowed error) : Ends allowed post (.error error : Except ε α) := isAllowed

theorem mono {stronger : ε → Prop} {pre : α → Prop} {program : Except ε α} (ends : Ends stronger pre program)
    (errors : ∀ error, stronger error → allowed error) (values : ∀ value, pre value → post value) :
    Ends allowed post program := by
  cases program with
  | ok value => exact values value ends
  | error reason => exact errors reason ends

theorem bind {middle : β → Prop} {program : Except ε β} {next : β → Except ε α}
    (first : Ends allowed middle program) (second : ∀ value, middle value → Ends allowed post (next value)) :
    Ends allowed post (program >>= next) := by
  cases program with
  | ok value => exact second value first
  | error reason => exact first

theorem ite {condition : Prop} [Decidable condition] {yes no : Except ε α}
    (holds : condition → Ends allowed post yes) (fails : ¬ condition → Ends allowed post no) :
    Ends allowed post (if condition then yes else no) := by
  by_cases isCase : condition
  · rw [if_pos isCase]
    exact holds isCase
  · rw [if_neg isCase]
    exact fails isCase

theorem require {condition : Prop} [Decidable condition] {error : ε} (isAllowed : allowed error) :
    Ends allowed Always (Fallible.require condition error) :=
  ite (fun _ => ok trivial) fun _ => Ends.error isAllowed

theorem mapM {program : β → Except ε α} (each : ∀ item, Ends allowed post (program item)) (items : List β) :
    Ends allowed (fun results => results.length = items.length ∧ ∀ result ∈ results, post result)
      (items.mapM program) := by
  induction items with
  | nil => exact pure ⟨rfl, fun result member => by cases member⟩
  | cons first rest ih =>
      rw [List.mapM_cons]
      refine bind (each first) fun result isPost => ?_
      refine bind ih fun results ends => ?_
      refine pure ⟨congrArg (· + 1) ends.1, fun other member => ?_⟩
      rcases List.mem_cons.mp member with rfl | later
      · exact isPost
      · exact ends.2 other later

theorem cases {program : Except ε α} (ends : Ends allowed post program) :
    (∃ value, program = .ok value ∧ post value) ∨ ∃ error, program = .error error ∧ allowed error := by
  cases program with
  | ok value => exact .inl ⟨value, rfl, ends⟩
  | error reason => exact .inr ⟨reason, rfl, ends⟩

end Ends

/-- `except`: the errors that `handler` knows become others. -/
def excepting (handler : ε → Option ε) : Except ε α → Except ε α
  | .ok value => .ok value
  | .error error => .error ((handler error).getD error)

theorem Ends.excepting {raised : ε → Prop} {handler : ε → Option ε} {program : Except ε α}
    (ends : Ends raised post program)
    (handled : ∀ error, raised error → ∃ other, handler error = some other ∧ allowed other) :
    Ends allowed post (Outcomes.excepting handler program) := by
  cases program with
  | ok value => exact ends
  | error reason =>
      obtain ⟨other, isOther, isAllowed⟩ := handled reason ends
      simp only [Outcomes.excepting, isOther, Option.getD_some]
      exact isAllowed

end Outcomes
