/-!
The rows of a table that belong to somebody. A change leaves them alone when every key that
held one of them holds the same row afterwards, and no other key has come to hold one.
-/

namespace OwnRows

variable {α : Type} {owns : α → Bool} {before middle after : List α}

def ownRow (owns : α → Bool) (rows : List α) (key : Nat) : Option α :=
  rows[key]?.filter owns

def LeftAlone (owns : α → Bool) (before after : List α) : Prop :=
  ∀ key, ownRow owns after key = ownRow owns before key

theorem ownRow_some {rows : List α} {key : Nat} {row : α} :
    ownRow owns rows key = some row ↔ rows[key]? = some row ∧ owns row = true := by
  simp [ownRow, Option.filter_eq_some_iff]

theorem LeftAlone.refl (owns : α → Bool) (rows : List α) : LeftAlone owns rows rows :=
  fun _ => rfl

theorem LeftAlone.of_eq (same : after = before) : LeftAlone owns before after := by
  rw [same]
  exact .refl owns before

theorem LeftAlone.trans (first : LeftAlone owns before middle) (second : LeftAlone owns middle after) :
    LeftAlone owns before after :=
  fun key => (second key).trans (first key)

theorem LeftAlone.append {added : List α} (others : ∀ row ∈ added, owns row = false) :
    LeftAlone owns before (before ++ added) := by
  intro key
  unfold ownRow
  by_cases below : key < before.length
  · rw [List.getElem?_append_left below]
  · rw [List.getElem?_append_right (by omega), List.getElem?_eq_none (by omega : before.length ≤ key)]
    cases found : added[key - before.length]? with
    | none => rfl
    | some row => simp [others row (List.mem_of_getElem? found)]

theorem LeftAlone.set {key : Nat} {old new : α} (found : before[key]? = some old) (other : owns old = false)
    (stays : owns new = false) : LeftAlone owns before (before.set key new) := by
  intro place
  unfold ownRow
  by_cases same : key = place
  · subst same
    rw [List.getElem?_set_self (List.getElem?_eq_some_iff.mp found).1, found]
    simp [Option.filter, other, stays]
  · rw [List.getElem?_set_ne same]

theorem LeftAlone.filter (alone : LeftAlone owns before after) : after.filter owns = before.filter owns := by
  have nothing : ∀ rows : List α, (∀ key, ownRow owns rows key = none) → rows.filter owns = [] := by
    intro rows absent
    refine List.filter_eq_nil_iff.mpr fun row member own => ?_
    obtain ⟨key, found⟩ := List.getElem?_of_mem member
    have isOwn := ownRow_some.mpr ⟨found, own⟩
    rw [absent key] at isOwn
    cases isOwn
  induction before generalizing after with
  | nil => exact nothing after fun key => by rw [alone key]; rfl
  | cons head rest ih =>
      cases after with
      | nil => exact (nothing (head :: rest) fun key => by rw [← alone key]; rfl).symm
      | cons first others =>
          have tail : others.filter owns = rest.filter owns := ih fun key => alone (key + 1)
          have heads : Option.filter owns (some first) = Option.filter owns (some head) := alone 0
          rw [List.filter_cons, List.filter_cons, tail]
          cases ownFirst : owns first <;> cases ownHead : owns head <;> simp_all [Option.filter]

end OwnRows
