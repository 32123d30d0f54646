import PsCore.Library.RowTable

/-!
Tables whose rows are pairwise apart, as a unique constraint keeps them: what a new row, a rewritten row
and an update of all rows have to meet.
-/

namespace ApartRows

open RowTable

variable {α : Type}

def AllApart (apart : α → α → Prop) (rows : List α) : Prop :=
  ∀ (first second : Nat) (left right : α), first ≠ second → rows[first]? = some left → rows[second]? = some right →
    apart left right

variable {apart : α → α → Prop} {rows next : List α} {row : α} {key : Nat}

theorem AllApart.nil : AllApart apart [] := by
  intro first second left right _ found
  simp at found

theorem AllApart.append (symm : ∀ left right, apart left right → apart right left) (all : AllApart apart rows)
    (alone : ∀ other ∈ rows, apart row other) : AllApart apart (rows ++ [row]) := by
  intro first second left right differs isLeft isRight
  rcases append_cases isLeft with oldLeft | ⟨firstNew, rfl⟩
  · rcases append_cases isRight with oldRight | ⟨_, rfl⟩
    · exact all first second left right differs oldLeft oldRight
    · exact symm right left (alone left (List.mem_of_getElem? oldLeft))
  · rcases append_cases isRight with oldRight | ⟨secondNew, _⟩
    · exact alone right (List.mem_of_getElem? oldRight)
    · exact absurd (firstNew.trans secondNew.symm) differs

theorem AllApart.set (symm : ∀ left right, apart left right → apart right left) (all : AllApart apart rows)
    (alone : ∀ other ∈ rows.eraseIdx key, apart row other) : AllApart apart (rows.set key row) := by
  have written (second : Nat) (right : α) (differs : key ≠ second)
      (isRight : (rows.set key row)[second]? = some right) : apart row right := by
    rw [List.getElem?_set_ne differs] at isRight
    exact alone right (List.mem_eraseIdx_iff_getElem?.mpr ⟨second, differs.symm, isRight⟩)
  intro first second left right differs isLeft isRight
  rcases set_cases isLeft with ⟨rfl, rfl⟩ | oldLeft
  · exact written second right differs isRight
  · rcases set_cases isRight with ⟨rfl, rfl⟩ | oldRight
    · exact symm right left (written first left differs.symm isLeft)
    · exact all first second left right differs oldLeft oldRight

theorem AllApart.updated (all : AllApart apart rows)
    (from_ : ∀ (key : Nat) (after : α), next[key]? = some after → ∃ before, rows[key]? = some before ∧
      (∀ other, apart before other → apart after other) ∧ ∀ other, apart other before → apart other after) :
    AllApart apart next := by
  intro first second left right differs isLeft isRight
  obtain ⟨oldLeft, foundLeft, keepsLeft, _⟩ := from_ first left isLeft
  obtain ⟨oldRight, foundRight, _, keepsRight⟩ := from_ second right isRight
  exact keepsLeft right (keepsRight oldLeft (all first second oldLeft oldRight differs foundLeft foundRight))

end ApartRows
