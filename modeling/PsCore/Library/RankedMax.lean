/-!
Statuses that only rise. A rank orders them, and of the current status and a
candidate the higher one is kept, the current one where they rank the same.
-/

namespace RankedMax

variable {Status : Type} (rank : Status → Nat)

def higher (current candidate : Status) : Status :=
  if rank current < rank candidate then candidate else current

theorem rank_higher (current candidate : Status) :
    rank (higher rank current candidate) = max (rank current) (rank candidate) := by
  unfold higher
  split
  · rename_i rises
    exact (Nat.max_eq_right (Nat.le_of_lt rises)).symm
  · rename_i stays
    exact (Nat.max_eq_left (Nat.le_of_not_lt stays)).symm

theorem le_rank_higher (current candidate : Status) : rank current ≤ rank (higher rank current candidate) := by
  rw [rank_higher rank]
  exact Nat.le_max_left _ _

theorem rank_higher_le {current candidate : Status} {bound : Nat} (currentBelow : rank current ≤ bound)
    (candidateBelow : rank candidate ≤ bound) : rank (higher rank current candidate) ≤ bound := by
  rw [rank_higher rank]
  exact Nat.max_le.mpr ⟨currentBelow, candidateBelow⟩

variable {rank}

theorem higher_right_comm (distinct : ∀ first second, rank first = rank second → first = second)
    (current first second : Status) :
    higher rank (higher rank current first) second = higher rank (higher rank current second) first := by
  apply distinct
  simp only [rank_higher rank]
  omega

theorem foldl_higher_perm (distinct : ∀ first second, rank first = rank second → first = second)
    {candidates reordered : List Status} (same : candidates.Perm reordered) (start : Status) :
    candidates.foldl (higher rank) start = reordered.foldl (higher rank) start :=
  same.foldl_eq' (fun first _ second _ current => higher_right_comm distinct current first second) start

end RankedMax
