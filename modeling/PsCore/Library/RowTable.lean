/-!
Database tables as lists of rows. A row's key is its position: rows are
appended and rewritten, and removed only where no key is kept. Queries take the first or the latest
matching row, aggregates count or add up the matching ones, and a unique table
carries the constraint that no two of its rows clash.
-/

namespace RowTable

variable {α : Type}

def firstRow (accept : α → Bool) : List α → Option (Nat × α)
  | [] => none
  | row :: rest =>
      if accept row then some (0, row)
      else (firstRow accept rest).map fun found => (found.1 + 1, found.2)

def latestRow (accept : α → Bool) : List α → Option (Nat × α)
  | [] => none
  | row :: rest =>
      match latestRow accept rest with
      | some found => some (found.1 + 1, found.2)
      | none => if accept row then some (0, row) else none

theorem firstRow_some {accept : α → Bool} {rows : List α} {key : Nat} {row : α}
    (found : firstRow accept rows = some (key, row)) :
    rows[key]? = some row ∧ accept row = true := by
  induction rows generalizing key with
  | nil => simp [firstRow] at found
  | cons head rest ih =>
      simp only [firstRow] at found
      split at found
      · rename_i accepted
        simp only [Option.some.injEq, Prod.mk.injEq] at found
        obtain ⟨rfl, rfl⟩ := found
        exact ⟨rfl, accepted⟩
      · simp only [Option.map_eq_some_iff, Prod.mk.injEq] at found
        obtain ⟨⟨earlier, other⟩, inRest, rfl, rfl⟩ := found
        simpa using ih inRest

theorem firstRow_none {accept : α → Bool} {rows : List α} :
    firstRow accept rows = none ↔ ∀ row ∈ rows, accept row = false := by
  induction rows with
  | nil => simp [firstRow]
  | cons head rest ih =>
      by_cases accepted : accept head <;> simp [firstRow, accepted, ih]

theorem latestRow_some {accept : α → Bool} {rows : List α} {key : Nat} {row : α}
    (found : latestRow accept rows = some (key, row)) :
    rows[key]? = some row ∧ accept row = true := by
  induction rows generalizing key with
  | nil => simp [latestRow] at found
  | cons head rest ih =>
      simp only [latestRow] at found
      split at found
      · rename_i later inRest
        simp only [Option.some.injEq, Prod.mk.injEq] at found
        obtain ⟨rfl, rfl⟩ := found
        simpa using ih inRest
      · split at found
        · rename_i accepted
          simp only [Option.some.injEq, Prod.mk.injEq] at found
          obtain ⟨rfl, rfl⟩ := found
          exact ⟨rfl, accepted⟩
        · simp at found

theorem latestRow_set {accept : α → Bool} {rows : List α} {key : Nat} {old new : α}
    (found : latestRow accept rows = some (key, old)) (accepted : accept new = true) :
    latestRow accept (rows.set key new) = some (key, new) := by
  induction rows generalizing key with
  | nil => simp [latestRow] at found
  | cons head rest ih =>
      simp only [latestRow] at found
      cases inRest : latestRow accept rest with
      | some later =>
          simp only [inRest, Option.some.injEq, Prod.mk.injEq] at found
          obtain ⟨rfl, rfl⟩ := found
          simp only [List.set_cons_succ, latestRow, ih inRest]
      | none =>
          simp only [inRest, Option.ite_none_right_eq_some, Option.some.injEq, Prod.mk.injEq] at found
          obtain ⟨_, rfl, rfl⟩ := found
          simp only [List.set_cons_zero, latestRow, inRest, accepted, if_true]

theorem latestRow_none {accept : α → Bool} {rows : List α} :
    latestRow accept rows = none ↔ ∀ row ∈ rows, accept row = false := by
  induction rows with
  | nil => simp [latestRow]
  | cons head rest ih =>
      simp only [latestRow]
      cases inRest : latestRow accept rest with
      | none =>
          have absent := ih.mp inRest
          by_cases accepted : accept head
          · simp [accepted]
          · simpa [accepted] using absent
      | some found =>
          have member := List.mem_of_getElem? (latestRow_some inRest).1
          simp only [reduceCtorEq, List.mem_cons, forall_eq_or_imp, false_iff, not_and]
          intro _ absent
          simpa [(latestRow_some inRest).2] using absent found.2 member

theorem firstRow_unique {accept : α → Bool} {rows : List α} {key : Nat} {row : α}
    (present : rows[key]? = some row) (accepted : accept row = true)
    (unique : ∀ other found, rows[other]? = some found → accept found = true → other = key) :
    firstRow accept rows = some (key, row) := by
  cases found : firstRow accept rows with
  | none =>
      have rejected := firstRow_none.mp found row (List.mem_of_getElem? present)
      simp [accepted] at rejected
  | some result =>
      obtain ⟨other, match_⟩ := result
      have facts := firstRow_some found
      have same := unique other match_ facts.1 facts.2
      subst same
      rw [present] at facts
      simpa using facts.1.symm

theorem append_cases {rows : List α} {key : Nat} {row found : α} (present : (rows ++ [row])[key]? = some found) :
    rows[key]? = some found ∨ (key = rows.length ∧ found = row) := by
  by_cases below : key < rows.length
  · rw [List.getElem?_append_left below] at present
    exact .inl present
  · rw [List.getElem?_append_right (by omega)] at present
    have atEnd := (List.getElem?_eq_some_iff.mp present).1
    simp only [List.length_singleton] at atEnd
    have same : key - rows.length = 0 := by omega
    rw [same, List.getElem?_cons_zero, Option.some.injEq] at present
    exact .inr ⟨by omega, present.symm⟩

theorem set_cases {rows : List α} {key position : Nat} {row found : α}
    (present : (rows.set key row)[position]? = some found) :
    (position = key ∧ found = row) ∨ rows[position]? = some found := by
  by_cases same : key = position
  · subst same
    have inBounds := (List.getElem?_eq_some_iff.mp present).1
    rw [List.length_set] at inBounds
    rw [List.getElem?_set_self inBounds, Option.some.injEq] at present
    exact .inl ⟨rfl, present.symm⟩
  · rw [List.getElem?_set_ne same] at present
    exact .inr present

/-- Every row stays at its key, and changes at most as the relation allows. -/
def KeptBy (related : α → α → Prop) (rows next : List α) : Prop :=
  ∀ (key : Nat) (row : α), rows[key]? = some row → ∃ after, next[key]? = some after ∧ related row after

theorem KeptBy.refl {related : α → α → Prop} (reflexive : ∀ row, related row row) (rows : List α) :
    KeptBy related rows rows :=
  fun _ row present => ⟨row, present, reflexive row⟩

theorem KeptBy.append {related : α → α → Prop} (reflexive : ∀ row, related row row) (rows added : List α) :
    KeptBy related rows (rows ++ added) := by
  intro key row present
  refine ⟨row, ?_, reflexive row⟩
  rw [List.getElem?_append_left (List.getElem?_eq_some_iff.mp present).1, present]

theorem KeptBy.set {related : α → α → Prop} (reflexive : ∀ row, related row row) {rows : List α} {target : Nat}
    {before after : α} (found : rows[target]? = some before) (change : related before after) :
    KeptBy related rows (rows.set target after) := by
  intro key row present
  by_cases isTarget : target = key
  · subst isTarget
    rw [found, Option.some.injEq] at present
    subst present
    exact ⟨after, List.getElem?_set_self (List.getElem?_eq_some_iff.mp found).1, change⟩
  · exact ⟨row, by rw [List.getElem?_set_ne isTarget, present], reflexive row⟩

theorem KeptBy.trans {related : α → α → Prop}
    (transitive : ∀ first second third, related first second → related second third → related first third)
    {rows middle next : List α} (one : KeptBy related rows middle) (two : KeptBy related middle next) :
    KeptBy related rows next := by
  intro key row present
  obtain ⟨second, inMiddle, toSecond⟩ := one key row present
  obtain ⟨third, inNext, toThird⟩ := two key second inMiddle
  exact ⟨third, inNext, transitive row second third toSecond toThird⟩

/-! Queries after one row was added or rewritten. -/

theorem firstRow_append {accept : α → Bool} (rows : List α) (row : α) :
    firstRow accept (rows ++ [row]) =
      (firstRow accept rows).or (if accept row then some (rows.length, row) else none) := by
  induction rows with
  | nil => simp [firstRow]
  | cons head rest ih =>
      simp only [List.cons_append, firstRow]
      by_cases accepted : accept head
      · simp [accepted]
      · simp only [accepted, Bool.false_eq_true, if_false, ih]
        cases firstRow accept rest with
        | some found => simp
        | none => by_cases isNew : accept row <;> simp [isNew]

theorem firstRow_set_rejected {accept : α → Bool} {rows : List α} {key : Nat} {old new : α}
    (present : rows[key]? = some old) (rejectsOld : accept old = false) (rejectsNew : accept new = false) :
    firstRow accept (rows.set key new) = firstRow accept rows := by
  induction rows generalizing key with
  | nil => simp at present
  | cons head rest ih =>
      cases key with
      | zero =>
          simp only [List.getElem?_cons_zero, Option.some.injEq] at present
          subst present
          simp [firstRow, rejectsOld, rejectsNew]
      | succ key => simp [firstRow, ih (by simpa using present)]

theorem firstRow_set_first {accept : α → Bool} {rows : List α} {key : Nat} {old : α} (new : α)
    (found : firstRow accept rows = some (key, old)) (accepts : accept new = true) :
    firstRow accept (rows.set key new) = some (key, new) := by
  induction rows generalizing key with
  | nil => simp [firstRow] at found
  | cons head rest ih =>
      simp only [firstRow] at found
      split at found
      · simp only [Option.some.injEq, Prod.mk.injEq] at found
        obtain ⟨rfl, rfl⟩ := found
        simp [firstRow, accepts]
      · rename_i rejected
        simp only [Option.map_eq_some_iff, Prod.mk.injEq] at found
        obtain ⟨⟨earlier, other⟩, inRest, rfl, rfl⟩ := found
        simp [firstRow, rejected, ih inRest]

theorem firstRow_filter {accept : α → Bool} (keep : α → Bool) {rows : List α} {key : Nat} {row : α}
    (found : firstRow accept rows = some (key, row)) (kept : keep row = true) :
    ∃ position, firstRow accept (rows.filter keep) = some (position, row) := by
  induction rows generalizing key with
  | nil => simp [firstRow] at found
  | cons head rest ih =>
      simp only [firstRow] at found
      split at found
      · rename_i accepted
        simp only [Option.some.injEq, Prod.mk.injEq] at found
        obtain ⟨rfl, rfl⟩ := found
        exact ⟨0, by simp [kept, firstRow, accepted]⟩
      · rename_i rejected
        simp only [Option.map_eq_some_iff, Prod.mk.injEq] at found
        obtain ⟨⟨earlier, other⟩, inRest, rfl, rfl⟩ := found
        obtain ⟨position, inFiltered⟩ := ih inRest
        by_cases keepsHead : keep head = true
        · exact ⟨position + 1, by simp [keepsHead, firstRow, rejected, inFiltered]⟩
        · exact ⟨position, by simp [keepsHead, inFiltered]⟩

def countBefore (accept : α → Bool) (rows : List α) (key : Nat) : Nat :=
  ((rows.take key).filter accept).length

theorem filter_set_accepted {accept : α → Bool} {rows : List α} {key : Nat} {old : α} (new : α)
    (present : rows[key]? = some old) (acceptsOld : accept old = true) (acceptsNew : accept new = true) :
    (rows.set key new).filter accept = (rows.filter accept).set (countBefore accept rows key) new := by
  induction rows generalizing key with
  | nil => simp at present
  | cons head rest ih =>
      cases key with
      | zero =>
          simp only [List.getElem?_cons_zero, Option.some.injEq] at present
          subst present
          simp [countBefore, acceptsOld, acceptsNew]
      | succ key =>
          have tail := ih (by simpa using present)
          unfold countBefore at tail ⊢
          by_cases accepted : accept head <;> simp [accepted, tail]

theorem filter_countBefore (accept : α → Bool) {rows : List α} {key : Nat} {old : α}
    (present : rows[key]? = some old) (accepts : accept old = true) :
    (rows.filter accept)[countBefore accept rows key]? = some old := by
  induction rows generalizing key with
  | nil => simp at present
  | cons head rest ih =>
      cases key with
      | zero =>
          simp only [List.getElem?_cons_zero, Option.some.injEq] at present
          subst present
          simp [countBefore, accepts]
      | succ key =>
          have tail := ih (by simpa using present)
          unfold countBefore at tail ⊢
          by_cases accepted : accept head <;> simp [accepted, tail]

theorem filter_set_rejected {accept : α → Bool} {rows : List α} {key : Nat} {old new : α}
    (present : rows[key]? = some old) (rejectsOld : accept old = false) (rejectsNew : accept new = false) :
    (rows.set key new).filter accept = rows.filter accept := by
  induction rows generalizing key with
  | nil => simp at present
  | cons head rest ih =>
      cases key with
      | zero =>
          simp only [List.getElem?_cons_zero, Option.some.injEq] at present
          subst present
          simp [rejectsOld, rejectsNew]
      | succ key =>
          have tail := ih (by simpa using present)
          by_cases accepted : accept head <;> simp [accepted, tail]

def bestRow (accept : α → Bool) (rank : α → Nat) : List α → Option (Nat × α)
  | [] => none
  | row :: rest =>
      match bestRow accept rank rest with
      | some best =>
          if accept row && rank best.2 ≤ rank row then some (0, row) else some (best.1 + 1, best.2)
      | none => if accept row then some (0, row) else none

theorem bestRow_some {accept : α → Bool} {rank : α → Nat} {rows : List α} {key : Nat} {row : α}
    (found : bestRow accept rank rows = some (key, row)) :
    rows[key]? = some row ∧ accept row = true := by
  induction rows generalizing key with
  | nil => simp [bestRow] at found
  | cons head rest ih =>
      simp only [bestRow] at found
      split at found
      · rename_i best inRest
        split at found
        · rename_i better
          simp only [Bool.and_eq_true] at better
          simp only [Option.some.injEq, Prod.mk.injEq] at found
          obtain ⟨rfl, rfl⟩ := found
          exact ⟨rfl, better.1⟩
        · simp only [Option.some.injEq, Prod.mk.injEq] at found
          obtain ⟨rfl, rfl⟩ := found
          simpa using ih inRest
      · split at found
        · rename_i accepted
          simp only [Option.some.injEq, Prod.mk.injEq] at found
          obtain ⟨rfl, rfl⟩ := found
          exact ⟨rfl, accepted⟩
        · simp at found

theorem bestRow_none {accept : α → Bool} {rank : α → Nat} {rows : List α} :
    bestRow accept rank rows = none ↔ ∀ row ∈ rows, accept row = false := by
  induction rows with
  | nil => simp [bestRow]
  | cons head rest ih =>
      rw [bestRow]
      cases inRest : bestRow accept rank rest with
      | some best =>
          rw [inRest] at ih
          simp only [List.forall_mem_cons, ← ih]
          split <;> simp
      | none =>
          rw [inRest] at ih
          have others := ih.mp rfl
          by_cases accepted : accept head = true
          · simp [accepted]
          · simpa [accepted] using others

def countWhere (accept : α → Bool) (rows : List α) : Nat :=
  rows.countP accept

theorem countWhere_append (accept : α → Bool) (rows : List α) (row : α) :
    countWhere accept (rows ++ [row]) = countWhere accept rows + if accept row then 1 else 0 := by
  simp [countWhere, List.countP_append, List.countP_singleton]

theorem countWhere_set (accept : α → Bool) {rows : List α} {key : Nat} {old : α} (new : α)
    (present : rows[key]? = some old) :
    countWhere accept (rows.set key new) + (if accept old then 1 else 0) =
      countWhere accept rows + if accept new then 1 else 0 := by
  induction rows generalizing key with
  | nil => simp at present
  | cons head rest ih =>
      cases key with
      | zero =>
          simp only [List.getElem?_cons_zero, Option.some.injEq] at present
          subst present
          simp only [countWhere, List.set_cons_zero, List.countP_cons]
          omega
      | succ key =>
          have tail := ih (by simpa using present)
          simp only [countWhere, List.set_cons_succ, List.countP_cons] at tail ⊢
          omega

def sumWhere (accept : α → Bool) (amount : α → Int) (rows : List α) : Int :=
  (rows.filter accept).foldr (fun row total => amount row + total) 0

@[simp] theorem sumWhere_nil (accept : α → Bool) (amount : α → Int) :
    sumWhere accept amount [] = 0 := rfl

theorem sumWhere_cons (accept : α → Bool) (amount : α → Int) (row : α) (rest : List α) :
    sumWhere accept amount (row :: rest) =
      (if accept row then amount row else 0) + sumWhere accept amount rest := by
  by_cases accepted : accept row <;> simp [sumWhere, accepted]

theorem sumWhere_append (accept : α → Bool) (amount : α → Int) (rows : List α) (row : α) :
    sumWhere accept amount (rows ++ [row]) =
      sumWhere accept amount rows + if accept row then amount row else 0 := by
  induction rows with
  | nil => simp [sumWhere_cons]
  | cons head rest ih =>
      simp only [List.cons_append, sumWhere_cons, ih]
      omega

theorem sumWhere_set (accept : α → Bool) (amount : α → Int) {rows : List α} {key : Nat} {old : α}
    (new : α) (present : rows[key]? = some old) :
    sumWhere accept amount (rows.set key new) =
      sumWhere accept amount rows - (if accept old then amount old else 0) +
        if accept new then amount new else 0 := by
  induction rows generalizing key with
  | nil => simp at present
  | cons head rest ih =>
      cases key with
      | zero =>
          simp only [List.getElem?_cons_zero, Option.some.injEq] at present
          subst present
          simp only [List.set_cons_zero, sumWhere_cons]
          omega
      | succ key =>
          have tail := ih (by simpa using present)
          simp only [List.set_cons_succ, sumWhere_cons, tail]
          omega

theorem sumWhere_none {accept : α → Bool} {amount : α → Int} {rows : List α}
    (rejected : ∀ row ∈ rows, accept row = false) : sumWhere accept amount rows = 0 := by
  induction rows with
  | nil => rfl
  | cons head rest ih =>
      rw [sumWhere_cons, rejected head (by simp), ih fun row member => rejected row (by simp [member])]
      simp

theorem sumWhere_apart {whole first second : α → Bool} {amount : α → Int}
    (cover : ∀ row, whole row = (first row || second row)) (apart : ∀ row, first row = true → second row = false)
    (rows : List α) : sumWhere whole amount rows = sumWhere first amount rows + sumWhere second amount rows := by
  induction rows with
  | nil => rfl
  | cons head rest ih =>
      rw [sumWhere_cons, sumWhere_cons, sumWhere_cons, ih, cover head]
      cases inFirst : first head with
      | false =>
          simp only [Bool.false_or, Bool.false_eq_true, if_false]
          omega
      | true =>
          simp only [apart head inFirst, Bool.or_false, Bool.false_eq_true, if_true, if_false]
          omega

/-- A table under a uniqueness constraint: no two rows clash. -/
structure UniqueTable (α : Type) (clash : α → α → Prop) where
  rows : List α
  distinct : rows.Pairwise fun earlier later => ¬ clash earlier later

namespace UniqueTable

variable {clash : α → α → Prop}

def empty : UniqueTable α clash where
  rows := []
  distinct := List.Pairwise.nil

def remove (table : UniqueTable α clash) (accept : α → Bool) : UniqueTable α clash where
  rows := table.rows.filter fun row => !accept row
  distinct := table.distinct.filter _

variable [DecidableRel clash]

def insert? (table : UniqueTable α clash) (row : α) : Option (UniqueTable α clash) :=
  if fresh : ∀ other ∈ table.rows, ¬ clash other row then
    some {
      rows := table.rows ++ [row]
      distinct := by
        rw [List.pairwise_append]
        exact ⟨table.distinct, List.pairwise_singleton _ _, by simpa using fresh⟩
    }
  else none

def replace? (table : UniqueTable α clash) (key : Nat) (row : α) : Option (UniqueTable α clash) :=
  if fresh : ∀ other ∈ table.rows.eraseIdx key, ¬ clash other row ∧ ¬ clash row other then
    some {
      rows := table.rows.set key row
      distinct := by
        rw [List.pairwise_iff_getElem]
        intro first second belowFirst belowSecond between
        have belowFirst' : first < table.rows.length := by simpa using belowFirst
        have belowSecond' : second < table.rows.length := by simpa using belowSecond
        have others (position : Nat) (below : position < table.rows.length) (differs : position ≠ key) :=
          fresh table.rows[position] (List.mem_eraseIdx_iff_getElem.mpr ⟨position, below, differs, rfl⟩)
        simp only [List.getElem_set]
        by_cases atFirst : key = first
        · rw [if_pos atFirst, if_neg (by omega)]
          exact (others second belowSecond' (by omega)).2
        · rw [if_neg atFirst]
          by_cases atSecond : key = second
          · rw [if_pos atSecond]
            exact (others first belowFirst' (by omega)).1
          · rw [if_neg atSecond]
            exact List.pairwise_iff_getElem.mp table.distinct first second belowFirst' belowSecond' between
    }
  else none

theorem insert?_some {table next : UniqueTable α clash} {row : α} (stored : table.insert? row = some next) :
    next.rows = table.rows ++ [row] ∧ ∀ other ∈ table.rows, ¬ clash other row := by
  unfold insert? at stored
  split at stored
  · rename_i fresh
    simp only [Option.some.injEq] at stored
    subst stored
    exact ⟨rfl, fresh⟩
  · simp at stored

theorem replace?_some {table next : UniqueTable α clash} {key : Nat} {row : α}
    (stored : table.replace? key row = some next) : next.rows = table.rows.set key row := by
  unfold replace? at stored
  split at stored
  · simp only [Option.some.injEq] at stored
    subst stored
    rfl
  · simp at stored

theorem insert?_fresh {table : UniqueTable α clash} {row : α}
    (fresh : ∀ other ∈ table.rows, ¬ clash other row) : ∃ next, table.insert? row = some next := by
  unfold insert?
  rw [dif_pos fresh]
  exact ⟨_, rfl⟩

theorem replace?_isSome_iff (symmetric : ∀ first second, clash first second → clash second first)
    {table : UniqueTable α clash} {key : Nat} {row : α} :
    (table.replace? key row).isSome ↔
      ∀ position other, table.rows[position]? = some other → position ≠ key → ¬ clash other row := by
  have members : (∀ other ∈ table.rows.eraseIdx key, ¬ clash other row ∧ ¬ clash row other) ↔
      ∀ position other, table.rows[position]? = some other → position ≠ key → ¬ clash other row := by
    constructor
    · intro fresh position other present differs
      exact (fresh other (List.mem_eraseIdx_iff_getElem?.mpr ⟨position, differs, present⟩)).1
    · intro fresh other member
      obtain ⟨position, differs, present⟩ := List.mem_eraseIdx_iff_getElem?.mp member
      have apart := fresh position other present differs
      exact ⟨apart, fun clashes => apart (symmetric row other clashes)⟩
  unfold replace?
  split
  · rename_i fresh
    simpa using members.mp fresh
  · rename_i stale
    simpa using fun fresh => stale (members.mpr fresh)

omit [DecidableRel clash] in
theorem apart (symmetric : ∀ first second, clash first second → clash second first)
    (table : UniqueTable α clash) {first second : Nat} {left right : α}
    (atFirst : table.rows[first]? = some left) (atSecond : table.rows[second]? = some right)
    (differ : first ≠ second) : ¬ clash left right := by
  obtain ⟨belowFirst, rfl⟩ := List.getElem?_eq_some_iff.mp atFirst
  obtain ⟨belowSecond, rfl⟩ := List.getElem?_eq_some_iff.mp atSecond
  have pairs := List.pairwise_iff_getElem.mp table.distinct
  rcases Nat.lt_or_gt_of_ne differ with below | above
  · exact pairs first second belowFirst belowSecond below
  · exact fun clashes => pairs second first belowSecond belowFirst above (symmetric _ _ clashes)

end UniqueTable

end RowTable
