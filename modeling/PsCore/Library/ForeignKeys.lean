/-!
Tables with keys that are not used again for another row, and the rows elsewhere that refer to them. A row may go
when nothing refers to it, when what refers to it goes too, or when the references are cleared.
-/

namespace ForeignKeys

variable {Key Row Child : Type} [DecidableEq Key]

structure KeyTable (Key Row : Type) where
  rows : List (Key × Row)
  distinct : (rows.map Prod.fst).Nodup

namespace KeyTable

def empty : KeyTable Key Row where
  rows := []
  distinct := .nil

def find (table : KeyTable Key Row) (key : Key) : Option Row :=
  (table.rows.find? (·.1 = key)).map Prod.snd

def has (table : KeyTable Key Row) (key : Key) : Bool :=
  (table.find key).isSome

def values (table : KeyTable Key Row) : List Row :=
  table.rows.map Prod.snd

def insert? (table : KeyTable Key Row) (key : Key) (row : Row) : Option (KeyTable Key Row) :=
  if fresh : key ∈ table.rows.map Prod.fst then none
  else some {
    rows := table.rows ++ [(key, row)]
    distinct := by
      rw [List.map_append]
      refine List.nodup_append.mpr ⟨table.distinct, by simp, fun one isOld other isNew same => ?_⟩
      rw [List.map_singleton, List.mem_singleton] at isNew
      have isKey : one = key := same.trans isNew
      exact fresh (isKey ▸ isOld)
  }

def set (table : KeyTable Key Row) (key : Key) (row : Row) : KeyTable Key Row where
  rows := table.rows.map fun one => if one.1 = key then (key, row) else one
  distinct := by
    have keys : (table.rows.map fun one => if one.1 = key then (key, row) else one).map Prod.fst =
        table.rows.map Prod.fst := by
      rw [List.map_map]
      refine List.map_congr_left fun one _ => ?_
      simp only [Function.comp_apply]
      split
      · rename_i same
        exact same.symm
      · rfl
    rw [keys]
    exact table.distinct

def delete (table : KeyTable Key Row) (key : Key) : KeyTable Key Row where
  rows := table.rows.filter (·.1 ≠ key)
  distinct := (List.filter_sublist.map Prod.fst).nodup table.distinct

variable {table next : KeyTable Key Row} {key other : Key} {row : Row}

theorem find_iff : table.find key = some row ↔ (key, row) ∈ table.rows := by
  obtain ⟨rows, distinct⟩ := table
  unfold find
  dsimp only
  induction rows with
  | nil => simp
  | cons first rest ih =>
      rw [List.map_cons, List.nodup_cons] at distinct
      obtain ⟨apart, distinctRest⟩ := distinct
      rw [List.find?_cons]
      split
      · rename_i isKey
        have isKey : first.1 = key := by simpa using isKey
        rw [Option.map_some, Option.some.injEq, List.mem_cons]
        constructor
        · rintro rfl
          exact .inl (by rw [← isKey])
        · rintro (rfl | later)
          · rfl
          · exact absurd (List.mem_map_of_mem later) (isKey ▸ apart)
      · rename_i differs
        have differs : first.1 ≠ key := by simpa using differs
        rw [ih distinctRest, List.mem_cons]
        refine ⟨.inr, fun member => member.resolve_left fun same => ?_⟩
        rw [← same] at differs
        exact differs rfl

theorem has_iff : table.has key = true ↔ ∃ row, table.find key = some row := Option.isSome_iff_exists

theorem mem_values : row ∈ table.values ↔ ∃ key, table.find key = some row := by
  simp only [values, List.mem_map, find_iff, Prod.exists, exists_eq_right]

theorem find_insert (inserted : table.insert? key row = some next) :
    table.find key = none ∧ ∀ other, next.find other = if other = key then some row else table.find other := by
  unfold insert? at inserted
  split at inserted
  · cases inserted
  · rename_i fresh
    cases inserted
    have absent : table.find key = none := by
      refine Option.eq_none_iff_forall_ne_some.mpr fun old found => fresh ?_
      exact List.mem_map_of_mem (find_iff.mp found)
    refine ⟨absent, fun other => ?_⟩
    unfold find at absent ⊢
    rw [List.find?_append, Option.map_or]
    by_cases same : other = key
    · subst same
      rw [absent]
      simp
    · have differs : key ≠ other := fun back => same back.symm
      simp [same, differs]

theorem find_set (found : table.find key = some row) (changed : Row) (other : Key) :
    (table.set key changed).find other = if other = key then some changed else table.find other := by
  refine Option.ext fun one => ?_
  rw [find_iff]
  simp only [set, List.mem_map, Prod.exists]
  constructor
  · rintro ⟨old, oldRow, member, isOne⟩
    split at isOne
    · cases isOne
      rw [if_pos rfl]
    · rename_i differs
      cases isOne
      rw [if_neg differs]
      exact find_iff.mpr member
  · intro isOne
    split at isOne
    · rename_i same
      cases isOne
      exact ⟨key, row, find_iff.mp found, by rw [if_pos rfl, same]⟩
    · rename_i differs
      exact ⟨other, one, find_iff.mp isOne, by rw [if_neg differs]⟩

theorem find_delete (table : KeyTable Key Row) (key other : Key) :
    (table.delete key).find other = if other = key then none else table.find other := by
  refine Option.ext fun one => ?_
  rw [find_iff]
  simp only [delete, List.mem_filter, decide_eq_true_eq]
  constructor
  · rintro ⟨member, differs⟩
    rw [if_neg differs]
    exact find_iff.mpr member
  · intro isOne
    split at isOne
    · cases isOne
    · rename_i differs
      exact ⟨find_iff.mp isOne, differs⟩

theorem has_insert (inserted : table.insert? key row = some next) (present : table.has other = true) :
    next.has other = true := by
  rw [has, (find_insert inserted).2]
  split
  · rfl
  · exact present

theorem has_set (changed : Row) (present : table.has other = true) : (table.set key changed).has other = true := by
  by_cases found : ∃ row, table.find key = some row
  · obtain ⟨row, found⟩ := found
    rw [has, find_set found]
    split
    · rfl
    · exact present
  · obtain ⟨row, isOther⟩ := has_iff.mp present
    have differs : other ≠ key := by
      rintro rfl
      exact found ⟨row, isOther⟩
    refine has_iff.mpr ⟨row, find_iff.mpr ?_⟩
    exact List.mem_map.mpr ⟨(other, row), find_iff.mp isOther, if_neg differs⟩

end KeyTable

open KeyTable

/-- Whatever the children refer to is in the table. -/
def Refers (children : List Child) (targets : Child → List Key) (table : KeyTable Key Row) : Prop :=
  ∀ child ∈ children, ∀ target ∈ targets child, table.has target = true

namespace Refers

variable {children next : List Child} {targets : Child → List Key} {table parents : KeyTable Key Row} {key : Key}
  {row : Row} {child : Child}

theorem nil : Refers [] targets table := fun _ member => by cases member

theorem subset (refers : Refers children targets table) (fewer : ∀ child ∈ next, child ∈ children) :
    Refers next targets table :=
  fun child member => refers child (fewer child member)

theorem append (refers : Refers children targets table) (new : Refers next targets table) :
    Refers (children ++ next) targets table :=
  fun child member => (List.mem_append.mp member).elim (refers child) (new child)

theorem one (present : ∀ target ∈ targets child, table.has target = true) : Refers [child] targets table :=
  fun _ member => List.mem_singleton.mp member ▸ present

theorem grows (refers : Refers children targets table) (kept : ∀ key, table.has key = true → parents.has key = true) :
    Refers children targets parents :=
  fun child member target isTarget => kept target (refers child member target isTarget)

theorem inserted (refers : Refers children targets table) (inserted : table.insert? key row = some parents) :
    Refers children targets parents :=
  refers.grows fun _ present => has_insert inserted present

theorem set (refers : Refers children targets table) (key : Key) (row : Row) :
    Refers children targets (table.set key row) :=
  refers.grows fun _ present => has_set row present

theorem unreferenced (refers : Refers children targets table) (free : ∀ child ∈ children, key ∉ targets child) :
    Refers children targets (table.delete key) := by
  intro child member target isTarget
  have differs : target ≠ key := by
    rintro rfl
    exact free child member isTarget
  rw [has, find_delete, if_neg differs]
  exact refers child member target isTarget

theorem cascade (refers : Refers children targets table)
    (spared : ∀ child ∈ next, child ∈ children ∧ key ∉ targets child) : Refers next targets (table.delete key) :=
  (refers.subset fun child member => (spared child member).1).unreferenced fun child member =>
    (spared child member).2

theorem setNull (refers : Refers children targets table) {clear : Child → Child} (key : Key)
    (cleared : ∀ child, ∀ target ∈ targets (clear child), target ∈ targets child ∧ target ≠ key) :
    Refers (children.map clear) targets (table.delete key) := by
  intro after member target isTarget
  obtain ⟨child, isChild, rfl⟩ := List.mem_map.mp member
  obtain ⟨referred, differs⟩ := cleared child target isTarget
  rw [has, find_delete, if_neg differs]
  exact refers child isChild target referred

end Refers

def UniqueValues {Value : Type} (table : KeyTable Key Row) (value : Row → Value) : Prop :=
  ∀ first second left right, table.find first = some left → table.find second = some right →
    value left = value right → first = second

namespace UniqueValues

variable {Value : Type} {table next : KeyTable Key Row} {value : Row → Value} {key : Key} {row : Row}

theorem empty : UniqueValues (KeyTable.empty : KeyTable Key Row) value :=
  fun _ _ _ _ found => by cases found

theorem inserted (unique : UniqueValues table value) (inserted : table.insert? key row = some next)
    (free : ∀ other old, table.find other = some old → value old ≠ value row) : UniqueValues next value := by
  intro first second left right isLeft isRight same
  rw [(find_insert inserted).2] at isLeft isRight
  split at isLeft <;> split at isRight
  · rename_i isFirst isSecond
    rw [isFirst, isSecond]
  · cases isLeft
    exact absurd same.symm (free second right isRight)
  · cases isRight
    exact absurd same (free first left isLeft)
  · exact unique first second left right isLeft isRight same

theorem set {old : Row} (unique : UniqueValues table value) (found : table.find key = some old)
    (free : ∀ other one, other ≠ key → table.find other = some one → value one ≠ value row) :
    UniqueValues (table.set key row) value := by
  intro first second left right isLeft isRight same
  rw [find_set found] at isLeft isRight
  split at isLeft <;> split at isRight
  · rename_i isFirst isSecond
    rw [isFirst, isSecond]
  · rename_i differs
    cases isLeft
    exact absurd same.symm (free second right differs isRight)
  · rename_i differs _
    cases isRight
    exact absurd same (free first left differs isLeft)
  · exact unique first second left right isLeft isRight same

theorem delete (unique : UniqueValues table value) (key : Key) : UniqueValues (table.delete key) value := by
  intro first second left right isLeft isRight same
  rw [find_delete] at isLeft isRight
  split at isLeft
  · cases isLeft
  · split at isRight
    · cases isRight
    · exact unique first second left right isLeft isRight same

end UniqueValues

end ForeignKeys
