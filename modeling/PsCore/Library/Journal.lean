import Mathlib.Data.List.Chain

/-!
Journals of the states of objects. An entry names its object, the state that the object
comes from (none for the first entry) and the state that it goes to. The journal is complete
when it lacks no change of any object.
-/

/-- How the entries tell of the objects, which are rows of a table. -/
structure Journal (Object Entry Status : Type) where
  subject : Entry → Nat
  origin : Entry → Option Status
  target : Entry → Status
  current : Object → Status
  start : Status

namespace Journal

variable {Object Entry Status : Type} (journal : Journal Object Entry Status)

def entriesOf (entries : List Entry) (key : Nat) : List Entry :=
  entries.filter (journal.subject · = key)

/-- From nothing to the start, then each entry from where the one before it led, up to the status given. -/
structure Complete (entries : List Entry) (status : Status) : Prop where
  first : entries.head?.map (fun entry => (journal.origin entry, journal.target entry)) = some (none, journal.start)
  contiguous : entries.IsChain fun earlier later => journal.origin later = some (journal.target earlier)
  last : entries.getLast?.map journal.target = some status

structure Tracked (objects : List Object) (entries : List Entry) : Prop where
  complete : ∀ (key : Nat) (object : Object), objects[key]? = some object →
    journal.Complete (journal.entriesOf entries key) (journal.current object)
  known : ∀ entry ∈ entries, journal.subject entry < objects.length

variable {journal} {objects : List Object} {entries : List Entry} {entry : Entry} {key : Nat}

theorem entriesOf_append_own (own : journal.subject entry = key) :
    journal.entriesOf (entries ++ [entry]) key = journal.entriesOf entries key ++ [entry] := by
  simp [entriesOf, own]

theorem entriesOf_append_other (other : journal.subject entry ≠ key) :
    journal.entriesOf (entries ++ [entry]) key = journal.entriesOf entries key := by
  simp [entriesOf, other]

theorem Complete.opened (fresh : journal.origin entry = none) (started : journal.target entry = journal.start) :
    journal.Complete [entry] journal.start where
  first := by simp [fresh, started]
  contiguous := .singleton entry
  last := by simp [started]

theorem Complete.append {status : Status} (complete : journal.Complete entries status)
    (from_ : journal.origin entry = some status) :
    journal.Complete (entries ++ [entry]) (journal.target entry) where
  first := by
    have first := complete.first
    cases entries with
    | nil => simp at first
    | cons opening rest => exact first
  contiguous := by
    have last := complete.last
    refine List.isChain_append.mpr ⟨complete.contiguous, .singleton entry, fun earlier isLast later isNext => ?_⟩
    simp only [List.head?_cons, Option.mem_def, Option.some.injEq] at isNext
    rw [Option.mem_def.mp isLast, Option.map_some, Option.some.injEq] at last
    rw [← isNext, from_, last]
  last := by simp

/-! A table of objects under its journal. -/

theorem Tracked.empty : journal.Tracked [] [] where
  complete := fun key object found => by simp at found
  known := fun entry member => by simp at member

theorem Tracked.silent {before after : Object} (tracked : journal.Tracked objects entries)
    (found : objects[key]? = some before) (same : journal.current after = journal.current before) :
    journal.Tracked (objects.set key after) entries where
  complete := fun other object foundOther => by
    rw [List.getElem?_set] at foundOther
    split at foundOther
    · rename_i isKey
      subst isKey
      split at foundOther
      · cases foundOther
        rw [same]
        exact tracked.complete key before found
      · cases foundOther
    · exact tracked.complete other object foundOther
  known := fun entry member => by
    rw [List.length_set]
    exact tracked.known entry member

theorem Tracked.noted {before after : Object} (tracked : journal.Tracked objects entries)
    (found : objects[key]? = some before) (own : journal.subject entry = key)
    (from_ : journal.origin entry = some (journal.current before))
    (leadsTo : journal.target entry = journal.current after) :
    journal.Tracked (objects.set key after) (entries ++ [entry]) where
  complete := fun other object foundOther => by
    rw [List.getElem?_set] at foundOther
    split at foundOther
    · rename_i isKey
      subst isKey
      split at foundOther
      · cases foundOther
        rw [entriesOf_append_own own, ← leadsTo]
        exact (tracked.complete key before found).append from_
      · cases foundOther
    · rename_i isOther
      rw [entriesOf_append_other (by rw [own]; exact isOther)]
      exact tracked.complete other object foundOther
  known := fun earlier member => by
    rw [List.length_set]
    rcases List.mem_append.mp member with old | new
    · exact tracked.known earlier old
    · have below : key < objects.length := (List.getElem?_eq_some_iff.mp found).1
      rw [List.mem_singleton.mp new, own]
      exact below

theorem Tracked.created {object : Object} (tracked : journal.Tracked objects entries)
    (own : journal.subject entry = objects.length) (fresh : journal.origin entry = none)
    (started : journal.target entry = journal.start) (current : journal.current object = journal.start) :
    journal.Tracked (objects ++ [object]) (entries ++ [entry]) where
  complete := fun other found foundOther => by
    rcases Nat.lt_trichotomy other objects.length with earlier | same | later
    · rw [List.getElem?_append_left earlier] at foundOther
      rw [entriesOf_append_other (by omega)]
      exact tracked.complete other found foundOther
    · subst same
      rw [List.getElem?_append_right (Nat.le_refl _), Nat.sub_self, List.getElem?_cons_zero, Option.some.injEq]
        at foundOther
      have absent : journal.entriesOf entries objects.length = [] := by
        refine List.filter_eq_nil_iff.mpr fun row member => ?_
        have below := tracked.known row member
        simp only [decide_eq_true_eq]
        omega
      rw [entriesOf_append_own own, absent, ← foundOther, current]
      exact .opened fresh started
    · have outside : (objects ++ [object])[other]? = none := by
        rw [List.getElem?_eq_none_iff, List.length_append, List.length_singleton]
        omega
      rw [outside] at foundOther
      cases foundOther
  known := fun earlier member => by
    rw [List.length_append, List.length_singleton]
    rcases List.mem_append.mp member with old | new
    · have below := tracked.known earlier old
      omega
    · rw [List.mem_singleton.mp new]
      omega

end Journal
