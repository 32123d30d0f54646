import Mathlib.Data.List.Sort
import Mathlib.Data.List.Perm.Basic
import Mathlib.Data.List.Lex
import Mathlib.Data.Char
import PsCore.Library.JsonText

/-!
Objects have no order. Two values are the same where one becomes the other by rearranging the
entries of objects, at any depth; with the keys of every object sorted, such values are equal.
-/

namespace KeyOrder

section

variable {Number : Type}

def keyLe (first second : String × JsonValue Number) : Prop :=
  first.1.toList ≤ second.1.toList

instance : DecidableRel (keyLe : String × JsonValue Number → String × JsonValue Number → Prop) := fun first second =>
  inferInstanceAs (Decidable (first.1.toList ≤ second.1.toList))

mutual

def sortKeys : JsonValue Number → JsonValue Number
  | .list items => .list (sortItems items)
  | .dict entries => .dict ((sortEntries entries).insertionSort keyLe)
  | value => value

def sortItems : List (JsonValue Number) → List (JsonValue Number)
  | [] => []
  | item :: rest => sortKeys item :: sortItems rest

def sortEntries : List (String × JsonValue Number) → List (String × JsonValue Number)
  | [] => []
  | (key, value) :: rest => (key, sortKeys value) :: sortEntries rest

end

mutual

def distinctKeys : JsonValue Number → Bool
  | .list items => itemsDistinct items
  | .dict entries => decide (entries.map Prod.fst).Nodup && entriesDistinct entries
  | _ => true

def itemsDistinct : List (JsonValue Number) → Bool
  | [] => true
  | item :: rest => distinctKeys item && itemsDistinct rest

def entriesDistinct : List (String × JsonValue Number) → Bool
  | [] => true
  | (_, value) :: rest => distinctKeys value && entriesDistinct rest

end

mutual

/-- The same but for the order of the entries of objects. -/
inductive Same : JsonValue Number → JsonValue Number → Prop
  | null : Same .null .null
  | boolean (value : Bool) : Same (.boolean value) (.boolean value)
  | number (value : Number) : Same (.number value) (.number value)
  | text (value : String) : Same (.text value) (.text value)
  | list {items others : List (JsonValue Number)} : SameItems items others → Same (.list items) (.list others)
  | dict {entries rearranged others : List (String × JsonValue Number)} :
      SameEntries entries rearranged → rearranged.Perm others → Same (.dict entries) (.dict others)

inductive SameItems : List (JsonValue Number) → List (JsonValue Number) → Prop
  | nil : SameItems [] []
  | cons {item other : JsonValue Number} {items others : List (JsonValue Number)} :
      Same item other → SameItems items others → SameItems (item :: items) (other :: others)

inductive SameEntries : List (String × JsonValue Number) → List (String × JsonValue Number) → Prop
  | nil : SameEntries [] []
  | cons {key : String} {value other : JsonValue Number} {entries others : List (String × JsonValue Number)} :
      Same value other → SameEntries entries others →
      SameEntries ((key, value) :: entries) ((key, other) :: others)

end

def sortEntry (entry : String × JsonValue Number) : String × JsonValue Number :=
  (entry.1, sortKeys entry.2)

theorem sortEntries_eq (entries : List (String × JsonValue Number)) : sortEntries entries = entries.map sortEntry := by
  induction entries with
  | nil => rfl
  | cons entry rest ih => rw [sortEntries, ih, List.map_cons, sortEntry]

theorem keys_sortEntries (entries : List (String × JsonValue Number)) :
    (sortEntries entries).map Prod.fst = entries.map Prod.fst := by
  rw [sortEntries_eq, List.map_map]
  rfl

theorem entriesDistinct_iff (entries : List (String × JsonValue Number)) :
    entriesDistinct entries = true ↔ ∀ entry ∈ entries, distinctKeys entry.2 = true := by
  induction entries with
  | nil => simp [entriesDistinct]
  | cons entry rest ih => simp [entriesDistinct, ih]

instance : Std.Total (keyLe : String × JsonValue Number → String × JsonValue Number → Prop) :=
  ⟨fun first second => le_total first.1.toList second.1.toList⟩

instance : IsTrans (String × JsonValue Number) keyLe :=
  ⟨fun first second third below above => by
    unfold keyLe at below above ⊢
    exact le_trans below above⟩

theorem insertionSort_eq_of_perm {first second : List (String × JsonValue Number)} (perm : first.Perm second)
    (distinct : (first.map Prod.fst).Nodup) : first.insertionSort keyLe = second.insertionSort keyLe := by
  refine List.Perm.eq_of_pairwise ?_ (List.pairwise_insertionSort keyLe first)
    (List.pairwise_insertionSort keyLe second)
    ((List.perm_insertionSort keyLe first).trans (perm.trans (List.perm_insertionSort keyLe second).symm))
  intro one other isOne isOther below above
  rw [List.mem_insertionSort] at isOne isOther
  unfold keyLe at below above
  have sameKey : one.1 = other.1 := String.toList_injective (le_antisymm below above)
  exact List.inj_on_of_nodup_map distinct isOne (perm.mem_iff.mpr isOther) sameKey

/-! Same values, sorted. -/

mutual

theorem Same.sortKeys_eq {value other : JsonValue Number} (same : Same value other)
    (distinct : distinctKeys value = true) (otherDistinct : distinctKeys other = true) :
    sortKeys value = sortKeys other := by
  cases same with
  | list items =>
      rw [sortKeys, sortKeys, items.sortItems_eq distinct otherDistinct]
  | dict matched perm =>
      rename_i entries rearranged others
      simp only [distinctKeys, Bool.and_eq_true, decide_eq_true_eq] at distinct otherDistinct
      have inner : entriesDistinct rearranged = true := by
        rw [entriesDistinct_iff]
        exact fun entry member => (entriesDistinct_iff others).mp otherDistinct.2 entry (perm.mem_iff.mp member)
      have sorted : (sortEntries rearranged).Perm (sortEntries others) := by
        rw [sortEntries_eq, sortEntries_eq]
        exact perm.map sortEntry
      have keys : ((sortEntries rearranged).map Prod.fst).Nodup := by
        rw [keys_sortEntries]
        exact (perm.map Prod.fst).nodup_iff.mpr otherDistinct.1
      rw [sortKeys, sortKeys, matched.sortEntries_eq distinct.2 inner, insertionSort_eq_of_perm sorted keys]
  | _ => rfl

theorem SameItems.sortItems_eq {items others : List (JsonValue Number)} (same : SameItems items others)
    (distinct : itemsDistinct items = true) (otherDistinct : itemsDistinct others = true) :
    sortItems items = sortItems others := by
  cases same with
  | nil => rfl
  | cons item rest =>
      rw [itemsDistinct, Bool.and_eq_true] at distinct otherDistinct
      rw [sortItems, sortItems, item.sortKeys_eq distinct.1 otherDistinct.1,
        rest.sortItems_eq distinct.2 otherDistinct.2]

theorem SameEntries.sortEntries_eq {entries others : List (String × JsonValue Number)}
    (same : SameEntries entries others) (distinct : entriesDistinct entries = true)
    (otherDistinct : entriesDistinct others = true) : sortEntries entries = sortEntries others := by
  cases same with
  | nil => rfl
  | cons value rest =>
      rw [entriesDistinct, Bool.and_eq_true] at distinct otherDistinct
      rw [sortEntries, sortEntries, value.sortKeys_eq distinct.1 otherDistinct.1,
        rest.sortEntries_eq distinct.2 otherDistinct.2]

end

theorem perm_map_cases {α β : Type} {f : α → β} {images : List β} {origins : List α}
    (perm : images.Perm (origins.map f)) :
    ∃ rearranged : List α, images = rearranged.map f ∧ rearranged.Perm origins := by
  have composed : Relation.Comp (· = List.map f ·) List.Perm images origins := by
    rw [List.eq_map_comp_perm]
    exact perm
  exact composed

mutual

theorem same_of_sortKeys_eq {value other : JsonValue Number} (sorted : sortKeys value = sortKeys other) :
    Same value other := by
  cases value with
  | null => cases other <;> simp only [sortKeys, reduceCtorEq] at sorted; exact .null
  | boolean value =>
      cases other <;> simp only [sortKeys, reduceCtorEq, JsonValue.boolean.injEq] at sorted
      subst sorted
      exact .boolean value
  | number value =>
      cases other <;> simp only [sortKeys, reduceCtorEq, JsonValue.number.injEq] at sorted
      subst sorted
      exact .number value
  | text value =>
      cases other <;> simp only [sortKeys, reduceCtorEq, JsonValue.text.injEq] at sorted
      subst sorted
      exact .text value
  | list items =>
      cases other <;> simp only [sortKeys, reduceCtorEq, JsonValue.list.injEq] at sorted
      exact .list (sameItems_of_sortItems_eq sorted)
  | dict entries =>
      cases other <;> simp only [sortKeys, reduceCtorEq, JsonValue.dict.injEq] at sorted
      rename_i others
      have perm : (sortEntries entries).Perm (sortEntries others) :=
        (List.perm_insertionSort keyLe _).symm.trans (sorted ▸ List.perm_insertionSort keyLe _)
      rw [sortEntries_eq others] at perm
      obtain ⟨rearranged, isSorted, rearranges⟩ := perm_map_cases perm
      rw [← sortEntries_eq] at isSorted
      exact .dict (sameEntries_of_sortEntries_eq isSorted) rearranges

theorem sameItems_of_sortItems_eq {items others : List (JsonValue Number)}
    (sorted : sortItems items = sortItems others) : SameItems items others := by
  match items, others with
  | [], [] => exact .nil
  | [], _ :: _ => simp [sortItems] at sorted
  | _ :: _, [] => simp [sortItems] at sorted
  | item :: rest, other :: later =>
      rw [sortItems, sortItems, List.cons.injEq] at sorted
      exact .cons (same_of_sortKeys_eq sorted.1) (sameItems_of_sortItems_eq sorted.2)

theorem sameEntries_of_sortEntries_eq {entries others : List (String × JsonValue Number)}
    (sorted : sortEntries entries = sortEntries others) : SameEntries entries others := by
  match entries, others with
  | [], [] => exact .nil
  | [], (_, _) :: _ => simp [sortEntries] at sorted
  | (_, _) :: _, [] => simp [sortEntries] at sorted
  | (key, value) :: rest, (otherKey, other) :: later =>
      simp only [sortEntries, List.cons.injEq, Prod.mk.injEq] at sorted
      obtain ⟨⟨sameKey, sameValue⟩, sameRest⟩ := sorted
      subst sameKey
      exact .cons (same_of_sortKeys_eq sameValue) (sameEntries_of_sortEntries_eq sameRest)

end

theorem sortKeys_eq_iff {value other : JsonValue Number} (distinct : distinctKeys value = true)
    (otherDistinct : distinctKeys other = true) : sortKeys value = sortKeys other ↔ Same value other :=
  ⟨same_of_sortKeys_eq, fun same => same.sortKeys_eq distinct otherDistinct⟩

theorem insertionSort_increases {entries : List (String × JsonValue Number)} (distinct : (entries.map Prod.fst).Nodup) :
    ((entries.insertionSort keyLe).map (·.1.toList)).Pairwise (· < ·) := by
  rw [List.pairwise_map]
  have perm := List.perm_insertionSort keyLe entries
  have apart : (entries.insertionSort keyLe).Pairwise fun first second => first.1 ≠ second.1 := by
    have nodup : ((entries.insertionSort keyLe).map Prod.fst).Nodup := (perm.map Prod.fst).nodup_iff.mpr distinct
    exact List.pairwise_map.mp nodup
  refine ((List.pairwise_insertionSort keyLe entries).and apart).imp ?_
  rintro first second ⟨below, differ⟩
  unfold keyLe at below
  exact lt_of_le_of_ne below fun same => differ (String.toList_injective same)

end

end KeyOrder
