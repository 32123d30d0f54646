import PsCore.Library.RowTable

/-!
Audit trails. An entry names the row that it is about and says how what is known of the row goes on; a trail
tells of its rows when reading the entries of each in their order, from nothing read, gives its facts.
-/

structure AuditTrail (Row Entry Known Fact : Type) where
  subject : Entry → Nat
  unread : Known
  reads : Known → Entry → Known
  concludes : Known → Option Fact
  fact : Row → Fact

namespace AuditTrail

open RowTable

variable {Row Entry Known Fact : Type} (trail : AuditTrail Row Entry Known Fact)

def readOn (known : Known) (entries : List Entry) (key : Nat) : Known :=
  (entries.filter (trail.subject · = key)).foldl trail.reads known

def told (entries : List Entry) (key : Nat) : Known :=
  trail.readOn trail.unread entries key

structure Tells (rows : List Row) (entries : List Entry) : Prop where
  facts : ∀ (key : Nat) (row : Row), rows[key]? = some row →
    trail.concludes (trail.told entries key) = some (trail.fact row)
  known : ∀ entry ∈ entries, trail.subject entry < rows.length

variable {trail} {rows next : List Row} {entries added : List Entry} {entry : Entry} {key : Nat} {known : Known}

theorem told_append (entries added : List Entry) (key : Nat) :
    trail.told (entries ++ added) key = trail.readOn (trail.told entries key) added key := by
  simp [told, readOn]

theorem readOn_others (others : ∀ entry ∈ added, trail.subject entry ≠ key) :
    trail.readOn known added key = known := by
  have none : added.filter (trail.subject · = key) = [] := by
    simpa [List.filter_eq_nil_iff] using others
  rw [readOn, none, List.foldl_nil]

theorem readOn_own (own : trail.subject entry = key) :
    trail.readOn known [entry] key = trail.reads known entry := by
  simp [readOn, own]

/-- When the entries are about distinct rows, one of them is all that is read of its row. -/
theorem readOn_distinct (distinct : (added.map trail.subject).Nodup) (member : entry ∈ added) :
    trail.readOn known added (trail.subject entry) = trail.reads known entry := by
  induction added with
  | nil => cases member
  | cons first rest ih =>
      rw [List.map_cons, List.nodup_cons] at distinct
      obtain ⟨apart, distinctRest⟩ := distinct
      rcases List.mem_cons.mp member with rfl | later
      · have others : ∀ other ∈ rest, trail.subject other ≠ trail.subject entry := by
          intro other isRest same
          exact apart (same ▸ List.mem_map_of_mem isRest)
        have split : trail.readOn known (entry :: rest) (trail.subject entry) =
            trail.readOn (trail.reads known entry) rest (trail.subject entry) := by
          simp [readOn]
        rw [split, readOn_others others]
      · have differ : trail.subject first ≠ trail.subject entry := by
          intro same
          exact apart (same ▸ List.mem_map_of_mem later)
        have skipped : trail.readOn known (first :: rest) (trail.subject entry) =
            trail.readOn known rest (trail.subject entry) := by
          simp [readOn, differ]
        rw [skipped, ih distinctRest later]

theorem Tells.empty : trail.Tells [] [] where
  facts := fun key row found => by simp at found
  known := fun entry member => by cases member

theorem Tells.told_fresh (tells : trail.Tells rows entries) : trail.told entries rows.length = trail.unread :=
  readOn_others fun entry member => Nat.ne_of_lt (tells.known entry member)

theorem Tells.created {row : Row} (tells : trail.Tells rows entries) (own : trail.subject entry = rows.length)
    (opens : trail.concludes (trail.reads trail.unread entry) = some (trail.fact row)) :
    trail.Tells (rows ++ [row]) (entries ++ [entry]) where
  facts := fun key other found => by
    rw [told_append]
    rcases append_cases found with earlier | ⟨isLast, isNew⟩
    · have below := (List.getElem?_eq_some_iff.mp earlier).1
      have differ : ∀ one ∈ [entry], trail.subject one ≠ key := by
        intro one member
        rw [List.mem_singleton.mp member, own]
        omega
      rw [readOn_others differ]
      exact tells.facts key other earlier
    · rw [isLast, isNew, tells.told_fresh, readOn_own own, opens]
  known := fun one member => by
    rw [List.length_append, List.length_singleton]
    rcases List.mem_append.mp member with old | new
    · exact Nat.lt_succ_of_lt (tells.known one old)
    · rw [List.mem_singleton.mp new, own]
      exact Nat.lt_succ_self _

/-- Rows that are rewritten in place: the trail goes on telling of them exactly when the new entries make the
new facts of what was known. -/
theorem Tells.rewritten_iff (tells : trail.Tells rows entries) (sameLength : next.length = rows.length)
    (about : ∀ entry ∈ added, trail.subject entry < rows.length) :
    trail.Tells next (entries ++ added) ↔ ∀ (key : Nat) (before after : Row), rows[key]? = some before →
      next[key]? = some after →
        trail.concludes (trail.readOn (trail.told entries key) added key) = some (trail.fact after) := by
  constructor
  · intro tellsNext key before after found foundNext
    have told := tellsNext.facts key after foundNext
    rw [told_append] at told
    exact told
  · intro read
    refine ⟨fun key after foundNext => ?_, fun entry member => ?_⟩
    · have below : key < rows.length := sameLength ▸ (List.getElem?_eq_some_iff.mp foundNext).1
      rw [told_append]
      exact read key rows[key] after (List.getElem?_eq_getElem below) foundNext
    · rw [sameLength]
      rcases List.mem_append.mp member with old | new
      · exact tells.known entry old
      · exact about entry new

theorem Tells.set {before after : Row} (tells : trail.Tells rows entries) (found : rows[key]? = some before)
    (own : trail.subject entry = key)
    (follows : trail.concludes (trail.reads (trail.told entries key) entry) = some (trail.fact after)) :
    trail.Tells (rows.set key after) (entries ++ [entry]) := by
  have below := (List.getElem?_eq_some_iff.mp found).1
  refine (tells.rewritten_iff (List.length_set ..) fun one member => ?_).mpr fun other old new foundOld foundNew => ?_
  · rw [List.mem_singleton.mp member, own]
    exact below
  · by_cases same : key = other
    · subst same
      rw [List.getElem?_set_self below, Option.some.injEq] at foundNew
      rw [readOn_own own, ← foundNew]
      exact follows
    · rw [List.getElem?_set_ne same, foundOld, Option.some.injEq] at foundNew
      have others : ∀ one ∈ [entry], trail.subject one ≠ other := by
        intro one member
        rw [List.mem_singleton.mp member, own]
        exact same
      rw [readOn_others others, ← foundNew]
      exact tells.facts other old foundOld

theorem Tells.silent (tells : trail.Tells rows entries)
    (kept : KeptBy (fun before after => trail.fact after = trail.fact before) rows next)
    (fresh : ∀ (key : Nat) (row : Row), rows.length ≤ key → next[key]? = some row →
      trail.concludes trail.unread = some (trail.fact row)) : trail.Tells next entries where
  facts := fun key row found => by
    by_cases below : key < rows.length
    · obtain ⟨after, foundAfter, same⟩ := kept key rows[key] (List.getElem?_eq_getElem below)
      rw [found, Option.some.injEq] at foundAfter
      rw [tells.facts key rows[key] (List.getElem?_eq_getElem below), foundAfter, same]
    · have others : ∀ entry ∈ entries, trail.subject entry ≠ key := by
        intro entry member same
        exact below (same ▸ tells.known entry member)
      rw [told, readOn_others others]
      exact fresh key row (Nat.le_of_not_lt below) found
  known := fun entry member => by
    have below := tells.known entry member
    obtain ⟨after, found, _⟩ := kept _ _ (List.getElem?_eq_getElem below)
    exact (List.getElem?_eq_some_iff.mp found).1

end AuditTrail
