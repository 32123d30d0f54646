import Mathlib.Data.Prod.Lex
import Mathlib.Order.CompletePartialOrder
import Mathlib.Order.Interval.Set.Disjoint

/-!
Rosters. Every position of a roster may hold a shift of some worker: a day and a half-open
interval of its time. A roster is apart when no worker is wanted twice at a time.
-/

structure Shift (Worker Day Time : Type) where
  worker : Worker
  day : Day
  start : Time
  finish : Time

namespace Shift

variable {Worker Day Time : Type} [LinearOrder Time]

def interval (shift : Shift Worker Day Time) : Set Time :=
  Set.Ico shift.start shift.finish

def Clash (first second : Shift Worker Day Time) : Prop :=
  first.worker = second.worker ∧ first.day = second.day ∧ first.start < second.finish ∧ second.start < first.finish

theorem Clash.symm {first second : Shift Worker Day Time} (clash : first.Clash second) : second.Clash first :=
  ⟨clash.1.symm, clash.2.1.symm, clash.2.2.2, clash.2.2.1⟩

theorem disjoint_of_not_clash {first second : Shift Worker Day Time} (worker : first.worker = second.worker)
    (day : first.day = second.day) (apart : ¬ first.Clash second) : Disjoint first.interval second.interval := by
  refine Set.Ico_disjoint_Ico.mpr ?_
  by_cases before : first.start < second.finish
  · have after : first.finish ≤ second.start := not_lt.mp fun within => apart ⟨worker, day, before, within⟩
    exact (min_le_left _ _).trans (after.trans (le_max_right _ _))
  · exact (min_le_right _ _).trans ((not_lt.mp before).trans (le_max_left _ _))

end Shift

namespace Roster

variable {Worker Day Time : Type} [LinearOrder Time]

def Apart (roster : List (Option (Shift Worker Day Time))) : Prop :=
  ∀ (first second : Nat) (left right : Shift Worker Day Time), first ≠ second →
    roster[first]? = some (some left) → roster[second]? = some (some right) → ¬ left.Clash right

variable {roster next : List (Option (Shift Worker Day Time))}

theorem Apart.nil : Apart ([] : List (Option (Shift Worker Day Time))) :=
  fun first second left right _ atFirst => by simp at atFirst

theorem Apart.released (apart : Apart roster)
    (kept : ∀ (key : Nat) (shift : Shift Worker Day Time), next[key]? = some (some shift) →
      roster[key]? = some (some shift)) : Apart next :=
  fun first second left right differ atFirst atSecond =>
    apart first second left right differ (kept first left atFirst) (kept second right atSecond)

theorem Apart.taken (apart : Apart roster) {key : Nat} {shift : Option (Shift Worker Day Time)}
    (free : ∀ (taken : Shift Worker Day Time), shift = some taken →
      ∀ (other : Nat) (present : Shift Worker Day Time), other ≠ key →
        roster[other]? = some (some present) → ¬ taken.Clash present) : Apart (roster.set key shift) := by
  have elsewhere : ∀ (position : Nat) (present : Shift Worker Day Time), position ≠ key →
      (roster.set key shift)[position]? = some (some present) → roster[position]? = some (some present) := by
    intro position present other found
    rwa [List.getElem?_set_ne (Ne.symm other)] at found
  have here : ∀ (present : Shift Worker Day Time), (roster.set key shift)[key]? = some (some present) →
      shift = some present := by
    intro present found
    have below : key < roster.length := by simpa using (List.getElem?_eq_some_iff.mp found).1
    rw [List.getElem?_set_self below, Option.some.injEq] at found
    exact found
  intro first second left right differ atFirst atSecond
  by_cases isFirst : first = key
  · subst isFirst
    exact free left (here left atFirst) second right (Ne.symm differ)
      (elsewhere second right (Ne.symm differ) atSecond)
  · by_cases isSecond : second = key
    · subst isSecond
      intro clash
      exact free right (here right atSecond) first left differ (elsewhere first left differ atFirst) clash.symm
    · exact apart first second left right differ (elsewhere first left isFirst atFirst)
        (elsewhere second right isSecond atSecond)

end Roster

/-! Half-open intervals within one day, among the moments of all days. -/

namespace DayInterval

variable {Day Time : Type} [LinearOrder Day] [LinearOrder Time]

def moments (day : Day) (start finish : Time) : Set (Lex (Day × Time)) :=
  Set.Ico (toLex (day, start)) (toLex (day, finish))

theorem mem_moments {day other : Day} {start finish time : Time} :
    toLex (other, time) ∈ moments day start finish ↔ other = day ∧ start ≤ time ∧ time < finish := by
  simp only [moments, Set.mem_Ico, Prod.Lex.toLex_le_toLex, Prod.Lex.toLex_lt_toLex]
  constructor
  · rintro ⟨after | ⟨sameDay, after⟩, before | ⟨_, before⟩⟩
    · exact (lt_asymm after before).elim
    · rename_i sameDay
      exact (after.ne sameDay.symm).elim
    · exact (before.ne sameDay.symm).elim
    · exact ⟨sameDay.symm, after, before⟩
  · rintro ⟨sameDay, after, before⟩
    exact ⟨.inr ⟨sameDay.symm, after⟩, .inr ⟨sameDay, before⟩⟩

theorem moments_meet_iff {day other : Day} {start finish otherStart otherFinish : Time} (ordered : start < finish)
    (otherOrdered : otherStart < otherFinish) :
    (moments day start finish ∩ moments other otherStart otherFinish).Nonempty ↔
      other = day ∧ otherStart < finish ∧ start < otherFinish := by
  constructor
  · rintro ⟨moment, within, withinOther⟩
    obtain ⟨onDay, after, before⟩ := mem_moments.mp within
    obtain ⟨onOther, otherAfter, otherBefore⟩ := mem_moments.mp withinOther
    exact ⟨onOther.symm.trans onDay, otherAfter.trans_lt before, after.trans_lt otherBefore⟩
  · rintro ⟨sameDay, before, otherBefore⟩
    refine ⟨toLex (day, max start otherStart), ?_, ?_⟩
    · exact mem_moments.mpr ⟨rfl, le_max_left _ _, max_lt ordered before⟩
    · exact mem_moments.mpr ⟨sameDay.symm, le_max_right _ _, max_lt otherBefore otherOrdered⟩

end DayInterval
