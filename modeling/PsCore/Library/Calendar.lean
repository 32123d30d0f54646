import Mathlib.Order.Monotone.Basic
import Mathlib.Tactic.IntervalCases

/-!
The Gregorian calendar as a numbering of days. Years begin in March, so that a leap day is the last day of its year,
and four hundred of them have the same days again.
-/

namespace Calendar

def yearStart (year : Nat) : Nat := 365 * year + year / 4 - year / 100 + year / 400

def InYear (year day : Nat) : Prop := yearStart year ≤ day ∧ day < yearStart (year + 1)

theorem yearStart_succ (year : Nat) :
    yearStart year + 365 ≤ yearStart (year + 1) ∧ yearStart (year + 1) ≤ yearStart year + 366 := by
  unfold yearStart
  omega

theorem yearStart_mono {first second : Nat} (ordered : first ≤ second) : yearStart first ≤ yearStart second :=
  monotone_nat_of_le_succ (fun year => by have next := yearStart_succ year; omega) ordered

theorem inYear_unique {first second day : Nat} (inFirst : InYear first day) (inSecond : InYear second day) :
    first = second := by
  have notBefore {earlier later : Nat} (inEarlier : InYear earlier day) (inLater : InYear later day) :
      ¬ earlier < later := by
    intro before
    have starts : yearStart (earlier + 1) ≤ yearStart later := yearStart_mono before
    have upper := inEarlier.2
    have lower := inLater.1
    omega
  have atLeast := notBefore inFirst inSecond
  have atMost := notBefore inSecond inFirst
  omega

theorem yearStart_add_eras (year eras : Nat) : yearStart (year + eras * 400) = yearStart year + 146097 * eras := by
  unfold yearStart
  omega

/-! The year of a day within an era: centuries, then spans of four years, then years. -/

/-- The leap days so far are taken out, but for the last one of the era. -/
def yearOfEra (day : Nat) : Nat := (day - day / 1460 + day / 36524 - day / 146096) / 365

/-- A day by its century, its four years, its year and its number in the year; leap days stand at the end. -/
structure Placed (century span year number : Nat) : Prop where
  centuries : century ≤ 3
  spans : span ≤ 24
  years : year ≤ 3
  days : number ≤ 365
  leap : number = 365 → year = 3 ∧ (span = 24 → century = 3)

theorem exists_placed {day : Nat} (inEra : day < 146097) : ∃ century span year number,
    Placed century span year number ∧ day = 36524 * century + 1461 * span + 365 * year + number := by
  obtain ⟨century, inCentury, atMost, isDay, bounded, last⟩ : ∃ century rest, century ≤ 3 ∧
      day = 36524 * century + rest ∧ rest ≤ 36524 ∧ (rest = 36524 → century = 3) := by
    by_cases isLast : day = 146096
    · exact ⟨3, 36524, by omega⟩
    · exact ⟨day / 36524, day % 36524, by omega⟩
  obtain ⟨year, number, isYear, isRest, inYear, leap⟩ : ∃ year number, year ≤ 3 ∧
      inCentury % 1461 = 365 * year + number ∧ number ≤ 365 ∧ (number = 365 → year = 3) := by
    by_cases isLast : inCentury % 1461 = 1460
    · exact ⟨3, 365, by omega⟩
    · exact ⟨inCentury % 1461 / 365, inCentury % 1461 % 365, by omega⟩
  exact ⟨century, inCentury / 1461, year, number, ⟨atMost, by omega, isYear, inYear, by omega⟩, by omega⟩

section

variable {century span year number : Nat}

theorem yearStart_placed (placed : Placed century span year number) :
    yearStart (100 * century + 4 * span + year) = 36524 * century + 1461 * span + 365 * year := by
  obtain ⟨isCentury, isSpan, isYear, _, _⟩ := placed
  unfold yearStart
  interval_cases century <;> interval_cases year <;> omega

theorem yearOfEra_placed (placed : Placed century span year number) :
    yearOfEra (36524 * century + 1461 * span + 365 * year + number) = 100 * century + 4 * span + year := by
  obtain ⟨isCentury, isSpan, isYear, isNumber, leap⟩ := placed
  generalize isDay : 36524 * century + 1461 * span + 365 * year + number = day
  have spans : day / 1460 = 25 * century + span + (24 * century + span + 365 * year + number) / 1460 := by
    omega
  have leapDay : (24 * century + span + 365 * year + number) / 1460 ≤ number ∧
      number ≤ 364 + (24 * century + span + 365 * year + number) / 1460 := by
    omega
  have centuries : day / 36524 = century + day / 146096 := by
    by_cases isLast : day = 146096 <;> omega
  unfold yearOfEra
  rw [spans, centuries]
  generalize (24 * century + span + 365 * year + number) / 1460 = extra at leapDay
  have numerator : day - (25 * century + span + extra) + (century + day / 146096) - day / 146096 =
      365 * (100 * century + 4 * span + year) + (number - extra) := by
    clear spans centuries leap
    omega
  rw [numerator, Nat.mul_add_div (by decide), Nat.div_eq_of_lt, Nat.add_zero]
  omega

theorem placed_lt (placed : Placed century span year number) :
    36524 * century + 1461 * span + 365 * year + number < yearStart (100 * century + 4 * span + year + 1) := by
  obtain ⟨isCentury, isSpan, isYear, isNumber, leap⟩ := placed
  unfold yearStart
  interval_cases century <;> interval_cases year <;> omega

end

theorem inYear_yearOfEra {day : Nat} (inEra : day < 146097) : InYear (yearOfEra day) day := by
  obtain ⟨century, span, year, number, placed, rfl⟩ := exists_placed inEra
  rw [yearOfEra_placed placed]
  refine ⟨?_, placed_lt placed⟩
  rw [yearStart_placed placed]
  exact Nat.le_add_right ..

def yearOf (day : Nat) : Nat := yearOfEra (day % 146097) + day / 146097 * 400

def numberInYear (day : Nat) : Nat := day - yearStart (yearOf day)

theorem yearOfEra_lt {day : Nat} (inEra : day < 146097) : yearOfEra day < 400 := by
  have starts := (inYear_yearOfEra inEra).1
  by_contra beyond
  have after := yearStart_mono (Nat.le_of_not_lt beyond)
  have era : yearStart 400 = 146097 := rfl
  omega

theorem inYear_yearOf (day : Nat) : InYear (yearOf day) day := by
  have inEra := inYear_yearOfEra (Nat.mod_lt day (by decide : 0 < 146097))
  have next : yearOf day + 1 = yearOfEra (day % 146097) + 1 + day / 146097 * 400 := Nat.add_right_comm ..
  have split := Nat.mod_add_div day 146097
  unfold InYear
  rw [next, yearOf, yearStart_add_eras, yearStart_add_eras]
  obtain ⟨lower, upper⟩ := inEra
  omega

theorem numberInYear_era (day : Nat) :
    numberInYear day = day % 146097 - yearStart (yearOfEra (day % 146097)) := by
  have split := Nat.mod_add_div day 146097
  rw [numberInYear, yearOf, yearStart_add_eras]
  omega

theorem numberInYear_le (day : Nat) : numberInYear day ≤ 365 := by
  have bounds := inYear_yearOf day
  have next := yearStart_succ (yearOf day)
  unfold numberInYear
  obtain ⟨_, upper⟩ := bounds
  omega

/-- The next day is the next one of the year, or the first one of the next year. -/
theorem next_day (day : Nat) :
    (yearOf (day + 1) = yearOf day ∧ numberInYear (day + 1) = numberInYear day + 1) ∨
      (yearOf (day + 1) = yearOf day + 1 ∧ numberInYear (day + 1) = 0 ∧ 364 ≤ numberInYear day) := by
  obtain ⟨lower, upper⟩ := inYear_yearOf day
  have length := (yearStart_succ (yearOf day)).1
  by_cases last : day + 1 = yearStart (yearOf day + 1)
  · have inNext : InYear (yearOf day + 1) (day + 1) :=
      ⟨Nat.le_of_eq last.symm, by have next := (yearStart_succ (yearOf day + 1)).1; omega⟩
    have isNext := inYear_unique (inYear_yearOf (day + 1)) inNext
    refine .inr ⟨isNext, ?_, ?_⟩
    · rw [numberInYear, isNext]
      omega
    · unfold numberInYear
      omega
  · have inSame : InYear (yearOf day) (day + 1) := ⟨by omega, by omega⟩
    have isSame := inYear_unique (inYear_yearOf (day + 1)) inSame
    refine .inl ⟨isSame, ?_⟩
    rw [numberInYear, isSame, numberInYear]
    omega

end Calendar
