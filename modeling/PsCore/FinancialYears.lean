import PsCore.InvoiceAmounts
import PsCore.Library.Calendar

/-!
The financial year of an invoice. Its label is made of the date in UTC, which for five and a half hours of every day
is the day before the local one.
-/

namespace PsCore

open Fallible Calendar TransitionRun

def yearLabel (start : Nat) : String :=
  let next := (toString (start + 1)).toList
  toString start ++ "-" ++ String.ofList (next.drop (next.length - 2))

/-- The label names the April-to-March year of the local date. -/
def Invoice.NamesLocalYear (now : Instant) (invoice : Invoice) : Prop :=
  ∃ start, InFinancialYear start (localDate now) ∧ invoice.financialYear = yearLabel start

def isEarlyAprilFirst (now : Instant) : Bool :=
  (civil (localDate now)).2 == (4, 1) && decide (localTime now < 5 * hour + 30 * minute)

/-! The calendar. -/

def monthAndDay (number : Nat) : Nat × Nat :=
  let shifted := (5 * number + 2) / 153
  (if shifted < 10 then shifted + 3 else shifted - 9, number - (153 * shifted + 2) / 5 + 1)

theorem civil_eq (date : Date) :
    civil date =
      (if (monthAndDay (numberInYear (date + 719468))).1 ≤ 2 then yearOf (date + 719468) + 1
        else yearOf (date + 719468), monthAndDay (numberInYear (date + 719468))) := by
  have lt := yearOfEra_lt (Nat.mod_lt (date + 719468) (by decide : 0 < 146097))
  have starts (year : Nat) (inEra : year < 400) : yearStart year = 365 * year + year / 4 - year / 100 := by
    unfold yearStart
    omega
  rw [numberInYear_era, starts _ lt]
  simp only [civil, yearOf]
  generalize (date + 719468) % 146097 = dayOfEra
  generalize (date + 719468) / 146097 = era
  have isYear : (dayOfEra - dayOfEra / 1460 + dayOfEra / 36524 - dayOfEra / 146096) / 365 = yearOfEra dayOfEra := by
    unfold yearOfEra
    simp only []
  rw [isYear]
  generalize yearOfEra dayOfEra = year
  generalize dayOfEra - (365 * year + year / 4 - year / 100) = number
  unfold monthAndDay
  simp only []

theorem monthAndDay_month {number : Nat} (inYear : number ≤ 365) :
    ((monthAndDay number).1 ≤ 2 ↔ 306 ≤ number) ∧ (4 ≤ (monthAndDay number).1 ↔ 31 ≤ number ∧ number ≤ 305) := by
  unfold monthAndDay
  simp only []
  by_cases late : number ≤ 305
  · have shifted : (5 * number + 2) / 153 < 10 := by omega
    rw [if_pos shifted]
    omega
  · have shifted : ¬ (5 * number + 2) / 153 < 10 := by omega
    rw [if_neg shifted]
    omega

theorem startYear_eq (date : Date) :
    startYear date = if numberInYear (date + 719468) ≤ 30 then yearOf (date + 719468) - 1
      else yearOf (date + 719468) := by
  obtain ⟨winter, fromApril⟩ := monthAndDay_month (numberInYear_le (date + 719468))
  unfold startYear
  rw [civil_eq]
  simp only []
  split
  · rw [if_neg (by omega), if_neg (by omega)]
  · split
    · rw [if_neg (by omega)]
      omega
    · rw [if_pos (by omega)]

theorem aprilFirst_iff (date : Date) : (civil date).2 = (4, 1) ↔ numberInYear (date + 719468) = 31 := by
  have number := numberInYear_le (date + 719468)
  rw [civil_eq]
  generalize numberInYear (date + 719468) = days at number
  unfold monthAndDay
  simp only [Prod.mk.injEq]
  constructor
  · rintro ⟨month, first⟩
    have shifted : (5 * days + 2) / 153 = 1 := by
      split at month <;> omega
    rw [shifted] at first
    omega
  · rintro rfl
    decide

theorem startYear_succ_iff (date : Date) :
    startYear date = startYear (date + 1) ↔ (civil (date + 1)).2 ≠ (4, 1) := by
  rw [ne_eq, aprilFirst_iff, startYear_eq, startYear_eq]
  have positive : 0 < yearOf (date + 719468) := by
    unfold yearOf
    omega
  rw [Nat.add_right_comm date 1 719468]
  rcases next_day (date + 719468) with ⟨sameYear, next⟩ | ⟨nextYear, first, last⟩
  · rw [sameYear, next]
    split <;> split <;> omega
  · rw [nextYear, first, if_neg (by omega), if_pos (by decide)]
    omega

theorem utcDate_eq (now : Instant) :
    utcDate now = if localTime now < 5 * hour + 30 * minute then localDate now - 1 else localDate now := by
  have split (instant : Nat) : (instant - 19800000000) / 86400000000 =
      if instant % 86400000000 < 19800000000 then instant / 86400000000 - 1 else instant / 86400000000 := by
    split <;> omega
  exact split now

theorem financialYear_eq_yearLabel (date : Date) : financialYear date = yearLabel (startYear date) := rfl

theorem financialYear_utcDate_iff (now : Instant) :
    financialYear (utcDate now) = financialYear (localDate now) ↔ isEarlyAprilFirst now = false := by
  rw [financialYear_eq_iff, utcDate_eq]
  unfold isEarlyAprilFirst
  simp only [Bool.and_eq_false_iff, beq_eq_false_iff_ne, decide_eq_false_iff_not]
  by_cases early : localTime now < 5 * hour + 30 * minute
  · rw [if_pos early]
    have changes : startYear (localDate now - 1) = startYear (localDate now) ↔ (civil (localDate now)).2 ≠ (4, 1) := by
      cases localDate now with
      | zero => decide
      | succ yesterday => exact startYear_succ_iff yesterday
    rw [changes]
    constructor
    · exact .inl
    · rintro (otherDay | late)
      · exact otherDay
      · exact absurd early late
  · rw [if_neg early]
    exact ⟨fun _ => .inr early, fun _ => rfl⟩

theorem namesLocalYear_iff_label {now : Instant} {invoice : Invoice} :
    invoice.NamesLocalYear now ↔ invoice.financialYear = financialYear (localDate now) := by
  constructor
  · rintro ⟨start, inYear, isLabel⟩
    rw [isLabel, financialYear_eq_yearLabel, (startYear_iff _ _).mp inYear]
  · intro isLabel
    exact ⟨startYear (localDate now), (startYear_iff _ _).mpr rfl, isLabel⟩

/-- A new invoice names the year of its local date, unless it is issued early on the first of April. -/
theorem namesLocalYear_iff {business : BusinessSettings} {now : Instant} {bookingId : BookingId} {db : Db}
    {tables after : InvoiceTables} {invoice : Invoice}
    (uninvoiced : ∀ other ∈ tables.invoices, other.booking ≠ bookingId)
    (issued : issueInvoice business now bookingId db tables = .ok (invoice, after)) :
    invoice.NamesLocalYear now ↔ isEarlyAprilFirst now = false := by
  obtain ⟨booking, customer, number, _, rfl⟩ := issueInvoice_new uninvoiced issued
  rw [namesLocalYear_iff_label, ← financialYear_utcDate_iff]
  rfl

theorem namesLocalYear_iff_settled : ∃ invoice after,
    issueInvoice sampleBusiness sampleNow 0
      (runAll (System.step sampleSettings) (sampleBooked sampleSystem) (settledWith 80000)).db noInvoices =
        .ok (invoice, after) ∧ invoice.NamesLocalYear sampleNow := by
  have issued : (issueInvoice sampleBusiness sampleNow 0
      (runAll (System.step sampleSettings) (sampleBooked sampleSystem) (settledWith 80000)).db noInvoices).isOk =
        true := by decide
  obtain ⟨⟨invoice, after⟩, isIssued⟩ := isOk_iff.mp issued
  exact ⟨invoice, after, isIssued, (namesLocalYear_iff (by decide) isIssued).mpr (by decide)⟩

/-- One in the morning of 1 April 2026; in UTC it is still the last of March. -/
def newYearMorning : Instant := combine 20544 hour

theorem new_year_misfiled :
    ¬ ∀ (business : BusinessSettings) (now : Instant) (bookingId : BookingId) (db : Db) (tables after : InvoiceTables)
      (invoice : Invoice), (∀ other ∈ tables.invoices, other.booking ≠ bookingId) →
      issueInvoice business now bookingId db tables = .ok (invoice, after) → invoice.NamesLocalYear now := by
  intro always
  have issued : (issueInvoice sampleBusiness newYearMorning 0
      (runAll (System.step sampleSettings) (sampleBooked sampleSystem) (settledWith 80000)).db noInvoices).isOk =
        true := by decide
  obtain ⟨⟨invoice, after⟩, isIssued⟩ := isOk_iff.mp issued
  obtain ⟨_, _, _, _, isInvoice⟩ := issueInvoice_new (by decide) isIssued
  obtain ⟨start, inYear, label⟩ := always _ _ _ _ _ _ _ (by decide) isIssued
  have isStart : startYear (localDate newYearMorning) = 2026 := by decide
  rw [startYear_iff, isStart] at inYear
  subst inYear
  rw [isInvoice] at label
  have different : financialYear (utcDate newYearMorning) ≠ yearLabel 2026 := by decide
  exact different label

end PsCore
