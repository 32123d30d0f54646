import PsCore.TextCore

/-! The texts of numbers and months that serial numbers are made of. -/

namespace PsCore

theorem padded_toList (width number : Nat) :
    (padded width number).toList =
      List.replicate (width - (Nat.toDigits 10 number).length) '0' ++ Nat.toDigits 10 number := by
  rw [padded, String.toList_ofList]

theorem padded_value (width number : Nat) : Nat.ofDigitChars 10 (padded width number).toList 0 = number := by
  rw [padded_toList, Nat.ofDigitChars_append, Nat.ofDigitChars_replicate_zero, Nat.mul_zero,
    Nat.ofDigitChars_ten_toDigits]

theorem padded_injective {width first second : Nat} (same : padded width first = padded width second) :
    first = second := by
  rw [← padded_value width first, same, padded_value]

theorem padded_length {width number : Nat} (short : (Nat.toDigits 10 number).length ≤ width) :
    (padded width number).toList.length = width := by
  rw [padded_toList, List.length_append, List.length_replicate]
  omega

theorem padded_two_length {number : Nat} (small : number < 100) : (padded 2 number).toList.length = 2 :=
  padded_length ((Nat.length_toDigits_le_iff (by decide) (by decide)).mpr small)

theorem padded_four_length {number : Nat} (small : number < 10000) : (padded 4 number).toList.length = 4 :=
  padded_length ((Nat.length_toDigits_le_iff (by decide) (by decide)).mpr small)

theorem padded_isDigit (width number : Nat) : (padded width number).toList.all Char.isDigit = true := by
  rw [padded_toList, List.all_append, List.all_replicate, Bool.and_eq_true]
  constructor
  · split <;> rfl
  · exact List.all_eq_true.mpr fun digit member => Nat.isDigit_of_mem_toDigits (by decide) (by decide) member

def monthOf (date : Date) : Nat × Nat := ((civil date).1, (civil date).2.1)

theorem dayOfYear_bounded {dayOfEra yearOfEra : Nat} (inEra : dayOfEra < 146097)
    (isYear : yearOfEra = (dayOfEra - dayOfEra / 1460 + dayOfEra / 36524 - dayOfEra / 146096) / 365) :
    dayOfEra - (365 * yearOfEra + yearOfEra / 4 - yearOfEra / 100) < 500 := by
  have leapDays : dayOfEra / 1460 ≤ 100 := by omega
  have days : dayOfEra < 365 * yearOfEra + 365 + 101 := by omega
  omega

theorem month_bounded (date : Date) : (civil date).2.1 < 100 := by
  have bounded := dayOfYear_bounded (Nat.mod_lt (date + 719468) (by decide : 0 < 146097)) rfl
  simp only [civil]
  generalize (date + 719468) % 146097 - _ = dayOfYear at bounded ⊢
  split <;> omega

theorem yearMonth_toList (date : Date) :
    (yearMonth date).toList = (padded 2 ((civil date).1 % 100)).toList ++ (padded 2 (civil date).2.1).toList := by
  rw [yearMonth, String.toList_append]

theorem yearMonth_length (date : Date) : (yearMonth date).toList.length = 4 := by
  have year : (civil date).1 % 100 < 100 := Nat.mod_lt _ (by decide)
  rw [yearMonth_toList, List.length_append, padded_two_length year, padded_two_length (month_bounded date)]

theorem yearMonth_isDigit (date : Date) : (yearMonth date).toList.all Char.isDigit = true := by
  rw [yearMonth_toList, List.all_append, padded_isDigit, padded_isDigit]
  rfl

theorem yearMonth_eq_iff {first second : Date} (century : (civil first).1 / 100 = (civil second).1 / 100) :
    yearMonth first = yearMonth second ↔ monthOf first = monthOf second := by
  constructor
  · intro same
    have characters : (yearMonth first).toList = (yearMonth second).toList := by rw [same]
    rw [yearMonth_toList, yearMonth_toList] at characters
    have sizes : (padded 2 ((civil first).1 % 100)).toList.length =
        (padded 2 ((civil second).1 % 100)).toList.length := by
      rw [padded_two_length (Nat.mod_lt (civil first).1 (by decide)),
        padded_two_length (Nat.mod_lt (civil second).1 (by decide))]
    obtain ⟨years, months⟩ := List.append_inj characters sizes
    have sameYear := padded_injective (String.toList_injective years)
    have sameMonth := padded_injective (String.toList_injective months)
    rw [monthOf, monthOf, sameMonth, Prod.mk.injEq]
    exact ⟨by omega, rfl⟩
  · intro same
    rw [monthOf, monthOf, Prod.mk.injEq] at same
    rw [yearMonth, yearMonth]
    dsimp only
    rw [same.1, same.2]

end PsCore
