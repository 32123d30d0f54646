import PsCore.LeadQuotes
import PsCore.SerialTexts

/-!
The slots that are written on leads. A schedule stores a start, a linked booking stores a start and an end, and a
conversion reads a start and adds an hour to it.
-/

namespace PsCore

open Fallible RowTable

structure SlotWindow where
  date : Date
  startTime : TimeOfDay
  endTime : TimeOfDay
  deriving DecidableEq, Repr

/-- How `convert_lead_to_work_order` reads the slot of a lead. -/
def Lead.slotWindow (lead : Lead) : Option SlotWindow := do
  let preferredDate ← lead.preferredDate
  let startTime ← strptimeHourMinute lead.preferredSlot
  pure { date := preferredDate, startTime := startTime, endTime := (startTime + hour) % day }

/-- Two digits, a colon and two digits, which say the time. -/
def SaysTime (text : List Char) (time : TimeOfDay) : Prop :=
  ∃ hourTens hourUnits minuteTens minuteUnits, ∃ first second third fourth : Nat,
    text = [hourTens, hourUnits, ':', minuteTens, minuteUnits] ∧
    digitValue hourTens = some first ∧ digitValue hourUnits = some second ∧
    digitValue minuteTens = some third ∧ digitValue minuteUnits = some fourth ∧
    time = (10 * first + second) * hour + (10 * third + fourth) * minute

structure Lead.SlotSays (lead : Lead) (window : SlotWindow) : Prop where
  preferredDate : lead.preferredDate = some window.date
  ordered : window.startTime < window.endTime
  starts : SaysTime (lead.preferredSlot.toList.take 5) window.startTime
  ends : ∀ time, SaysTime (lead.preferredSlot.toList.drop 6) time → window.endTime = time

def Lead.SlotReadsBack (lead : Lead) : Prop :=
  ∃ window, lead.slotWindow = some window ∧ lead.SlotSays window

/-- A lead whose slot the schedule action or a linked booking has just stored. -/
inductive SlotStored : Lead → Prop
  | scheduled {now : Instant} {leads saved : List Lead} {leadId : LeadId} {schedule : LeadSchedule} {lead : Lead}
      (accepted : scheduleLead now leads leadId schedule = .ok saved) (stored : saved[leadId]? = some lead) :
      SlotStored lead
  | linked {now : Instant} {leads saved : List Lead} {user : User} {slot : TimeSlot} {bookingId : BookingId}
      {booking : Booking} {leadId : LeadId} {lead : Lead}
      (linked : linkBookingToLead now leads user slot bookingId booking = (.ok leadId, saved))
      (stored : saved[leadId]? = some lead) : SlotStored lead

def Lead.startsBeforeEleven (lead : Lead) : Bool :=
  isSlotStart lead.preferredSlot && lead.preferredSlot.toList.take 2 != ['2', '3']

theorem digitValue_lt {character : Char} {value : Nat} (isDigit : digitValue character = some value) : value < 10 := by
  unfold digitValue at isDigit
  rw [Option.map_eq_some_iff] at isDigit
  obtain ⟨first, found, rfl⟩ := isDigit
  have range := List.find?_some found
  simp only [Bool.and_eq_true, decide_eq_true_eq] at range
  omega

theorem digitValue_ascii {character : Char} (atLeast : 48 ≤ character.toNat) (atMost : character.toNat ≤ 57) :
    digitValue character = some (character.toNat - '0'.toNat) := by
  have first : digitZeros.find? (fun first => first ≤ character.toNat && character.toNat ≤ first + 9) = some 48 := by
    unfold digitZeros
    rw [List.find?_cons_of_pos]
    simp [atLeast, atMost]
  rw [digitValue, first]
  rfl

structure IsStart (text : List Char) (hours minutes : Nat) : Prop where
  isTime : SaysTime text (hours * hour + minutes * minute)
  inDay : hours < 24
  inHour : minutes < 60
  late : hours = 23 ↔ text.take 2 = ['2', '3']

theorem parseHour_start {tens units : Char}
    (isHour : ((tens == '0' || tens == '1') && (digitValue units).isSome ||
      (tens == '2' && '0' ≤ units && units ≤ '3')) = true) :
    ∃ first second, digitValue tens = some first ∧ digitValue units = some second ∧
      parseHour [tens, units] = some (10 * first + second) ∧ 10 * first + second < 24 ∧
      (10 * first + second = 23 ↔ [tens, units] = ['2', '3']) := by
  simp only [Bool.or_eq_true, Bool.and_eq_true, beq_iff_eq, decide_eq_true_eq] at isHour
  rcases isHour with ⟨rfl | rfl, isDigit⟩ | ⟨⟨rfl, atLeast⟩, atMost⟩
  · obtain ⟨value, isValue⟩ := Option.isSome_iff_exists.mp isDigit
    have small := digitValue_lt isValue
    refine ⟨0, value, by decide, isValue, by simp [parseHour, isValue], by omega, ?_⟩
    constructor
    · intro late
      omega
    · intro same
      simp at same
  · obtain ⟨value, isValue⟩ := Option.isSome_iff_exists.mp isDigit
    have small := digitValue_lt isValue
    refine ⟨1, value, by decide, isValue, by simp [parseHour, isValue], by omega, ?_⟩
    constructor
    · intro late
      omega
    · intro same
      simp at same
  · have lower : 48 ≤ units.toNat := atLeast
    have upper : units.toNat ≤ 51 := atMost
    have isZero : '0'.toNat = 48 := rfl
    refine ⟨2, units.toNat - '0'.toNat, by decide, digitValue_ascii lower (by omega),
      by simp [parseHour, atLeast, atMost], by omega, ?_⟩
    constructor
    · intro late
      have three : units.toNat = '3'.toNat := by
        have isThree : '3'.toNat = 51 := rfl
        omega
      rw [Char.toNat_inj.mp three]
    · intro same
      simp only [List.cons.injEq, and_true, true_and] at same
      rw [same]
      rfl

theorem parseMinute_start {tens units : Char} (atLeast : '0' ≤ tens) (atMost : tens ≤ '5')
    (isDigit : (digitValue units).isSome = true) :
    ∃ first second, digitValue tens = some first ∧ digitValue units = some second ∧
      parseMinute [tens, units] = some (10 * first + second) ∧ 10 * first + second < 60 := by
  obtain ⟨value, isValue⟩ := Option.isSome_iff_exists.mp isDigit
  have small := digitValue_lt isValue
  have lower : 48 ≤ tens.toNat := atLeast
  have upper : tens.toNat ≤ 53 := atMost
  have isZero : '0'.toNat = 48 := rfl
  exact ⟨tens.toNat - '0'.toNat, value, digitValue_ascii lower (by omega), isValue,
    by simp [parseMinute, atLeast, atMost, isValue], by omega⟩

theorem strptimeHourMinute_start {text : String} (isStart : isSlotStart text = true) :
    ∃ hours minutes, IsStart text.toList hours minutes ∧
      strptimeHourMinute text = some (hours * hour + minutes * minute) := by
  unfold isSlotStart at isStart
  split at isStart
  · rename_i hourTens hourUnits minuteTens minuteUnits characters
    simp only [Bool.and_eq_true, decide_eq_true_eq] at isStart
    obtain ⟨⟨⟨isHour, atLeast⟩, atMost⟩, isDigit⟩ := isStart
    obtain ⟨first, second, isFirst, isSecond, hourParsed, below, late⟩ := parseHour_start isHour
    obtain ⟨third, fourth, isThird, isFourth, minuteParsed, small⟩ := parseMinute_start atLeast atMost isDigit
    refine ⟨10 * first + second, 10 * third + fourth, ⟨⟨_, _, _, _, _, _, _, _, characters, isFirst, isSecond,
      isThird, isFourth, rfl⟩, below, small, ?_⟩, ?_⟩
    · rw [characters]
      exact late
    · have noColon {character : Char} {value : Nat} (isValue : digitValue character = some value) :
          character ≠ ':' := by
        rintro rfl
        have none : digitValue ':' = none := by decide
        rw [none] at isValue
        cases isValue
      unfold strptimeHourMinute
      rw [characters]
      simp [noColon isFirst, noColon isSecond, hourParsed, minuteParsed]
  · cases isStart

theorem strptimeHourMinute_range (startTime endTime : TimeOfDay) :
    strptimeHourMinute (hourMinute startTime ++ "-" ++ hourMinute endTime) = none := by
  have noColon (character : Char) (member : character ∈ (padded 2 (startTime / hour)).toList) : character ≠ ':' := by
    rintro rfl
    have isDigit := List.all_eq_true.mp (padded_isDigit 2 (startTime / hour)) ':' member
    cases isDigit
  have twoDigits (number : Nat) : 2 ≤ (padded 2 number).toList.length := by
    rw [padded_toList, List.length_append, List.length_replicate]
    omega
  have characters : (hourMinute startTime ++ "-" ++ hourMinute endTime).toList =
      (padded 2 (startTime / hour)).toList ++ ':' :: ((padded 2 (startTime / minute % 60)).toList ++
        '-' :: (hourMinute endTime).toList) := by
    simp [hourMinute]
  have hourPart : (hourMinute startTime ++ "-" ++ hourMinute endTime).toList.takeWhile (· ≠ ':') =
      (padded 2 (startTime / hour)).toList := by
    rw [characters, List.takeWhile_append_of_pos (by simpa using noColon)]
    simp
  have minutePart (rest : List Char) : parseMinute ((padded 2 (startTime / minute % 60)).toList ++ '-' :: rest) = none := by
    have long := twoDigits (startTime / minute % 60)
    revert long
    cases (padded 2 (startTime / minute % 60)).toList with
    | nil => intro long; simp at long
    | cons first digits =>
        cases digits with
        | nil => intro long; simp at long
        | cons second others =>
            intro _
            cases others <;> rfl
  unfold strptimeHourMinute
  simp only [hourPart]
  rw [characters, List.drop_left]
  simp [minutePart]

theorem isSlotStart_range (startTime endTime : TimeOfDay) :
    isSlotStart (hourMinute startTime ++ "-" ++ hourMinute endTime) = false := by
  rw [Bool.eq_false_iff]
  intro isStart
  obtain ⟨_, _, _, parsed⟩ := strptimeHourMinute_start isStart
  rw [strptimeHourMinute_range] at parsed
  cases parsed

theorem window_ordered_iff {hours minutes : Nat} (inDay : hours < 24) (inHour : minutes < 60) :
    hours * hour + minutes * minute < (hours * hour + minutes * minute + hour) % day ↔ hours ≠ 23 := by
  unfold day hour minute
  omega

/-! What is stored. -/

theorem slotReadsBack_start {lead : Lead} {date : Date} (isDate : lead.preferredDate = some date)
    (isStart : isSlotStart lead.preferredSlot = true) :
    lead.SlotReadsBack ↔ lead.preferredSlot.toList.take 2 ≠ ['2', '3'] := by
  obtain ⟨hours, minutes, start, parsed⟩ := strptimeHourMinute_start isStart
  have window : lead.slotWindow = some
      ⟨date, hours * hour + minutes * minute, (hours * hour + minutes * minute + hour) % day⟩ := by
    simp [Lead.slotWindow, isDate, parsed]
  rw [ne_eq, ← start.late, ← ne_eq, ← window_ordered_iff start.inDay start.inHour]
  constructor
  · rintro ⟨read, isRead, reads⟩
    rw [window, Option.some.injEq] at isRead
    subst isRead
    exact reads.ordered
  · intro ordered
    obtain ⟨_, _, _, _, _, _, _, _, characters, _⟩ := start.isTime
    refine ⟨_, window, isDate, ordered, ?_, ?_⟩
    · rw [characters, List.take_of_length_le (by simp), ← characters]
      exact start.isTime
    · rw [characters]
      rintro time ⟨_, _, _, _, _, _, _, _, isEmpty, _⟩
      simp at isEmpty

/-- A stored slot is read back exactly if it is a start alone, before eleven in the evening. -/
theorem slotReadsBack_iff {lead : Lead} (stored : SlotStored lead) :
    lead.SlotReadsBack ↔ lead.startsBeforeEleven = true := by
  cases stored with
  | @scheduled now leads saved leadId schedule lead accepted stored =>
      simp only [scheduleLead, accepted_bind, accepted_orRaise, accepted_require, saveLead_iff] at accepted
      obtain ⟨row, found, _, _, _, rfl⟩ := accepted
      rw [List.getElem?_set_self (List.getElem?_eq_some_iff.mp found).1, Option.some.injEq] at stored
      subst stored
      rw [slotReadsBack_start rfl schedule.wellFormed]
      simp [Lead.startsBeforeEleven, schedule.wellFormed]
  | @linked now leads saved user slot bookingId booking leadId lead linked stored =>
      obtain ⟨row, written, _⟩ := linkBookingToLead_lead linked
      rw [stored, Option.some.injEq] at written
      subst written
      constructor
      · rintro ⟨window, isWindow, _⟩
        simp [Lead.slotWindow, Lead.linked, strptimeHourMinute_range] at isWindow
      · intro early
        simp [Lead.startsBeforeEleven, Lead.linked, isSlotStart_range] at early

def morningSchedule : LeadSchedule where
  preferredDate := 20463
  preferredSlot := "09:30"
  wellFormed := by decide

theorem slotReadsBack_iff_morning : ∃ saved lead,
    scheduleLead sampleNow [sampleLead] 0 morningSchedule = .ok saved ∧ saved[0]? = some lead ∧ lead.SlotReadsBack := by
  have accepted : (scheduleLead sampleNow [sampleLead] 0 morningSchedule).toOption.map
      (fun saved => saved.map (·.preferredSlot)) = some ["09:30"] := by decide
  cases scheduled : scheduleLead sampleNow [sampleLead] 0 morningSchedule with
  | error error =>
      rw [scheduled] at accepted
      cases accepted
  | ok saved =>
      rw [scheduled] at accepted
      cases saved with
      | nil => cases accepted
      | cons lead others =>
          have slot : lead.preferredSlot = "09:30" := (List.cons.inj (Option.some.inj accepted)).1
          have early : lead.startsBeforeEleven = true := by
            rw [Lead.startsBeforeEleven, slot]
            decide
          exact ⟨_, lead, rfl, rfl, (slotReadsBack_iff (.scheduled scheduled rfl)).mpr early⟩

theorem booked_slot_unread : ¬ ∀ lead : Lead, SlotStored lead → lead.SlotReadsBack := by
  intro always
  have shown : shownTotals (sampleBooked sampleSystem).db 0 = some (100000, 100000) := by decide
  obtain ⟨booking, user, slot, leadId, saved, loaded, _, linked, _⟩ := shownTotals_some shown
  obtain ⟨row, stored, _⟩ := linkBookingToLead_lead linked
  obtain ⟨window, isWindow, _⟩ := always _ (.linked linked stored)
  simp [Lead.slotWindow, Lead.linked, strptimeHourMinute_range] at isWindow

theorem getOrCreateSlot_window {slots next : List TimeSlot} {fields : SlotFields} {slotId : SlotId}
    (accepted : getOrCreateSlot slots fields = .ok (slotId, next)) :
    ∃ slot, next[slotId]? = some slot ∧ fields.sameWindow slot = true := by
  unfold getOrCreateSlot at accepted
  split at accepted
  · rename_i slot found
    rw [Except.ok.injEq, Prod.mk.injEq] at accepted
    obtain ⟨rfl, rfl⟩ := accepted
    obtain ⟨present, same⟩ := firstRow_some found
    exact ⟨slot, present, same⟩
  · simp only [accepted_bind, accepted_pure, Prod.mk.injEq] at accepted
    obtain ⟨slot, cleaned, rfl, rfl⟩ := accepted
    refine ⟨slot, List.getElem?_concat_length, ?_⟩
    unfold SlotFields.clean at cleaned
    split at cleaned
    · rw [Except.ok.injEq] at cleaned
      subst cleaned
      simp [SlotFields.sameWindow]
    · cases cleaned

/-- A work order that is made of a lead stands on the slot that the lead says. -/
theorem createBookingFromLead_window {now : Instant} {lead : Lead} {db next : Db} {bookingId : BookingId}
    (accepted : createBookingFromLead now lead db = .ok (bookingId, next)) :
    ∃ window booking slot, lead.slotWindow = some window ∧ next.bookings[bookingId]? = some booking ∧
      next.slots[booking.timeSlot]? = some slot ∧
      SlotWindow.mk slot.date slot.startTime slot.endTime = window := by
  obtain ⟨preparation, sound, created⟩ := createBookingFromLead_prepares accepted
  obtain ⟨slot, present, same⟩ := getOrCreateSlot_window sound.slot
  obtain ⟨_, _, _, _, _, _, _, booking, _, _, _, _, rfl, rfl, rfl⟩ := createBooking_made created
  simp only [SlotFields.sameWindow, Bool.and_eq_true, beq_iff_eq] at same
  obtain ⟨⟨⟨_, date⟩, start⟩, finish⟩ := same
  refine ⟨_, _, slot, ?_, List.getElem?_concat_length, present, rfl⟩
  simp [Lead.slotWindow, sound.date, sound.start, date, start, finish, LeadPreparation.window]

end PsCore
