import PsCore.Library.UpperCase
import PsCore.TextCore

/-! Service areas, slots and their capacity. -/

namespace PsCore

open Fallible RowTable

/-- `"".join(str(postal_code or "").split()).upper()`. -/
def normalizePostalCode (postalCode : String) : String :=
  UpperCase.upper (String.ofList (postalCode.toList.filter fun character => !isSpace character))

def serviceAreaWithCode (areas : List ServiceArea) (postalCode : String) :
    Option (ServiceAreaId × ServiceArea) :=
  firstRow (fun area => area.postalCode == postalCode && area.isActive) areas

def getActiveServiceArea (areas : List ServiceArea) (postalCode : String) :
    Option (ServiceAreaId × ServiceArea) :=
  serviceAreaWithCode areas (normalizePostalCode postalCode)

def ServiceArea.supportsService (area : ServiceArea) (service : ServiceId) : Bool :=
  !area.servicesConfigured || area.services.contains service

def defaultDailySlotWindows : List (Nat × Nat) :=
  [(8, 10), (10, 12), (12, 14), (14, 16), (16, 18), (18, 20)]

def defaultDailySlotCapacity : Nat := 20

def bookingCapacityStatuses : List BookingStatus :=
  [.pendingPayment, .confirmed, .technicianAssigned, .technicianEnRoute, .inProgress]

def Booking.reserves (slotId : SlotId) (booking : Booking) : Bool :=
  booking.timeSlot == slotId && bookingCapacityStatuses.contains booking.bookingStatus

def isSlotExpired (now : Instant) (slot : TimeSlot) : Bool :=
  slot.date < localDate now || (slot.date == localDate now && slot.startTime ≤ localTime now)

def countReservedBookings (bookings : List Booking) (slotId : SlotId) : Nat :=
  countWhere (Booking.reserves slotId) bookings

def getAvailableCapacity (bookings : List Booking) (slotId : SlotId) (slot : TimeSlot) : Nat :=
  slot.capacity - countReservedBookings bookings slotId

def isServiceAreaClosed (closures : List ScheduleClosure) (area : ServiceAreaId) (date : Date) : Bool :=
  closures.any fun closure =>
    closure.isActive && closure.startDate ≤ date && date ≤ closure.endDate &&
    (closure.serviceArea == none || closure.serviceArea == some area)

def isSlotBookable (now : Instant) (db : Db) (slotId : SlotId) (slot : TimeSlot) : Bool :=
  slot.isActive &&
  (db.directory.serviceAreas[slot.serviceArea]?).any (·.isActive) &&
  slot.capacity > 0 &&
  !isServiceAreaClosed db.directory.closures slot.serviceArea slot.date &&
  !isSlotExpired now slot &&
  getAvailableCapacity db.bookings slotId slot > 0

def lockSlotForReservation (now : Instant) (db : Db) (slotId : SlotId) :
    Except ServiceError TimeSlot := do
  let slot ← orRaise db.slots[slotId]? (.doesNotExist "TimeSlot")
  require (isSlotBookable now db slotId slot = true)
    (.slotNotAvailable "The selected slot is no longer available.")
  pure slot

structure SlotFields where
  serviceArea : ServiceAreaId
  date : Date
  startTime : TimeOfDay
  endTime : TimeOfDay
  capacity : Nat
  isActive : Bool
  deriving DecidableEq, Repr

def SlotFields.cleanErrors (fields : SlotFields) : List (String × String) :=
  (if fields.capacity = 0 then [("capacity", "Capacity must be greater than zero.")] else []) ++
  (if fields.startTime ≥ fields.endTime then [("end_time", "End time must be after start time.")] else [])

def SlotFields.clean (fields : SlotFields) : Except ServiceError TimeSlot :=
  if valid : 0 < fields.capacity ∧ fields.startTime < fields.endTime then
    .ok {
      serviceArea := fields.serviceArea
      date := fields.date
      startTime := fields.startTime
      endTime := fields.endTime
      capacity := fields.capacity
      isActive := fields.isActive
      capacityPositive := valid.1
      ordered := valid.2
    }
  else .error (.fieldValidation fields.cleanErrors)

def TimeSlot.fields (slot : TimeSlot) : SlotFields where
  serviceArea := slot.serviceArea
  date := slot.date
  startTime := slot.startTime
  endTime := slot.endTime
  capacity := slot.capacity
  isActive := slot.isActive

def SlotFields.sameWindow (fields : SlotFields) (slot : TimeSlot) : Bool :=
  slot.serviceArea == fields.serviceArea && slot.date == fields.date &&
  slot.startTime == fields.startTime && slot.endTime == fields.endTime

def getOrCreateSlot (slots : List TimeSlot) (fields : SlotFields) :
    Except ServiceError (SlotId × List TimeSlot) :=
  match firstRow fields.sameWindow slots with
  | some (slotId, _) => .ok (slotId, slots)
  | none => do
      let slot ← fields.clean
      pure (slots.length, slots ++ [slot])

def ensureDailySlots (now : Instant) (db : Db) (area : ServiceAreaId) (date : Date) :
    Except ServiceError (List TimeSlot) :=
  if date < localDate now ∨ isServiceAreaClosed db.directory.closures area date = true then
    .ok db.slots
  else
    defaultDailySlotWindows.foldlM (fun slots window => do
      let created ← getOrCreateSlot slots {
        serviceArea := area
        date := date
        startTime := window.1 * hour
        endTime := window.2 * hour
        capacity := defaultDailySlotCapacity
        isActive := true
      }
      pure created.2) db.slots

/-! The administrator's slot editor. A request loads the slot, validates its changes
against the loaded row and the current reservations, and saves every column later, without
a lock in between. -/

structure SlotEdit where
  date : Option Date
  startTime : Option TimeOfDay
  endTime : Option TimeOfDay
  capacity : Option Nat
  isActive : Option Bool
  deriving DecidableEq, Repr

def SlotEdit.apply (edit : SlotEdit) (loaded : TimeSlot) : SlotFields where
  serviceArea := loaded.serviceArea
  date := edit.date.getD loaded.date
  startTime := edit.startTime.getD loaded.startTime
  endTime := edit.endTime.getD loaded.endTime
  capacity := edit.capacity.getD loaded.capacity
  isActive := edit.isActive.getD loaded.isActive

def SlotEdit.scheduleChanged (edit : SlotEdit) (loaded : TimeSlot) : Bool :=
  edit.date.any (· ≠ loaded.date) || edit.startTime.any (· ≠ loaded.startTime) ||
  edit.endTime.any (· ≠ loaded.endTime)

def validateSlotEdit (db : Db) (slotId : SlotId) (loaded : TimeSlot) (edit : SlotEdit) :
    Except ServiceError SlotFields := do
  require (¬(edit.scheduleChanged loaded = true ∧ db.bookings.any (·.timeSlot == slotId) = true))
    (.fieldValidation [("date", "A slot linked to a booking cannot have its date or time changed.")])
  let capacity := edit.capacity.getD loaded.capacity
  let reserved := countReservedBookings db.bookings slotId
  require (reserved ≤ capacity)
    (.fieldValidation [("capacity",
      "Capacity cannot be lower than the " ++ toString reserved ++ " current reservation(s).")])
  pure (edit.apply loaded)

def duplicateSlotErrors : List (String × String) :=
  [("__all__", "Time slot with this Service area, Date, Start time and End time already exists.")]

/-- The row that `serializer.save()` writes over every column, without looking at the reservations again. -/
def savedSlot (slots : List TimeSlot) (slotId : SlotId) (fields : SlotFields) : Except ServiceError TimeSlot := do
  let slot ← fields.clean
  require ((slots.eraseIdx slotId).any fields.sameWindow = false) (.fieldValidation duplicateSlotErrors)
  pure slot

def createSlot (slots : List TimeSlot) (fields : SlotFields) :
    Except ServiceError (SlotId × List TimeSlot) := do
  let slot ← fields.clean
  require (slots.any fields.sameWindow = false) (.fieldValidation duplicateSlotErrors)
  pure (slots.length, slots ++ [slot])

end PsCore
