import Mathlib.Data.List.Sort
import PsCore.ServiceAreas

/-!
`GET /slots/`. The listing finds its slots with a query and filters, a booking checks the one slot
that it locks.
-/

namespace PsCore

open Fallible RowTable

structure SlotQuery where
  serviceId : Option ServiceId
  date : Option String
  postalCode : Option String
  deriving DecidableEq, Repr

inductive ListingError
  | badRequest (code message : String)
  | raised (error : ServiceError)
  deriving DecidableEq, Repr

structure ListedSlot where
  id : SlotId
  serviceArea : ServiceAreaId
  date : Date
  startTime : TimeOfDay
  endTime : TimeOfDay
  capacity : Nat
  availableCapacity : Nat
  deriving DecidableEq, Repr

def listedSlot (bookings : List Booking) (row : TimeSlot × SlotId) : ListedSlot where
  id := row.2
  serviceArea := row.1.serviceArea
  date := row.1.date
  startTime := row.1.startTime
  endTime := row.1.endTime
  capacity := row.1.capacity
  availableCapacity := getAvailableCapacity bookings row.2 row.1

def SlotQuery.missing (query : SlotQuery) : List String :=
  (if query.serviceId.isSome then [] else ["service_id"]) ++
  (if query.date.getD "" = "" then ["date"] else []) ++
  (if normalizePostalCode (query.postalCode.getD "") = "" then ["postal_code"] else [])

section

-- the day that `fromisoformat` reads, where it reads one
variable (parseDate : String → Option Date)

def validateQueryParams (query : SlotQuery) (db : Db) : Except ListingError Unit := do
  require (query.missing = []) (.badRequest "VALIDATION_ERROR"
    ("Missing required query parameter(s): " ++ ", ".intercalate query.missing ++ "."))
  let serviceId ← orRaise query.serviceId (.badRequest "SERVICE_NOT_AVAILABLE" "Service is not available.")
  require ((db.directory.services[serviceId]?.any fun service => service.isActive && service.categoryIsActive) = true)
    (.badRequest "SERVICE_NOT_AVAILABLE" "Service is not available.")
  let (_, area) ← orRaise
    (getActiveServiceArea db.directory.serviceAreas (normalizePostalCode (query.postalCode.getD "")))
    (.badRequest "ADDRESS_OUTSIDE_SERVICE_AREA" "The requested postal code is outside the active service area.")
  require (area.supportsService serviceId = true) (.badRequest "SERVICE_NOT_AVAILABLE_IN_AREA"
    "This service is not available at the requested postal code.")
  let _ ← orRaise (query.date.bind parseDate)
    (.badRequest "VALIDATION_ERROR" "Use a valid service date in YYYY-MM-DD format.")
  pure ()

/-- The condition of the query, on a row of the table. -/
def TimeSlot.isOffered (areas : List ServiceArea) (areaId : ServiceAreaId) (date : Date) (slot : TimeSlot) : Bool :=
  slot.serviceArea == areaId && slot.date == date && slot.isActive &&
  areas[slot.serviceArea]?.any (·.isActive) && slot.capacity > 0

def listSlots (now : Instant) (areaId : ServiceAreaId) (date : Date) (db : Db) : List (TimeSlot × SlotId) :=
  let offered := db.slots.zipIdx.filter fun row => row.1.isOffered db.directory.serviceAreas areaId date
  (offered.insertionSort fun first second => first.1.startTime ≤ second.1.startTime).filter fun row =>
    !isSlotExpired now row.1 && getAvailableCapacity db.bookings row.2 row.1 > 0

def slotQueryset (now : Instant) (query : SlotQuery) (db : Db) :
    Except ServiceError (List (TimeSlot × SlotId) × Db) :=
  match getActiveServiceArea db.directory.serviceAreas (query.postalCode.getD ""), query.date.bind parseDate with
  | some (areaId, _), some date =>
      if isServiceAreaClosed db.directory.closures areaId date then .ok ([], db)
      else do
        let slots ← ensureDailySlots now db areaId date
        let next := { db with slots := slots }
        pure (listSlots now areaId date next, next)
  | _, _ => .ok ([], db)

def slotListView (now : Instant) (query : SlotQuery) (db : Db) : Except ListingError (List ListedSlot × Db) := do
  validateQueryParams parseDate query db
  let (rows, next) ← (slotQueryset parseDate now query db).mapError .raised
  pure (rows.map (listedSlot next.bookings), next)

end

/-- All that `create_booking` checks before it prices the booking. -/
def bookingChecks (now : Instant) (customer : UserId) (request : BookingRequest) (db : Db) :
    Except ServiceError TimeSlot := do
  let _ ← getActiveService db.directory request.serviceId
  let address ← getCustomerAddress db.directory customer request.addressId
  lockAndValidateSlot now db request.slotId address request.serviceId

theorem createBooking_of_rejected {now : Instant} {customer : UserId} {request : BookingRequest} {db : Db}
    {error : ServiceError} (rejected : bookingChecks now customer request db = .error error) :
    createBooking now customer request db = .error error := by
  unfold bookingChecks at rejected
  unfold createBooking
  cases service : getActiveService db.directory request.serviceId with
  | error raised =>
      rw [service] at rejected
      exact congrArg Except.error (Except.error.inj rejected)
  | ok found =>
      cases address : getCustomerAddress db.directory customer request.addressId with
      | error raised =>
          rw [service, address] at rejected
          exact congrArg Except.error (Except.error.inj rejected)
      | ok own =>
          rw [service, address] at rejected
          simp only [ok_bind] at rejected ⊢
          rw [rejected]
          rfl

theorem mem_listSlots {now : Instant} {areaId : ServiceAreaId} {date : Date} {db : Db} {slotId : SlotId}
    {slot : TimeSlot} : (slot, slotId) ∈ listSlots now areaId date db ↔
      db.slots[slotId]? = some slot ∧ slot.isOffered db.directory.serviceAreas areaId date = true ∧
        isSlotExpired now slot = false ∧ 0 < getAvailableCapacity db.bookings slotId slot := by
  simp only [listSlots, List.mem_filter, List.mem_insertionSort, List.mem_zipIdx_iff_getElem?, Bool.and_eq_true,
    Bool.not_eq_true', decide_eq_true_eq, and_assoc]

theorem slotQueryset_accepted {parseDate : String → Option Date} {now : Instant} {query : SlotQuery} {db next : Db}
    {rows : List (TimeSlot × SlotId)} {areaId : ServiceAreaId} {area : ServiceArea} {date : Date}
    (foundArea : getActiveServiceArea db.directory.serviceAreas (query.postalCode.getD "") = some (areaId, area))
    (isDate : query.date.bind parseDate = some date)
    (accepted : slotQueryset parseDate now query db = .ok (rows, next)) :
    next.directory = db.directory ∧
      ((isServiceAreaClosed next.directory.closures areaId date = true ∧ rows = []) ∨
        (isServiceAreaClosed next.directory.closures areaId date = false ∧ rows = listSlots now areaId date next)) := by
  simp only [slotQueryset, foundArea, isDate] at accepted
  split at accepted
  · rename_i closed
    simp only [Except.ok.injEq, Prod.mk.injEq] at accepted
    obtain ⟨rfl, rfl⟩ := accepted
    exact ⟨rfl, .inl ⟨closed, rfl⟩⟩
  · rename_i open_
    simp only [accepted_bind, accepted_pure, Prod.mk.injEq] at accepted
    obtain ⟨slots, _, rfl, rfl⟩ := accepted
    exact ⟨rfl, .inr ⟨Bool.eq_false_iff.mpr open_, rfl⟩⟩

theorem lockAndValidateSlot_isOk_iff {now : Instant} {db : Db} {slotId : SlotId} {slot : TimeSlot} {address : Address}
    {service : ServiceId} {areaId : ServiceAreaId} {area : ServiceArea}
    (foundArea : getActiveServiceArea db.directory.serviceAreas address.postalCode = some (areaId, area))
    (found : db.slots[slotId]? = some slot) :
    (lockAndValidateSlot now db slotId address service).isOk = true ↔
      area.supportsService service = true ∧ isSlotBookable now db slotId slot = true ∧ slot.serviceArea = areaId := by
  rw [isOk_iff]
  simp only [lockAndValidateSlot, lockSlotForReservation, accepted_bind, accepted_orRaise, accepted_require,
    accepted_mapError, accepted_pure, foundArea, found, Option.some.injEq]
  constructor
  · rintro ⟨_, _, rfl, _, supported, _, ⟨_, rfl, _, bookable, rfl⟩, _, inArea, _⟩
    exact ⟨supported, bookable, inArea⟩
  · rintro ⟨supported, bookable, inArea⟩
    exact ⟨slot, (areaId, area), rfl, (), supported, slot, ⟨slot, rfl, (), bookable, rfl⟩, (), inArea, rfl⟩

theorem isSlotBookable_iff {now : Instant} {db : Db} {slotId : SlotId} {slot : TimeSlot} {areaId : ServiceAreaId}
    {date : Date} (isDate : slot.date = date) :
    isSlotBookable now db slotId slot = true ∧ slot.serviceArea = areaId ↔
      isServiceAreaClosed db.directory.closures areaId date = false ∧
        slot.isOffered db.directory.serviceAreas areaId date = true ∧ isSlotExpired now slot = false ∧
        0 < getAvailableCapacity db.bookings slotId slot := by
  simp only [isSlotBookable, TimeSlot.isOffered, Bool.and_eq_true, Bool.not_eq_true', decide_eq_true_eq, beq_iff_eq]
  constructor
  · rintro ⟨⟨⟨⟨⟨⟨active, area⟩, capacity⟩, open_⟩, current⟩, available⟩, inArea⟩
    rw [inArea, isDate] at open_
    exact ⟨open_, ⟨⟨⟨⟨inArea, isDate⟩, active⟩, area⟩, capacity⟩, current, available⟩
  · rintro ⟨open_, ⟨⟨⟨⟨inArea, _⟩, active⟩, area⟩, capacity⟩, current, available⟩
    rw [← inArea, ← isDate] at open_
    exact ⟨⟨⟨⟨⟨⟨active, area⟩, capacity⟩, open_⟩, current⟩, available⟩, inArea⟩

theorem exists_listedSlot {bookings : List Booking} {rows : List (TimeSlot × SlotId)} {slotId : SlotId} :
    (∃ line ∈ rows.map (listedSlot bookings), line.id = slotId) ↔ ∃ slot, (slot, slotId) ∈ rows := by
  constructor
  · rintro ⟨_, member, rfl⟩
    obtain ⟨⟨slot, slotId⟩, isRow, rfl⟩ := List.mem_map.mp member
    exact ⟨slot, isRow⟩
  · rintro ⟨slot, isRow⟩
    exact ⟨_, List.mem_map_of_mem isRow, rfl⟩

theorem getActiveService_of_any {directory : Directory} {serviceId : ServiceId}
    (active : (directory.services[serviceId]?.any fun service =>
      service.isActive && service.categoryIsActive) = true) :
    ∃ service, getActiveService directory serviceId = .ok service := by
  rw [Option.any_eq_true] at active
  obtain ⟨service, found, active⟩ := active
  rw [Bool.and_eq_true] at active
  refine ⟨service, ?_⟩
  simp only [getActiveService, accepted_bind, accepted_orRaise, accepted_require, accepted_pure]
  exact ⟨service, found, (), active, rfl⟩

/-- A slot of the day is listed where a booking of it for the same postal code passes its checks. -/
theorem listed_iff_bookable {parseDate : String → Option Date} {now : Instant} {query : SlotQuery} {db next : Db}
    {listing : List ListedSlot} {serviceId : ServiceId} {date : Date} {customer : UserId} {address : Address}
    {addressId : AddressId} {slotId : SlotId} {slot : TimeSlot} {quantity : Nat}
    (listed : slotListView parseDate now query db = .ok (listing, next)) (isService : query.serviceId = some serviceId)
    (isDate : query.date.bind parseDate = some date)
    (found : next.slots[slotId]? = some slot) (onDate : slot.date = date)
    (own : getCustomerAddress next.directory customer addressId = .ok address)
    (sameCode : address.postalCode = normalizePostalCode (query.postalCode.getD "")) :
    (∃ line ∈ listing, line.id = slotId) ↔ (bookingChecks now customer {
      serviceId := serviceId
      addressId := addressId
      slotId := slotId
      quantity := quantity
    } next).isOk = true := by
  simp only [slotListView, validateQueryParams, accepted_bind, accepted_require, accepted_orRaise, accepted_mapError,
    accepted_pure, isService, Option.some.injEq, Prod.mk.injEq] at listed
  obtain ⟨_, ⟨_, _, _, rfl, _, active, ⟨areaId, area⟩, foundArea, _, supported, _, _, _⟩, ⟨rows, last⟩, queried, rfl,
    rfl⟩ := listed
  rw [getActiveServiceArea_normalize] at foundArea
  obtain ⟨sameDirectory, queriedRows⟩ := slotQueryset_accepted foundArea isDate queried
  have activeService : ∃ service, getActiveService last.directory serviceId = .ok service := by
    rw [sameDirectory]
    exact getActiveService_of_any active
  obtain ⟨service, offered⟩ := activeService
  have areaOfAddress : getActiveServiceArea last.directory.serviceAreas address.postalCode = some (areaId, area) := by
    rw [sameDirectory, sameCode, getActiveServiceArea_normalize]
    exact foundArea
  have checks : (lockAndValidateSlot now last slotId address serviceId).isOk = true ↔ _ :=
    lockAndValidateSlot_isOk_iff areaOfAddress found
  simp only [bookingChecks, offered, own, ok_bind]
  rw [checks, exists_listedSlot]
  constructor
  · rintro ⟨other, member⟩
    rcases queriedRows with ⟨_, rfl⟩ | ⟨open_, rfl⟩
    · cases member
    · obtain ⟨present, offers⟩ := mem_listSlots.mp member
      rw [found, Option.some.injEq] at present
      subst present
      exact ⟨supported, (isSlotBookable_iff onDate).mpr ⟨open_, offers⟩⟩
  · rintro ⟨_, bookable⟩
    obtain ⟨open_, offers⟩ := (isSlotBookable_iff onDate).mp bookable
    rcases queriedRows with ⟨closed, _⟩ | ⟨_, rfl⟩
    · rw [open_] at closed
      cases closed
    · exact ⟨slot, mem_listSlots.mpr ⟨found, offers⟩⟩

def sampleParseDate (text : String) : Option Date :=
  if text = isoDate 20460 then some 20460 else none

def sampleQuery : SlotQuery where
  serviceId := some 0
  date := some "2026-01-07"
  postalCode := some " 560 001"

def sampleListing : List ListedSlot × Db :=
  (slotListView sampleParseDate sampleNow sampleQuery sampleSystem.db).toOption.get (by decide)

theorem listed_iff_bookable_sample :
    (bookingChecks sampleNow 0 { serviceId := 0, addressId := 0, slotId := 3, quantity := 1 } sampleListing.2).isOk =
      true := by
  have listed : slotListView sampleParseDate sampleNow sampleQuery sampleSystem.db =
      .ok (sampleListing.1, sampleListing.2) := rfl
  have isDate : sampleQuery.date.bind sampleParseDate = some 20460 := by decide
  have found : sampleListing.2.slots[3]? = some (sampleListing.2.slots.get ⟨3, by decide⟩) := rfl
  have own : getCustomerAddress sampleListing.2.directory 0 0 = .ok (sampleAddress 0) := rfl
  exact (listed_iff_bookable listed rfl isDate found (by decide) own (by decide)).mp (by decide)

end PsCore
