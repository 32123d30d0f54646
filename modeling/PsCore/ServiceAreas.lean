import PsCore.SystemCore

/-!
The area that serves a postal code. Areas and addresses store the normalised code, a lead the
text as it was entered, and the conversion of a lead looks the area up without normalising it.
-/

namespace PsCore

open Fallible RowTable UpperCase

def spaces : List Nat :=
  [0x9, 0xA, 0xB, 0xC, 0xD, 0x1C, 0x1D, 0x1E, 0x1F, 0x20, 0x85, 0xA0, 0x1680, 0x2000, 0x2001, 0x2002, 0x2003,
    0x2004, 0x2005, 0x2006, 0x2007, 0x2008, 0x2009, 0x200A, 0x2028, 0x2029, 0x202F, 0x205F, 0x3000]

theorem mem_spaces {character : Char} (space : isSpace character = true) : character.toNat ∈ spaces := by
  simp only [isSpace, Bool.or_eq_true, Bool.and_eq_true, decide_eq_true_eq, beq_iff_eq] at space
  simp only [spaces, List.mem_cons, List.not_mem_nil, or_false]
  omega

theorem images_not_spaces : mask images &&& mask spaces = 0 := by decide +kernel

theorem upperCharacter_not_space {character result : Char} (member : result ∈ upperCharacter character)
    (notSpace : isSpace character = false) : isSpace result = false := by
  rcases upperCharacter_cases character with same | given
  · rw [same, List.mem_singleton] at member
    rw [member, notSpace]
  · have apart := not_mem_of_mask images_not_spaces (given result member)
    exact Bool.eq_false_iff.mpr fun space => apart (mem_spaces space)

theorem normalizePostalCode_not_space {postalCode : String} {character : Char}
    (member : character ∈ (normalizePostalCode postalCode).toList) : isSpace character = false := by
  simp only [normalizePostalCode, upper, String.toList_ofList, List.mem_flatMap, List.mem_filter,
    Bool.not_eq_true'] at member
  obtain ⟨origin, ⟨_, notSpace⟩, given⟩ := member
  exact upperCharacter_not_space given notSpace

@[simp] theorem normalizePostalCode_idem (postalCode : String) :
    normalizePostalCode (normalizePostalCode postalCode) = normalizePostalCode postalCode := by
  have unspaced : ((normalizePostalCode postalCode).toList.filter fun character => !isSpace character) =
      (normalizePostalCode postalCode).toList := by
    refine List.filter_eq_self.mpr fun character member => ?_
    rw [normalizePostalCode_not_space member]
    rfl
  rw [normalizePostalCode, unspaced, String.ofList_toList]
  exact upper_upper _

theorem getActiveServiceArea_normalize (areas : List ServiceArea) (postalCode : String) :
    getActiveServiceArea areas (normalizePostalCode postalCode) = getActiveServiceArea areas postalCode := by
  rw [getActiveServiceArea, getActiveServiceArea, normalizePostalCode_idem]

/-- `ServiceArea.clean`, which every save runs. -/
def ServiceArea.clean (area : ServiceArea) : ServiceArea :=
  if area.postalCode = "" then area
  else { area with postalCode := normalizePostalCode area.postalCode }

theorem ServiceArea.clean_postalCode (area : ServiceArea) :
    area.clean.postalCode = normalizePostalCode area.postalCode := by
  unfold ServiceArea.clean
  split
  · rename_i blank
    rw [blank]
    decide
  · rfl

def Stored (areas : List ServiceArea) : Prop :=
  ∀ area ∈ areas, ∃ entered : ServiceArea, area = entered.clean

theorem Stored.normalized {areas : List ServiceArea} (stored : Stored areas) {area : ServiceArea}
    (member : area ∈ areas) : normalizePostalCode area.postalCode = area.postalCode := by
  obtain ⟨entered, rfl⟩ := stored area member
  rw [ServiceArea.clean_postalCode, normalizePostalCode_idem]

def outsideArea : ServiceError := .validation "Address is outside the active service area."

def outsideLeadArea : ServiceError := .validation "The lead pincode is outside the active service area."

/-- All that a conversion asks for before it looks the area up. -/
structure Lead.Detailed (lead : Lead) : Prop where
  service : lead.requiredService.isSome = true
  date : lead.preferredDate.isSome = true
  slot : lead.preferredSlot ≠ ""
  address : lead.address ≠ "" ∧ lead.city ≠ "" ∧ lead.pincode ≠ ""

structure AgreesOnArea (db : Db) (pincode : String) : Prop where
  area : serviceAreaWithCode db.directory.serviceAreas pincode = getActiveServiceArea db.directory.serviceAreas pincode
  rejected : ∀ (now : Instant) (lead : Lead) (address : Address) (slotId : SlotId) (service : ServiceId),
    lead.Detailed → lead.pincode = pincode → address.postalCode = normalizePostalCode pincode →
    (createBookingFromLead now lead db = .error outsideLeadArea ↔
      lockAndValidateSlot now db slotId address service = .error outsideArea)

/-! A rejection as outside the area comes from the look-up only. -/

theorem lockSlotForReservation_rejected {now : Instant} {db : Db} {slotId : SlotId} {error : ServiceError}
    (rejected : lockSlotForReservation now db slotId = .error error) :
    error = .doesNotExist "TimeSlot" ∨ error = .slotNotAvailable "The selected slot is no longer available." := by
  simp only [lockSlotForReservation, rejected_bind, rejected_orRaise, rejected_require, rejected_pure, and_false,
    exists_false, or_false] at rejected
  rcases rejected with ⟨_, raised⟩ | ⟨_, _, _, raised⟩
  · exact .inl raised.symm
  · exact .inr raised.symm

theorem reservation_neverRaises {error : ServiceError} (now : Instant) (db : Db) (slotId : SlotId)
    (missing : .validation "Slot was not found." ≠ error)
    (taken : .validation "The selected slot is no longer available." ≠ error) :
    NeverRaises error ((lockSlotForReservation now db slotId).mapError ServiceError.forSlot) := by
  intro rejected
  cases locks : lockSlotForReservation now db slotId with
  | ok slot =>
      rw [locks] at rejected
      cases rejected
  | error raised =>
      rw [locks] at rejected
      rcases lockSlotForReservation_rejected locks with rfl | rfl
      · exact missing (Except.error.inj rejected)
      · exact taken (Except.error.inj rejected)

theorem lockAndValidateSlot_outside {now : Instant} {db : Db} {slotId : SlotId} {address : Address}
    {service : ServiceId} : lockAndValidateSlot now db slotId address service = .error outsideArea ↔
      getActiveServiceArea db.directory.serviceAreas address.postalCode = none := by
  unfold outsideArea
  rw [lockAndValidateSlot, rejected_bind, rejected_orRaise]
  constructor
  · rintro (⟨absent, _⟩ | ⟨area, _, rejected⟩)
    · exact absent
    · refine absurd rejected ?_
      refine NeverRaises.bind (.require (by decide)) fun _ => ?_
      refine NeverRaises.bind (reservation_neverRaises now db slotId (by decide) (by decide)) fun slot => ?_
      exact NeverRaises.bind (.require (by decide)) fun _ => .pure _
  · intro absent
    exact .inl ⟨absent, rfl⟩

theorem bookingAmounts_neverRaises {error : ServiceError} (service : ServiceFields) (quantity : Nat)
    (unpriced : .typeError ≠ error) : NeverRaises error (bookingAmounts service quantity) := by
  unfold bookingAmounts
  cases service.advancePaymentType with
  | fixed => exact .bind (.pure _) fun _ => .pure _
  | percentage => exact .bind (.orRaise unpriced) fun _ => .bind (.pure _) fun _ => .pure _

theorem createBooking_neverOutsideLead (now : Instant) (customer : UserId) (request : BookingRequest) (db : Db) :
    NeverRaises outsideLeadArea (createBooking now customer request db) := by
  unfold createBooking
  refine .bind (.bind (.orRaise (by decide)) fun _ => .bind (.require (by decide)) fun _ => .pure _) fun service => ?_
  refine .bind (.bind (.orRaise (by decide)) fun _ => .bind (.require (by decide)) fun _ => .pure _) fun address => ?_
  refine .bind ?_ fun slot => ?_
  · refine .bind (.orRaise (by decide)) fun _ => .bind (.require (by decide)) fun _ => ?_
    refine .bind (reservation_neverRaises now db request.slotId (by decide) (by decide)) fun _ => ?_
    exact .bind (.require (by decide)) fun _ => .pure _
  refine .bind (.orRaise (by decide)) fun user => ?_
  refine .bind (bookingAmounts_neverRaises _ _ (by decide)) fun amounts => ?_
  refine .bind ?_ fun numbered => ?_
  · unfold generateBookingNumber
    exact .bind (.require (by decide)) fun _ => .pure _
  exact .bind (.require (by decide)) fun _ => .pure _

theorem addressOfLead_neverRaises {error : ServiceError} (addresses : List Address) (customer : UserId) (lead : Lead)
    (area : ServiceArea) (several : .multipleObjects "Address" ≠ error)
    (unclean : ∀ errors, .fieldValidation errors ≠ error) :
    NeverRaises error (addressOfLead addresses customer lead area) := by
  unfold addressOfLead
  dsimp only
  split
  · exact .bind (.require several) fun _ => .pure _
  · exact .bind (.require (unclean _)) fun _ => .pure _

theorem getOrCreateSlot_neverRaises {error : ServiceError} (slots : List TimeSlot) (fields : SlotFields)
    (unclean : ∀ errors, .fieldValidation errors ≠ error) : NeverRaises error (getOrCreateSlot slots fields) := by
  unfold getOrCreateSlot
  cases firstRow fields.sameWindow slots with
  | some found => exact .ok _
  | none =>
      refine .bind ?_ fun _ => .pure _
      unfold SlotFields.clean
      split
      · exact .ok _
      · exact fun rejected => unclean _ (Except.error.inj rejected)

theorem createBookingFromLead_outside {now : Instant} {lead : Lead} {db : Db} (detailed : lead.Detailed) :
    createBookingFromLead now lead db = .error outsideLeadArea ↔
      serviceAreaWithCode db.directory.serviceAreas lead.pincode = none := by
  obtain ⟨serviceId, service⟩ := Option.isSome_iff_exists.mp detailed.service
  obtain ⟨preferredDate, date⟩ := Option.isSome_iff_exists.mp detailed.date
  simp only [createBookingFromLead, service, date, orRaise, ok_bind, require_of _ detailed.slot,
    require_of _ detailed.address]
  cases serviceAreaWithCode db.directory.serviceAreas lead.pincode with
  | none => simp [outsideLeadArea, bind, Except.bind]
  | some area =>
      simp only [ok_bind, reduceCtorEq, iff_false]
      have unclean (errors : List (String × String)) : .fieldValidation errors ≠ outsideLeadArea := by
        intro same
        cases same
      refine NeverRaises.bind (.require (by decide)) fun _ => ?_
      refine NeverRaises.bind (addressOfLead_neverRaises _ _ _ _ (by decide) unclean) fun _ => ?_
      refine NeverRaises.bind (.orRaise (by decide)) fun _ => ?_
      refine NeverRaises.bind (getOrCreateSlot_neverRaises _ _ unclean) fun _ => ?_
      exact createBooking_neverOutsideLead _ _ _ _

theorem serviceAreaWithCode_none {areas : List ServiceArea} {postalCode : String} :
    serviceAreaWithCode areas postalCode = none ↔
      ∀ area ∈ areas, area.isActive = true → area.postalCode ≠ postalCode := by
  unfold serviceAreaWithCode
  rw [firstRow_none]
  refine forall₂_congr fun area _ => ?_
  rw [Bool.and_eq_false_imp, beq_iff_eq]
  cases area.isActive <;> simp

theorem Stored.serviceAreaWithCode_raw {areas : List ServiceArea} {postalCode : String} (stored : Stored areas)
    (raw : normalizePostalCode postalCode ≠ postalCode) : serviceAreaWithCode areas postalCode = none := by
  refine serviceAreaWithCode_none.mpr fun area member _ isCode => raw ?_
  rw [← isCode]
  exact stored.normalized member

theorem sameArea_iff {areas : List ServiceArea} {pincode : String} (stored : Stored areas) :
    serviceAreaWithCode areas pincode = getActiveServiceArea areas pincode ↔
      normalizePostalCode pincode = pincode ∨
        ∀ area ∈ areas, area.isActive = true → area.postalCode ≠ normalizePostalCode pincode := by
  by_cases normalized : normalizePostalCode pincode = pincode
  · simp only [getActiveServiceArea, normalized, true_or]
  · rw [stored.serviceAreaWithCode_raw normalized, getActiveServiceArea, eq_comm, serviceAreaWithCode_none]
    simp only [normalized, false_or]

theorem agreesOnArea_iff {db : Db} {pincode : String} (stored : Stored db.directory.serviceAreas) :
    AgreesOnArea db pincode ↔ normalizePostalCode pincode = pincode ∨
      ∀ area ∈ db.directory.serviceAreas, area.isActive = true → area.postalCode ≠ normalizePostalCode pincode := by
  rw [← sameArea_iff stored]
  constructor
  · intro agrees
    exact agrees.area
  · intro same
    refine ⟨same, fun now lead address slotId service detailed isPincode isCode => ?_⟩
    rw [createBookingFromLead_outside detailed, lockAndValidateSlot_outside, isPincode, isCode, same,
      getActiveServiceArea_normalize]

theorem sampleDirectory_stored : Stored sampleSystem.db.directory.serviceAreas := by
  intro area member
  rw [List.mem_singleton.mp member]
  exact ⟨_, (by decide : sampleDirectory.serviceAreas[0] = sampleDirectory.serviceAreas[0].clean)⟩

theorem agreesOnArea_iff_sample : AgreesOnArea sampleSystem.db "560001" :=
  (agreesOnArea_iff sampleDirectory_stored).mpr (.inl (by decide))

/-- The caller's pincode was entered with a blank in it. -/
theorem spaced_pincode_outside :
    ¬ ∀ (db : Db) (pincode : String), Stored db.directory.serviceAreas → AgreesOnArea db pincode := by
  intro always
  have same := (always sampleSystem.db "560 001" sampleDirectory_stored).area
  have outside : serviceAreaWithCode sampleSystem.db.directory.serviceAreas "560 001" = none := by decide
  have inside : getActiveServiceArea sampleSystem.db.directory.serviceAreas "560 001" ≠ none := by decide
  exact inside (same.symm.trans outside)

end PsCore
